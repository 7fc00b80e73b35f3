import ElectroSync.Library.Cookies
import ElectroSync.Library.FormUrlEncoded
import ElectroSync.Nesco.CustomerPage

/-!
# The client of the portal (`nesco/portal/nesco-portal.client.ts`)

A lookup is an exchange of two requests: a `GET` that mints a token and a session cookie, and a
`POST` that hands both back with the customer number. What `axios` makes of a request is the input
of the functions here; `Nesco.PortalExchange` runs lookups against a portal.
-/

namespace ElectroSync

/-- Which leg of the exchange a failure came from. -/
inductive ExchangeStage
  | sessionGet
  | reportPost
  deriving DecidableEq

def ExchangeStage.label : ExchangeStage → String
  | .sessionGet => "session GET"
  | .reportPost => "report POST"

inductive SubmitType
  | rechargeHistory
  | monthlyConsumption
  deriving DecidableEq

/-- The value of the form's `submit` field, which selects the report. -/
def SubmitType.text : SubmitType → String
  | .rechargeHistory => "রিচার্জ হিস্ট্রি"
  | .monthlyConsumption => "মাসিক ব্যবহার"

/-- The messages are those of the error, of its cause and so on, up to the first that is no `Error`:
the chain may come back to itself, and then it has no end. -/
structure AxiosError where
  code : Option String
  /-- The status of the response, if there was one. -/
  status : Option ℕ
  messages : ℕ → Option String

/-- What a request throws. -/
inductive SendFailure
  | axios (error : AxiosError)
  | other (message : String)

/-- The body of a response, or the `typeof` of one that is no text. -/
inductive ResponseData
  | text (html : String)
  | other (kind : String)
  deriving DecidableEq

structure PortalResponse where
  data : ResponseData
  setCookie : Option (List String)
  deriving DecidableEq

/-- What the client throws. -/
inductive FetchFailure
  | portal (error : NescoPortalError)
  | other (message : String)
  deriving DecidableEq

namespace NescoPortalClient

/-! ## Transport failures -/

def requestTimeoutMs : ℕ := 15000

/-- A 403 has one known cause, and it is named. -/
def hintForStatus (status : ℕ) : String :=
  if status ≠ 403 then ""
  else " — the portal serves 403 to every source IP outside Bangladesh, so this" ++
    " host is almost certainly running abroad. See README.md: no header," ++
    " fingerprint or client setting fixes this, only where the process runs."

/-- `add`: a part is trimmed, and dropped when it is empty or there already. -/
def addPart (parts : List String) (value : String) : List String :=
  if JsString.trim value = "" ∨ JsString.trim value ∈ parts then parts
  else parts ++ [JsString.trim value]

/-- The code, and the messages of at most five errors of the chain. -/
def failureTexts (error : AxiosError) : List String :=
  error.code.toList ++
    (((List.range 5).map error.messages).takeWhile Option.isSome).filterMap id

def failureParts (error : AxiosError) : List String := (failureTexts error).foldl addPart []

def describeTransportFailure (error : AxiosError) : String :=
  "; ".intercalate <|
    if failureParts error = [] then addPart (failureParts error) "unknown error"
    else failureParts error

def transportError (stage : ExchangeStage) (error : AxiosError) : NescoPortalError :=
  if error.code = some "ECONNABORTED" ∨ error.code = some "ETIMEDOUT" then
    ⟨.upstreamTimeout,
      s!"The NESCO portal did not respond within {requestTimeoutMs}ms on the {stage.label}"⟩
  else match error.status with
  | some status =>
    let hint := hintForStatus status
    ⟨.upstreamError, s!"The NESCO portal responded with HTTP {status} to the {stage.label}{hint}"⟩
  | none =>
    let described := describeTransportFailure error
    ⟨.upstreamUnreachable,
      s!"The NESCO portal could not be reached on the {stage.label} ({described})"⟩

/-! ## The two requests -/

def requestRaw (stage : ExchangeStage) :
    Except SendFailure PortalResponse → Except FetchFailure PortalResponse
  | .ok response => .ok response
  | .error (.axios error) => .error (.portal (transportError stage error))
  | .error (.other message) => .error (.other message)

def asHtml : ResponseData → Except FetchFailure String
  | .text html => .ok html
  | .other kind =>
    .error (.portal (layoutError s!"Expected HTML from the portal but received {kind}"))

def request (stage : ExchangeStage) (sent : Except SendFailure PortalResponse) :
    Except FetchFailure String := do
  let response ← requestRaw stage sent
  asHtml response.data

/-- Only the pair of a cookie belongs in a request: its attributes make the header malformed. -/
def toCookieHeader (setCookie : Option (List String)) : Except FetchFailure String :=
  match setCookie.getD [] with
  | [] => .error (.portal (layoutError "The portal did not issue a session cookie"))
  | cookies => .ok (Cookies.header (Cookies.pairs cookies))

structure PortalSession where
  csrfToken : String
  cookieHeader : String
  deriving DecidableEq

/-- An empty token is falsy. -/
def requireToken (csrfToken : Option String) : Except FetchFailure String :=
  match csrfToken with
  | some token =>
    if token = "" then
      .error (.portal (layoutError "The portal page no longer exposes a csrf-token meta tag"))
    else .ok token
  | none =>
    .error (.portal (layoutError "The portal page no longer exposes a csrf-token meta tag"))

/-- `openSession`, from the response to the `GET`. -/
def openSession (host : PortalExternals) (sent : Except SendFailure PortalResponse) :
    Except FetchFailure PortalSession := do
  let response ← requestRaw .sessionGet sent
  let html ← asHtml response.data
  let csrfToken ← requireToken (host.csrfToken html)
  return { csrfToken, cookieHeader := ← toCookieHeader response.setCookie }

/-- The fields of the form that is posted. -/
def reportFields (csrfToken customerNumber : String) (submitType : SubmitType) :
    List (String × String) :=
  [("_token", csrfToken), ("cust_no", customerNumber), ("submit", submitType.text)]

def reportBody (session : PortalSession) (customerNumber : String) (submitType : SubmitType) :
    String :=
  FormUrlEncoded.serializeStrings (reportFields session.csrfToken customerNumber submitType)

/-- What `fetchReport` makes of the responses to its two requests: the second is only sent with a
session. -/
def fetchedFrom (host : PortalExternals) (opened posted : Except SendFailure PortalResponse) :
    Except FetchFailure String := do
  let _ ← openSession host opened
  request .reportPost posted

end NescoPortalClient

open NescoPortalClient

/-! ## What a failure says -/

/-- Parts that are not empty, carry no white space around them, and are all different. -/
structure Parts (parts : List String) : Prop where
  nodup : parts.Nodup
  nonempty : ∀ part ∈ parts, part ≠ ""
  trimmed : ∀ part ∈ parts, JsString.trim part = part

theorem Parts.add {parts : List String} (h : Parts parts) (value : String) :
    Parts (addPart parts value) := by
  rw [addPart]
  split
  · exact h
  · next new =>
    obtain ⟨nonempty, fresh⟩ := not_or.mp new
    refine ⟨?_, ?_, ?_⟩
    · rw [List.nodup_append_comm, List.singleton_append, List.nodup_cons]
      exact ⟨fresh, h.nodup⟩
    · rw [List.forall_mem_append, List.forall_mem_singleton]
      exact ⟨h.nonempty, nonempty⟩
    · rw [List.forall_mem_append, List.forall_mem_singleton]
      exact ⟨h.trimmed, JsString.trim_trim value⟩

theorem mem_addPart {parts : List String} {value part : String} :
    part ∈ addPart parts value ↔ part ∈ parts ∨ part = JsString.trim value ∧ part ≠ "" := by
  rw [addPart]
  split
  · next old =>
    refine ⟨.inl, ?_⟩
    rintro (member | ⟨rfl, nonempty⟩)
    · exact member
    · exact old.resolve_left nonempty
  · next new =>
    rw [List.mem_append, List.mem_singleton]
    refine or_congr_right ⟨?_, And.left⟩
    rintro rfl
    exact ⟨rfl, fun empty => new (.inl empty)⟩

theorem parts_foldl {parts : List String} (h : Parts parts) (values : List String) :
    Parts (values.foldl addPart parts) := by
  induction values generalizing parts with
  | nil => exact h
  | cons value values ih => exact ih (h.add value)

theorem mem_foldl_addPart {part : String} (parts values : List String) :
    part ∈ values.foldl addPart parts ↔
      part ∈ parts ∨ ∃ value ∈ values, part = JsString.trim value ∧ part ≠ "" := by
  induction values generalizing parts with
  | nil => simp
  | cons value values ih =>
    rw [List.foldl_cons, ih, mem_addPart, or_assoc]
    simp only [List.mem_cons, exists_eq_or_imp]

/-- A failure is described by its texts, each once. -/
theorem failureParts_spec (error : AxiosError) :
    Parts (failureParts error) ∧ ∀ part, part ∈ failureParts error ↔
      ∃ text ∈ failureTexts error, part = JsString.trim text ∧ part ≠ "" := by
  refine ⟨parts_foldl ⟨.nil, nofun, nofun⟩ _, fun part => ?_⟩
  rw [failureParts, mem_foldl_addPart]
  simp

end ElectroSync
