import ElectroSync.Library.Interleaving
import ElectroSync.Library.Throwing
import ElectroSync.Nesco.PortalClient

/-!
# Lookups that overlap (`nesco/portal/nesco-portal.client.ts`)

Any number of lookups are under way at once, and each of their requests may find the portal in
another state. Of the portal it is assumed that the token of a page is bound to the session of its
cookies, and that it keeps the sessions it has issued. Every lookup is answered at one of its own
two requests: it could not open a session, or it gets what the portal answers for its customer
number, whatever the characters of that are, and for the report it asked for.
-/

namespace ElectroSync
open Transition Interleaving NescoPortalClient

/-- A portal, which reads the headers and the forms that it is sent. `page` is what it answers to a
form with the token of the session, be it an error; a session outlives the lookups. -/
structure Portal (host : PortalExternals) (σ χ : Type) where
  get : σ → χ → Except SendFailure PortalResponse × σ
  post : σ → List String → List (String × String) → χ → Except SendFailure PortalResponse × σ
  /-- The cookies and the token of each session. -/
  sessions : σ → List (List String × String)
  page : σ → String → String → χ → Except SendFailure PortalResponse
  minted : ∀ {s chance response html csrfToken cookies}, (get s chance).1 = .ok response →
    response.data = .text html → host.csrfToken html = some csrfToken →
    response.setCookie = some cookies →
      (Cookies.pairs cookies, csrfToken) ∈ sessions (get s chance).2
  get_sessions : ∀ s chance, sessions s ⊆ sessions (get s chance).2
  post_sessions : ∀ s cookies fields chance, sessions s ⊆ sessions (post s cookies fields chance).2
  admitted : ∀ {s cookies csrfToken}, (cookies, csrfToken) ∈ sessions s →
    ∀ customerNumber submit chance,
      (post s cookies
        [("_token", csrfToken), ("cust_no", customerNumber), ("submit", submit)] chance).1 =
          page s customerNumber submit chance

/-- A `POST`, as it goes over the wire. -/
def Portal.receive {host : PortalExternals} (portal : Portal host σ χ) (s : σ)
    (cookieHeader body : String) (chance : χ) : Except SendFailure PortalResponse × σ :=
  portal.post s (Cookies.read cookieHeader) ((FormUrlEncoded.parseStrings body).getD []) chance

structure Lookup where
  customerNumber : String
  submitType : SubmitType
  deriving DecidableEq

section Programs
variable {host : PortalExternals} (portal : Portal host σ χ)

/-- `fetchReport`, with nothing else under way. -/
def fetchReport (lookup : Lookup) (opening posting : χ) : Throwing σ FetchFailure String := do
  let opened ← Throwing.act fun s => portal.get s opening
  let session ← Throwing.ofExcept (openSession host opened)
  let body := reportBody session lookup.customerNumber lookup.submitType
  let sent ← Throwing.act fun s => portal.receive s session.cookieHeader body posting
  Throwing.ofExcept (request .reportPost sent)

inductive LookupPhase
  | opening
  | posting (session : PortalSession)
  | returned (answer : Except FetchFailure String)
  deriving DecidableEq

/-- A call of `fetchReport`. -/
structure LookupCall where
  lookup : Lookup
  phase : LookupPhase := .opening
  deriving DecidableEq

def LookupPhase.answer : LookupPhase → Option (Except FetchFailure String)
  | .returned answer => some answer
  | _ => none

/-- What a lookup does next: one request, and what is made of the response. -/
def fetchNext (s : σ) (call : LookupCall) (chance : χ) : Option (σ × LookupCall) :=
  match call.phase with
  | .opening =>
    let (sent, s') := portal.get s chance
    match openSession host sent with
    | .ok session => some (s', { call with phase := .posting session })
    | .error failure => some (s', { call with phase := .returned (.error failure) })
  | .posting session =>
    let (sent, s') := portal.receive s session.cookieHeader
      (reportBody session call.lookup.customerNumber call.lookup.submitType) chance
    some (s', { call with phase := .returned (request .reportPost sent) })
  | .returned _ => none

def lookupServer : Program σ Lookup LookupCall χ where
  init lookup := { lookup }
  next := fetchNext portal

end Programs

variable {host : PortalExternals} {portal : Portal host σ χ} {s s' : σ} {lookup : Lookup}
  {session : PortalSession} {call call' : LookupCall} {chance : χ}
  {sent : Except SendFailure PortalResponse}

/-! ## One request -/

theorem requestRaw_ok_iff {stage : ExchangeStage} {response : PortalResponse} :
    requestRaw stage sent = .ok response ↔ sent = .ok response := by
  rcases sent with (error | message) | response' <;> simp [requestRaw]

theorem asHtml_ok_iff {data : ResponseData} {html : String} :
    asHtml data = .ok html ↔ data = .text html := by
  cases data <;> simp [asHtml]

theorem requireToken_ok {csrfToken : Option String} {token : String}
    (h : requireToken csrfToken = .ok token) : csrfToken = some token := by
  cases csrfToken with
  | none => cases h
  | some token' =>
    simp only [requireToken] at h
    split at h
    · cases h
    · rw [Except.ok.inj h]

theorem toCookieHeader_ok {setCookie : Option (List String)} {header : String}
    (h : toCookieHeader setCookie = .ok header) :
    ∃ cookies, setCookie = some cookies ∧ header = Cookies.header (Cookies.pairs cookies) := by
  rcases setCookie with _ | _ | ⟨cookie, cookies⟩
  · cases h
  · cases h
  · exact ⟨_, rfl, (Except.ok.inj h).symm⟩

/-- The session of a lookup is the one of its own page. -/
theorem openSession_ok (h : openSession host sent = .ok session) :
    ∃ response html cookies, sent = .ok response ∧ response.data = .text html ∧
      host.csrfToken html = some session.csrfToken ∧ response.setCookie = some cookies ∧
      session.cookieHeader = Cookies.header (Cookies.pairs cookies) := by
  simp only [openSession, bind_eq_ok_iff, pure_eq_ok_iff, requestRaw_ok_iff, asHtml_ok_iff] at h
  obtain ⟨response, got, html, data, token, exposed, header, issued, rfl⟩ := h
  obtain ⟨cookies, set, rfl⟩ := toCookieHeader_ok issued
  exact ⟨response, html, cookies, got, data, requireToken_ok exposed, set, rfl⟩

/-- All that a lookup does when it moves. -/
theorem fetchNext_cases (h : fetchNext portal s call chance = some (s', call')) :
    (∃ lookup session, call = ⟨lookup, .opening⟩ ∧ call' = ⟨lookup, .posting session⟩ ∧
      openSession host (portal.get s chance).1 = .ok session ∧ s' = (portal.get s chance).2) ∨
    (∃ lookup failure, call = ⟨lookup, .opening⟩ ∧ call' = ⟨lookup, .returned (.error failure)⟩ ∧
      openSession host (portal.get s chance).1 = .error failure ∧
      s' = (portal.get s chance).2) ∨
    ∃ lookup session, call = ⟨lookup, .posting session⟩ ∧
      call' = ⟨lookup, .returned (request .reportPost (portal.receive s session.cookieHeader
        (reportBody session lookup.customerNumber lookup.submitType) chance).1)⟩ ∧
      s' = (portal.receive s session.cookieHeader
        (reportBody session lookup.customerNumber lookup.submitType) chance).2 := by
  obtain ⟨lookup, phase⟩ := call
  cases phase with
  | opening =>
    simp only [fetchNext] at h
    split at h
    · next session opened =>
      cases h
      exact .inl ⟨lookup, session, rfl, rfl, opened, rfl⟩
    · next failure opened =>
      cases h
      exact .inr (.inl ⟨lookup, failure, rfl, rfl, opened, rfl⟩)
  | posting session =>
    cases h
    exact .inr (.inr ⟨lookup, session, rfl, rfl, rfl⟩)
  | returned answer => cases h

/-- A lookup alone does what `fetchReport` does. -/
theorem solo_fetchReport (portal : Portal host σ χ) (s : σ) (lookup : Lookup)
    (opening posting : χ) :
    ∃ chances, chances <+: [opening, posting] ∧
      solo (lookupServer portal) s { lookup } chances =
        some (((fetchReport portal lookup opening posting).eval s).2,
          ⟨lookup, .returned ((fetchReport portal lookup opening posting).eval s).1⟩) := by
  cases opened : openSession host (portal.get s opening).1 with
  | error failure =>
    refine ⟨[opening], ⟨[posting], rfl⟩, ?_⟩
    simp [solo, lookupServer, fetchNext, fetchReport, opened, Throwing.eval_bind]
  | ok session =>
    refine ⟨[opening, posting], List.prefix_rfl, ?_⟩
    simp [solo, lookupServer, fetchNext, fetchReport, opened, Throwing.eval_bind]

/-- What a lookup returns or throws comes of the responses to its requests. -/
theorem fetchReport_answer (portal : Portal host σ χ) (s : σ) (lookup : Lookup)
    (opening posting : χ) :
    ∃ posted, ((fetchReport portal lookup opening posting).eval s).1 =
      fetchedFrom host (portal.get s opening).1 posted := by
  cases opened : openSession host (portal.get s opening).1 with
  | error failure =>
    refine ⟨.ok ⟨.text "", none⟩, ?_⟩
    have refused : fetchedFrom host (portal.get s opening).1 (.ok ⟨.text "", none⟩) =
        .error failure := by
      rw [fetchedFrom, opened]
      rfl
    rw [refused]
    simp [fetchReport, opened, Throwing.eval_bind]
  | ok session =>
    refine ⟨(portal.receive (portal.get s opening).2 session.cookieHeader
      (reportBody session lookup.customerNumber lookup.submitType) posting).1, ?_⟩
    rw [fetchedFrom, opened]
    simp only [fetchReport, opened, Throwing.eval_bind, Throwing.eval_act,
      Throwing.eval_ofExcept]
    rfl

/-! ## Sessions -/

/-- A lookup posts with the cookies and the token of one session. -/
def Held (portal : Portal host σ χ) (s : σ) (call : LookupCall) : Prop :=
  ∀ session, call.phase = .posting session → ∃ cookies,
    session.cookieHeader = Cookies.header (Cookies.pairs cookies) ∧
      (Cookies.pairs cookies, session.csrfToken) ∈ portal.sessions s

theorem Held.mono (held : Held portal s call)
    (keeps : portal.sessions s ⊆ portal.sessions s') : Held portal s' call := by
  intro session posting
  obtain ⟨cookies, header, known⟩ := held session posting
  exact ⟨cookies, header, keeps known⟩

/-- What goes over the wire is read as it was meant, whatever its characters are. -/
theorem receive_of_held (held : Held portal s ⟨lookup, .posting session⟩) (chance : χ) :
    (portal.receive s session.cookieHeader
      (reportBody session lookup.customerNumber lookup.submitType) chance).1 =
        portal.page s lookup.customerNumber lookup.submitType.text chance := by
  obtain ⟨cookies, header, known⟩ := held session rfl
  rw [Portal.receive, reportBody, FormUrlEncoded.parseStrings_serializeStrings, header,
    Cookies.read_header_pairs, Option.getD_some]
  exact portal.admitted known _ _ chance

theorem fetchNext_sessions (h : fetchNext portal s call chance = some (s', call')) :
    portal.sessions s ⊆ portal.sessions s' := by
  obtain ⟨-, -, -, -, -, rfl⟩ | ⟨-, -, -, -, -, rfl⟩ | ⟨-, -, -, -, rfl⟩ := fetchNext_cases h
  · exact portal.get_sessions s chance
  · exact portal.get_sessions s chance
  · exact portal.post_sessions s _ _ chance

theorem fetchNext_held (h : fetchNext portal s call chance = some (s', call')) :
    Held portal s' call' := by
  obtain ⟨lookup, session, -, rfl, opened, rfl⟩ | ⟨-, -, -, rfl, -⟩ | ⟨-, -, -, rfl, -⟩ :=
    fetchNext_cases h
  · rintro _ ⟨⟩
    obtain ⟨response, html, cookies, got, data, token, set, header⟩ := openSession_ok opened
    exact ⟨cookies, header, portal.minted got data token set⟩
  · nofun
  · nofun

/-! ## Any number of lookups -/

abbrev LookupRun (portal : Portal host σ χ) (s₀ : σ) :=
  Run (Enabled (step (lookupServer portal))) (⟨s₀, []⟩ : System σ LookupCall)

theorem everywhere_held {s₀ : σ} {tr : List (Move Lookup χ)} {s : System σ LookupCall}
    (run : LookupRun portal s₀ tr s) : Everywhere (Held portal) s := by
  refine run.invariant .nil ?_
  intro s move s' inv step
  cases move with
  | start input =>
    cases step
    exact inv.start nofun
  | advance i chance =>
    obtain ⟨p, shared', p', here, next, rfl⟩ := advance_cases step
    exact inv.set (fetchNext_held next) fun _ _ _ _ held => held.mono (fetchNext_sessions next)

/-- What a lookup is answered by the request that it sends to a state of the portal: a failure to
open a session, or what comes of the page of its own customer number and report. -/
inductive Answers (portal : Portal host σ χ) (s : σ) (chance : χ) :
    LookupCall → Except FetchFailure String → Prop
  | unopened (lookup : Lookup) (failure : FetchFailure)
      (failed : openSession host (portal.get s chance).1 = .error failure) :
      Answers portal s chance ⟨lookup, .opening⟩ (.error failure)
  | reported (lookup : Lookup) (session : PortalSession) :
      Answers portal s chance ⟨lookup, .posting session⟩ (request .reportPost
        (portal.page s lookup.customerNumber lookup.submitType.text chance))

theorem fetchNext_takes (held : Held portal s call)
    (h : fetchNext portal s call chance = some (s', call')) :
    call'.lookup = call.lookup ∧ (call'.phase.answer = call.phase.answer ∨
      call.phase.answer = none ∧
        ∃ answer, call'.phase.answer = some answer ∧ Answers portal s chance call answer) := by
  obtain ⟨lookup, session, rfl, rfl, -⟩ | ⟨lookup, failure, rfl, rfl, failed, -⟩ |
    ⟨lookup, session, rfl, rfl, -⟩ := fetchNext_cases h
  · exact ⟨rfl, .inl rfl⟩
  · exact ⟨rfl, .inr ⟨rfl, _, rfl, .unopened lookup failure failed⟩⟩
  · rw [receive_of_held held]
    exact ⟨rfl, .inr ⟨rfl, _, rfl, .reported lookup session⟩⟩

/-- However lookups overlap, each is answered at one of its own requests, from what the portal
answers to it. -/
theorem lookup_answered {s₀ : σ} {tr : List (Move Lookup χ)} {s : System σ LookupCall}
    (run : LookupRun portal s₀ tr s) {i : ℕ} {answer : Except FetchFailure String}
    (here : s.procs[i]? = some ⟨lookup, .returned answer⟩) :
    Once (Enabled (step (lookupServer portal))) ⟨s₀, []⟩ (fun before move => ∃ phase chance,
      move = .advance i chance ∧ before.procs[i]? = some ⟨lookup, phase⟩ ∧
        Answers portal before.shared chance ⟨lookup, phase⟩ answer) tr := by
  have taken := taken_once LookupCall.lookup (fun call => call.phase.answer) (Answers portal) rfl
    everywhere_held (fun _ => rfl)
    (fun inv here next => fetchNext_takes (inv _ _ here) next) run here rfl
  refine taken.mono fun before move met => ?_
  obtain ⟨⟨_, phase⟩, chance, sends, there, same, -, answers⟩ := met
  cases same
  exact ⟨phase, chance, sends, there, answers⟩

/-! ## A portal to run -/

/-- Each page is the token of its session. -/
def countingHost : PortalExternals := { sampleHost with csrfToken := some }

def countedToken (n : ℕ) : String := s!"t{n}"

def countedCookies (n : ℕ) : List String :=
  [s!"XSRF-TOKEN=x{n}; path=/", s!" laravel_session={n};HttpOnly"]

def timedOut : SendFailure := .axios ⟨some "ECONNABORTED", none, fun _ => none⟩

def expired : SendFailure := .axios ⟨none, some 419, fun _ => none⟩

def countedSessions (n : ℕ) : List (List String × String) :=
  (List.range n).map fun k => (Cookies.pairs (countedCookies k), countedToken k)

def countedPage (customerNumber submit : String) (up : Bool) :
    Except SendFailure PortalResponse :=
  if up then .ok ⟨.text (customerNumber ++ "/" ++ submit), none⟩ else .error timedOut

def answerForm (n : ℕ) (cookies : List String) (fields : List (String × String)) (up : Bool) :
    Except SendFailure PortalResponse :=
  match fields.lookup "_token", fields.lookup "cust_no", fields.lookup "submit" with
  | some token, some customerNumber, some submit =>
    if (cookies, token) ∈ countedSessions n then countedPage customerNumber submit up
    else .error expired
  | _, _, _ => .error expired

/-- It numbers its sessions. -/
def countingPortal : Portal countingHost ℕ Bool where
  get n up := (if up then .ok ⟨.text (countedToken n), some (countedCookies n)⟩
    else .error timedOut, n + 1)
  post n cookies fields up := (answerForm n cookies fields up, n)
  sessions := countedSessions
  page _ := countedPage
  minted := by
    intro n up response html csrfToken cookies got data token set
    cases up with
    | false => cases got
    | true =>
      cases got
      cases data
      cases token
      cases set
      exact List.mem_map_of_mem (List.mem_range.mpr (Nat.lt_succ_self n))
  get_sessions n _ := List.map_subset _ (List.range_subset.mpr n.le_succ)
  post_sessions _ _ _ _ := List.Subset.refl _
  admitted := by
    intro n cookies csrfToken known customerNumber submit up
    simp [answerForm, List.lookup_cons, known]

/-- Two lookups take turns, and the second is not answered in time. -/
def turns : List (Move Lookup Bool) :=
  [.start ⟨"3300 & 9605=ক", .rechargeHistory⟩, .start ⟨"77", .monthlyConsumption⟩, .advance 0 true,
    .advance 1 true, .advance 1 false, .advance 0 true]

theorem lookup_answered_turns :
    ∃ s, LookupRun countingPortal 0 turns s ∧
      s.procs[0]? = some ⟨⟨"3300 & 9605=ক", .rechargeHistory⟩,
        .returned (.ok "3300 & 9605=ক/রিচার্জ হিস্ট্রি")⟩ ∧
      Once (Enabled (step (lookupServer countingPortal))) ⟨0, []⟩ (fun before move =>
        ∃ phase chance, move = .advance 0 chance ∧
          before.procs[0]? = some ⟨⟨"3300 & 9605=ক", .rechargeHistory⟩, phase⟩ ∧
          Answers countingPortal before.shared chance
            ⟨⟨"3300 & 9605=ক", .rechargeHistory⟩, phase⟩
            (.ok "3300 & 9605=ক/রিচার্জ হিস্ট্রি")) turns := by
  have ends : (exec (step (lookupServer countingPortal)) ⟨0, []⟩ turns).any (fun s =>
      decide (s.procs[0]? = some ⟨⟨"3300 & 9605=ক", .rechargeHistory⟩,
        .returned (.ok "3300 & 9605=ক/রিচার্জ হিস্ট্রি")⟩)) := by
    decide +kernel
  obtain ⟨s, run, here⟩ := exec_any ends
  exact ⟨s, run, of_decide_eq_true here, lookup_answered run (of_decide_eq_true here)⟩

end ElectroSync
