import ElectroSync.Common.Exceptions
import ElectroSync.Nesco.ColumnOrder
import ElectroSync.Nesco.PortalClient

/-!
# The lookups of the service (`nesco/nesco.service.ts`)

Each method reads one report of the portal, and answers a failure with a status. The status tells
what has gone wrong, but for the two histories, which never answer 404: for a customer that the
portal does not know they say that the page is not recognised.
-/

namespace ElectroSync
open Related NescoPortalClient

/-- What a method of the service throws: an answer, or what the exception filter makes a 500 of. -/
inductive ServiceFailure
  | http (error : HttpException)
  | other (message : String)
  deriving DecidableEq

structure NescoBalanceDto where
  consumerNo : String
  balance : ℚ
  /-- Unix epoch seconds, when the portal printed a stamp. -/
  balanceAsOf : Option ℤ
  deriving DecidableEq

namespace NescoService

def toHttpException (error : NescoPortalError) : HttpException :=
  match error.reason with
  | .customerNotFound => ⟨404, "No NESCO prepaid customer matches that customer number.", none⟩
  | .layoutChanged =>
    ⟨502, "The NESCO portal returned a page this service no longer recognises.", none⟩
  | .upstreamError => ⟨502, "The NESCO portal rejected the request.", none⟩
  | .upstreamTimeout => ⟨504, "The NESCO portal took too long to respond.", none⟩
  | .upstreamUnreachable => ⟨503, "The NESCO portal is currently unreachable.", none⟩

def guard (operation : Except FetchFailure α) : Except ServiceFailure α :=
  operation.mapError fun
    | .portal error => .http (toHttpException error)
    | .other message => .other message

/-- What each method does: it fetches one report and reads it. `fetched` is what `fetchReport`
returns or throws. -/
def lookup (fetched : SubmitType → Except FetchFailure String) (submitType : SubmitType)
    (parse : String → Except NescoPortalError α) : Except ServiceFailure α :=
  guard do
    let html ← fetched submitType
    (parse html).mapError .portal

section Methods
variable (host : PortalExternals) (fetched : SubmitType → Except FetchFailure String)
  (customerNo : String)

def getBalance : Except ServiceFailure NescoBalanceDto :=
  lookup fetched .rechargeHistory fun html => do
    let balance ← parseBalance host html customerNo
    return { consumerNo := customerNo, balance := balance.balance, balanceAsOf := balance.asOf }

def getCustomerInfo : Except ServiceFailure NescoCustomerInfoDto :=
  lookup fetched .rechargeHistory fun html => parseCustomerInfo host html customerNo

def getRechargeSnapshot : Except ServiceFailure NescoSnapshot :=
  lookup fetched .rechargeHistory fun html => do
    let balance ← parseBalance host html customerNo
    return {
      balance := balance.balance
      balanceAsOf := balance.asOf
      recharges := ← parseRechargeHistory host.toExternals html }

def getRechargeHistory : Except ServiceFailure (List NescoRechargeDto) :=
  lookup fetched .rechargeHistory (parseRechargeHistory host.toExternals)

def getMonthlyConsumption : Except ServiceFailure (List NescoMonthlyConsumptionDto) :=
  lookup fetched .monthlyConsumption (parseMonthlyConsumption host.toExternals)

end Methods

end NescoService

/-! ## What the parsers throw -/

/-- It throws only that the layout has changed. -/
abbrev OnlyLayout (x : Except NescoPortalError α) : Prop := SameOutcome x x

namespace OnlyLayout

theorem reason {x : Except NescoPortalError α} {e : NescoPortalError} (h : OnlyLayout x)
    (thrown : x = .error e) : e.reason = .layoutChanged := by
  rw [thrown] at h
  cases h with
  | error h => exact h.1

theorem bind {x : Except NescoPortalError α} {f : α → Except NescoPortalError β}
    (h : OnlyLayout x) (next : ∀ a, OnlyLayout (f a)) : OnlyLayout (x >>= f) :=
  Lift.bind h fun a _ same => same ▸ next a

theorem mapM {f : α → Except NescoPortalError β} (each : ∀ a, OnlyLayout (f a)) (l : List α) :
    OnlyLayout (l.mapM f) := by
  have all : List.Forall₂ (fun a a' => SameOutcome (f a) (f a')) l l :=
    List.forall₂_same.mpr fun a _ => each a
  exact (Lift.mapM all).mono fun _ _ same => List.forall₂_eq_eq_eq ▸ same

end OnlyLayout

theorem requireColumn_layout (host : Externals) (headers : List String) (heading : String) :
    OnlyLayout (requireColumn host headers heading) := by
  rw [requireColumn]
  split
  · exact .ok rfl
  · exact .error ⟨rfl, rfl⟩

theorem requireLabelledEntry_layout (host : PortalExternals)
    (values : InsertionMap String String) (label : String) :
    OnlyLayout (requireLabelledEntry host values label) := by
  simp only [requireLabelledEntry]
  split
  · exact .ok rfl
  split
  · exact .ok rfl
  · exact .error ⟨rfl, rfl⟩

theorem requireLabelled_layout (host : PortalExternals) (values : InsertionMap String String)
    (label : String) : OnlyLayout (requireLabelled host values label) :=
  (requireLabelledEntry_layout host values label).bind fun _ => .ok rfl

theorem parseInstallationDate_layout (raw : String) : OnlyLayout (parseInstallationDate raw) := by
  rw [parseInstallationDate, parseSlashDateTime]
  split
  · exact .error ⟨rfl, rfl⟩
  · exact dhakaTimeToEpochSeconds_layout _ _ _

theorem parseRechargeHistory_layout (host : Externals) (html : String) :
    OnlyLayout (parseRechargeHistory host html) := by
  rw [parseRechargeHistory]
  split
  · exact .error ⟨rfl, rfl⟩
  · next headers rows _ =>
    have column := requireColumn_layout host headers
    refine (column _).bind fun sn => (column _).bind fun token => ?_
    refine (column _).bind fun meterRent => (column _).bind fun demandCharge => ?_
    refine (column _).bind fun vat => (column _).bind fun concession => ?_
    refine (column _).bind fun usable => (column _).bind fun rechargeAmount => ?_
    refine (column _).bind fun method => (column _).bind fun date => ?_
    refine (column _).bind fun status => OnlyLayout.mapM (fun row => ?_) rows
    refine lift_amount rfl fun _ => lift_cell rfl fun _ => lift_amount rfl fun _ => ?_
    refine lift_amount rfl fun _ => lift_amount rfl fun _ => lift_amount rfl fun _ => ?_
    refine lift_amount rfl fun _ => lift_amount rfl fun _ => lift_cell rfl fun _ => ?_
    refine lift_cell rfl fun _ => OnlyLayout.bind (parseRechargeDate_layout _) fun _ => ?_
    exact lift_cell rfl fun _ => .ok rfl

theorem parseMonthlyConsumption_layout (host : Externals) (html : String) :
    OnlyLayout (parseMonthlyConsumption host html) := by
  rw [parseMonthlyConsumption]
  split
  · exact .error ⟨rfl, rfl⟩
  · next headers rows _ =>
    have column := requireColumn_layout host headers
    refine (column _).bind fun year => (column _).bind fun month => ?_
    refine (column _).bind fun rechargeAmount => (column _).bind fun concession => ?_
    refine (column _).bind fun electricityCharge => (column _).bind fun meterRent => ?_
    refine (column _).bind fun demandCharge => (column _).bind fun vat => ?_
    refine (column _).bind fun usageAmount => (column _).bind fun remainBalance => ?_
    refine (column _).bind fun usageKwh => OnlyLayout.mapM (fun row => ?_) rows
    refine lift_amount rfl fun _ => lift_cell rfl fun _ => lift_amount rfl fun _ => ?_
    refine lift_amount rfl fun _ => lift_amount rfl fun _ => lift_amount rfl fun _ => ?_
    refine lift_amount rfl fun _ => lift_amount rfl fun _ => lift_amount rfl fun _ => ?_
    exact lift_amount rfl fun _ => lift_amount rfl fun _ => .ok rfl

/-! ## Statuses -/

/-- The exception filter answers 500 to what is no `HttpException`. -/
def ServiceFailure.status : ServiceFailure → ℕ
  | .http error => error.statusCode
  | .other _ => 500

def failureStatus : Except ServiceFailure α → Option ℕ
  | .ok _ => none
  | .error failure => some failure.status

inductive NescoMethod
  | getBalance
  | getCustomerInfo
  | getRechargeSnapshot
  | getRechargeHistory
  | getMonthlyConsumption
  deriving DecidableEq

/-- The status by which a method fails, if it does. -/
def NescoMethod.status (host : PortalExternals) (fetched : SubmitType → Except FetchFailure String)
    (customerNo : String) : NescoMethod → Option ℕ
  | .getBalance => failureStatus (NescoService.getBalance host fetched customerNo)
  | .getCustomerInfo => failureStatus (NescoService.getCustomerInfo host fetched customerNo)
  | .getRechargeSnapshot => failureStatus (NescoService.getRechargeSnapshot host fetched customerNo)
  | .getRechargeHistory => failureStatus (NescoService.getRechargeHistory host fetched)
  | .getMonthlyConsumption => failureStatus (NescoService.getMonthlyConsumption host fetched)

/-- The methods that look at the customer form of the page. -/
def NescoMethod.readsForm : NescoMethod → Bool
  | .getRechargeHistory => false
  | .getMonthlyConsumption => false
  | _ => true

def AxiosError.TimedOut (error : AxiosError) : Prop :=
  error.code = some "ECONNABORTED" ∨ error.code = some "ETIMEDOUT"

instance (error : AxiosError) : Decidable error.TimedOut :=
  inferInstanceAs (Decidable (_ ∨ _))

/-- One of the two requests threw. -/
inductive Threw (host : PortalExternals) (opened posted : Except SendFailure PortalResponse) :
    ExchangeStage → SendFailure → Prop
  | sessionGet (failure : SendFailure) (thrown : opened = .error failure) :
      Threw host opened posted .sessionGet failure
  | reportPost (session : PortalSession) (failure : SendFailure)
      (open_ : openSession host opened = .ok session) (thrown : posted = .error failure) :
      Threw host opened posted .reportPost failure

/-- What a status tells. -/
structure Statuses (status : Option ℕ) (threw : SendFailure → Prop) (unknown : Prop) : Prop where
  timeout : status = some 504 ↔ ∃ error, threw (.axios error) ∧ error.TimedOut
  unreachable : status = some 503 ↔
    ∃ error, threw (.axios error) ∧ ¬ error.TimedOut ∧ error.status = none
  notFound : status = some 404 ↔ unknown
  internal : status = some 500 ↔ ∃ message, threw (.other message)
  others : ∀ n, status = some n → n ∈ [404, 500, 502, 503, 504]

/-- A parser that looks at the form or not: it throws that the customer is unknown where the form is
empty, and else only that the layout has changed. -/
structure ParsesPage (host : PortalExternals) (form : Bool)
    (parse : String → Except NescoPortalError α) : Prop where
  unknown : ∀ html, form = true → labelledFields host html = [] →
    ∃ e, parse html = .error e ∧ e.reason = .customerNotFound
  known : ∀ html, (form = true → labelledFields host html ≠ []) → OnlyLayout (parse html)

section
variable {host : PortalExternals} {opened posted : Except SendFailure PortalResponse}
  {customerNo : String}

theorem reads_history (parse : String → Except NescoPortalError α)
    (layout : ∀ html, OnlyLayout (parse html)) : ParsesPage host false parse :=
  ⟨nofun, fun html _ => layout html⟩

theorem extract_eq_nil (html : String) (empty : labelledFields host html = []) :
    (extractLabelledInputs host html).entries = [] :=
  InsertionMap.ofEntries_eq_nil_iff.mpr empty

theorem reads_balance (host : PortalExternals) (customerNo : String)
    (next : PortalBalance → String → Except NescoPortalError α)
    (layout : ∀ balance html, OnlyLayout (next balance html)) :
    ParsesPage host true fun html => parseBalance host html customerNo >>= fun balance =>
      next balance html := by
  refine ⟨fun html _ empty => ⟨customerNotFound customerNo, ?_, rfl⟩, fun html nonempty => ?_⟩
  · rw [parseBalance, if_pos (extract_eq_nil html empty)]
    rfl
  · refine OnlyLayout.bind ?_ fun balance => layout balance html
    rw [parseBalance, if_neg (extract_ne_nil (nonempty rfl))]
    refine (requireLabelledEntry_layout _ _ _).bind fun _ => ?_
    exact OnlyLayout.bind (parseAmount_layout _ _) fun _ => .ok rfl

theorem reads_info (host : PortalExternals) (customerNo : String) :
    ParsesPage host true fun html => parseCustomerInfo host html customerNo := by
  refine ⟨fun html _ empty => ⟨customerNotFound customerNo, ?_, rfl⟩, fun html nonempty => ?_⟩
  · rw [parseCustomerInfo, if_pos (extract_eq_nil html empty)]
    rfl
  · rw [parseCustomerInfo, if_neg (extract_ne_nil (nonempty rfl))]
    have label := requireLabelled_layout host (extractLabelledInputs host html)
    refine (label _).bind fun _ => (requireLabelledEntry_layout _ _ _).bind fun _ => ?_
    refine (label _).bind fun _ => (label _).bind fun _ => (label _).bind fun _ => ?_
    refine (label _).bind fun _ => (label _).bind fun _ => (label _).bind fun _ => ?_
    refine (label _).bind fun _ => (parseInstallationDate_layout _).bind fun _ => ?_
    refine (label _).bind fun _ => OnlyLayout.bind (parseAmount_layout _ _) fun _ => ?_
    refine (label _).bind fun _ => OnlyLayout.bind (parseAmount_layout _ _) fun _ => ?_
    exact OnlyLayout.bind (parseAmount_layout _ _) fun _ => .ok rfl

/-! ## What the requests threw -/

/-- What the client makes of what a request threw. -/
def failed (stage : ExchangeStage) : SendFailure → FetchFailure
  | .axios error => .portal (transportError stage error)
  | .other message => .other message

/-- A page that is not recognised is the only failure that is not thrown. -/
def Unrecognised (failure : FetchFailure) : Prop :=
  ∃ message, failure = .portal (layoutError message)

theorem asHtml_error {data : ResponseData} {failure : FetchFailure}
    (h : asHtml data = .error failure) : Unrecognised failure := by
  cases data with
  | text html => cases h
  | other kind => exact ⟨_, (Except.error.inj h).symm⟩

theorem requireToken_error {csrfToken : Option String} {failure : FetchFailure}
    (h : requireToken csrfToken = .error failure) : Unrecognised failure := by
  cases csrfToken with
  | none => exact ⟨_, (Except.error.inj h).symm⟩
  | some token =>
    simp only [requireToken] at h
    split at h
    · exact ⟨_, (Except.error.inj h).symm⟩
    · cases h

theorem toCookieHeader_error {setCookie : Option (List String)} {failure : FetchFailure}
    (h : toCookieHeader setCookie = .error failure) : Unrecognised failure := by
  rcases setCookie with _ | _ | ⟨cookie, cookies⟩
  · exact ⟨_, (Except.error.inj h).symm⟩
  · exact ⟨_, (Except.error.inj h).symm⟩
  · cases h

theorem bind_eq_error_iff {f : α → Except ε β} {x : Except ε α} {e : ε} :
    (x >>= f) = .error e ↔ x = .error e ∨ ∃ a, x = .ok a ∧ f a = .error e := by
  rcases x with e' | a <;> simp [bind, Except.bind]

theorem openSession_error {response : PortalResponse} {failure : FetchFailure}
    (h : openSession host (.ok response) = .error failure) : Unrecognised failure := by
  simp only [openSession, bind_eq_error_iff, requestRaw] at h
  obtain h | ⟨_, -, h | ⟨_, -, h | ⟨_, -, h | ⟨_, -, h⟩⟩⟩⟩ := h
  · cases h
  · exact asHtml_error h
  · exact requireToken_error h
  · exact toCookieHeader_error h
  · cases h

/-- An exchange has a page, or one of its requests threw, or a page was not recognised. -/
theorem fetchedFrom_cases (host : PortalExternals)
    (opened posted : Except SendFailure PortalResponse) :
    (∃ stage failure, fetchedFrom host opened posted = .error (failed stage failure) ∧
      ∀ stage' failure', Threw host opened posted stage' failure' ↔
        stage' = stage ∧ failure' = failure) ∨
    (∀ stage failure, ¬ Threw host opened posted stage failure) ∧
      ((∃ html, fetchedFrom host opened posted = .ok html) ∨
        ∃ failure, fetchedFrom host opened posted = .error failure ∧ Unrecognised failure) := by
  rcases opened with failure | response
  · refine .inl ⟨.sessionGet, failure, ?_, fun stage' failure' => ⟨?_, ?_⟩⟩
    · cases failure <;> rfl
    · rintro (⟨_, thrown⟩ | ⟨_, _, open_, -⟩)
      · exact ⟨rfl, (Except.error.inj thrown).symm⟩
      · cases failure <;> cases open_
    · rintro ⟨rfl, rfl⟩
      exact .sessionGet failure' rfl
  cases open_ : openSession host (.ok response) with
  | error failure =>
    refine .inr ⟨?_, .inr ⟨failure, ?_, openSession_error open_⟩⟩
    · rintro _ _ (⟨_, thrown⟩ | ⟨_, _, open', -⟩)
      · cases thrown
      · rw [open_] at open'
        cases open'
    · rw [fetchedFrom, open_]
      rfl
  | ok session =>
    have sent : fetchedFrom host (.ok response) posted = request .reportPost posted := by
      rw [fetchedFrom, open_]
      rfl
    rcases posted with failure | response'
    · refine .inl ⟨.reportPost, failure, ?_, fun stage' failure' => ⟨?_, ?_⟩⟩
      · rw [sent]
        cases failure <;> rfl
      · rintro (⟨_, thrown⟩ | ⟨_, _, -, thrown⟩)
        · cases thrown
        · exact ⟨rfl, (Except.error.inj thrown).symm⟩
      · rintro ⟨rfl, rfl⟩
        exact .reportPost session failure' open_ rfl
    · refine .inr ⟨?_, ?_⟩
      · rintro _ _ (⟨_, thrown⟩ | ⟨_, _, -, thrown⟩)
        · cases thrown
        · cases thrown
      · rw [sent]
        cases read : asHtml response'.data with
        | ok html => exact .inl ⟨html, read⟩
        | error failure => exact .inr ⟨failure, read, asHtml_error read⟩

/-! ## What a status tells -/

theorem lookup_of_fetched {submitType : SubmitType}
    {parse : String → Except NescoPortalError α} {fetched : Except FetchFailure String}
    {failure : FetchFailure} (thrown : fetched = .error failure) :
    failureStatus (NescoService.lookup (fun _ => fetched) submitType parse) =
      match failure with
      | .portal error => some (NescoService.toHttpException error).statusCode
      | .other _ => some 500 := by
  subst thrown
  cases failure <;> rfl

theorem lookup_of_parsed {submitType : SubmitType}
    {parse : String → Except NescoPortalError α} {fetched : Except FetchFailure String}
    {html : String} (page : fetched = .ok html) :
    failureStatus (NescoService.lookup (fun _ => fetched) submitType parse) =
      match parse html with
      | .ok _ => none
      | .error error => some (NescoService.toHttpException error).statusCode := by
  subst page
  cases parsed : parse html <;>
    simp [NescoService.lookup, NescoService.guard, bind, Except.bind, Except.mapError, parsed,
      failureStatus, ServiceFailure.status]

/-- The status of what a request threw. -/
theorem toHttpException_transportError (stage : ExchangeStage) (error : AxiosError) :
    (NescoService.toHttpException (transportError stage error)).statusCode =
      if error.TimedOut then 504 else if error.status.isSome then 502 else 503 := by
  rw [transportError]
  by_cases timeout : error.TimedOut
  · rw [if_pos timeout, if_pos (show error.code = _ ∨ error.code = _ from timeout)]
    rfl
  · rw [if_neg timeout, if_neg (show ¬ (error.code = _ ∨ error.code = _) from timeout)]
    cases error.status <;> rfl

theorem lookup_statuses {form : Bool} {submitType : SubmitType}
    {parse : String → Except NescoPortalError α} (parses : ParsesPage host form parse) :
    Statuses
      (failureStatus
        (NescoService.lookup (fun _ => fetchedFrom host opened posted) submitType parse))
      (fun failure => ∃ stage, Threw host opened posted stage failure)
      (form = true ∧ ∃ html, fetchedFrom host opened posted = .ok html ∧
        labelledFields host html = []) := by
  obtain ⟨stage, failure, thrown, only⟩ | ⟨quiet, ⟨html, page⟩ | ⟨failure, thrown, message, rfl⟩⟩ :=
    fetchedFrom_cases host opened posted
  · have threw (failure' : SendFailure) :
        (∃ stage', Threw host opened posted stage' failure') ↔ failure' = failure := by
      simp [only]
    simp only [threw, thrown, reduceCtorEq, false_and, exists_false, and_false]
    rw [lookup_of_fetched rfl]
    cases failure with
    | other message => constructor <;> simp [failed]
    | axios error =>
      simp only [failed, toHttpException_transportError]
      by_cases timeout : error.TimedOut
      · constructor <;> simp [timeout]
      · cases status : error.status <;> constructor <;> simp [timeout, status]
  · simp only [quiet, exists_false, page, Except.ok.injEq, exists_eq_left']
    rw [lookup_of_parsed rfl]
    by_cases unknown : form = true ∧ labelledFields host html = []
    · obtain ⟨e, parsed, reason⟩ := parses.unknown html unknown.1 unknown.2
      rw [parsed]
      constructor <;> simp [NescoService.toHttpException, reason, unknown]
    · have layout := parses.known html fun reads empty => unknown ⟨reads, empty⟩
      cases parsed : parse html with
      | ok a => constructor <;> simp [unknown]
      | error e =>
        have reason := layout.reason parsed
        constructor <;> simp [NescoService.toHttpException, reason, unknown]
  · simp only [quiet, exists_false, false_and, thrown, reduceCtorEq, and_false]
    rw [lookup_of_fetched rfl]
    constructor <;> simp [NescoService.toHttpException, layoutError]

end

/-- Whichever method fails, the status tells what has gone wrong. -/
theorem status_tells (host : PortalExternals) (opened posted : Except SendFailure PortalResponse)
    (customerNo : String) (method : NescoMethod) :
    Statuses (method.status host (fun _ => fetchedFrom host opened posted) customerNo)
      (fun failure => ∃ stage, Threw host opened posted stage failure)
      (method.readsForm = true ∧ ∃ html, fetchedFrom host opened posted = .ok html ∧
        labelledFields host html = []) := by
  cases method with
  | getBalance => exact lookup_statuses (reads_balance host customerNo _ fun _ _ => .ok rfl)
  | getCustomerInfo => exact lookup_statuses (reads_info host customerNo)
  | getRechargeSnapshot =>
    refine lookup_statuses (reads_balance host customerNo _ fun _ html => ?_)
    exact (parseRechargeHistory_layout _ html).bind fun _ => .ok rfl
  | getRechargeHistory =>
    exact lookup_statuses (reads_history _ (parseRechargeHistory_layout _))
  | getMonthlyConsumption =>
    exact lookup_statuses (reads_history _ (parseMonthlyConsumption_layout _))

end ElectroSync
