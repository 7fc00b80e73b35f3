import ElectroSync.Auth.PasswordResetRuns
import ElectroSync.Auth.RecoveryServer

/-!
# What the recovery endpoints say about an account

Two runs of the same calls on an email, one with an account of that email and one without. Without
an account every request is accepted and every reset refused; with one, a reset that is refused is
refused in the same words, and a request is accepted as long as it is not throttled and its code is
stored.
-/

namespace ElectroSync
open Transition PasswordResetService

/-- What the caller gets: the endpoint determines the status of a success. -/
inductive RecoveryResponse
  | request (answer : Except HttpException Unit)
  | reset (answer : Except HttpException TokenSubject)
  deriving DecidableEq

namespace RecoveryEvent

def input : RecoveryEvent → RecoveryInput
  | request dto now _ _ => .request dto now
  | reset dto now _ _ => .reset dto now

def response : RecoveryEvent → RecoveryResponse
  | request _ _ _ answer => .request answer
  | reset _ _ _ answer => .reset answer

/-- The mail of the call, if it sends one, leaves. -/
def Delivers : RecoveryEvent → Prop
  | request _ _ chance _ => chance.delivers = true
  | reset .. => True

instance (event : RecoveryEvent) : Decidable event.Delivers := by
  cases event <;> unfold Delivers <;> infer_instance

instance (platform : Platform) (email : String) (event : RecoveryEvent) :
    Decidable (event.Redeems platform email) := by
  cases event <;> unfold Redeems <;> infer_instance

end RecoveryEvent

/-- A request is not throttled and its code can be stored. -/
def Unhindered (platform : Platform) (t : Tables) : RecoveryEvent → Prop
  | .request dto now chance _ =>
    throttleFor (recentRequests t (normalizeEmail platform dto.email) now) now = none ∧
      chance.commits = true ∧ ∀ row ∈ t.verifications, row.id ≠ chance.id
  | .reset .. => True

instance (platform : Platform) (t : Tables) (event : RecoveryEvent) :
    Decidable (Unhindered platform t event) := by
  cases event <;> unfold Unhindered <;> infer_instance

/-- The response to a call on an email that has no account. -/
def neutralResponse : RecoveryInput → RecoveryResponse
  | .request _ _ => .request (.ok ())
  | .reset _ _ => .reset (.error wrongCode)

variable {platform : Platform} {t t' s : Tables} {email : String} {user : UserRow} {now : ℤ}
  {event : RecoveryEvent} {tr : List RecoveryEvent}

/-! ## One call -/

/-- A reset is refused in one way, and otherwise there is an account. -/
theorem reset_answer (t : Tables) (dto : ResetPasswordDto) (now : ℤ) (chance : ResetChance) :
    (reset platform t dto now chance).1 = .error wrongCode ∨
      ∃ user, findCredentialUser t (normalizeEmail platform dto.email) = some user ∧
        (reset platform t dto now chance).1 = .ok ⟨user.id, user.email⟩ := by
  cases pending : selectPending t (normalizeEmail platform dto.email) chance.tie with
  | none => exact .inl (by rw [reset_of_missing chance pending])
  | some row =>
    rw [reset_of_pending chance pending]
    split
    · exact .inl rfl
    split
    · exact .inl rfl
    · split
      · exact .inl rfl
      · next user account => exact .inr ⟨user, account, rfl⟩

theorem request_accepted_iff {dto : ForgotPasswordDto} {chance : RequestChance}
    (account : findCredentialUser t (normalizeEmail platform dto.email) = some user)
    (delivers : chance.delivers = true) :
    (request platform t dto now chance).answer = .ok () ↔
      throttleFor (recentRequests t (normalizeEmail platform dto.email) now) now = none ∧
        chance.commits = true ∧ ∀ row ∈ t.verifications, row.id ≠ chance.id := by
  simp only [request, account]
  split
  · next throttled => simp [throttled]
  · next allowed =>
    split
    · next refused =>
      simp only [Bool.or_eq_true, Bool.not_eq_true', List.any_eq_true, decide_eq_true_eq] at refused
      simp only [reduceCtorEq, allowed, true_and, false_iff, not_and]
      rintro commits fresh
      rcases refused with fails | ⟨row, mem, taken⟩
      · rw [commits] at fails
        cases fails
      · exact fresh row mem taken
    · next committed =>
      simp only [Bool.or_eq_true, not_or, Bool.not_eq_true', Bool.not_eq_false, List.any_eq_true,
        decide_eq_true_eq, not_exists, not_and] at committed
      simp only [allowed, true_and, true_iff]
      exact committed

/-- Without an account the response depends on nothing. -/
theorem response_of_missing (step : recover platform t event = some t')
    (missing : findCredentialUser t (event.email platform) = none) :
    event.response = neutralResponse event.input := by
  cases event with
  | request dto now chance answer =>
    obtain ⟨rfl, -⟩ := recover_request step
    have missing : findCredentialUser t (normalizeEmail platform dto.email) = none := missing
    simp only [RecoveryEvent.response, request, missing]
    rfl
  | reset dto now chance answer =>
    have step := recover_reset step
    have missing : findCredentialUser t (normalizeEmail platform dto.email) = none := missing
    rcases reset_answer t dto now chance with refused | ⟨user, account, -⟩
    · rw [step] at refused
      simp only at refused
      rw [refused]
      rfl
    · rw [missing] at account
      cases account

/-- With an account the response is the same exactly when a request meets no obstacle. -/
theorem response_of_account (step : recover platform t event = some t')
    (account : findCredentialUser t (event.email platform) = some user)
    (delivers : event.Delivers) (refused : ¬ event.Redeems platform (event.email platform)) :
    event.response = neutralResponse event.input ↔ Unhindered platform t event := by
  cases event with
  | request dto now chance answer =>
    obtain ⟨rfl, -⟩ := recover_request step
    rw [Unhindered, ← request_accepted_iff account delivers]
    exact ⟨RecoveryResponse.request.inj, congrArg RecoveryResponse.request⟩
  | reset dto now chance answer =>
    have step := recover_reset step
    rcases reset_answer t dto now chance with wrong | ⟨user, -, accepted⟩
    · rw [step] at wrong
      simp only at wrong
      rw [wrong]
      exact ⟨fun _ => trivial, fun _ => rfl⟩
    · rw [step] at accepted
      simp only at accepted
      exact absurd ⟨rfl, by rw [accepted]; rfl⟩ refused

/-! ## Runs -/

theorem run_findCredentialUser (run : Run (Enabled (recover platform)) t tr s) (email : String) :
    findCredentialUser s email = findCredentialUser t email := by
  refine run.invariant
    (P := fun s => findCredentialUser s email = findCredentialUser t email) rfl ?_
  intro s event s' same step
  rw [findCredentialUser_step step, same]

theorem responses_of_missing (run : Run (Enabled (recover platform)) t tr s)
    (missing : findCredentialUser t email = none)
    (onEmail : ∀ event ∈ tr, event.email platform = email) :
    tr.map (·.response) = tr.map fun event => neutralResponse event.input := by
  induction run with
  | nil => rfl
  | snoc run step ih =>
    rw [List.map_append, List.map_append, ih fun event mem => onEmail event (by simp [mem])]
    congr 1
    rw [List.map_singleton, List.map_singleton]
    apply congrArg (fun response => [response])
    apply response_of_missing step
    rw [onEmail _ (by simp), run_findCredentialUser run, missing]

/-- With an account, the responses are those of an email without one exactly when no request of
the run is hindered. -/
theorem responses_of_account (run : Run (Enabled (recover platform)) t tr s)
    (account : findCredentialUser t email = some user)
    (onEmail : ∀ event ∈ tr, event.email platform = email)
    (delivers : ∀ event ∈ tr, event.Delivers)
    (refused : ∀ event ∈ tr, ¬ event.Redeems platform email) :
    (tr.map (·.response) = tr.map fun event => neutralResponse event.input) ↔
      Run (Guarded (Enabled (recover platform)) (Unhindered platform)) t tr s := by
  induction tr using List.reverseRecOn generalizing s with
  | nil =>
    cases Run.nil_iff.mp run
    exact ⟨fun _ => .nil, fun _ => rfl⟩
  | append_singleton tr event ih =>
    have own := onEmail event (by simp)
    have earlier {s : Tables} (run : Run (Enabled (recover platform)) t tr s) :=
      ih run (fun event mem => onEmail event (by simp [mem]))
        (fun event mem => delivers event (by simp [mem]))
        (fun event mem => refused event (by simp [mem]))
    have last {s s' : Tables} (run : Run (Enabled (recover platform)) t tr s)
        (step : recover platform s event = some s') :=
      response_of_account step (by rw [own, run_findCredentialUser run, account])
        (delivers event (by simp)) (own.symm ▸ refused event (by simp))
    rw [List.map_append, List.map_append, List.map_singleton, List.map_singleton,
      List.append_singleton_inj]
    constructor
    · rintro ⟨same, lastSame⟩
      obtain ⟨s₁, run, step⟩ := Run.snoc_iff.mp run
      exact ((earlier run).mp same).snoc ⟨step, (last run step).mp lastSame⟩
    · intro guarded
      obtain ⟨s₁, guarded, step, free⟩ := Run.snoc_iff.mp guarded
      have run : Run (Enabled (recover platform)) t tr s₁ := guarded.mono fun _ _ _ => And.left
      exact ⟨(earlier run).mpr guarded, (last run step).mpr free⟩

theorem email_of_input {event event' : RecoveryEvent} (same : event.input = event'.input) :
    event.email platform = event'.email platform := by
  cases event <;> cases event' <;> cases same <;> rfl

/-- The same calls on an email with an account and on one without get the same responses exactly
when, in the run with the account, no request is hindered. -/
theorem responses_agree_iff (run : Run (Enabled (recover platform)) t tr s)
    (run' : Run (Enabled (recover platform)) t' tr' s')
    (account : findCredentialUser t email = some user)
    (missing : findCredentialUser t' email = none)
    (sameCalls : tr.map (·.input) = tr'.map (·.input))
    (onEmail : ∀ event ∈ tr, event.email platform = email)
    (delivers : ∀ event ∈ tr, event.Delivers)
    (refused : ∀ event ∈ tr, ¬ event.Redeems platform email) :
    tr.map (·.response) = tr'.map (·.response) ↔
      Run (Guarded (Enabled (recover platform)) (Unhindered platform)) t tr s := by
  have neutral : (tr'.map fun event => neutralResponse event.input) =
      tr.map fun event => neutralResponse event.input := by
    rw [← Function.comp_def neutralResponse, ← List.map_map, ← sameCalls, List.map_map]
  have onEmail' : ∀ event ∈ tr', event.email platform = email := by
    intro event' mem'
    have called : event'.input ∈ tr.map (·.input) := sameCalls ▸ List.mem_map_of_mem mem'
    obtain ⟨event, mem, same⟩ := List.mem_map.mp called
    rw [← email_of_input same]
    exact onEmail event mem
  rw [responses_of_missing run' missing onEmail', neutral]
  exact responses_of_account run account onEmail delivers refused

/-- A request, a wrong guess, and a request a quarter of an hour later. -/
def patientCalls : List RecoveryEvent :=
  [.request ⟨"raju@example.com"⟩ 0 firstCode (.ok ()),
    .reset ⟨"raju@example.com", "111111", "guess"⟩ 1000 {} (.error wrongCode),
    .request ⟨"Raju@example.com "⟩ 900000 { firstCode with id := "w" } (.ok ())]

theorem responses_agree_iff_patientCalls :
    ∃ s, Run (Guarded (Enabled (recover plainPlatform)) (Unhindered plainPlatform)) oneAccount
      patientCalls s := by
  obtain ⟨s, run, -⟩ := exec_any (by decide +kernel :
    (exec (recover plainPlatform) oneAccount patientCalls).any fun _ => true)
  obtain ⟨s', run', -⟩ := exec_any (by decide +kernel :
    (exec (recover plainPlatform) {} patientCalls).any fun _ => true)
  have missing : findCredentialUser {} "raju@example.com" = none := by decide +kernel
  have agree := responses_agree_iff run run' rfl missing rfl (by decide +kernel)
    (by decide +kernel) (by decide +kernel)
  exact ⟨s, agree.mp rfl⟩

/-- Two requests within a minute, and the answers to the second one. -/
def hastyCalls (answer : Except HttpException Unit) : List RecoveryEvent :=
  [.request ⟨"raju@example.com"⟩ 0 firstCode (.ok ()),
    .request ⟨"raju@example.com"⟩ 20000 { firstCode with id := "w" } answer]

/-- The second request is throttled only when there is an account. -/
theorem responses_differ :
    ¬ ∀ platform t t' tr tr' s s' email user, Run (Enabled (recover platform)) t tr s →
      Run (Enabled (recover platform)) t' tr' s' → findCredentialUser t email = some user →
      findCredentialUser t' email = none → tr.map (·.input) = tr'.map (·.input) →
      (∀ event ∈ tr, event.email platform = email) → (∀ event ∈ tr, event.Delivers) →
      (∀ event ∈ tr, ¬ event.Redeems platform email) →
      tr.map (·.response) = tr'.map (·.response) := by
  intro agree
  obtain ⟨s, run, -⟩ := exec_any (by decide +kernel :
    (exec (recover plainPlatform) oneAccount
      (hastyCalls (.error (tooManyRequests ⟨.cooldown, 40⟩)))).any fun _ => true)
  obtain ⟨s', run', -⟩ := exec_any (by decide +kernel :
    (exec (recover plainPlatform) {} (hastyCalls (.ok ()))).any fun _ => true)
  have missing : findCredentialUser {} "raju@example.com" = none := by decide +kernel
  have same := agree _ _ _ _ _ _ _ _ _ run run' rfl missing rfl (by decide +kernel)
    (by decide +kernel) (by decide +kernel)
  exact absurd same (by decide +kernel)

end ElectroSync
