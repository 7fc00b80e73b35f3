import ElectroSync.Auth.PasswordReset
import ElectroSync.Library.Run

/-!
# Which reset codes are accepted, over runs of calls that do not overlap

An observer of the two endpoints keeps the last code issued to an email, when it was issued, the
wrong guesses made against it while it was eligible, and whether it was redeemed. The newest row of
the email always shows these four things: the cooldown lets no two rows of an email be created at
the same time, whatever the clock does.
-/

namespace ElectroSync
open Transition PasswordResetService

/-- A call of one of the two endpoints, and its answer. -/
inductive RecoveryEvent
  | request (dto : ForgotPasswordDto) (now : ℤ) (chance : RequestChance)
      (answer : Except HttpException Unit)
  | reset (dto : ResetPasswordDto) (now : ℤ) (chance : ResetChance)
      (answer : Except HttpException TokenSubject)

/-- The tables after a call that answers as the event says. -/
def recover (platform : Platform) (t : Tables) : RecoveryEvent → Option Tables
  | .request dto now chance answer =>
    let result := request platform t dto now chance
    if result.answer = answer then some result.tables else none
  | .reset dto now chance answer =>
    let result := reset platform t dto now chance
    if result.1 = answer then some result.2 else none

/-! ## The observer -/

/-- The last code issued to an email. -/
structure IssuedCode where
  code : String
  issuedAt : ℤ
  wrongGuesses : ℕ := 0
  redeemed : Bool := false

/-- Less than 15 minutes old, not redeemed, and guessed wrong fewer than 5 times. -/
def IssuedCode.Eligible (c : IssuedCode) (t : ℤ) : Prop :=
  t < c.issuedAt + 15 * 60 * 1000 ∧ c.redeemed = false ∧ c.wrongGuesses < 5

instance (c : IssuedCode) (t : ℤ) : Decidable (c.Eligible t) :=
  inferInstanceAs (Decidable (_ ∧ _ ∧ _))

/-- The code after a reset with this answer. -/
def IssuedCode.after (c : IssuedCode) (dto : ResetPasswordDto) (now : ℤ)
    (answer : Except HttpException TokenSubject) : IssuedCode :=
  { c with
    wrongGuesses :=
      if c.Eligible now ∧ c.code ≠ dto.code then c.wrongGuesses + 1 else c.wrongGuesses
    redeemed := c.redeemed || answer.isOk }

namespace RecoveryEvent

/-- The email that the call acts on. -/
def email (platform : Platform) : RecoveryEvent → String
  | request dto .. => normalizeEmail platform dto.email
  | reset dto .. => normalizeEmail platform dto.email

/-- The event issues a code to the email. -/
def Issues (platform : Platform) (email : String) : RecoveryEvent → Prop
  | request dto _ _ answer => normalizeEmail platform dto.email = email ∧ Issued answer
  | reset .. => False

/-- The event redeems a code of the email. -/
def Redeems (platform : Platform) (email : String) : RecoveryEvent → Prop
  | request .. => False
  | reset dto _ _ answer => normalizeEmail platform dto.email = email ∧ answer.isOk

end RecoveryEvent

def observe (platform : Platform) (email : String) (last : Option IssuedCode) :
    RecoveryEvent → Option IssuedCode
  | .request dto now chance answer =>
    if normalizeEmail platform dto.email = email ∧ Issued answer then
      some { code := generateCode chance.draw, issuedAt := now }
    else last
  | .reset dto now _ answer =>
    if normalizeEmail platform dto.email = email then
      last.map fun c => c.after dto now answer
    else last

def lastIssued (platform : Platform) (email : String) (tr : List RecoveryEvent) :
    Option IssuedCode :=
  tr.foldl (observe platform email) none

/-- The stored passwords of a user. -/
def credentials (t : Tables) (userId : String) : List (Option String) :=
  (t.accounts.filter fun account =>
    account.userId = userId && account.providerId = credentialProvider).map (·.password)

/-! ## What the newest row shows -/

variable {platform : Platform} {t t' t₀ : Tables} {email : String} {user : UserRow}
  {row : VerificationRow} {c : IssuedCode} {last : Option IssuedCode} {now : ℤ}
  {event : RecoveryEvent}

structure Shows (platform : Platform) (c : IssuedCode) (row : VerificationRow) : Prop where
  value : ∃ salt, row.value = platform.passwords.hash salt c.code
  createdAt : row.createdAt = c.issuedAt
  expiresAt : row.expiresAt = codeExpiryFrom c.issuedAt
  attempts : row.attempts = c.wrongGuesses
  consumed : row.consumedAt.isSome = c.redeemed

theorem Shows.redeemable (shows_ : Shows platform c row) : Redeemable row now ↔ c.Eligible now := by
  have consumed : row.consumedAt = none ↔ c.redeemed = false := by
    rw [← shows_.consumed, Option.isSome_eq_false_iff, Option.isNone_iff_eq_none]
  have expiry : codeExpiryFrom c.issuedAt = c.issuedAt + 15 * 60 * 1000 := by
    simp only [codeExpiryFrom, codeTtlMinutes]
    omega
  simp only [Redeemable, IssuedCode.Eligible, consumed, shows_.expiresAt, shows_.attempts, expiry,
    maxAttempts]
  tauto

theorem Shows.verify (shows_ : Shows platform c row) (code : String) :
    platform.passwords.verify row.value code = decide (c.code = code) := by
  obtain ⟨salt, value⟩ := shows_.value
  rw [value, platform.passwords.verify_hash]

/-- The tables agree with the observer of an email. -/
def Tracks (platform : Platform) (t : Tables) (email : String) : Option IssuedCode → Prop
  | none => codesFor t email = []
  | some c => ∃ row, Newest (codesFor t email) row ∧ Shows platform c row

/-- What a reset does, in terms of the observer. -/
theorem reset_of_shows {dto : ResetPasswordDto} (chance : ResetChance)
    (newest : Newest (codesFor t (normalizeEmail platform dto.email)) row)
    (shows_ : Shows platform c row)
    (account : findCredentialUser t (normalizeEmail platform dto.email) = some user) :
    reset platform t dto now chance =
      if ¬ c.Eligible now then (.error wrongCode, t)
      else if c.code ≠ dto.code then (.error wrongCode, countAttempt t row.id)
      else (.ok ⟨user.id, user.email⟩, redeemCode t row.id now user.id
        (platform.passwords.hash chance.salt dto.password)) := by
  rw [reset_of_pending chance (newest.selectPending _), account]
  simp only [shows_.redeemable, shows_.verify, decide_eq_false_iff_not, ne_eq]

/-! ## Steps -/

theorem recover_request {chance : RequestChance} {answer : Except HttpException Unit}
    (step : recover platform t (.request dto now chance answer) = some t') :
    (request platform t dto now chance).answer = answer ∧
      (request platform t dto now chance).tables = t' := by
  simpa [recover] using step

theorem recover_reset {chance : ResetChance} {answer : Except HttpException TokenSubject}
    (step : recover platform t (.reset dto now chance answer) = some t') :
    reset platform t dto now chance = (answer, t') := by
  simp only [recover, Option.ite_none_right_eq_some, Option.some.injEq] at step
  exact Prod.ext step.1 step.2

/-- All that a call does to the tables. -/
theorem recover_cases (step : recover platform t event = some t') :
    t' = t ∨
      (∃ now hash id, (∀ row ∈ t.verifications, row.id ≠ id) ∧
        t' = issueCode t (event.email platform) now hash id
          (liveCodes t (event.email platform))) ∨
      (∃ row ∈ codesFor t (event.email platform), t' = countAttempt t row.id) ∨
      ∃ row ∈ codesFor t (event.email platform), ∃ user now hash,
        findCredentialUser t (event.email platform) = some user ∧
        t' = redeemCode t row.id now user.id hash ∧
        event.Redeems platform (event.email platform) := by
  cases event with
  | request dto now chance answer =>
    obtain ⟨-, rfl⟩ := recover_request step
    obtain same | ⟨fresh, issued⟩ := request_tables dto chance
    · exact .inl same
    · exact .inr (.inl ⟨_, _, _, fresh, issued⟩)
  | reset dto now chance answer =>
    have step := recover_reset step
    obtain ⟨_, refused⟩ | ⟨_, row, mem, counted⟩ | ⟨row, mem, user, account, redeemed⟩ :=
      reset_tables dto chance
    · cases refused.symm.trans step
      exact .inl rfl
    · cases counted.symm.trans step
      exact .inr (.inr (.inl ⟨row, mem, rfl⟩))
    · cases redeemed.symm.trans step
      exact .inr (.inr (.inr ⟨row, mem, user, _, _, account, rfl, rfl, rfl⟩))

theorem ids_step (ids : IdsDistinct t) (step : recover platform t event = some t') :
    IdsDistinct t' := by
  obtain rfl | ⟨_, _, _, fresh, rfl⟩ | ⟨_, -, rfl⟩ | ⟨_, -, _, _, _, -, rfl, -⟩ :=
    recover_cases step
  · exact ids
  · exact ids.issueCode fresh
  · rwa [IdsDistinct, map_attempt_ids]
  · rwa [IdsDistinct, map_consume_ids]

theorem users_step (step : recover platform t event = some t') : t'.users = t.users := by
  obtain rfl | ⟨_, _, _, -, rfl⟩ | ⟨_, -, rfl⟩ | ⟨_, -, _, _, _, -, rfl, -⟩ := recover_cases step
  all_goals rfl

theorem findCredentialUser_step (step : recover platform t event = some t') (email : String) :
    findCredentialUser t' email = findCredentialUser t email := by
  obtain rfl | ⟨_, _, _, -, rfl⟩ | ⟨_, -, rfl⟩ | ⟨_, -, _, _, _, -, rfl, -⟩ := recover_cases step
  · rfl
  · rfl
  · rfl
  · exact findCredentialUser_redeemCode

/-- A call about another email leaves the codes of this one alone. -/
theorem codesFor_step_of_ne (ids : IdsDistinct t) (step : recover platform t event = some t')
    (foreign : event.email platform ≠ email) : codesFor t' email = codesFor t email := by
  obtain rfl | ⟨_, _, _, -, rfl⟩ | ⟨row, mem, rfl⟩ | ⟨row, mem, _, _, _, -, rfl, -⟩ :=
    recover_cases step
  · rfl
  · exact codesFor_issueCode_of_ne foreign ..
  · rw [codesFor_countAttempt]
    exact codesFor_update_of_ne ids mem foreign fun _ => attempt_of_ne
  · rw [codesFor_redeemCode]
    exact codesFor_update_of_ne ids mem foreign fun _ => consume_of_ne

theorem observe_of_ne (foreign : event.email platform ≠ email) :
    observe platform email last event = last := by
  cases event with
  | request dto now chance answer => exact if_neg fun issues => foreign issues.1
  | reset dto now chance answer => exact if_neg foreign

theorem Tracks.request {dto : ForgotPasswordDto} {chance : RequestChance}
    (tracks : Tracks platform t (normalizeEmail platform dto.email) last)
    (account : findCredentialUser t (normalizeEmail platform dto.email) = some user)
    (step : recover platform t (.request dto now chance answer) = some t') :
    Tracks platform t' (normalizeEmail platform dto.email)
      (observe platform (normalizeEmail platform dto.email) last
        (.request dto now chance answer)) := by
  obtain ⟨rfl, rfl⟩ := recover_request step
  obtain ⟨silent, same⟩ | ⟨issued, allowed, -, tables⟩ := request_cases chance account
  · rw [same, observe, if_neg fun issues => silent issues.2]
    exact tracks
  · rw [tables, observe, if_pos ⟨rfl, issued⟩]
    refine ⟨newCode (normalizeEmail platform dto.email) now _ chance.id, ?_, ⟨chance.salt, rfl⟩,
      rfl, rfl, rfl, rfl⟩
    rw [codesFor_issueCode]
    apply Newest.append_singleton
    intro other mem
    obtain ⟨row, earlier, rfl⟩ := List.mem_map.mp mem
    rw [recentRequests_eq] at allowed
    have spacing := spacing_of_throttleFor allowed (List.mem_map_of_mem earlier)
    rw [retire_createdAt]
    simp only [newCode]
    omega

theorem Shows.step {dto : ResetPasswordDto} {chance : ResetChance}
    (shows_ : Shows platform c row)
    (newest : Newest (codesFor t (normalizeEmail platform dto.email)) row)
    (account : findCredentialUser t (normalizeEmail platform dto.email) = some user)
    (step : reset platform t dto now chance = (answer, t')) :
    Tracks platform t' (normalizeEmail platform dto.email) (some (c.after dto now answer)) := by
  rw [reset_of_shows chance newest shows_ account] at step
  split at step
  · next ineligible =>
    cases step
    refine ⟨row, newest, shows_.value, shows_.createdAt, shows_.expiresAt, ?_, ?_⟩
    · simp only [IssuedCode.after, ineligible, false_and, if_false]
      exact shows_.attempts
    · rw [IssuedCode.after, Except.isOk, Except.toBool, Bool.or_false]
      exact shows_.consumed
  · next eligible =>
    split at step
    · next wrong =>
      cases step
      refine ⟨attempt row.id row, ?_, ?_⟩
      · rw [codesFor_countAttempt]
        exact newest.map fun _ => attempt_createdAt
      · rw [attempt, if_pos rfl]
        refine ⟨shows_.value, shows_.createdAt, shows_.expiresAt, ?_, ?_⟩
        · rw [IssuedCode.after, if_pos ⟨not_not.mp eligible, wrong⟩, shows_.attempts]
        · rw [IssuedCode.after, Except.isOk, Except.toBool, Bool.or_false]
          exact shows_.consumed
    · next right =>
      cases step
      refine ⟨consume row.id now row, ?_, ?_⟩
      · rw [codesFor_redeemCode]
        exact newest.map fun _ => consume_createdAt
      · rw [consume, if_pos rfl]
        refine ⟨shows_.value, shows_.createdAt, shows_.expiresAt, ?_, ?_⟩
        · rw [IssuedCode.after, if_neg fun guess => right guess.2]
          exact shows_.attempts
        · rw [IssuedCode.after, Except.isOk, Except.toBool, Bool.or_true]
          rfl

/-- The tables keep agreeing with the observer. -/
theorem Tracks.step (tracks : Tracks platform t email last) (ids : IdsDistinct t)
    (account : findCredentialUser t email = some user)
    (step : recover platform t event = some t') :
    Tracks platform t' email (observe platform email last event) := by
  by_cases own : event.email platform = email
  · subst own
    cases event with
    | request dto now chance answer => exact tracks.request account step
    | reset dto now chance answer =>
      have step := recover_reset step
      cases last with
      | none =>
        cases (reset_of_missing chance (selectPending_of_nil tracks _)).symm.trans step
        simp only [observe, RecoveryEvent.email, Option.map_none, ite_self]
        exact tracks
      | some c =>
        obtain ⟨row, newest, shows_⟩ := tracks
        simp only [observe, RecoveryEvent.email, if_true, Option.map_some]
        exact shows_.step newest account step
  · rw [observe_of_ne own]
    cases last with
    | none => exact (codesFor_step_of_ne ids step own).trans tracks
    | some c =>
      obtain ⟨row, newest, shows_⟩ := tracks
      exact ⟨row, (codesFor_step_of_ne ids step own).symm ▸ newest, shows_⟩

/-! ## Passwords -/

theorem credentials_redeemCode (t : Tables) (id : String) (now : ℤ) (userId hash : String) :
    credentials (redeemCode t id now userId hash) userId =
      (credentials t userId).map fun _ => some hash := by
  simp only [credentials, redeemCode, List.filter_map, Function.comp_def, setPassword_userId,
    setPassword_providerId, List.map_map]
  apply List.map_congr_left
  intro account mem
  rw [setPassword, if_pos (List.mem_filter.mp mem).2]

theorem credentials_redeemCode_of_ne (foreign : userId' ≠ userId) (t : Tables) (id : String)
    (now : ℤ) (hash : String) :
    credentials (redeemCode t id now userId' hash) userId = credentials t userId := by
  simp only [credentials, redeemCode, List.filter_map, Function.comp_def, setPassword_userId,
    setPassword_providerId, List.map_map]
  apply List.map_congr_left
  intro account mem
  have owner := (List.mem_filter.mp mem).2
  simp only [Bool.and_eq_true, decide_eq_true_eq] at owner
  have : ¬ (decide (account.userId = userId') && decide (account.providerId = credentialProvider)) =
      true := by
    simp only [owner.1, Ne.symm foreign, decide_false, Bool.false_and, Bool.false_eq_true,
      not_false_eq_true]
  rw [setPassword, if_neg this]

/-- The primary key of `user`, for two accounts found by their emails. -/
theorem id_ne_of_email_ne (keys : (t.users.map (·.id)).Nodup)
    (account : findCredentialUser t email = some user)
    (account' : findCredentialUser t email' = some user') (foreign : email' ≠ email) :
    user'.id ≠ user.id := by
  intro same
  have equal := List.inj_on_of_nodup_map keys (List.mem_of_find?_eq_some account')
    (List.mem_of_find?_eq_some account) same
  have found := List.find?_some account
  have found' := List.find?_some account'
  simp only [Bool.and_eq_true, decide_eq_true_eq] at found found'
  exact foreign (by rw [← found'.1, ← found.1, equal])

/-- A call that does not redeem a code of the email leaves its password alone. -/
theorem credentials_step (keys : (t.users.map (·.id)).Nodup)
    (account : findCredentialUser t email = some user)
    (step : recover platform t event = some t') (keeps : ¬ event.Redeems platform email) :
    credentials t' user.id = credentials t user.id := by
  obtain rfl | ⟨_, _, _, -, rfl⟩ | ⟨_, -, rfl⟩ | ⟨_, -, _, _, _, account', rfl, redeems⟩ :=
    recover_cases step
  · rfl
  · rfl
  · rfl
  · refine credentials_redeemCode_of_ne (id_ne_of_email_ne keys account account' ?_) ..
    intro own
    rw [own] at redeems
    exact keeps redeems

/-! ## Runs -/

/-- What every run keeps true of an email with an account. -/
structure RecoveryInv (platform : Platform) (email : String) (user : UserRow)
    (tr : List RecoveryEvent) (t : Tables) : Prop where
  tracks : Tracks platform t email (lastIssued platform email tr)
  ids : IdsDistinct t
  keys : (t.users.map (·.id)).Nodup
  account : findCredentialUser t email = some user

theorem lastIssued_snoc (tr : List RecoveryEvent) (event : RecoveryEvent) :
    lastIssued platform email (tr ++ [event]) =
      observe platform email (lastIssued platform email tr) event := by
  simp only [lastIssued, List.foldl_append, List.foldl_cons, List.foldl_nil]

theorem RecoveryInv.step (inv : RecoveryInv platform email user tr t)
    (step : recover platform t event = some t') :
    RecoveryInv platform email user (tr ++ [event]) t' where
  tracks := by
    rw [lastIssued_snoc]
    exact inv.tracks.step inv.ids inv.account step
  ids := ids_step inv.ids step
  keys := by
    rw [users_step step]
    exact inv.keys
  account := by
    rw [findCredentialUser_step step]
    exact inv.account

theorem RecoveryInv.run (empty : t₀.verifications = []) (keys : (t₀.users.map (·.id)).Nodup)
    (account : findCredentialUser t₀ email = some user)
    (run : Run (Enabled (recover platform)) t₀ tr t) : RecoveryInv platform email user tr t := by
  refine run.invariantTrace ⟨?_, ?_, keys, account⟩ fun _ inv step => inv.step step
  · simp only [lastIssued, List.foldl_nil, Tracks, codesFor, empty, List.filter_nil]
  · simp only [IdsDistinct, empty, List.map_nil, List.nodup_nil]

/-- A reset succeeds exactly when it presents the last code, and that code is eligible. -/
theorem RecoveryInv.accepts (inv : RecoveryInv platform email user tr t)
    (step : recover platform t (.reset dto now chance answer) = some t')
    (own : normalizeEmail platform dto.email = email) :
    answer.isOk ↔ ∃ c, lastIssued platform email tr = some c ∧ c.code = dto.code ∧
      c.Eligible now := by
  subst own
  have tracks := inv.tracks
  have step := recover_reset step
  cases last : lastIssued platform (normalizeEmail platform dto.email) tr with
  | none =>
    rw [last] at tracks
    cases (reset_of_missing chance (selectPending_of_nil tracks _)).symm.trans step
    simp [Except.isOk, Except.toBool]
  | some c =>
    rw [last] at tracks
    obtain ⟨row, newest, shows_⟩ := tracks
    rw [reset_of_shows chance newest shows_ inv.account] at step
    simp only [Option.some.injEq, exists_eq_left']
    split at step
    · next ineligible =>
      cases step
      simp [Except.isOk, Except.toBool, ineligible]
    · next eligible =>
      split at step
      · next wrong =>
        cases step
        simp [Except.isOk, Except.toBool, wrong]
      · next right =>
        cases step
        simp [Except.isOk, Except.toBool, not_not.mp right, not_not.mp eligible]

/-- A successful reset replaces the password. -/
theorem RecoveryInv.replaces (inv : RecoveryInv platform email user tr t)
    (step : recover platform t (.reset dto now chance answer) = some t')
    (own : normalizeEmail platform dto.email = email) (success : answer.isOk) :
    credentials t' user.id = (credentials t user.id).map fun _ =>
      some (platform.passwords.hash chance.salt dto.password) := by
  subst own
  have step := recover_reset step
  obtain ⟨_, refused⟩ | ⟨_, row, -, counted⟩ | ⟨row, -, user', account, redeemed⟩ :=
    reset_tables dto chance
  · cases refused.symm.trans step
    cases success
  · cases counted.symm.trans step
    cases success
  · cases redeemed.symm.trans step
    cases inv.account.symm.trans account
    exact credentials_redeemCode ..

/-- A redeemed code stays redeemed until another one is issued. -/
theorem redeemed_of_not_issues (redeemed : last.any (·.redeemed))
    (silent : ¬ event.Issues platform email) :
    (observe platform email last event).any (·.redeemed) := by
  cases event with
  | request dto now chance answer =>
    simp only [RecoveryEvent.Issues] at silent
    rw [observe, if_neg silent]
    exact redeemed
  | reset dto now chance answer =>
    rw [observe]
    split
    · cases last with
      | none => exact redeemed
      | some c =>
        simp only [Option.any_some, Option.map_some, IssuedCode.after] at redeemed ⊢
        rw [redeemed, Bool.true_or]
    · exact redeemed

theorem RecoveryInv.dead (inv : RecoveryInv platform email user tr t)
    (redeemed : (lastIssued platform email tr).any (·.redeemed))
    (run : Run (Enabled (recover platform)) t later t')
    (silent : ∀ event ∈ later, ¬ event.Issues platform email)
    (step : recover platform t' event = some t'') : ¬ event.Redeems platform email := by
  have kept : RecoveryInv platform email user (tr ++ later) t' ∧
      (lastIssued platform email (tr ++ later)).any (·.redeemed) := by
    clear step
    induction run with
    | nil =>
      rw [List.append_nil]
      exact ⟨inv, redeemed⟩
    | snoc _ step ih =>
      simp only [List.forall_mem_append, List.forall_mem_singleton] at silent
      obtain ⟨inv, redeemed⟩ := ih silent.1
      rw [← List.append_assoc, lastIssued_snoc]
      exact ⟨inv.step step, redeemed_of_not_issues redeemed silent.2⟩
  cases event with
  | request dto now chance answer => exact id
  | reset dto now chance answer =>
    rintro ⟨own, success⟩
    obtain ⟨c, last, -, eligible⟩ := (kept.1.accepts step own).mp success
    have := kept.2
    rw [last, Option.any_some, eligible.2.1] at this
    cases this

/-- A reset at `now` with a code succeeds exactly when the code is the last one issued to the email
and eligible. Success replaces the password and leaves the code dead until another one is issued,
and every other call leaves the password alone. -/
theorem reset_accepts_exactly (empty : t₀.verifications = [])
    (keys : (t₀.users.map (·.id)).Nodup) (account : findCredentialUser t₀ email = some user)
    (run : Run (Enabled (recover platform)) t₀ tr t)
    (step : recover platform t event = some t') :
    (∀ dto now chance answer, event = .reset dto now chance answer →
      normalizeEmail platform dto.email = email →
        (answer.isOk ↔ ∃ c, lastIssued platform email tr = some c ∧ c.code = dto.code ∧
          c.Eligible now) ∧
        (answer.isOk → credentials t' user.id = (credentials t user.id).map fun _ =>
          some (platform.passwords.hash chance.salt dto.password))) ∧
    (event.Redeems platform email → ∀ later t₁ next t₂,
      Run (Enabled (recover platform)) t' later t₁ →
      (∀ event ∈ later, ¬ event.Issues platform email) →
      recover platform t₁ next = some t₂ → ¬ next.Redeems platform email) ∧
    (¬ event.Redeems platform email → credentials t' user.id = credentials t user.id) := by
  have inv := RecoveryInv.run empty keys account run
  refine ⟨?_, ?_, credentials_step inv.keys inv.account step⟩
  · rintro dto now chance answer rfl own
    exact ⟨inv.accepts step own, inv.replaces step own⟩
  · intro redeems later t₁ next t₂ run silent next_
    refine (inv.step step).dead ?_ run silent next_
    cases event with
    | request dto now chance answer => exact redeems.elim
    | reset dto now chance answer =>
      obtain ⟨own, success⟩ := redeems
      obtain ⟨c, last, -⟩ := (inv.accepts step own).mp success
      rw [lastIssued_snoc, last, observe, if_pos own]
      simp only [Option.map_some, Option.any_some, IssuedCode.after, success, Bool.or_true]

/-- A request, a wrong guess, and the right code. -/
theorem reset_accepts_exactly_secondGuess :
    ∃ tr t t', Run (Enabled (recover plainPlatform)) oneAccount tr t ∧
      recover plainPlatform t (.reset ⟨" Raju@example.com", "000042", "new password"⟩ 2000 {}
        (.ok ⟨"u", "raju@example.com"⟩)) = some t' ∧
      (∃ c, lastIssued plainPlatform "raju@example.com" tr = some c ∧ c.code = "000042" ∧
        c.Eligible 2000) ∧
      credentials t' "u" = (credentials t "u").map fun _ => some "new password" := by
  let tr : List RecoveryEvent :=
    [.request ⟨"raju@example.com"⟩ 0 firstCode (.ok ()),
      .reset ⟨"raju@example.com", "111111", "guess"⟩ 1000 {} (.error wrongCode)]
  have answers : (exec (recover plainPlatform) oneAccount tr).any fun t =>
      (recover plainPlatform t (.reset ⟨" Raju@example.com", "000042", "new password"⟩ 2000 {}
        (.ok ⟨"u", "raju@example.com"⟩))).isSome := by
    decide +kernel
  obtain ⟨t, run, enabled⟩ := exec_any answers
  obtain ⟨t', step⟩ := Option.isSome_iff_exists.mp enabled
  have account : findCredentialUser oneAccount "raju@example.com" =
      some { id := "u", name := "Raju", email := "raju@example.com" } := by decide +kernel
  have exact_ := (reset_accepts_exactly rfl (by decide) account run step).1 _ _ _ _ rfl
    (by decide +kernel)
  exact ⟨tr, t, t', run, step, exact_.1.mp rfl, exact_.2 rfl⟩

end ElectroSync
