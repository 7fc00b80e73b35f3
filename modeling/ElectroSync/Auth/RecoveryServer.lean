import ElectroSync.Auth.PasswordReset
import ElectroSync.Library.Interleaving

/-!
# Concurrent recovery calls

Calls of the two endpoints, statement by statement. Between two statements of a call any other call
may run. A transaction takes effect when it commits, as nobody sees it before; but the `UPDATE` that
retires the live codes of an email looks for them when it starts.
-/

namespace ElectroSync
open Transition Interleaving PasswordResetService

/-- The next statement of a request. -/
inductive RequestPhase
  /-- `findCredentialUser` -/
  | finding
  /-- the query of `assertNotThrottled` -/
  | throttling
  /-- `passwords.hash` -/
  | hashing (code : String)
  /-- the `UPDATE` of the transaction -/
  | retiring (codeHash : String)
  /-- the `INSERT` and the commit -/
  | issuing (codeHash : String) (live : List String)
  /-- `mail.send` -/
  | mailing
  | returned (answer : Except HttpException Unit)
  deriving DecidableEq

/-- The next statement of a reset. -/
inductive ResetPhase
  /-- the query for the newest code -/
  | selecting
  /-- `passwords.verify` -/
  | verifying (pending : VerificationRow)
  /-- the `UPDATE` that counts the attempt -/
  | counting (pending : VerificationRow)
  /-- `findCredentialUser` -/
  | finding (pending : VerificationRow)
  /-- `passwords.hash` -/
  | hashing (pending : VerificationRow) (recipient : UserRow)
  /-- the transaction -/
  | redeeming (pending : VerificationRow) (recipient : UserRow) (passwordHash : String)
  | returned (answer : Except HttpException TokenSubject)
  deriving DecidableEq

/-- A call that has started: what it was given, when, and where it is. -/
inductive RecoveryCall
  | request (dto : ForgotPasswordDto) (now : ℤ) (phase : RequestPhase)
  | reset (dto : ResetPasswordDto) (now : ℤ) (phase : ResetPhase)
  deriving DecidableEq

inductive RecoveryInput
  | request (dto : ForgotPasswordDto) (now : ℤ)
  | reset (dto : ResetPasswordDto) (now : ℤ)
  deriving DecidableEq

/-- What a reset meets beside other calls: its transaction may fail. -/
structure RedeemChance extends ResetChance where
  commits : Bool := true
  deriving DecidableEq

inductive RecoveryChance
  | request (chance : RequestChance)
  | reset (chance : RedeemChance)
  deriving DecidableEq

/-- The tables, and what has happened to the codes so far. -/
structure RecoveryState where
  tables : Tables
  /-- The rows that codes were compared with, and whether they matched. -/
  compared : List (String × Bool) := []
  /-- The rows whose redemption committed. -/
  redeemed : List String := []

def requestNext (platform : Platform) (s : RecoveryState) (dto : ForgotPasswordDto) (now : ℤ)
    (chance : RequestChance) : RequestPhase → Option (RecoveryState × RequestPhase)
  | .finding =>
    match findCredentialUser s.tables (normalizeEmail platform dto.email) with
    | none => some (s, .returned (.ok ()))
    | some _ => some (s, .throttling)
  | .throttling =>
    match throttleFor (recentRequests s.tables (normalizeEmail platform dto.email) now) now with
    | some throttle => some (s, .returned (.error (tooManyRequests throttle)))
    | none => some (s, .hashing (generateCode chance.draw))
  | .hashing code => some (s, .retiring (platform.passwords.hash chance.salt code))
  | .retiring codeHash =>
    some (s, .issuing codeHash (liveCodes s.tables (normalizeEmail platform dto.email)))
  | .issuing codeHash live =>
    if !chance.commits || s.tables.verifications.any (·.id = chance.id) then
      some (s, .returned (.error internalError))
    else
      let issued :=
        issueCode s.tables (normalizeEmail platform dto.email) now codeHash chance.id live
      some ({ s with tables := issued }, .mailing)
  | .mailing => some (s, .returned (if chance.delivers then .ok () else .error mailUnavailable))
  | .returned _ => none

def resetNext (platform : Platform) (s : RecoveryState) (dto : ResetPasswordDto) (now : ℤ)
    (chance : RedeemChance) : ResetPhase → Option (RecoveryState × ResetPhase)
  | .selecting =>
    let pending := selectPending s.tables (normalizeEmail platform dto.email) chance.tie
    match pending, rejectionFor (pending.map (·.record)) now with
    | some pending, none => some (s, .verifying pending)
    | _, rejection =>
      some (s, .returned (.error (invalidCode (.rejected (rejection.getD .missing)))))
  | .verifying pending =>
    let matches_ := platform.passwords.verify pending.value dto.code
    some ({ s with compared := s.compared ++ [(pending.id, matches_)] },
      if matches_ then .finding pending else .counting pending)
  | .counting pending =>
    some ({ s with tables := countAttempt s.tables pending.id },
      .returned (.error (invalidCode .mismatch)))
  | .finding pending =>
    match findCredentialUser s.tables (normalizeEmail platform dto.email) with
    | none => some (s, .returned (.error (invalidCode .accountGone)))
    | some recipient => some (s, .hashing pending recipient)
  | .hashing pending recipient =>
    some (s, .redeeming pending recipient (platform.passwords.hash chance.salt dto.password))
  | .redeeming pending recipient passwordHash =>
    if !chance.commits then some (s, .returned (.error internalError))
    else
      some ({ s with
        tables := redeemCode s.tables pending.id now recipient.id passwordHash
        redeemed := s.redeemed ++ [pending.id] },
        .returned (.ok ⟨recipient.id, recipient.email⟩))
  | .returned _ => none

def recoveryServer (platform : Platform) :
    Program RecoveryState RecoveryInput RecoveryCall RecoveryChance where
  init
    | .request dto now => .request dto now .finding
    | .reset dto now => .reset dto now .selecting
  next s
    | .request dto now phase, .request chance =>
      (requestNext platform s dto now chance phase).map fun after =>
        (after.1, .request dto now after.2)
    | .reset dto now phase, .reset chance =>
      (resetNext platform s dto now chance phase).map fun after =>
        (after.1, .reset dto now after.2)
    | _, _ => none

abbrev RecoverySystem := System RecoveryState RecoveryCall

abbrev RecoveryMove := Move RecoveryInput RecoveryChance

/-! ## What a statement does -/

/-- What the statements of the calls do, one constructor for each that matters to a code. -/
inductive Statement (platform : Platform) (s : RecoveryState) :
    RecoveryChance → RecoveryCall → RecoveryState → RecoveryCall → Prop
  | request : Statement platform s (.request chance) (.request dto now before) s
      (.request dto now after)
  | issue : chance.commits = true → (∀ row ∈ s.tables.verifications, row.id ≠ chance.id) →
      Statement platform s (.request chance) (.request dto now (.issuing codeHash live))
        { s with
          tables :=
            issueCode s.tables (normalizeEmail platform dto.email) now codeHash chance.id live }
        (.request dto now .mailing)
  | refuse : Statement platform s (.reset chance) (.reset dto now .selecting) s
      (.reset dto now (.returned answer))
  | select (dto : ResetPasswordDto) (pending : VerificationRow) :
      selectPending s.tables (normalizeEmail platform dto.email) chance.tie = some pending →
      Redeemable pending now →
      Statement platform s (.reset chance) (.reset dto now .selecting) s
        (.reset dto now (.verifying pending))
  | mismatch (dto : ResetPasswordDto) (pending : VerificationRow) :
      platform.passwords.verify pending.value dto.code = false →
      Statement platform s (.reset chance) (.reset dto now (.verifying pending))
        { s with compared := s.compared ++ [(pending.id, false)] }
        (.reset dto now (.counting pending))
  | match_ (dto : ResetPasswordDto) (pending : VerificationRow) :
      platform.passwords.verify pending.value dto.code = true →
      Statement platform s (.reset chance) (.reset dto now (.verifying pending))
        { s with compared := s.compared ++ [(pending.id, true)] }
        (.reset dto now (.finding pending))
  | count (pending : VerificationRow) :
      Statement platform s (.reset chance) (.reset dto now (.counting pending))
        { s with tables := countAttempt s.tables pending.id } (.reset dto now (.returned answer))
  | leave : Statement platform s (.reset chance) (.reset dto now (.finding pending)) s
      (.reset dto now (.returned answer))
  | find : Statement platform s (.reset chance) (.reset dto now (.finding pending)) s
      (.reset dto now (.hashing pending recipient))
  | hash : Statement platform s (.reset chance) (.reset dto now (.hashing pending recipient)) s
      (.reset dto now (.redeeming pending recipient passwordHash))
  | rollBack : Statement platform s (.reset chance)
      (.reset dto now (.redeeming pending recipient passwordHash)) s
      (.reset dto now (.returned answer))
  | redeem (pending : VerificationRow) : chance.commits = true →
      Statement platform s (.reset chance)
        (.reset dto now (.redeeming pending recipient passwordHash))
        { s with
          tables := redeemCode s.tables pending.id now recipient.id passwordHash
          redeemed := s.redeemed ++ [pending.id] }
        (.reset dto now (.returned answer))

variable {platform : Platform} {s s' : RecoveryState} {call call' : RecoveryCall}

theorem requestNext_statement
    (next : requestNext platform s dto now chance phase = some (s', phase')) :
    Statement platform s (.request chance) (.request dto now phase) s'
      (.request dto now phase') := by
  cases phase with
  | finding =>
    simp only [requestNext] at next
    split at next <;> cases next <;> exact .request
  | throttling =>
    simp only [requestNext] at next
    split at next <;> cases next <;> exact .request
  | hashing code =>
    cases next
    exact .request
  | retiring codeHash =>
    cases next
    exact .request
  | issuing codeHash live =>
    simp only [requestNext] at next
    split at next
    · cases next
      exact .request
    · next committed =>
      cases next
      simp only [Bool.or_eq_true, not_or, Bool.not_eq_true', Bool.not_eq_false, List.any_eq_true,
        decide_eq_true_eq, not_exists, not_and] at committed
      exact .issue committed.1 committed.2
  | mailing =>
    cases next
    exact .request
  | returned answer => cases next

theorem resetNext_statement
    (next : resetNext platform s dto now chance phase = some (s', phase')) :
    Statement platform s (.reset chance) (.reset dto now phase) s' (.reset dto now phase') := by
  cases phase with
  | selecting =>
    simp only [resetNext] at next
    split at next
    · next pending found allowed =>
      cases next
      rw [found] at allowed
      exact .select _ _ found (rejectionFor_record.mp allowed)
    · cases next
      exact .refuse
  | verifying pending =>
    simp only [resetNext] at next
    cases verify : platform.passwords.verify pending.value dto.code with
    | false =>
      rw [verify] at next
      cases next
      exact .mismatch _ _ verify
    | true =>
      rw [verify] at next
      cases next
      exact .match_ _ _ verify
  | counting pending =>
    cases next
    exact .count _
  | finding pending =>
    simp only [resetNext] at next
    split at next
    · cases next
      exact .leave
    · cases next
      exact .find
  | hashing pending recipient =>
    cases next
    exact .hash
  | redeeming pending recipient passwordHash =>
    simp only [resetNext] at next
    split at next
    · cases next
      exact .rollBack
    · next committed =>
      cases next
      exact .redeem _ (by simpa using committed)
  | returned answer => cases next

theorem next_statement {chance : RecoveryChance}
    (next : (recoveryServer platform).next s call chance = some (s', call')) :
    Statement platform s chance call s' call' := by
  cases call with
  | request dto now phase =>
    cases chance with
    | reset chance => cases next
    | request chance =>
      obtain ⟨⟨s', phase'⟩, moved, after⟩ := Option.map_eq_some_iff.mp next
      cases after
      exact requestNext_statement moved
  | reset dto now phase =>
    cases chance with
    | request chance => cases next
    | reset chance =>
      obtain ⟨⟨s', phase'⟩, moved, after⟩ := Option.map_eq_some_iff.mp next
      cases after
      exact resetNext_statement moved

/-- A row with this id is in the table. -/
def HasRow (t : Tables) (id : String) : Prop := id ∈ t.verifications.map (·.id)

theorem hasRow_of_mem {t : Tables} {row : VerificationRow} (mem : row ∈ t.verifications) :
    HasRow t row.id := List.mem_map_of_mem mem

/-- No statement deletes a row. -/
theorem Statement.hasRow {id : String} (statement : Statement platform s chance call s' call')
    (before : HasRow s.tables id) : HasRow s'.tables id := by
  cases statement with
  | issue =>
    simp only [HasRow, issueCode, List.map_append, List.map_map, Function.comp_def, retire_id]
    exact List.mem_append_left _ before
  | count => rwa [HasRow, map_attempt_ids]
  | redeem => rwa [HasRow, map_consume_ids]
  | _ => exact before

theorem Statement.ids (statement : Statement platform s chance call s' call')
    (ids : IdsDistinct s.tables) : IdsDistinct s'.tables := by
  cases statement with
  | issue _ fresh => exact ids.issueCode fresh
  | count => rwa [IdsDistinct, map_attempt_ids]
  | redeem => rwa [IdsDistinct, map_consume_ids]
  | _ => exact ids

/-- The row that a call works on. -/
def RecoveryCall.pending : RecoveryCall → Option VerificationRow
  | reset _ _ (.verifying pending) | reset _ _ (.counting pending) | reset _ _ (.finding pending)
  | reset _ _ (.hashing pending _) | reset _ _ (.redeeming pending _ _) => some pending
  | _ => none

/-- The row that a call works on is in the table. -/
def PendingExists (s : RecoveryState) (call : RecoveryCall) : Prop :=
  ∀ pending ∈ call.pending, HasRow s.tables pending.id

theorem Statement.pending (statement : Statement platform s chance call s' call')
    (before : PendingExists s call) : PendingExists s' call' := by
  intro pending mem
  apply statement.hasRow
  cases statement with
  | select _ _ found _ =>
    cases mem
    exact hasRow_of_mem (mem_codesFor.mp (selectPending_mem found).1).1
  | mismatch => exact before pending mem
  | match_ => exact before pending mem
  | find => exact before pending mem
  | hash => exact before pending mem
  | _ => cases mem

theorem PendingExists.step {i : ℕ} {s : RecoverySystem} (pending : Everywhere PendingExists s)
    (here : s.procs[i]? = some call)
    (statement : Statement platform s.shared chance call s' call') :
    Everywhere PendingExists ⟨s', s.procs.set i call'⟩ := by
  refine pending.set (statement.pending (pending i call here)) ?_
  intro j other _ _ before row mem
  exact statement.hasRow (before row mem)

/-! ## A call alone -/

theorem request_next (moved : requestNext platform s dto now chance phase = some (s', phase')) :
    (recoveryServer platform).next s (.request dto now phase) (.request chance) =
      some (s', .request dto now phase') := by
  simp only [recoveryServer, moved, Option.map_some]

theorem reset_next (moved : resetNext platform s dto now chance phase = some (s', phase')) :
    (recoveryServer platform).next s (.reset dto now phase) (.reset chance) =
      some (s', .reset dto now phase') := by
  simp only [recoveryServer, moved, Option.map_some]

/-- The statements of a request, one after the other, are `request`. -/
theorem request_solo (platform : Platform) (s : RecoveryState) (dto : ForgotPasswordDto) (now : ℤ)
    (chance : RequestChance) :
    ∃ n, solo (recoveryServer platform) s (.request dto now .finding)
        (List.replicate n (.request chance)) =
      some ({ s with tables := (request platform s.tables dto now chance).tables },
        .request dto now (.returned (request platform s.tables dto now chance).answer)) := by
  cases account : findCredentialUser s.tables (normalizeEmail platform dto.email) with
  | none =>
    refine ⟨1, ?_⟩
    rw [List.replicate_one, solo_cons (request_next (by rw [requestNext, account])), solo_nil]
    simp only [request, account]
  | some user =>
    have finding : requestNext platform s dto now chance .finding = some (s, .throttling) := by
      rw [requestNext, account]
    cases throttle : throttleFor (recentRequests s.tables (normalizeEmail platform dto.email) now)
      now with
    | some reason =>
      refine ⟨2, ?_⟩
      simp only [List.replicate_succ, List.replicate_zero]
      rw [solo_cons (request_next finding),
        solo_cons (request_next (by rw [requestNext, throttle])), solo_nil]
      simp only [request, account, throttle]
    | none =>
      have throttling : requestNext platform s dto now chance .throttling =
          some (s, .hashing (generateCode chance.draw)) := by
        rw [requestNext, throttle]
      by_cases fails : !chance.commits || s.tables.verifications.any (·.id = chance.id)
      · refine ⟨5, ?_⟩
        simp only [List.replicate_succ, List.replicate_zero]
        rw [solo_cons (request_next finding), solo_cons (request_next throttling),
          solo_cons (request_next rfl), solo_cons (request_next rfl),
          solo_cons (request_next (by rw [requestNext, if_pos fails])), solo_nil]
        simp only [request, account, throttle, if_pos fails]
      · refine ⟨6, ?_⟩
        simp only [List.replicate_succ, List.replicate_zero]
        rw [solo_cons (request_next finding), solo_cons (request_next throttling),
          solo_cons (request_next rfl), solo_cons (request_next rfl),
          solo_cons (request_next (by rw [requestNext, if_neg fails])),
          solo_cons (request_next rfl), solo_nil]
        simp only [request, account, throttle, if_neg fails]

theorem selecting_of_refused
    (refused : ∀ row, selectPending s.tables (normalizeEmail platform dto.email) chance.tie =
      some row → ¬ Redeemable row now) :
    ∃ reason, resetNext platform s dto now chance .selecting =
      some (s, .returned (.error (invalidCode reason))) := by
  simp only [resetNext]
  split
  · next row found allowed =>
    rw [found] at allowed
    exact absurd (rejectionFor_record.mp allowed) (refused row found)
  · exact ⟨_, rfl⟩

theorem selecting_of_redeemable
    (found : selectPending s.tables (normalizeEmail platform dto.email) chance.tie = some row)
    (redeemable : Redeemable row now) :
    resetNext platform s dto now chance .selecting = some (s, .verifying row) := by
  simp only [resetNext, found, Option.map_some, rejectionFor_record.mpr redeemable]

theorem verifying_next (platform : Platform) (s : RecoveryState) (dto : ResetPasswordDto) (now : ℤ)
    (chance : RedeemChance) (verify : platform.passwords.verify row.value dto.code = right) :
    resetNext platform s dto now chance (.verifying row) =
      some ({ s with compared := s.compared ++ [(row.id, right)] },
        if right then .finding row else .counting row) := by
  simp only [resetNext, verify]

theorem refused_solo
    (refused : ∀ row, selectPending s.tables (normalizeEmail platform dto.email) chance.tie =
      some row → ¬ Redeemable row now) :
    solo (recoveryServer platform) s (.reset dto now .selecting) [.reset chance] =
      some (s, .reset dto now (.returned (.error wrongCode))) := by
  obtain ⟨reason, selecting⟩ := selecting_of_refused refused
  rw [solo_cons (reset_next selecting), solo_nil]
  rfl

theorem mismatch_solo
    (found : selectPending s.tables (normalizeEmail platform dto.email) chance.tie = some row)
    (redeemable : Redeemable row now)
    (wrong : platform.passwords.verify row.value dto.code = false) :
    solo (recoveryServer platform) s (.reset dto now .selecting)
        (List.replicate 3 (.reset chance)) =
      some ({ s with
        tables := countAttempt s.tables row.id
        compared := s.compared ++ [(row.id, false)] },
        .reset dto now (.returned (.error wrongCode))) := by
  have selecting := selecting_of_redeemable found redeemable
  have verifying := verifying_next platform s dto now chance wrong
  simp only [List.replicate_succ, List.replicate_zero]
  rw [solo_cons (reset_next selecting), solo_cons (reset_next verifying),
    solo_cons (reset_next rfl), solo_nil]
  rfl

theorem accountGone_solo
    (found : selectPending s.tables (normalizeEmail platform dto.email) chance.tie = some row)
    (redeemable : Redeemable row now)
    (right : platform.passwords.verify row.value dto.code = true)
    (account : findCredentialUser s.tables (normalizeEmail platform dto.email) = none) :
    solo (recoveryServer platform) s (.reset dto now .selecting)
        (List.replicate 3 (.reset chance)) =
      some ({ s with compared := s.compared ++ [(row.id, true)] },
        .reset dto now (.returned (.error wrongCode))) := by
  let after : RecoveryState := { s with compared := s.compared ++ [(row.id, true)] }
  have selecting := selecting_of_redeemable found redeemable
  have verifying : resetNext platform s dto now chance (.verifying row) =
      some (after, .finding row) := verifying_next platform s dto now chance right
  have finding : resetNext platform after dto now chance (.finding row) =
      some (after, .returned (.error wrongCode)) := by
    simp only [resetNext, after, account]
    rfl
  simp only [List.replicate_succ, List.replicate_zero]
  rw [solo_cons (reset_next selecting), solo_cons (reset_next verifying),
    solo_cons (reset_next finding), solo_nil]

theorem redeem_solo
    (found : selectPending s.tables (normalizeEmail platform dto.email) chance.tie = some row)
    (redeemable : Redeemable row now)
    (right : platform.passwords.verify row.value dto.code = true)
    (account : findCredentialUser s.tables (normalizeEmail platform dto.email) = some user)
    (redeeming : resetNext platform { s with compared := s.compared ++ [(row.id, true)] } dto now
      chance (.redeeming row user (platform.passwords.hash chance.salt dto.password)) =
        some (s', phase')) :
    solo (recoveryServer platform) s (.reset dto now .selecting)
        (List.replicate 5 (.reset chance)) = some (s', .reset dto now phase') := by
  let after : RecoveryState := { s with compared := s.compared ++ [(row.id, true)] }
  have selecting := selecting_of_redeemable found redeemable
  have verifying : resetNext platform s dto now chance (.verifying row) =
      some (after, .finding row) := verifying_next platform s dto now chance right
  have finding : resetNext platform after dto now chance (.finding row) =
      some (after, .hashing row user) := by
    simp only [resetNext, after, account]
  simp only [List.replicate_succ, List.replicate_zero]
  rw [solo_cons (reset_next selecting), solo_cons (reset_next verifying),
    solo_cons (reset_next finding), solo_cons (reset_next rfl), solo_cons (reset_next redeeming),
    solo_nil]

/-- `reset`, with a transaction that may fail. -/
def resetOrRollBack (platform : Platform) (t : Tables) (dto : ResetPasswordDto) (now : ℤ)
    (chance : RedeemChance) : Except HttpException TokenSubject × Tables :=
  match reset platform t dto now chance.toResetChance with
  | (.ok subject, after) =>
    if !chance.commits then (.error internalError, t) else (.ok subject, after)
  | refused => refused

/-- The statements of a reset, one after the other, are `reset`. -/
theorem reset_solo (platform : Platform) (s : RecoveryState) (dto : ResetPasswordDto) (now : ℤ)
    (chance : RedeemChance) :
    ∃ n s', solo (recoveryServer platform) s (.reset dto now .selecting)
        (List.replicate n (.reset chance)) =
      some (s', .reset dto now (.returned (resetOrRollBack platform s.tables dto now chance).1)) ∧
      s'.tables = (resetOrRollBack platform s.tables dto now chance).2 := by
  rw [resetOrRollBack]
  cases pending : selectPending s.tables (normalizeEmail platform dto.email) chance.tie with
  | none =>
    rw [reset_of_missing chance.toResetChance pending]
    refine ⟨1, s, refused_solo ?_, rfl⟩
    intro row found
    rw [pending] at found
    cases found
  | some row =>
    rw [reset_of_pending chance.toResetChance pending]
    by_cases redeemable : Redeemable row now
    · rw [if_neg (not_not.mpr redeemable)]
      cases verify : platform.passwords.verify row.value dto.code with
      | false => exact ⟨3, _, mismatch_solo pending redeemable verify, rfl⟩
      | true =>
        rw [if_neg (by simp)]
        cases account : findCredentialUser s.tables (normalizeEmail platform dto.email) with
        | none => exact ⟨3, _, accountGone_solo pending redeemable verify account, rfl⟩
        | some user =>
          refine ⟨5, ?_⟩
          by_cases fails : !chance.commits
          · have redeeming := redeem_solo pending redeemable verify account
              (by rw [resetNext, if_pos fails])
            simp only [if_pos fails]
            exact ⟨_, redeeming, rfl⟩
          · have redeeming := redeem_solo pending redeemable verify account
              (by rw [resetNext, if_neg fails])
            simp only [if_neg fails]
            exact ⟨_, redeeming, rfl⟩
    · rw [if_pos redeemable]
      refine ⟨1, s, refused_solo ?_, rfl⟩
      intro row' found
      rw [pending] at found
      cases found
      exact redeemable

/-- A reset during which no other call runs does to the tables what `reset` does, unless its
transaction fails. -/
theorem reset_alone (platform : Platform) (s : RecoverySystem) (dto : ResetPasswordDto) (now : ℤ)
    (chance : RedeemChance) :
    ∃ n s', exec (step (recoveryServer platform)) s
        (.start (.reset dto now) :: List.replicate n (.advance s.procs.length (.reset chance))) =
      some ⟨s', s.procs ++ [.reset dto now
        (.returned (resetOrRollBack platform s.shared.tables dto now chance).1)]⟩ ∧
      s'.tables = (resetOrRollBack platform s.shared.tables dto now chance).2 := by
  obtain ⟨n, s', alone, tables⟩ := reset_solo platform s.shared dto now chance
  refine ⟨n, s', ?_, tables⟩
  rw [← List.map_replicate]
  exact exec_start_solo alone

/-- A request during which no other call runs does to the tables what `request` does. -/
theorem request_alone (platform : Platform) (s : RecoverySystem) (dto : ForgotPasswordDto)
    (now : ℤ) (chance : RequestChance) :
    ∃ n s', exec (step (recoveryServer platform)) s
        (.start (.request dto now) ::
          List.replicate n (.advance s.procs.length (.request chance))) =
      some ⟨s', s.procs ++ [.request dto now
        (.returned (request platform s.shared.tables dto now chance).answer)]⟩ ∧
      s'.tables = (request platform s.shared.tables dto now chance).tables := by
  obtain ⟨n, alone⟩ := request_solo platform s.shared dto now chance
  refine ⟨n, { s.shared with
    tables := (request platform s.shared.tables dto now chance).tables }, ?_, rfl⟩
  rw [← List.map_replicate]
  exact exec_start_solo alone

end ElectroSync
