import ElectroSync.Auth.RecoveryServer
import ElectroSync.Library.RateLimit

/-!
# The send throttle under concurrency

A request reads the recent codes of its email, and inserts its own three statements later. A request
that has passed the check and has not committed is in flight: the cooldown and the quota hold in the
runs in which a request passes only when it would pass with the requests in flight counted in, and
requests sent at the same time break both.
-/

namespace ElectroSync
open Transition Interleaving PasswordResetService RateLimit

variable {platform : Platform} {t : Tables} {email : String}

/-- A code every minute, and five in every hour. -/
abbrev SendsLimited (times : List ℤ) : Prop :=
  Limited 60000 (requestWindowMinutes * 60000) maxRequestsPerWindow times

/-- The time of a request for the email that has passed the throttle and not yet committed. -/
def sending (platform : Platform) (email : String) : RecoveryCall → Option ℤ
  | .request dto now (.hashing _) | .request dto now (.retiring _)
  | .request dto now (.issuing _ _) =>
    if normalizeEmail platform dto.email = email then some now else none
  | _ => none

/-- The codes that are sent, and those that may yet be. -/
def sendTimes (platform : Platform) (email : String) (s : RecoverySystem) : List ℤ :=
  issuedAt s.shared.tables email ++ gather (sending platform email) s

/-- The email and the time of the request that the next statement of a call lets pass. -/
def nextSend (platform : Platform) (s : RecoverySystem) (i : ℕ) : Option (String × ℤ) :=
  match s.procs[i]? with
  | some (.request dto now .throttling) =>
    let email := normalizeEmail platform dto.email
    if throttleFor (recentRequests s.shared.tables email now) now = none then some (email, now)
    else none
  | _ => none

/-- A request passes the throttle only when it would pass with the requests in flight counted in. -/
def SendFits (platform : Platform) (s : RecoverySystem) : RecoveryMove → Prop
  | .advance i (.request _) => ∀ send ∈ nextSend platform s i,
      throttleFor (requestsAt (sendTimes platform send.1 s) send.2) send.2 = none
  | _ => True

instance (platform : Platform) (s : RecoverySystem) (move : RecoveryMove) :
    Decidable (SendFits platform s move) := by
  unfold SendFits
  split <;> infer_instance

/-- A request that the throttle lets pass keeps the codes limited. -/
theorem sendsLimited_cons (limited : SendsLimited times)
    (allowed : throttleFor (requestsAt times now) now = none) : SendsLimited (now :: times) := by
  have room := room_of_throttleFor allowed
  simp only [requestWindowStart] at room
  apply Limited.cons limited _ room
  intro sent mem
  exact spacing_of_throttleFor allowed mem

/-! ## What a statement does to the codes of an email -/

theorem issuedAt_of_map {f : VerificationRow → VerificationRow} {rows : List VerificationRow}
    (kept : ∀ row, (f row).createdAt = row.createdAt) :
    (rows.map f).map (·.createdAt) = rows.map (·.createdAt) := by
  simp only [List.map_map, Function.comp_def, kept]

theorem issuedAt_countAttempt (t : Tables) (id email : String) :
    issuedAt (countAttempt t id) email = issuedAt t email := by
  rw [issuedAt, codesFor_countAttempt, issuedAt_of_map fun _ => attempt_createdAt, issuedAt]

theorem issuedAt_redeemCode (t : Tables) (id : String) (now : ℤ) (userId hash email : String) :
    issuedAt (redeemCode t id now userId hash) email = issuedAt t email := by
  rw [issuedAt, codesFor_redeemCode, issuedAt_of_map fun _ => consume_createdAt, issuedAt]

theorem issuedAt_issueCode (t : Tables) (email' : String) (now : ℤ) (hash id : String)
    (live : List String) (email : String) :
    issuedAt (issueCode t email' now hash id live) email =
      issuedAt t email ++ if email' = email then [now] else [] := by
  by_cases own : email' = email
  · rw [if_pos own, own, issuedAt, codesFor_issueCode, List.map_append,
      issuedAt_of_map fun _ => retire_createdAt]
    rfl
  · rw [if_neg own, issuedAt, codesFor_issueCode_of_ne own, List.append_nil, issuedAt]

section Step
variable {s : RecoverySystem} {shared s' : RecoveryState} {call call' : RecoveryCall} {i : ℕ}
  {chance : RecoveryChance}

/-- A reset sends nothing. -/
theorem issuedAt_reset {dto : ResetPasswordDto} {chance : RedeemChance} {phase : ResetPhase}
    (next : resetNext platform shared dto now chance phase = some (s', phase')) (email : String) :
    issuedAt s'.tables email = issuedAt shared.tables email := by
  have statement := resetNext_statement next
  cases statement with
  | count pending => exact issuedAt_countAttempt ..
  | redeem pending => exact issuedAt_redeemCode ..
  | _ => rfl

/-- A request keeps the times it has, or drops its own when it fails, until it passes the throttle
and adds its own. -/
theorem sends_request {dto : ForgotPasswordDto} {chance : RequestChance} {phase : RequestPhase}
    (next : requestNext platform shared dto now chance phase = some (s', phase'))
    (email : String) :
    (issuedAt s'.tables email ++ (sending platform email (.request dto now phase')).toList).Subperm
        (issuedAt shared.tables email ++
          (sending platform email (.request dto now phase)).toList) ∨
      phase = .throttling ∧ normalizeEmail platform dto.email = email ∧
        throttleFor (recentRequests shared.tables email now) now = none ∧
        s' = shared ∧ sending platform email (.request dto now phase') = some now := by
  cases phase with
  | finding =>
    simp only [requestNext] at next
    split at next <;> cases next <;> exact .inl (.refl _)
  | throttling =>
    simp only [requestNext] at next
    split at next
    · cases next
      exact .inl (.refl _)
    · next allowed =>
      cases next
      by_cases own : normalizeEmail platform dto.email = email
      · rw [own] at allowed
        exact .inr ⟨rfl, own, allowed, rfl, if_pos own⟩
      · simp only [sending, if_neg own]
        exact .inl (.refl _)
  | hashing code =>
    cases next
    exact .inl (.refl _)
  | retiring codeHash =>
    cases next
    exact .inl (.refl _)
  | issuing codeHash live =>
    simp only [requestNext] at next
    split at next
    · cases next
      have gone : sending platform email (.request dto now (.returned (.error internalError))) =
          none := rfl
      rw [gone, Option.toList_none, List.append_nil]
      exact .inl (List.sublist_append_left ..).subperm
    · cases next
      -- the time of the request moves from the request to the table
      rw [issuedAt_issueCode]
      by_cases own : normalizeEmail platform dto.email = email
      · simp only [sending, if_pos own, Option.toList_none, Option.toList_some, List.append_nil]
        exact .inl (.refl _)
      · simp only [sending, if_neg own, Option.toList_none, List.append_nil]
        exact .inl (.refl _)
  | mailing =>
    cases next
    exact .inl (.refl _)
  | returned answer => cases next

theorem sendTimes_set (platform : Platform) (email : String) (s' : RecoveryState)
    (call' : RecoveryCall) (here : s.procs[i]? = some call) :
    (sendTimes platform email ⟨s', s.procs.set i call'⟩ ++
        (sending platform email call).toList).Perm
      (issuedAt s'.tables email ++ (sending platform email call').toList ++
        gather (sending platform email) s) := by
  rw [sendTimes, List.append_assoc, List.append_assoc]
  apply List.Perm.append_left
  exact (gather_set (sending platform email) here).trans List.perm_append_comm

/-- The times shrink when the moving call keeps or drops the ones it has. -/
theorem sendTimes_subperm (here : s.procs[i]? = some call)
    (fewer : (issuedAt s'.tables email ++ (sending platform email call').toList).Subperm
      (issuedAt s.shared.tables email ++ (sending platform email call).toList)) :
    (sendTimes platform email ⟨s', s.procs.set i call'⟩).Subperm
      (sendTimes platform email s) := by
  rw [← List.subperm_append_right (sending platform email call).toList]
  apply (sendTimes_set platform email s' call' here).subperm.trans
  apply ((List.subperm_append_right _).mpr fewer).trans
  rw [sendTimes, List.append_assoc, List.append_assoc]
  exact (List.perm_append_comm.append_left _).subperm

/-- A statement of a call keeps the codes limited when it fits. -/
theorem sendsLimited_advance (limited : SendsLimited (sendTimes platform email s))
    (here : s.procs[i]? = some call)
    (next : (recoveryServer platform).next s.shared call chance = some (s', call'))
    (fits : SendFits platform s (.advance i chance)) :
    SendsLimited (sendTimes platform email ⟨s', s.procs.set i call'⟩) := by
  cases call with
  | request dto now phase =>
    cases chance with
    | reset chance => cases next
    | request chance =>
      obtain ⟨⟨s', phase'⟩, moved, after⟩ := Option.map_eq_some_iff.mp next
      cases after
      obtain fewer | ⟨rfl, own, allowed, rfl, joins⟩ := sends_request moved email
      · exact limited.subperm (sendTimes_subperm here fewer)
      · have passes : nextSend platform s i = some (email, now) := by
          simp only [nextSend, here, own, allowed, if_true]
        have fits : throttleFor (requestsAt (sendTimes platform email s) now) now = none :=
          fits (email, now) passes
        have joined := sendTimes_set platform email s.shared (.request dto now phase') here
        have waited : sending platform email (.request dto now .throttling) = none := rfl
        rw [waited, joins, Option.toList_none, Option.toList_some, List.append_nil,
          List.append_assoc] at joined
        exact (sendsLimited_cons limited fits).perm (joined.trans List.perm_middle).symm
  | reset dto now phase =>
    cases chance with
    | request chance => cases next
    | reset chance =>
      obtain ⟨⟨s', phase'⟩, moved, after⟩ := Option.map_eq_some_iff.mp next
      cases after
      apply limited.subperm
      apply sendTimes_subperm here
      rw [issuedAt_reset moved]
      exact .refl _

end Step

theorem sendsLimited_step {s s' : RecoverySystem} {move : RecoveryMove}
    (limited : SendsLimited (sendTimes platform email s))
    (step : Interleaving.step (recoveryServer platform) s move = some s')
    (fits : SendFits platform s move) : SendsLimited (sendTimes platform email s') := by
  cases move with
  | start input =>
    cases step
    have silent : sending platform email ((recoveryServer platform).init input) = none := by
      cases input <;> rfl
    rwa [sendTimes, gather_start silent]
  | advance i chance =>
    obtain ⟨call, shared, call', here, next, rfl⟩ := advance_cases step
    exact sendsLimited_advance limited here next fits

/-! ## Runs -/

/-- While sends fit, a code of an email comes a minute after every other, and at most five come in
an hour. -/
theorem codes_limited (before : SendsLimited (issuedAt t email))
    (run : Run (Guarded (Enabled (step (recoveryServer platform))) (SendFits platform))
      ⟨{ tables := t }, []⟩ tr s) : SendsLimited (issuedAt s.shared.tables email) := by
  have limited : SendsLimited (sendTimes platform email s) := by
    apply run.invariant (P := fun s => SendsLimited (sendTimes platform email s))
    · simpa only [sendTimes, gather, List.filterMap_nil, List.append_nil] using before
    · intro s move s' limited step
      exact sendsLimited_step limited step.1 step.2
  exact limited.sublist (List.sublist_append_left ..)

/-- The time at which a call starts. -/
def startTime : RecoveryMove → Option ℤ
  | .start (.request _ now) | .start (.reset _ now) => some now
  | .advance _ _ => none

/-- The clock does not go back. -/
def ClockAdvances (tr : List RecoveryMove) : Prop :=
  (tr.filterMap startTime).Pairwise (· ≤ ·)

def rajuRequest (now : ℤ) : RecoveryMove := .start (.request ⟨"raju@example.com"⟩ now)

/-- The next statement of the request that started as the `i`th call. -/
def rajuStatement (i : ℕ) : RecoveryMove :=
  .advance i (.request { firstCode with id := toString i })

/-- Two requests, a minute apart, that both fit. -/
theorem codes_limited_minuteApart :
    ∃ s, Run (Guarded (Enabled (step (recoveryServer plainPlatform))) (SendFits plainPlatform))
      ⟨{ tables := oneAccount }, []⟩
      (rajuRequest 0 :: List.replicate 6 (rajuStatement 0) ++
        rajuRequest 60000 :: List.replicate 6 (rajuStatement 1)) s ∧
      issuedAt s.shared.tables "raju@example.com" = [0, 60000] ∧
      SendsLimited (issuedAt s.shared.tables "raju@example.com") := by
  have fits : (exec (guardStep (step (recoveryServer plainPlatform)) (SendFits plainPlatform))
      ⟨{ tables := oneAccount }, []⟩
      (rajuRequest 0 :: List.replicate 6 (rajuStatement 0) ++
        rajuRequest 60000 :: List.replicate 6 (rajuStatement 1))).any fun s =>
          issuedAt s.shared.tables "raju@example.com" = [0, 60000] := by
    decide +kernel
  obtain ⟨s, run, issued⟩ := exec_guarded_any fits
  exact ⟨s, run, of_decide_eq_true issued, codes_limited .nil run⟩

/-- Requests that all pass the throttle before one of them commits. -/
def requestsAtOnce (times : List ℤ) : List RecoveryMove :=
  times.map rajuRequest ++
    (List.replicate 5 ((List.range times.length).map rajuStatement)).flatten

/-- Two requests at once send two codes at once, and six within five minutes send six. -/
theorem codes_crowded :
    (¬ ∀ platform t tr s email, t.verifications = [] → ClockAdvances tr →
      Run (Enabled (step (recoveryServer platform))) ⟨{ tables := t }, []⟩ tr s →
      (issuedAt s.shared.tables email).Pairwise fun a b => 60000 ≤ |a - b|) ∧
    ¬ ∀ platform t tr s email, t.verifications = [] → ClockAdvances tr →
      Run (Enabled (step (recoveryServer platform))) ⟨{ tables := t }, []⟩ tr s →
      ∀ x, inWindow (requestWindowMinutes * 60000) x (issuedAt s.shared.tables email) ≤
        maxRequestsPerWindow := by
  constructor
  · intro spaced
    have reached : (exec (step (recoveryServer plainPlatform)) ⟨{ tables := oneAccount }, []⟩
        (requestsAtOnce [0, 0])).any fun s =>
          issuedAt s.shared.tables "raju@example.com" = [0, 0] := by
      decide +kernel
    obtain ⟨s, run, issued⟩ := exec_any reached
    have apart := spaced _ _ _ _ "raju@example.com" rfl (by unfold ClockAdvances; decide) run
    rw [of_decide_eq_true issued] at apart
    exact absurd apart (by decide)
  · intro few
    have reached : (exec (step (recoveryServer plainPlatform)) ⟨{ tables := oneAccount }, []⟩
        (requestsAtOnce [0, 60000, 120000, 180000, 240000, 300000])).any fun s =>
          issuedAt s.shared.tables "raju@example.com" =
            [0, 60000, 120000, 180000, 240000, 300000] := by
      decide +kernel
    obtain ⟨s, run, issued⟩ := exec_any reached
    have bounded := few _ _ _ _ "raju@example.com" rfl (by unfold ClockAdvances; decide) run (-1)
    rw [of_decide_eq_true issued] at bounded
    exact absurd bounded (by decide)

end ElectroSync
