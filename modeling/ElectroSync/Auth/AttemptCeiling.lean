import ElectroSync.Auth.RecoveryServer

/-!
# The attempt ceiling under concurrency

A reset reads the attempts of a code, compares its guess, and counts the attempt, in three
statements. Guesses that have read and not yet counted are in flight: the ceiling holds in the runs
in which a wrong guess reads only while the counted attempts and the wrong guesses in flight are
fewer than the ceiling, and guesses sent at the same time break it.
-/

namespace ElectroSync
open Transition Interleaving PasswordResetService

variable {platform : Platform} {t : Tables} {id email : String} {row : VerificationRow}

/-! ## The counted attempts of a row -/

def attemptsOf (t : Tables) (id : String) : ℕ :=
  (t.verifications.find? (·.id = id)).elim 0 (·.attempts)

theorem find?_map_id {rows : List VerificationRow} {f : VerificationRow → VerificationRow}
    (same : ∀ row, (f row).id = row.id) (id : String) :
    (rows.map f).find? (·.id = id) = (rows.find? (·.id = id)).map f := by
  rw [List.find?_map]
  congr 2
  funext row
  rw [Function.comp_apply, same]

theorem attemptsOf_of_mem (ids : IdsDistinct t) (mem : row ∈ t.verifications) :
    attemptsOf t row.id = row.attempts := by
  have isSome : (t.verifications.find? (·.id = row.id)).isSome :=
    List.find?_isSome.mpr ⟨row, mem, by simp⟩
  obtain ⟨found, eq⟩ := Option.isSome_iff_exists.mp isSome
  have same : found.id = row.id := by simpa using List.find?_some eq
  rw [attemptsOf, eq, ids.eq (List.mem_of_find?_eq_some eq) mem same]
  rfl

@[simp] theorem attemptsOf_redeemCode (t : Tables) (code : String) (now : ℤ)
    (userId hash id : String) :
    attemptsOf (redeemCode t code now userId hash) id = attemptsOf t id := by
  rw [attemptsOf, redeemCode, find?_map_id fun _ => consume_id, attemptsOf]
  cases t.verifications.find? (·.id = id) with
  | none => rfl
  | some row => exact consume_attempts

@[simp] theorem attemptsOf_issueCode (t : Tables) (email : String) (now : ℤ) (hash newId : String)
    (live : List String) (id : String) :
    attemptsOf (issueCode t email now hash newId live) id = attemptsOf t id := by
  rw [attemptsOf, issueCode, List.find?_append, find?_map_id fun _ => retire_id, attemptsOf]
  cases t.verifications.find? (·.id = id) with
  | none =>
    simp only [Option.map_none, Option.none_or, List.find?_singleton]
    split <;> rfl
  | some row => exact retire_attempts

theorem attemptsOf_countAttempt_of_ne (other : id ≠ code) :
    attemptsOf (countAttempt t code) id = attemptsOf t id := by
  rw [attemptsOf, countAttempt, find?_map_id fun _ => attempt_id, attemptsOf]
  cases found : t.verifications.find? (·.id = id) with
  | none => rfl
  | some row =>
    have same : row.id = id := by simpa using List.find?_some found
    rw [Option.map_some, attempt_of_ne (same ▸ other)]

theorem attemptsOf_countAttempt_self (mem : row ∈ t.verifications) :
    attemptsOf (countAttempt t row.id) row.id = attemptsOf t row.id + 1 := by
  have isSome : (t.verifications.find? (·.id = row.id)).isSome :=
    List.find?_isSome.mpr ⟨row, mem, by simp⟩
  obtain ⟨found, eq⟩ := Option.isSome_iff_exists.mp isSome
  have same : found.id = row.id := by simpa using List.find?_some eq
  rw [attemptsOf, countAttempt, find?_map_id fun _ => attempt_id, attemptsOf, eq, Option.map_some,
    attempt, if_pos same]
  rfl

/-! ## Guesses in flight -/

/-- The call has compared a wrong guess with the row, and has not yet counted it. -/
def uncounted (id : String) : RecoveryCall → Bool
  | .reset _ _ (.counting pending) => pending.id = id
  | _ => false

/-- The call has read the row for a wrong guess, and has not yet counted the guess. -/
def wrongInFlight (platform : Platform) (id : String) : RecoveryCall → Bool
  | .reset dto _ (.verifying pending) =>
    pending.id = id && !platform.passwords.verify pending.value dto.code
  | .reset _ _ (.counting pending) => pending.id = id
  | _ => false

/-- The call has read the row for a wrong guess, and has not yet compared it. -/
def uncompared (platform : Platform) (id : String) : RecoveryCall → Bool
  | .reset dto _ (.verifying pending) =>
    pending.id = id && !platform.passwords.verify pending.value dto.code
  | _ => false

/-- A wrong guess in flight waits to be compared or to be counted. -/
theorem wrongInFlight_eq (platform : Platform) (s : RecoverySystem) (id : String) :
    tally (wrongInFlight platform id) s =
      tally (uncompared platform id) s + tally (uncounted id) s := by
  apply tally_add
  intro call
  cases call with
  | request dto now phase => rfl
  | reset dto now phase =>
    cases phase with
    | counting pending => simp [wrongInFlight, uncompared, uncounted]
    | _ => rfl

theorem uncompared_cases (waits : uncompared platform id call = true) :
    ∃ dto now pending, call = .reset dto now (.verifying pending) ∧ pending.id = id ∧
      platform.passwords.verify pending.value dto.code = false := by
  cases call with
  | request dto now phase => cases waits
  | reset dto now phase =>
    cases phase with
    | verifying pending =>
      obtain ⟨own, wrong⟩ := Bool.and_eq_true_iff.mp waits
      exact ⟨dto, now, pending, rfl, of_decide_eq_true own, by simpa using wrong⟩
    | _ => cases waits

/-- The code that the next statement of a call lets a wrong guess try. -/
def nextWrongGuess (platform : Platform) (s : RecoverySystem) (i : ℕ) (chance : RedeemChance) :
    Option VerificationRow :=
  match s.procs[i]? with
  | some (.reset dto now .selecting) =>
    (selectPending s.shared.tables (normalizeEmail platform dto.email) chance.tie).filter
      fun pending => Redeemable pending now ∧
        platform.passwords.verify pending.value dto.code = false
  | _ => none

/-- A wrong guess passes the check of its code only while the attempts that are counted and those
that are in flight are fewer than the ceiling. -/
def GuessFits (platform : Platform) (s : RecoverySystem) : RecoveryMove → Prop
  | .advance i (.reset chance) => ∀ pending ∈ nextWrongGuess platform s i chance,
      pending.attempts + tally (wrongInFlight platform pending.id) s < maxAttempts
  | _ => True

instance (platform : Platform) (s : RecoverySystem) (move : RecoveryMove) :
    Decidable (GuessFits platform s move) := by
  unfold GuessFits
  split <;> infer_instance

/-- What the guard keeps true. -/
structure Ceiling (platform : Platform) (s : RecoverySystem) : Prop where
  ids : IdsDistinct s.shared.tables
  pending : Everywhere PendingExists s
  counted : ∀ id, s.shared.compared.count (id, false) =
    attemptsOf s.shared.tables id + tally (uncounted id) s
  bounded : ∀ id, attemptsOf s.shared.tables id + tally (wrongInFlight platform id) s ≤ maxAttempts

section Step
variable {s : RecoverySystem} {s' : RecoveryState} {call call' : RecoveryCall} {i : ℕ}
  {chance : RecoveryChance}

/-- A count takes one of the calls that are tallied for the code, and adds one attempt. -/
theorem attemptsOf_add_tally_count {P : RecoveryCall → Bool} {pending : VerificationRow}
    {id : String} (here : s.procs[i]? = some call) (exist : HasRow s.shared.tables pending.id)
    (tallied : P call = decide (pending.id = id)) (gone : P call' = false) :
    attemptsOf (countAttempt s.shared.tables pending.id) id +
        tally P (⟨s', s.procs.set i call'⟩ : RecoverySystem) =
      attemptsOf s.shared.tables id + tally P s := by
  have moved : tally P (⟨s', s.procs.set i call'⟩ : RecoverySystem) + _ = _ := tally_set P here
  rw [tallied, gone, Bool.toNat_false, add_zero] at moved
  obtain ⟨row, mem, same⟩ := List.mem_map.mp exist
  by_cases own : pending.id = id
  · have counted := attemptsOf_countAttempt_self mem
    rw [same, own] at counted
    rw [own, counted]
    simp only [own, decide_true, Bool.toNat_true] at moved
    omega
  · simp only [own, decide_false, Bool.toNat_false, add_zero] at moved
    rw [attemptsOf_countAttempt_of_ne (Ne.symm own), moved]

/-- A comparison moves a guess from those in flight to those that wait to be counted, and a count
moves it to the counted attempts. -/
theorem Ceiling.counted_step (inv : Ceiling platform s) (here : s.procs[i]? = some call)
    (statement : Statement platform s.shared chance call s' call') (id : String) :
    s'.compared.count (id, false) = attemptsOf s'.tables id +
      tally (uncounted id) (⟨s', s.procs.set i call'⟩ : RecoverySystem) := by
  have before := inv.counted id
  have moved : tally (uncounted id) (⟨s', s.procs.set i call'⟩ : RecoverySystem) + _ = _ :=
    tally_set (uncounted id) here
  cases statement with
  | mismatch dto pending wrong =>
    simp only [uncounted, Bool.toNat_false, add_zero] at moved
    simp only [List.count_append, List.count_singleton, beq_iff_eq, Prod.mk.injEq, and_true]
    by_cases own : pending.id = id
    · simp only [own, decide_true, Bool.toNat_true, if_true] at moved ⊢
      omega
    · simp only [own, decide_false, Bool.toNat_false, if_false, add_zero] at moved ⊢
      omega
  | match_ dto pending right =>
    simp only [uncounted, Bool.toNat_false, add_zero] at moved
    rw [moved]
    simpa [List.count_singleton] using before
  | count pending =>
    rw [attemptsOf_add_tally_count here (inv.pending i _ here pending rfl) rfl rfl]
    exact before
  | issue =>
    simp only [uncounted, Bool.toNat_false, add_zero] at moved
    rw [attemptsOf_issueCode, moved]
    exact before
  | redeem =>
    simp only [uncounted, Bool.toNat_false, add_zero] at moved
    rw [attemptsOf_redeemCode, moved]
    exact before
  | _ =>
    simp only [uncounted, Bool.toNat_false, add_zero] at moved
    rw [moved]
    exact before

/-- A guess that passes the check joins those in flight: the guard is about this step. -/
theorem Ceiling.bounded_step (inv : Ceiling platform s) (here : s.procs[i]? = some call)
    (statement : Statement platform s.shared chance call s' call')
    (fits : GuessFits platform s (.advance i chance)) (id : String) :
    attemptsOf s'.tables id +
      tally (wrongInFlight platform id) (⟨s', s.procs.set i call'⟩ : RecoverySystem) ≤
        maxAttempts := by
  have before := inv.bounded id
  have moved : tally (wrongInFlight platform id) (⟨s', s.procs.set i call'⟩ : RecoverySystem) + _ =
    _ := tally_set (wrongInFlight platform id) here
  cases statement with
  | select dto pending found redeemable =>
    simp only [wrongInFlight, Bool.toNat_false, add_zero] at moved
    by_cases wrong : pending.id = id ∧ platform.passwords.verify pending.value dto.code = false
    · obtain ⟨rfl, wrong⟩ := wrong
      have mem := (mem_codesFor.mp (selectPending_mem found).1).1
      have room := fits pending (by simp [nextWrongGuess, here, found, redeemable, wrong])
      rw [attemptsOf_of_mem inv.ids mem]
      simp only [wrong, decide_true, Bool.not_false, Bool.and_self, Bool.toNat_true] at moved
      omega
    · have : (decide (pending.id = id) &&
          !platform.passwords.verify pending.value dto.code) = false := by
        simpa using wrong
      rw [this, Bool.toNat_false, add_zero] at moved
      rw [moved]
      exact before
  | mismatch dto pending wrong =>
    simp only [wrongInFlight, wrong, Bool.not_false, Bool.and_true,
      Nat.add_right_cancel_iff] at moved
    rw [moved]
    exact before
  | match_ dto pending right =>
    simp only [wrongInFlight, right, Bool.not_true, Bool.and_false, Bool.toNat_false,
      add_zero] at moved
    rw [moved]
    exact before
  | count pending =>
    rw [attemptsOf_add_tally_count here (inv.pending i _ here pending rfl) rfl rfl]
    exact before
  | issue =>
    simp only [wrongInFlight, Bool.toNat_false, add_zero] at moved
    rw [attemptsOf_issueCode, moved]
    exact before
  | redeem =>
    simp only [wrongInFlight, Bool.toNat_false, add_zero] at moved
    rw [attemptsOf_redeemCode, moved]
    exact before
  | _ =>
    simp only [wrongInFlight, Bool.toNat_false, add_zero] at moved
    rw [moved]
    exact before

theorem Ceiling.step {s' : RecoverySystem} {move : RecoveryMove} (inv : Ceiling platform s)
    (step : Interleaving.step (recoveryServer platform) s move = some s')
    (fits : GuessFits platform s move) : Ceiling platform s' := by
  cases move with
  | start input =>
    cases step
    have counted (id : String) : uncounted id ((recoveryServer platform).init input) = false := by
      cases input <;> rfl
    have inFlight (id : String) :
        wrongInFlight platform id ((recoveryServer platform).init input) = false := by
      cases input <;> rfl
    refine ⟨inv.ids, inv.pending.start ?_, fun id => ?_, fun id => ?_⟩
    · intro pending mem
      cases input <;> cases mem
    · rw [tally_start (counted id)]
      exact inv.counted id
    · rw [tally_start (inFlight id)]
      exact inv.bounded id
  | advance i chance =>
    obtain ⟨call, s', call', here, next, rfl⟩ := advance_cases step
    have statement := next_statement next
    exact ⟨statement.ids inv.ids, PendingExists.step inv.pending here statement,
      inv.counted_step here statement, inv.bounded_step here statement fits⟩

end Step

theorem Ceiling.initial (empty : t.verifications = []) :
    Ceiling platform ⟨{ tables := t }, []⟩ := by
  refine ⟨?_, Everywhere.nil, fun id => ?_, fun id => ?_⟩
  · simp only [IdsDistinct, empty, List.map_nil, List.nodup_nil]
  · simp [attemptsOf, empty, tally]
  · simp [attemptsOf, empty, tally]

/-! ## Runs -/

/-- While guesses fit, at most `maxAttempts` wrong guesses are compared with a code. -/
theorem wrongGuesses_bounded (empty : t.verifications = [])
    (run : Run (Guarded (Enabled (step (recoveryServer platform))) (GuessFits platform))
      ⟨{ tables := t }, []⟩ tr s) (id : String) :
    s.shared.compared.count (id, false) ≤ maxAttempts := by
  have inv : Ceiling platform s := run.invariant (P := Ceiling platform) (.initial empty)
    fun inv step => inv.step step.1 step.2
  calc s.shared.compared.count (id, false)
      = attemptsOf s.shared.tables id + tally (uncounted id) s := inv.counted id
    _ ≤ attemptsOf s.shared.tables id + tally (wrongInFlight platform id) s := by
      rw [wrongInFlight_eq]
      omega
    _ ≤ maxAttempts := inv.bounded id

/-- All the wrong guesses that have read a code can be compared with it before anything else
happens. -/
theorem compare_uncompared (platform : Platform) (s : RecoverySystem) (id : String) :
    ∃ tr t, Run (Enabled (step (recoveryServer platform))) s tr t ∧
      t.shared.compared.count (id, false) =
        s.shared.compared.count (id, false) + tally (uncompared platform id) s := by
  induction waiting : tally (uncompared platform id) s generalizing s with
  | zero => exact ⟨[], s, .nil, rfl⟩
  | succ n ih =>
    have pos : 0 < tally (uncompared platform id) s := by omega
    obtain ⟨i, call, here, waits⟩ := exists_of_tally_pos pos
    obtain ⟨dto, now, pending, rfl, own, wrong⟩ := uncompared_cases waits
    have next := reset_next (verifying_next platform s.shared dto now {} wrong)
    let after : RecoverySystem :=
      ⟨{ s.shared with compared := s.shared.compared ++ [(pending.id, false)] },
        s.procs.set i (.reset dto now (.counting pending))⟩
    have moved : tally (uncompared platform id) after + _ = _ := tally_set _ here
    rw [waits, waiting] at moved
    obtain ⟨tr, t, run, count⟩ := ih after (by simpa [uncompared] using moved)
    refine ⟨_, t, Run.cons_iff.mpr ⟨after, step_advance here next, run⟩, ?_⟩
    rw [count, List.count_append, own, List.count_singleton_self]
    omega

theorem nextWrongGuess_cases {chance : RedeemChance}
    (next : nextWrongGuess platform s i chance = some pending) :
    ∃ dto now, s.procs[i]? = some (.reset dto now .selecting) ∧
      selectPending s.shared.tables (normalizeEmail platform dto.email) chance.tie =
        some pending ∧
      Redeemable pending now ∧ platform.passwords.verify pending.value dto.code = false := by
  simp only [nextWrongGuess] at next
  split at next
  · next dto now here =>
    obtain ⟨found, allowed⟩ := Option.filter_eq_some_iff.mp next
    obtain ⟨redeemable, wrong⟩ := of_decide_eq_true allowed
    exact ⟨dto, now, here, found, redeemable, wrong⟩
  · cases next

/-- The condition is needed: after a guess that does not fit, the guesses in flight can all be
compared, and are too many. -/
theorem wrongGuesses_exceed_of_crowded (empty : t.verifications = [])
    (run : Run (Guarded (Enabled (step (recoveryServer platform))) (GuessFits platform))
      ⟨{ tables := t }, []⟩ tr s) (next : step (recoveryServer platform) s move = some s')
    (crowded : ¬ GuessFits platform s move) :
    ∃ id tr' s'', Run (Enabled (step (recoveryServer platform))) s' tr' s'' ∧
      maxAttempts < s''.shared.compared.count (id, false) := by
  have inv : Ceiling platform s := run.invariant (P := Ceiling platform) (.initial empty)
    fun inv step => inv.step step.1 step.2
  match move with
  | .start input => exact absurd trivial crowded
  | .advance i (.request chance) => exact absurd trivial crowded
  | .advance i (.reset chance) =>
    simp only [GuessFits, not_forall, not_lt] at crowded
    obtain ⟨pending, guess, full⟩ := crowded
    obtain ⟨dto, now, here, found, redeemable, wrong⟩ := nextWrongGuess_cases guess
    have mem := (mem_codesFor.mp (selectPending_mem found).1).1
    rw [step_advance here (reset_next (selecting_of_redeemable found redeemable))] at next
    cases next
    let after : RecoverySystem :=
      ⟨s.shared, s.procs.set i (.reset dto now (.verifying pending))⟩
    obtain ⟨tr', s'', run', count⟩ := compare_uncompared platform after pending.id
    have moved : tally (uncompared platform pending.id) after + _ = _ := tally_set _ here
    simp only [uncompared, wrong, decide_true, Bool.not_false, Bool.and_self, Bool.toNat_true,
      Bool.toNat_false, add_zero] at moved
    refine ⟨pending.id, tr', s'', run', ?_⟩
    have counted := inv.counted pending.id
    rw [attemptsOf_of_mem inv.ids mem] at counted
    rw [wrongInFlight_eq] at full
    have same : after.shared = s.shared := rfl
    rw [same] at count
    omega

/-- A request that runs alone, and then `n` guesses that all read the code before one is counted. -/
def guessesAtOnce (n : ℕ) : List RecoveryMove :=
  .start (.request ⟨"raju@example.com"⟩ 0) ::
    List.replicate 6 (.advance 0 (.request firstCode)) ++
    List.replicate n (.start (.reset ⟨"raju@example.com", "111111", "guess"⟩ 1000)) ++
    (List.range n).map (fun i => .advance (i + 1) (.reset {})) ++
    (List.range n).map (fun i => .advance (i + 1) (.reset {}))

/-- Five guesses at once fit, and all of them are compared. -/
theorem wrongGuesses_bounded_fiveAtOnce :
    ∃ s, Run (Guarded (Enabled (step (recoveryServer plainPlatform))) (GuessFits plainPlatform))
      ⟨{ tables := oneAccount }, []⟩ (guessesAtOnce 5) s ∧
      s.shared.compared.count ("v", false) = 5 ∧
      s.shared.compared.count ("v", false) ≤ maxAttempts := by
  have fits : (exec (guardStep (step (recoveryServer plainPlatform)) (GuessFits plainPlatform))
      ⟨{ tables := oneAccount }, []⟩ (guessesAtOnce 5)).any fun s =>
        s.shared.compared.count ("v", false) = 5 := by
    decide +kernel
  obtain ⟨s, run, five⟩ := exec_guarded_any fits
  exact ⟨s, run, of_decide_eq_true five, wrongGuesses_bounded rfl run "v"⟩

/-- Six guesses at once are compared with one code. -/
theorem wrongGuesses_exceed :
    ¬ ∀ platform t tr s id, t.verifications = [] →
      Run (Enabled (step (recoveryServer platform))) ⟨{ tables := t }, []⟩ tr s →
      s.shared.compared.count (id, false) ≤ maxAttempts := by
  intro bounded
  have reached : (exec (step (recoveryServer plainPlatform)) ⟨{ tables := oneAccount }, []⟩
      (guessesAtOnce 6)).any fun s => maxAttempts < s.shared.compared.count ("v", false) := by
    decide +kernel
  obtain ⟨s, run, exceeds⟩ := exec_any reached
  have := bounded _ _ _ _ "v" rfl run
  have := of_decide_eq_true exceeds
  omega

end ElectroSync
