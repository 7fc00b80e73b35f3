import ElectroSync.Auth.RecoveryServer

/-!
# Single use of a code under concurrency

A reset checks that its code is not consumed well before the transaction that consumes it, and that
transaction matches the row by its id alone. A code is used once in the runs in which no commit
consumes or retires a code that another call has already found to be right; without that, two calls
redeem one code, and a call redeems a code that a newer request has retired.
-/

namespace ElectroSync
open Transition Interleaving PasswordResetService

variable {platform : Platform} {t : Tables} {id : String}

/-- The call has passed the check of the row with the right code, and has not committed. -/
def holdsRight (platform : Platform) (id : String) : RecoveryCall → Bool
  | .reset dto _ (.verifying pending) =>
    pending.id = id && platform.passwords.verify pending.value dto.code
  | .reset _ _ (.finding pending) | .reset _ _ (.hashing pending _)
  | .reset _ _ (.redeeming pending _ _) => pending.id = id
  | _ => false

/-- The codes that the next statement of a call consumes or retires, when it is a commit. -/
def spends (s : RecoverySystem) (i : ℕ) (chance : RecoveryChance) : List String :=
  match s.procs[i]?, chance with
  | some (.reset _ _ (.redeeming pending _ _)), .reset chance =>
    if chance.commits then [pending.id] else []
  | some (.request _ _ (.issuing _ live)), .request chance => if chance.commits then live else []
  | _, _ => []

/-- A commit consumes or retires no code that another call holds. -/
def SpendsAlone (platform : Platform) (s : RecoverySystem) : RecoveryMove → Prop
  | .start _ => True
  | .advance i chance => ∀ id ∈ spends s i chance, ∀ j : Fin s.procs.length, j.val ≠ i →
      holdsRight platform id s.procs[j] = false

instance (platform : Platform) (s : RecoverySystem) (move : RecoveryMove) :
    Decidable (SpendsAlone platform s move) := by
  unfold SpendsAlone
  split <;> infer_instance

/-- The code that the next statement of a call redeems. -/
def nextRedeemed (s : RecoverySystem) (i : ℕ) : Option VerificationRow :=
  match s.procs[i]? with
  | some (.reset _ _ (.redeeming pending _ _)) => some pending
  | _ => none

/-- A commit that redeems a code finds it neither consumed nor retired. -/
def RedeemsLive (s : RecoverySystem) : RecoveryMove → Prop
  | .start _ => True
  | .advance i _ => ∀ pending ∈ nextRedeemed s i, ∀ row ∈ s.shared.tables.verifications,
      row.id = pending.id → row.consumedAt = none

instance (s : RecoverySystem) (move : RecoveryMove) : Decidable (RedeemsLive s move) := by
  unfold RedeemsLive
  split <;> infer_instance

/-- The row is in the table and live. -/
def Live (t : Tables) (id : String) : Prop :=
  HasRow t id ∧ ∀ row ∈ t.verifications, row.id = id → row.consumedAt = none

/-- The row is in the table and not live. -/
def Spent (t : Tables) (id : String) : Prop :=
  ∃ row ∈ t.verifications, row.id = id ∧ row.consumedAt ≠ none

theorem Live.not_spent (live : Live t id) : ¬ Spent t id := by
  rintro ⟨row, mem, same, consumed⟩
  exact consumed (live.2 row mem same)

theorem live_of_mem (ids : IdsDistinct t) (mem : row ∈ t.verifications)
    (unconsumed : row.consumedAt = none) : Live t row.id := by
  refine ⟨hasRow_of_mem mem, fun other mem' same => ?_⟩
  rw [ids.eq mem' mem same]
  exact unconsumed

/-- What the guard keeps true. -/
structure SingleUse (platform : Platform) (s : RecoverySystem) : Prop where
  ids : IdsDistinct s.shared.tables
  live : Everywhere (fun s call => ∀ id, holdsRight platform id call → Live s.tables id) s
  spent : ∀ id ∈ s.shared.redeemed, Spent s.shared.tables id
  once : s.shared.redeemed.Nodup

section Step
variable {s : RecoverySystem} {s' : RecoveryState} {call call' : RecoveryCall} {i : ℕ}
  {chance : RecoveryChance}

/-- A live row stays live under a statement that does not spend it. -/
theorem Live.step (live : Live s.shared.tables id) (here : s.procs[i]? = some call)
    (statement : Statement platform s.shared chance call s' call')
    (kept : id ∉ spends s i chance) : Live s'.tables id := by
  refine ⟨statement.hasRow live.1, ?_⟩
  cases statement with
  | issue committed =>
    simp only [spends, here, committed, if_true] at kept
    simp only [issueCode, List.mem_append, List.mem_map, List.mem_singleton]
    rintro row (⟨old, mem, rfl⟩ | rfl) same
    · rw [retire_id] at same
      rw [retire_of_unseen (same ▸ kept)]
      exact live.2 old mem same
    · rfl
  | count =>
    simp only [countAttempt, List.mem_map]
    rintro row ⟨old, mem, rfl⟩ same
    rw [attempt_consumedAt]
    exact live.2 old mem (attempt_id.symm.trans same)
  | redeem pending committed =>
    simp only [spends, here, committed, if_true, List.mem_singleton] at kept
    simp only [redeemCode, List.mem_map]
    rintro row ⟨old, mem, rfl⟩ same
    rw [consume_id] at same
    rw [consume_of_ne fun own => kept (same.symm.trans own)]
    exact live.2 old mem same
  | _ => exact live.2

/-- What is spent stays spent. -/
theorem Spent.step (spent : Spent s.shared.tables id)
    (statement : Statement platform s.shared chance call s' call') : Spent s'.tables id := by
  obtain ⟨row, mem, same, consumed⟩ := spent
  cases statement with
  | issue =>
    refine ⟨row, List.mem_append_left _ (List.mem_map.mpr ⟨row, mem, ?_⟩), same, consumed⟩
    exact retire_of_consumed consumed
  | count pending =>
    refine ⟨attempt pending.id row, List.mem_map_of_mem mem, attempt_id.trans same, ?_⟩
    rwa [attempt_consumedAt]
  | redeem =>
    exact ⟨_, List.mem_map_of_mem mem, consume_id.trans same, consume_consumedAt consumed⟩
  | _ => exact ⟨row, mem, same, consumed⟩

theorem spent_redeemCode (exists_ : HasRow t id) (now : ℤ) (userId hash : String) :
    Spent (redeemCode t id now userId hash) id := by
  obtain ⟨row, mem, same⟩ := List.mem_map.mp exists_
  refine ⟨consume id now row, List.mem_map_of_mem mem, consume_id.trans same, ?_⟩
  rw [consume, if_pos same]
  exact Option.some_ne_none _

/-- A call that has come to hold the right code holds a live one. -/
theorem SingleUse.moved (inv : SingleUse platform s) (here : s.procs[i]? = some call)
    (statement : Statement platform s.shared chance call s' call')
    (holds : holdsRight platform id call') : Live s'.tables id := by
  cases statement with
  | select dto pending found redeemable =>
    simp only [holdsRight, Bool.and_eq_true, decide_eq_true_eq] at holds
    rw [← holds.1]
    exact live_of_mem inv.ids (mem_codesFor.mp (selectPending_mem found).1).1 redeemable.1
  | match_ dto pending right =>
    apply inv.live i _ here id
    simp only [holdsRight, decide_eq_true_eq] at holds
    simp only [holdsRight, holds, right, decide_true, Bool.and_self]
  | find => exact inv.live i _ here id holds
  | hash => exact inv.live i _ here id holds
  | _ => cases holds

theorem SingleUse.advance (inv : SingleUse platform s) (here : s.procs[i]? = some call)
    (statement : Statement platform s.shared chance call s' call')
    (alone : SpendsAlone platform s (.advance i chance)) :
    SingleUse platform ⟨s', s.procs.set i call'⟩ where
  ids := statement.ids inv.ids
  live := by
    refine inv.live.set (fun id holds => inv.moved here statement holds) ?_
    intro j other different there before id holds
    apply (before id holds).step here statement
    intro spent
    obtain ⟨bound, rfl⟩ := List.getElem?_eq_some_iff.mp there
    have free := alone id spent ⟨j, bound⟩ different
    rw [Fin.getElem_fin] at free
    rw [free] at holds
    cases holds
  spent := by
    have kept (id : String) (mem : id ∈ s.shared.redeemed) : Spent s'.tables id :=
      (inv.spent id mem).step statement
    intro id mem
    cases statement with
    | redeem pending =>
      obtain old | new := List.mem_append.mp mem
      · exact kept id old
      · rw [List.mem_singleton.mp new]
        exact spent_redeemCode (inv.live i _ here pending.id (by simp [holdsRight])).1 ..
    | _ => exact kept id mem
  once := by
    cases statement with
    | redeem pending =>
      refine List.nodup_append.mpr ⟨inv.once, List.nodup_singleton _, ?_⟩
      rintro id old _ new rfl
      rw [List.mem_singleton] at new
      subst new
      have live := inv.live i _ here pending.id (by simp [holdsRight])
      exact live.not_spent (inv.spent _ old)
    | _ => exact inv.once

theorem SingleUse.step {s' : RecoverySystem} {move : RecoveryMove} (inv : SingleUse platform s)
    (step : Interleaving.step (recoveryServer platform) s move = some s')
    (alone : SpendsAlone platform s move) : SingleUse platform s' := by
  cases move with
  | start input =>
    cases step
    refine ⟨inv.ids, inv.live.start fun id holds => ?_, inv.spent, inv.once⟩
    cases input <;> cases holds
  | advance i chance =>
    obtain ⟨call, s', call', here, next, rfl⟩ := advance_cases step
    exact inv.advance here (next_statement next) alone

theorem SingleUse.redeemsLive (inv : SingleUse platform s) (move : RecoveryMove) :
    RedeemsLive s move := by
  cases move with
  | start input => trivial
  | advance i chance =>
    intro pending redeems
    unfold nextRedeemed at redeems
    split at redeems
    · next here =>
      cases redeems
      exact (inv.live i _ here pending.id (by simp [holdsRight])).2
    · cases redeems

end Step

theorem SingleUse.initial (empty : t.verifications = []) :
    SingleUse platform ⟨{ tables := t }, []⟩ := by
  refine ⟨?_, Everywhere.nil, fun id mem => ?_, List.nodup_nil⟩
  · simp only [IdsDistinct, empty, List.map_nil, List.nodup_nil]
  · cases mem

/-! ## Runs -/

/-- While commits spend only codes that no other call holds, each code is redeemed at most once,
and only while it is live. -/
theorem codes_used_once (empty : t.verifications = [])
    (run : Run (Guarded (Enabled (step (recoveryServer platform))) (SpendsAlone platform))
      ⟨{ tables := t }, []⟩ tr s) :
    s.shared.redeemed.Nodup ∧ ∀ move, RedeemsLive s move := by
  have inv : SingleUse platform s := run.invariant (P := SingleUse platform) (.initial empty)
    fun inv step => inv.step step.1 step.2
  exact ⟨inv.once, inv.redeemsLive⟩

/-- A request that runs alone and issues the code 000042. -/
def issuesCode : List RecoveryMove :=
  .start (.request ⟨"raju@example.com"⟩ 0) ::
    List.replicate 6 (.advance 0 (.request firstCode))

def startsReset (password : String) : RecoveryMove :=
  .start (.reset ⟨"raju@example.com", "000042", password⟩ 1000)

/-- A code is redeemed, and then refused. -/
theorem codes_used_once_inTurn :
    ∃ tr s, Run (Guarded (Enabled (step (recoveryServer plainPlatform)))
        (SpendsAlone plainPlatform)) ⟨{ tables := oneAccount }, []⟩ tr s ∧
      s.shared.redeemed = ["v"] ∧ s.shared.redeemed.Nodup ∧ ∀ move, RedeemsLive s move := by
  let tr := issuesCode ++ [startsReset "first"] ++ List.replicate 5 (.advance 1 (.reset {})) ++
    [startsReset "second", .advance 2 (.reset {})]
  have alone : (exec (guardStep (step (recoveryServer plainPlatform)) (SpendsAlone plainPlatform))
      ⟨{ tables := oneAccount }, []⟩ tr).any fun s => s.shared.redeemed = ["v"] := by
    decide +kernel
  obtain ⟨s, run, redeemed⟩ := exec_guarded_any alone
  exact ⟨tr, s, run, of_decide_eq_true redeemed, codes_used_once rfl run⟩

/-- Two calls redeem one code, and a call redeems a code that a newer request has retired. -/
theorem codes_used_twice :
    (¬ ∀ platform t tr s, t.verifications = [] →
      Run (Enabled (step (recoveryServer platform))) ⟨{ tables := t }, []⟩ tr s →
      s.shared.redeemed.Nodup) ∧
    ¬ ∀ platform t tr s move, t.verifications = [] →
      Run (Enabled (step (recoveryServer platform))) ⟨{ tables := t }, []⟩ tr s →
      RedeemsLive s move := by
  constructor
  · intro once
    have reached : (exec (step (recoveryServer plainPlatform)) ⟨{ tables := oneAccount }, []⟩
        (issuesCode ++ [startsReset "first", startsReset "second"] ++
          List.replicate 4 (.advance 1 (.reset {})) ++ List.replicate 4 (.advance 2 (.reset {})) ++
          [.advance 1 (.reset {}), .advance 2 (.reset {})])).any fun s =>
            ¬ s.shared.redeemed.Nodup := by
      decide +kernel
    obtain ⟨s, run, twice⟩ := exec_any reached
    exact of_decide_eq_true twice (once _ _ _ _ rfl run)
  · intro live
    have reached : (exec (step (recoveryServer plainPlatform)) ⟨{ tables := oneAccount }, []⟩
        (issuesCode ++ [startsReset "first"] ++ List.replicate 4 (.advance 1 (.reset {})) ++
          [.start (.request ⟨"raju@example.com"⟩ 60000)] ++
          List.replicate 5 (.advance 2 (.request { draw := 7, id := "w" })))).any fun s =>
            ¬ RedeemsLive s (.advance 1 (.reset {})) := by
      decide +kernel
    obtain ⟨s, run, retired⟩ := exec_any reached
    exact of_decide_eq_true retired (live _ _ _ _ _ rfl run)

end ElectroSync
