import ElectroSync.Library.Run
import Mathlib.Algebra.GroupWithZero.Nat

/-!
# Interleaved processes

Processes over a shared state. A process is its continuation: `next shared p chance` is what its
next atomic step does, `none` when it has ended. Processes are named by their place in the order in
which they started, and any process that has not ended may move next.

`solo` runs one process without the others. `Everywhere.set` is the rule of local assertions: an
assertion holds of every process after a step when the moving process establishes it and the step
does not interfere with the other processes. `taken_once` is the rule of linearization points: what
a process takes from the shared state in one step was there when it took that step.
-/

namespace Interleaving
open Transition

structure Program (σ ι ρ χ : Type) where
  init : ι → ρ
  next : σ → ρ → χ → Option (σ × ρ)

structure System (σ ρ : Type) where
  shared : σ
  procs : List ρ := []

inductive Move (ι χ : Type)
  | start (input : ι)
  | advance (i : ℕ) (chance : χ)
  deriving DecidableEq

variable {prog : Program σ ι ρ χ} {s s' : System σ ρ} {shared shared' : σ} {p p' q : ρ} {i j : ℕ}
  {chance : χ} {chances : List χ}

def step (prog : Program σ ι ρ χ) (s : System σ ρ) : Move ι χ → Option (System σ ρ)
  | .start input => some { s with procs := s.procs ++ [prog.init input] }
  | .advance i chance =>
    match s.procs[i]? with
    | none => none
    | some p => (prog.next s.shared p chance).map fun after => ⟨after.1, s.procs.set i after.2⟩

theorem step_advance (here : s.procs[i]? = some p)
    (next : prog.next s.shared p chance = some (shared', p')) :
    step prog s (.advance i chance) = some ⟨shared', s.procs.set i p'⟩ := by
  simp only [step, here, next, Option.map_some]

/-- All that a process does when it moves. -/
theorem advance_cases (h : step prog s (.advance i chance) = some s') :
    ∃ p shared' p', s.procs[i]? = some p ∧ prog.next s.shared p chance = some (shared', p') ∧
      s' = ⟨shared', s.procs.set i p'⟩ := by
  simp only [step] at h
  split at h
  · cases h
  · next p here =>
    obtain ⟨⟨shared', p'⟩, next, rfl⟩ := Option.map_eq_some_iff.mp h
    exact ⟨p, shared', p', here, next, rfl⟩

/-- What the steps of a process keep, the steps of the system keep of all processes. -/
theorem map_advance {f : ρ → τ}
    (keeps : ∀ {shared p chance shared' p'},
      prog.next shared p chance = some (shared', p') → f p' = f p)
    (h : step prog s (.advance i chance) = some s') : s'.procs.map f = s.procs.map f := by
  obtain ⟨p, shared', p', here, next, rfl⟩ := advance_cases h
  have kept := keeps next
  obtain ⟨bound, rfl⟩ := List.getElem?_eq_some_iff.mp here
  have bound' : i < (s.procs.map f).length := by rwa [List.length_map]
  have same : f s.procs[i] = (s.procs.map f)[i] := (List.getElem_map _).symm
  rw [List.map_set, kept, same, List.set_getElem_self]

/-! ## Local assertions -/

/-- Every process meets `P`, together with the shared state. -/
def Everywhere (P : σ → ρ → Prop) (s : System σ ρ) : Prop :=
  ∀ (i : ℕ) (p : ρ), s.procs[i]? = some p → P s.shared p

theorem Everywhere.nil {P : σ → ρ → Prop} : Everywhere P ⟨shared, []⟩ := by
  intro i p here
  simp at here

theorem Everywhere.start {P : σ → ρ → Prop} (h : Everywhere P s)
    (init : P s.shared (prog.init input)) :
    Everywhere P { s with procs := s.procs ++ [prog.init input] } := by
  intro i p here
  rw [List.getElem?_append] at here
  split at here
  · exact h i p here
  · cases List.mem_singleton.mp (List.mem_of_getElem? here)
    exact init

theorem Everywhere.set {P : σ → ρ → Prop} (h : Everywhere P s) (moved : P shared' p')
    (free : ∀ j q, j ≠ i → s.procs[j]? = some q → P s.shared q → P shared' q) :
    Everywhere P ⟨shared', s.procs.set i p'⟩ := by
  intro j q here
  simp only [List.getElem?_set] at here
  split at here
  · split at here
    · cases here
      exact moved
    · cases here
  · next other => exact free j q (Ne.symm other) here (h j q here)

/-- Every two processes meet `R`. -/
def Apart (R : ρ → ρ → Prop) (s : System σ ρ) : Prop :=
  ∀ (i j : ℕ) (p q : ρ), i ≠ j → s.procs[i]? = some p → s.procs[j]? = some q → R p q

theorem Apart.nil {R : ρ → ρ → Prop} : Apart R ⟨shared, []⟩ := by
  intro i j p q _ here
  simp at here

theorem Apart.start {R : ρ → ρ → Prop} (h : Apart R s) (init : ∀ q, R p q ∧ R q p) :
    Apart R { s with procs := s.procs ++ [p] } := by
  intro i j q q' different here here'
  rw [List.getElem?_append] at here here'
  split at here <;> split at here'
  · exact h i j q q' different here here'
  · cases List.mem_singleton.mp (List.mem_of_getElem? here')
    exact (init q).2
  · cases List.mem_singleton.mp (List.mem_of_getElem? here)
    exact (init q').1
  · next last last' =>
    have bound := (List.getElem?_eq_some_iff.mp here).1
    have bound' := (List.getElem?_eq_some_iff.mp here').1
    simp only [List.length_singleton] at bound bound'
    omega

theorem Apart.set {R : ρ → ρ → Prop} (h : Apart R s)
    (moved : ∀ j q, j ≠ i → s.procs[j]? = some q → R p' q ∧ R q p') :
    Apart R ⟨shared', s.procs.set i p'⟩ := by
  intro j k q q' different here here'
  simp only [List.getElem?_set] at here here'
  split at here <;> split at here'
  · next first second => exact absurd (first.symm.trans second) different
  · next first second =>
    split at here
    · cases here
      exact (moved k q' (Ne.symm second) here').1
    · cases here
  · next first second =>
    split at here'
    · cases here'
      exact (moved j q (Ne.symm first) here).2
    · cases here'
  · exact h j k q q' different here here'

/-! ## Counting processes -/

/-- The number of processes that meet `P`. -/
def tally (P : ρ → Bool) (s : System σ ρ) : ℕ := s.procs.countP P

theorem tally_start {P : ρ → Bool} (init : P p = false) :
    tally P { s with procs := s.procs ++ [p] } = tally P s := by
  simp only [tally, List.countP_append, List.countP_singleton, init]
  rfl

/-- A process that moves is counted where it was before and where it is after. -/
theorem tally_set (P : ρ → Bool) (here : s.procs[i]? = some p) :
    tally P (⟨shared', s.procs.set i p'⟩ : System σ ρ) + (P p).toNat =
      tally P s + (P p').toNat := by
  obtain ⟨bound, rfl⟩ := List.getElem?_eq_some_iff.mp here
  have positive : P s.procs[i] = true → 0 < s.procs.countP P := fun meets =>
    List.countP_pos_iff.mpr ⟨_, List.getElem_mem bound, meets⟩
  simp only [tally, List.countP_set bound]
  cases before : P s.procs[i] with
  | false => cases P p' <;> rfl
  | true =>
    have := positive before
    cases P p' <;>
      simp only [if_true, Bool.toNat_true, Bool.toNat_false, Bool.false_eq_true, if_false] <;> omega

/-- When each process that meets `P` meets one of `Q` and `R`, and not both. -/
theorem tally_add {P Q R : ρ → Bool} (split : ∀ p, (P p).toNat = (Q p).toNat + (R p).toNat)
    (s : System σ ρ) : tally P s = tally Q s + tally R s := by
  simp only [tally]
  induction s.procs with
  | nil => rfl
  | cons p procs ih =>
    have head (S : ρ → Bool) : (p :: procs).countP S = procs.countP S + (S p).toNat := by
      cases meets : S p <;> simp [meets]
    rw [head, head, head, ih, split]
    omega

theorem exists_of_tally_pos {P : ρ → Bool} (pos : 0 < tally P s) :
    ∃ (i : ℕ) (p : ρ), s.procs[i]? = some p ∧ P p = true := by
  obtain ⟨p, member, meets⟩ := List.countP_pos_iff.mp pos
  obtain ⟨i, here⟩ := List.getElem?_of_mem member
  exact ⟨i, p, here, meets⟩

/-! ## Gathering from the processes -/

/-- What `f` reads of the processes. -/
def gather (f : ρ → Option τ) (s : System σ ρ) : List τ := s.procs.filterMap f

theorem gather_start {f : ρ → Option τ} (init : f p = none) :
    gather f { s with procs := s.procs ++ [p] } = gather f s := by
  simp only [gather, List.filterMap_append, List.filterMap_cons, init, List.filterMap_nil,
    List.append_nil]

theorem filterMap_set_perm (f : ρ → Option τ) {procs : List ρ} (here : procs[i]? = some p) :
    ((procs.set i p').filterMap f ++ (f p).toList).Perm (procs.filterMap f ++ (f p').toList) := by
  have head (q : ρ) (procs : List ρ) :
      (q :: procs).filterMap f = (f q).toList ++ procs.filterMap f := by
    cases read : f q <;> simp [read]
  induction procs generalizing i with
  | nil => cases here
  | cons q procs ih =>
    cases i with
    | zero =>
      cases here
      rw [List.set_cons_zero, head, head, List.append_assoc, List.append_assoc]
      apply List.perm_append_comm.trans
      rw [← List.append_assoc (f p).toList]
      exact List.perm_append_comm.append_right _
    | succ i =>
      rw [List.set_cons_succ, head, head, List.append_assoc, List.append_assoc]
      exact (ih here).append_left _

/-- As `tally_set`: what is read of a process that moves changes from what it was before to what it
is after. -/
theorem gather_set (f : ρ → Option τ) (here : s.procs[i]? = some p) :
    (gather f (⟨shared', s.procs.set i p'⟩ : System σ ρ) ++ (f p).toList).Perm
      (gather f s ++ (f p').toList) :=
  filterMap_set_perm f here

/-! ## Variants -/

/-- What the processes have left to do, when `variant` says it of each. -/
def left (variant : ρ → ℕ) (s : System σ ρ) : ℕ := (s.procs.map variant).sum

/-- A variant that its own step decreases is decreased by every step of the system. -/
theorem left_advance {variant : ρ → ℕ}
    (decreases : ∀ {shared p chance shared' p'},
      prog.next shared p chance = some (shared', p') → variant p' < variant p)
    (h : step prog s (.advance i chance) = some s') : left variant s' < left variant s := by
  obtain ⟨p, shared', p', here, next, rfl⟩ := advance_cases h
  have less := decreases next
  obtain ⟨bound, rfl⟩ := List.getElem?_eq_some_iff.mp here
  have split (q : ρ) : ((s.procs.set i q).map variant).sum =
      ((s.procs.take i).map variant).sum +
        (variant q + ((s.procs.drop (i + 1)).map variant).sum) := by
    rw [List.set_eq_take_append_cons_drop, if_pos bound]
    simp
  have before := split s.procs[i]
  rw [List.set_getElem_self] at before
  simp only [left]
  rw [split, before]
  omega

/-! ## Linearization points -/

/-- A process takes a value in one of its steps, and keeps it from then on. Where `Takes` says what
it takes of the shared state, the state from which it took that step was one to take the value from,
and it had not yet taken any. -/
theorem taken_once {Inv : System σ ρ → Prop} {s₀ : System σ ρ} {v : τ} {tr : List (Move ι χ)}
    (call : ρ → κ) (taken : ρ → Option τ) (Takes : σ → χ → ρ → τ → Prop) (empty : s₀.procs = [])
    (inv : ∀ {tr s}, Run (Enabled (step prog)) s₀ tr s → Inv s)
    (init : ∀ input, taken (prog.init input) = none)
    (next : ∀ {s p chance shared' p'} {i : ℕ}, Inv s → s.procs[i]? = some p →
      prog.next s.shared p chance = some (shared', p') →
      call p' = call p ∧ (taken p' = taken p ∨
        taken p = none ∧ ∃ v, taken p' = some v ∧ Takes s.shared chance p v))
    (h : Run (Enabled (step prog)) s₀ tr s) (here : s.procs[i]? = some p)
    (took : taken p = some v) :
    Once (Enabled (step prog)) s₀ (fun before move => ∃ p₀ chance, move = .advance i chance ∧
      before.procs[i]? = some p₀ ∧ call p₀ = call p ∧ taken p₀ = none ∧
        Takes before.shared chance p₀ v) tr := by
  refine h.invariantTrace (P := fun tr s => ∀ (i : ℕ) (p : ρ) (v : τ), s.procs[i]? = some p →
    taken p = some v → Once (Enabled (step prog)) s₀ (fun before move => ∃ p₀ chance,
      move = .advance i chance ∧ before.procs[i]? = some p₀ ∧ call p₀ = call p ∧
        taken p₀ = none ∧ Takes before.shared chance p₀ v) tr) ?_ ?_ i p v here took
  · intro i p v here
    rw [empty] at here
    simp at here
  · intro tr s move s' run once hstep j q v here took
    cases move with
    | start input =>
      cases hstep
      rw [List.getElem?_append] at here
      split at here
      · exact (once j q v here took).snoc
      · cases List.mem_singleton.mp (List.mem_of_getElem? here)
        rw [init] at took
        cases took
    | advance k chance =>
      obtain ⟨p, shared', p', moving, moved, rfl⟩ := advance_cases hstep
      simp only [List.getElem?_set] at here
      split at here
      · next same =>
        subst same
        split at here
        · cases here
          obtain ⟨sameCall, kept | ⟨untaken, w, takes, taken⟩⟩ := next (inv run) moving moved
          · rw [sameCall]
            exact (once k p v moving (kept ▸ took)).snoc
          · obtain rfl : w = v := Option.some.inj (takes.symm.trans took)
            exact run.once hstep ⟨p, chance, rfl, moving, sameCall.symm, untaken, taken⟩
        · cases here
      · exact (once j q v here took).snoc

/-! ## One process alone -/

/-- The steps of one process, without the others. -/
def solo (prog : Program σ ι ρ χ) : σ → ρ → List χ → Option (σ × ρ)
  | shared, p, [] => some (shared, p)
  | shared, p, chance :: chances =>
    (prog.next shared p chance).bind fun after => solo prog after.1 after.2 chances

@[simp] theorem solo_nil : solo prog shared p [] = some (shared, p) := rfl

theorem solo_cons (next : prog.next shared p chance = some (shared', p')) :
    solo prog shared p (chance :: chances) = solo prog shared' p' chances := by
  simp only [solo, next, Option.bind_some]

theorem exec_solo (here : s.procs[i]? = some p)
    (alone : solo prog s.shared p chances = some (shared', p')) :
    exec (step prog) s (chances.map (.advance i)) = some ⟨shared', s.procs.set i p'⟩ := by
  induction chances generalizing s p with
  | nil =>
    cases alone
    obtain ⟨bound, rfl⟩ := List.getElem?_eq_some_iff.mp here
    simp only [List.map_nil, exec, List.set_getElem_self]
  | cons chance chances ih =>
    obtain ⟨⟨shared₁, p₁⟩, next, alone⟩ := Option.bind_eq_some_iff.mp alone
    obtain ⟨bound, -⟩ := List.getElem?_eq_some_iff.mp here
    have moved : (s.procs.set i p₁)[i]? = some p₁ := List.getElem?_set_self bound
    simp only [List.map_cons, exec, step_advance here next, Option.bind_some]
    rw [ih (s := ⟨shared₁, s.procs.set i p₁⟩) moved alone]
    simp only [List.set_set]

/-- A process that starts and then runs alone. -/
theorem exec_start_solo
    (alone : solo prog s.shared (prog.init input) chances = some (shared', p')) :
    exec (step prog) s (.start input :: chances.map (.advance s.procs.length)) =
      some ⟨shared', s.procs ++ [p']⟩ := by
  have here : (s.procs ++ [prog.init input])[s.procs.length]? = some (prog.init input) := by simp
  simp only [exec, step, Option.bind_some]
  rw [exec_solo (s := { s with procs := s.procs ++ [prog.init input] }) here alone]
  simp

end Interleaving
