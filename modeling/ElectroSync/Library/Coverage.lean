import ElectroSync.Library.Windows
import Mathlib.Data.Int.Interval
import Mathlib.Data.Finset.Card

/-!
# How much of an interval is covered by windows

`covered ws lo hi` are the points of `(lo, hi]` that lie in one of the windows `ws`. Separated
windows share no point, so the measure of the covered part is the sum over the windows of the
measure of their part in `(lo, hi]`. What is left are the `uncovered` points.
-/

namespace Windows

variable [LinearOrder α] [LocallyFiniteOrder α] {lo hi : α} {ws : List (α × α)}

/-- The points of `(lo, hi]` that lie in a window. -/
def covered (ws : List (α × α)) (lo hi : α) : Finset α :=
  (Finset.Ioc lo hi).filter fun t => ∃ w ∈ ws, t ∈ Finset.Ioc w.1 w.2

/-- The part of a window in `(lo, hi]`. -/
def within (lo hi : α) (w : α × α) : Finset α := Finset.Ioc (max w.1 lo) (min w.2 hi)

theorem mem_covered {t : α} :
    t ∈ covered ws lo hi ↔ (lo < t ∧ t ≤ hi) ∧ ∃ w ∈ ws, w.1 < t ∧ t ≤ w.2 := by
  simp only [covered, Finset.mem_filter, Finset.mem_Ioc]

theorem mem_within {t : α} {w : α × α} :
    t ∈ within lo hi w ↔ (lo < t ∧ t ≤ hi) ∧ w.1 < t ∧ t ≤ w.2 := by
  simp only [within, Finset.mem_Ioc, max_lt_iff, le_min_iff]
  tauto

theorem covered_cons (w : α × α) (ws : List (α × α)) (lo hi : α) :
    covered (w :: ws) lo hi = within lo hi w ∪ covered ws lo hi := by
  ext t
  simp only [Finset.mem_union, mem_covered, mem_within, List.mem_cons, exists_eq_or_imp,
    ← and_or_left]

theorem card_covered (apart : Separated ws) (lo hi : α) :
    (covered ws lo hi).card = (ws.map fun w => (within lo hi w).card).sum := by
  induction ws with
  | nil => simp [covered]
  | cons w ws ih =>
    obtain ⟨first, apart⟩ := List.pairwise_cons.mp apart
    have disjoint : Disjoint (within lo hi w) (covered ws lo hi) := by
      refine Finset.disjoint_left.mpr fun t inside later => ?_
      obtain ⟨-, v, member, inside'⟩ := mem_covered.mp later
      exact Set.disjoint_left.mp (first v member) (mem_within.mp inside).2 inside'
    rw [covered_cons, Finset.card_union_of_disjoint disjoint, ih apart, List.map_cons,
      List.sum_cons]

/-- The points of `(lo, hi]` that lie in no window. -/
def uncovered (ws : List (α × α)) (lo hi : α) : Finset α :=
  (Finset.Ioc lo hi).filter fun t => ¬∃ w ∈ ws, t ∈ Finset.Ioc w.1 w.2

/-- How many points `(lo, hi]` has. -/
def extent (lo hi : α) : ℕ := (Finset.Ioc lo hi).card

theorem card_covered_add_uncovered (ws : List (α × α)) (lo hi : α) :
    (covered ws lo hi).card + (uncovered ws lo hi).card = extent lo hi :=
  Finset.card_filter_add_card_filter_not _

theorem card_uncovered_eq_zero :
    (uncovered ws lo hi).card = 0 ↔ ∀ t, lo < t → t ≤ hi → ∃ w ∈ ws, w.1 < t ∧ t ≤ w.2 := by
  rw [uncovered, Finset.card_eq_zero, Finset.filter_eq_empty_iff]
  simp only [Finset.mem_Ioc, not_not, and_imp]

theorem extent_int {lo hi : ℤ} (h : lo ≤ hi) : (extent lo hi : ℤ) = hi - lo :=
  Int.card_Ioc_of_le lo hi h

end Windows
