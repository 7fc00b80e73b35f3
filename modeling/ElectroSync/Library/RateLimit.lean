import Mathlib.Algebra.Order.Group.Unbundled.Abs
import Mathlib.Algebra.Order.Group.Abs
import Mathlib.Data.List.Perm.Basic
import Mathlib.Data.List.Pairwise

/-!
# Rate limits

`Limited gap width n times` says that the instants `times` are pairwise at least `gap` apart, and
that no window `(x, x + width]` holds more than `n` of them. A limiter that admits an instant when
`gap` has passed since all the others, and fewer than `n` of them lie in the window that ends there,
keeps them limited.
-/

namespace RateLimit

variable {α : Type*} [AddCommGroup α] [LinearOrder α] {gap width now : α} {n : ℕ}
  {times times' : List α}

/-- The number of instants in `(x, x + width]`. -/
def inWindow (width x : α) (times : List α) : ℕ :=
  times.countP fun t => x < t ∧ t ≤ x + width

structure Limited (gap width : α) (n : ℕ) (times : List α) : Prop where
  spaced : times.Pairwise fun s t => gap ≤ |s - t|
  few : ∀ x, inWindow width x times ≤ n

namespace Limited

theorem nil : Limited gap width n [] := ⟨.nil, fun _ => Nat.zero_le n⟩

theorem sublist (h : Limited gap width n times) (sub : times'.Sublist times) :
    Limited gap width n times' :=
  ⟨h.spaced.sublist sub, fun x => sub.countP_le.trans (h.few x)⟩

theorem perm (h : Limited gap width n times) (same : times.Perm times') :
    Limited gap width n times' := by
  refine ⟨(same.pairwise_iff ?_).mp h.spaced, fun x => ?_⟩
  · intro s t apart
    rwa [abs_sub_comm]
  · rw [inWindow, ← same.countP_eq]
    exact h.few x

theorem subperm (h : Limited gap width n times) (sub : times'.Subperm times) :
    Limited gap width n times' := by
  obtain ⟨middle, same, sub⟩ := sub
  exact (h.sublist sub).perm same

/-- An instant that comes `gap` after all the others, with room in the window that ends there. -/
theorem cons [IsOrderedAddMonoid α] (h : Limited gap width n times)
    (after : ∀ t ∈ times, t + gap ≤ now) (room : times.countP (fun t => now - width < t) < n) :
    Limited gap width n (now :: times) := by
  refine ⟨.cons ?_ h.spaced, fun x => ?_⟩
  · intro t mem
    have later := after t mem
    rw [← le_sub_iff_add_le'] at later
    exact later.trans (le_abs_self _)
  · by_cases inside : x < now ∧ now ≤ x + width
    · -- every other instant of the window lies in the one that ends now
      have fewer : inWindow width x times ≤ times.countP fun t => now - width < t := by
        apply List.countP_mono_left
        intro t mem window
        simp only [decide_eq_true_eq] at window ⊢
        exact (sub_le_iff_le_add.mpr inside.2).trans_lt window.1
      simp only [inWindow, List.countP_cons, inside, and_self, decide_true, if_true]
      exact Nat.succ_le_of_lt (fewer.trans_lt room)
    · simp only [inWindow, List.countP_cons, inside, decide_false, Bool.false_eq_true, if_false]
      exact h.few x

end Limited

end RateLimit
