import Mathlib.Order.Interval.Set.Disjoint
import Mathlib.Order.Interval.Set.Basic
import Mathlib.Algebra.BigOperators.Group.List.Basic
import Mathlib.Data.List.Pairwise
import Mathlib.Algebra.Ring.Rat
import Mathlib.Order.CompletePartialOrder

/-!
# Half-open windows over a linear order

A window `(s, e]` is a pair of bounds, read as `Set.Ioc s e`. `Tiles a ws b` says that the windows
`ws`, in order, cut `(a, b]` into pieces: each starts where the one before it stops, and none is
empty. Tiling windows are pairwise disjoint and cover `(a, b]` exactly, and a sum over the points in
`(a, b]` is the sum of the sums over the windows.
-/

namespace Windows

variable [LinearOrder α] {a b c : α} {ws : List (α × α)}

/-- The windows `ws`, in order, cut `(a, b]` into non-empty pieces. -/
def Tiles (a : α) : List (α × α) → α → Prop
  | [], b => a = b
  | (s, e) :: ws, b => s = a ∧ s < e ∧ Tiles e ws b

/-- No two windows share a point. -/
def Separated (ws : List (α × α)) : Prop :=
  ws.Pairwise fun v w => Disjoint (Set.Ioc v.1 v.2) (Set.Ioc w.1 w.2)

namespace Tiles

theorem nil : Tiles a [] a := rfl

theorem le (h : Tiles a ws b) : a ≤ b := by
  induction ws generalizing a with
  | nil => exact le_of_eq h
  | cons w ws ih =>
    obtain ⟨rfl, hlt, h⟩ := h
    exact hlt.le.trans (ih h)

theorem snoc (h : Tiles a ws b) (hlt : b < c) : Tiles a (ws ++ [(b, c)]) c := by
  induction ws generalizing a with
  | nil =>
    cases h
    exact ⟨rfl, hlt, rfl⟩
  | cons w ws ih =>
    obtain ⟨hs, he, h⟩ := h
    exact ⟨hs, he, ih h⟩

/-- A tiling covers its interval, and nothing else. -/
theorem mem_iff (h : Tiles a ws b) (t : α) :
    t ∈ Set.Ioc a b ↔ ∃ w ∈ ws, t ∈ Set.Ioc w.1 w.2 := by
  induction ws generalizing a with
  | nil =>
    cases h
    simp
  | cons w ws ih =>
    obtain ⟨s, e⟩ := w
    obtain ⟨rfl, hlt, h⟩ := h
    simp only [List.mem_cons, exists_eq_or_imp]
    rw [← ih h, ← Set.mem_union, Set.Ioc_union_Ioc_eq_Ioc hlt.le h.le]

theorem subset (h : Tiles a ws b) {w : α × α} (hw : w ∈ ws) : Set.Ioc w.1 w.2 ⊆ Set.Ioc a b :=
  fun t ht => (h.mem_iff t).mpr ⟨w, hw, ht⟩

theorem start_lt (h : Tiles a ws b) {w : α × α} (hw : w ∈ ws) : w.1 < b := by
  induction ws generalizing a with
  | nil => cases hw
  | cons v ws ih =>
    obtain ⟨-, hlt, h⟩ := h
    rcases List.mem_cons.mp hw with rfl | hw
    · exact hlt.trans_le h.le
    · exact ih h hw

theorem eq_nil (h : Tiles a ws a) : ws = [] := by
  cases ws with
  | nil => rfl
  | cons w ws =>
    obtain ⟨rfl, hlt, h⟩ := h
    exact absurd h.le (not_le.mpr hlt)

/-- The pieces of a tiling meet what its interval meets. -/
theorem exists_meets_iff (h : Tiles a ws b) (hab : a < b) {lo hi : α} (hlt : lo < hi) :
    (∃ w ∈ ws, w.1 < hi ∧ lo < w.2) ↔ a < hi ∧ lo < b := by
  induction ws generalizing a with
  | nil =>
    cases h
    exact absurd hab (lt_irrefl _)
  | cons w ws ih =>
    obtain ⟨s, e⟩ := w
    obtain ⟨rfl, hse, h⟩ := h
    simp only [List.mem_cons, exists_eq_or_imp]
    rcases h.le.eq_or_lt with rfl | heb
    · simp [h.eq_nil]
    · rw [ih h heb]
      constructor
      · rintro (⟨hs, he⟩ | ⟨he, hb⟩)
        · exact ⟨hs, he.trans heb⟩
        · exact ⟨hse.trans he, hb⟩
      · rintro ⟨hs, hb⟩
        rcases lt_or_ge lo e with he | he
        · exact .inl ⟨hs, he⟩
        · exact .inr ⟨he.trans_lt hlt, hb⟩

/-- The pieces of a tiling do not overlap. -/
theorem separated (h : Tiles a ws b) : Separated ws := by
  induction ws generalizing a with
  | nil => exact .nil
  | cons w ws ih =>
    obtain ⟨s, e⟩ := w
    obtain ⟨rfl, hlt, h⟩ := h
    refine .cons (fun v hv => ?_) (ih h)
    exact (Set.Ioc_disjoint_Ioc_of_le le_rfl).mono_right (h.subset hv)

end Tiles

/-- A window that starts at or after the end of all the others keeps them apart. -/
theorem Separated.snoc (h : Separated ws) (hle : ∀ w ∈ ws, w.2 ≤ b) : Separated (ws ++ [(b, c)]) :=
  List.pairwise_append.mpr ⟨h, List.pairwise_singleton _ _, fun w hw v hv => by
    cases List.mem_singleton.mp hv
    exact Set.Ioc_disjoint_Ioc_of_le (hle w hw)⟩

theorem Separated.disjoint (h : Separated ws) {v w : α × α} (hv : v ∈ ws) (hw : w ∈ ws)
    (hne : v ≠ w) : Disjoint (Set.Ioc v.1 v.2) (Set.Ioc w.1 w.2) :=
  have : Std.Symm fun v w : α × α => Disjoint (Set.Ioc v.1 v.2) (Set.Ioc w.1 w.2) :=
    ⟨fun _ _ h => h.symm⟩
  List.Pairwise.forall h hv hw hne

/-! ## Sums over the points in a window -/

/-- The sum of `f` over the points of `l` whose key lies in `(a, b]`. -/
def sumWithin (key : β → α) (f : β → ℚ) (l : List β) (a b : α) : ℚ :=
  ((l.filter fun p => a < key p ∧ key p ≤ b).map f).sum

variable {key : β → α} {f : β → ℚ} {l : List β}

theorem sumWithin_cons (p : β) :
    sumWithin key f (p :: l) a b =
      (if a < key p ∧ key p ≤ b then f p else 0) + sumWithin key f l a b := by
  simp only [sumWithin, List.filter_cons, decide_eq_true_eq]
  split <;> simp

@[simp] theorem sumWithin_self : sumWithin key f l a a = 0 := by
  induction l with
  | nil => rfl
  | cons p l ih => rw [sumWithin_cons, ih, if_neg fun h => absurd h.1 (not_lt.mpr h.2), add_zero]

/-- Sums over adjacent windows add up. -/
theorem sumWithin_add (hab : a ≤ b) (hbc : b ≤ c) :
    sumWithin key f l a b + sumWithin key f l b c = sumWithin key f l a c := by
  induction l with
  | nil => simp [sumWithin]
  | cons p l ih =>
    have hsplit : (if a < key p ∧ key p ≤ b then f p else 0) +
        (if b < key p ∧ key p ≤ c then f p else 0) =
        if a < key p ∧ key p ≤ c then f p else 0 := by
      rcases le_or_gt (key p) b with h | h
      · simp [h, h.trans hbc, not_lt.mpr h]
      · simp [h, hab.trans_lt h, not_le.mpr h]
    rw [sumWithin_cons, sumWithin_cons, sumWithin_cons, ← ih, ← hsplit]
    exact add_add_add_comm ..

end Windows
