import Mathlib.Data.List.Basic
import Mathlib.Data.Nat.Basic
import Mathlib.Tactic.Ring

/-!
# Cutting a list into batches

`batches c l` are the slices of the loop `for (i = 0; i < l.length; i += c) l.slice(i, i + c)`. For
`c` at least one they concatenate to `l`, and none of them is empty or longer than `c`.
-/

namespace Batches

/-- The loop indices `0, c, 2 * c, …` below `n`. -/
def batchStarts (c n : ℕ) : List ℕ := (List.range ((n + c - 1) / c)).map (· * c)

/-- The slices of length `c` of a list; the last one may be shorter. -/
def batches (c : ℕ) (l : List α) : List (List α) :=
  (batchStarts c l.length).map fun i => (l.drop i).take c

theorem batches_nil (c : ℕ) : batches c ([] : List α) = [] := by
  cases c <;> simp [batches, batchStarts, Nat.div_eq_of_lt]

private theorem batchStarts_of_pos {c n : ℕ} (hc : 0 < c) (hn : 0 < n) :
    batchStarts c n = 0 :: (batchStarts c (n - c)).map (· + c) := by
  have hdiv : (n + c - 1) / c = (n - c + c - 1) / c + 1 := by
    rw [← Nat.add_div_right _ hc]
    rcases Nat.lt_or_ge n c with h | h
    · have h1 : n + c - 1 = (n - 1) + c := by omega
      rw [h1, Nat.add_div_right _ hc, Nat.add_div_right _ hc,
        Nat.div_eq_of_lt (by omega : n - 1 < c), Nat.div_eq_of_lt (by omega : n - c + c - 1 < c)]
    · congr 1
      omega
  simp only [batchStarts, hdiv, List.range_succ_eq_map, List.map_cons, List.map_map]
  simp [Function.comp_def, Nat.succ_mul]

/-- The first batch, and the batches of what it leaves. -/
theorem batches_of_pos {c : ℕ} {l : List α} (hc : 0 < c) (hl : l ≠ []) :
    batches c l = l.take c :: batches c (l.drop c) := by
  rw [batches, batchStarts_of_pos hc (List.length_pos_iff.mpr hl)]
  simp [batches, Function.comp_def, Nat.add_comm]

theorem flatten_batches {c : ℕ} (hc : 0 < c) (l : List α) : (batches c l).flatten = l := by
  induction h : l.length using Nat.strong_induction_on generalizing l with
  | _ n ih =>
    rcases eq_or_ne l [] with rfl | hl
    · simp [batches_nil]
    · have hlt : (l.drop c).length < n := by
        have := List.length_pos_iff.mpr hl
        rw [List.length_drop]
        omega
      rw [batches_of_pos hc hl, List.flatten_cons, ih _ hlt _ rfl, List.take_append_drop]

end Batches
