import Mathlib.Data.Rat.Floor
import Mathlib.Algebra.BigOperators.Group.List.Basic
import Mathlib.Tactic.FieldSimp
import Mathlib.Tactic.Linarith
import Mathlib.Tactic.Ring

/-!
# Rounding to a fixed number of decimals

`roundHalfUp` is the rounding to the nearest integer that sends a half up, and `roundTo dp` applies
it at `dp` decimals. `Decimal dp v` says that `v` is a multiple of `10⁻ᵈᵖ`; the decimals of a
precision are closed under sums, and rounding leaves them alone.
-/

namespace Rounding

/-- The nearest integer, a half going up. -/
def roundHalfUp (v : ℚ) : ℤ := ⌊v + 1 / 2⌋

/-- The nearest multiple of `10⁻ᵈᵖ`, a half going up. -/
def roundTo (dp : ℕ) (v : ℚ) : ℚ := roundHalfUp (v * 10 ^ dp) / 10 ^ dp

/-- `v` is a multiple of `10⁻ᵈᵖ`. -/
def Decimal (dp : ℕ) (v : ℚ) : Prop := ∃ n : ℤ, v = n / 10 ^ dp

@[simp] theorem roundHalfUp_intCast (n : ℤ) : roundHalfUp n = n := by
  rw [roundHalfUp, Int.floor_eq_iff]
  constructor <;> linarith

theorem le_roundHalfUp_iff {n : ℤ} : n ≤ roundHalfUp v ↔ n ≤ v + 1 / 2 := Int.le_floor

theorem roundHalfUp_lt_iff {n : ℤ} : roundHalfUp v < n ↔ v + 1 / 2 < n := Int.floor_lt

theorem roundHalfUp_le (v : ℚ) : roundHalfUp v ≤ v + 1 / 2 := Int.floor_le _

theorem lt_roundHalfUp (v : ℚ) : v - 1 / 2 < roundHalfUp v := by
  have := Int.lt_floor_add_one (v + 1 / 2)
  rw [roundHalfUp]
  linarith

theorem roundHalfUp_mono (h : v ≤ w) : roundHalfUp v ≤ roundHalfUp w :=
  Int.floor_le_floor (by linarith)

theorem decimal_roundTo (dp : ℕ) (v : ℚ) : Decimal dp (roundTo dp v) := ⟨_, rfl⟩

theorem Decimal.roundTo_eq (h : Decimal dp v) : roundTo dp v = v := by
  obtain ⟨n, rfl⟩ := h
  have h10 : (10 : ℚ) ^ dp ≠ 0 := by positivity
  rw [roundTo, div_mul_cancel₀ _ h10, roundHalfUp_intCast]

instance (dp : ℕ) (v : ℚ) : Decidable (Decimal dp v) :=
  decidable_of_iff (roundTo dp v = v) ⟨fun h => h ▸ decimal_roundTo dp v, Decimal.roundTo_eq⟩

theorem roundTo_le (dp : ℕ) (v : ℚ) : roundTo dp v ≤ v + 1 / (2 * 10 ^ dp) := by
  have nearest := roundHalfUp_le (v * 10 ^ dp)
  have scale : (0 : ℚ) < 10 ^ dp := by positivity
  rw [roundTo, div_le_iff₀ scale]
  calc _ ≤ v * 10 ^ dp + 1 / 2 := nearest
    _ = _ := by field_simp

theorem lt_roundTo (dp : ℕ) (v : ℚ) : v < roundTo dp v + 1 / (2 * 10 ^ dp) := by
  have nearest := lt_roundHalfUp (v * 10 ^ dp)
  have scale : (0 : ℚ) < 10 ^ dp := by positivity
  rw [roundTo, ← mul_lt_mul_iff_of_pos_right scale]
  calc v * 10 ^ dp < roundHalfUp (v * 10 ^ dp) + 1 / 2 := by linarith
    _ = _ := by field_simp

/-- Two decimals of one precision differ by a unit of it. -/
theorem Decimal.add_le_of_lt (hv : Decimal dp v) (hw : Decimal dp w) (h : v < w) :
    v + 1 / 10 ^ dp ≤ w := by
  obtain ⟨m, rfl⟩ := hv
  obtain ⟨n, rfl⟩ := hw
  have scale : (0 : ℚ) < 10 ^ dp := by positivity
  rw [div_lt_div_iff_of_pos_right scale] at h
  rw [← add_div, div_le_div_iff_of_pos_right scale]
  exact_mod_cast h

theorem Decimal.zero : Decimal dp 0 := ⟨0, by simp⟩

theorem Decimal.add (hv : Decimal dp v) (hw : Decimal dp w) : Decimal dp (v + w) := by
  obtain ⟨m, rfl⟩ := hv
  obtain ⟨n, rfl⟩ := hw
  exact ⟨m + n, by push_cast; ring⟩

theorem Decimal.sub (hv : Decimal dp v) (hw : Decimal dp w) : Decimal dp (v - w) := by
  obtain ⟨m, rfl⟩ := hv
  obtain ⟨n, rfl⟩ := hw
  exact ⟨m - n, by push_cast; ring⟩

theorem Decimal.sum {l : List ℚ} (h : ∀ v ∈ l, Decimal dp v) : Decimal dp l.sum := by
  induction l with
  | nil => exact .zero
  | cons v l ih =>
    rw [List.sum_cons]
    exact (h v List.mem_cons_self).add (ih fun w hw => h w (List.mem_cons_of_mem _ hw))

end Rounding
