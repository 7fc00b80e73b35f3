import Mathlib.Data.List.Basic
import Mathlib.Order.Bounds.Basic
import Mathlib.Data.Nat.Basic
import Mathlib.Tactic.SplitIfs

/-!
# Filling parts in order

Items of some cost go, in their order, into parts of one size, and none is divided. Putting each
item into the part at hand, and opening a new part only where it does not fit, needs the fewest
parts of any cut. What it leaves free at the ends of parts says how far the number is from the
total over the size.
-/

namespace Filling
variable {α : Type*} (cost : α → ℕ) (size : ℕ)

def weight : List α → ℕ
  | [] => 0
  | a :: rest => cost a + weight rest

/-- The parts that are opened for the items when the part at hand has `room` left. -/
def opened (room : ℕ) : List α → ℕ
  | [] => 0
  | a :: rest =>
    if cost a ≤ room then opened (room - cost a) rest else opened (size - cost a) rest + 1

/-- What stays free at the ends of the parts that an item did not fit into. -/
def gaps (room : ℕ) : List α → ℕ
  | [] => 0
  | a :: rest =>
    if cost a ≤ room then gaps (room - cost a) rest else gaps (size - cost a) rest + room

/-- The parts are within the size, and are the items in their order. -/
structure Cut (items : List α) (parts : List (List α)) : Prop where
  together : parts.flatten = items
  fits : ∀ part ∈ parts, weight cost part ≤ size

variable {cost size} {items : List α} {room other : ℕ} {parts : List (List α)}

@[simp] theorem weight_nil : weight cost ([] : List α) = 0 := rfl

@[simp] theorem weight_cons (a : α) (part : List α) :
    weight cost (a :: part) = cost a + weight cost part := rfl

theorem cost_le_weight {a : α} {part : List α} (member : a ∈ part) :
    cost a ≤ weight cost part := by
  induction part with
  | nil => cases member
  | cons b part ih =>
    rw [weight_cons]
    rcases List.mem_cons.mp member with rfl | member
    · exact Nat.le_add_right _ _
    · exact (ih member).trans (Nat.le_add_left _ _)

/-- A loop that adds up the costs. -/
theorem foldl_weight (part : List α) (start : ℕ) :
    part.foldl (fun total a => total + cost a) start = start + weight cost part := by
  induction part generalizing start with
  | nil => rfl
  | cons a part ih => rw [List.foldl_cons, ih, weight_cons, Nat.add_assoc]

/-! ## More room needs no more parts -/

/-- More room opens no more parts, and a whole part in its place opens at most one less. -/
theorem opened_le (small : ∀ a ∈ items, cost a ≤ size) :
    (∀ room other, other ≤ room → opened cost size room items ≤ opened cost size other items) ∧
    ∀ room other, other ≤ size →
      opened cost size room items ≤ opened cost size other items + 1 := by
  induction items with
  | nil => exact ⟨fun _ _ _ => le_rfl, fun _ _ _ => Nat.zero_le _⟩
  | cons a rest ih =>
    obtain ⟨more, fresh⟩ := ih fun b member => small b (List.mem_cons_of_mem a member)
    have fit := small a List.mem_cons_self
    refine ⟨fun room other h => ?_, fun room other h => ?_⟩
    · simp only [opened]
      split_ifs with here there
      · exact more _ _ (by omega)
      · exact fresh _ _ (by omega)
      · omega
      · exact le_rfl
    · simp only [opened]
      split_ifs with here there
      · exact fresh _ _ (by omega)
      · have := fresh (room - cost a) (size - cost a) (by omega)
        omega
      · have := more (size - cost a) (other - cost a) (by omega)
        omega
      · omega

/-- A part that fits leaves the rest of its room. -/
theorem opened_append {part : List α} (fit : weight cost part ≤ room) (rest : List α) :
    opened cost size room (part ++ rest) = opened cost size (room - weight cost part) rest := by
  induction part generalizing room with
  | nil => rfl
  | cons a part ih =>
    rw [weight_cons] at fit
    rw [List.cons_append, opened, if_pos (by omega), ih (by omega), weight_cons, Nat.sub_sub]

/-- No cut has fewer parts. -/
theorem Cut.opened_le (cut : Cut cost size items parts) (room : ℕ) :
    opened cost size room items ≤ parts.length := by
  obtain ⟨rfl, fits⟩ := cut
  induction parts generalizing room with
  | nil => exact le_rfl
  | cons part rest ih =>
    have fit := fits part List.mem_cons_self
    have small : ∀ a ∈ (part :: rest).flatten, cost a ≤ size := by
      intro a member
      obtain ⟨p, chosen, inside⟩ := List.mem_flatten.mp member
      exact (cost_le_weight inside).trans (fits p chosen)
    calc opened cost size room (part :: rest).flatten
        ≤ opened cost size size (part :: rest).flatten + 1 :=
          (Filling.opened_le small).2 room size le_rfl
      _ = opened cost size (size - weight cost part) rest.flatten + 1 := by
          rw [List.flatten_cons, opened_append fit]
      _ ≤ rest.length + 1 := Nat.add_le_add_right
          (ih _ fun p member => fits p (List.mem_cons_of_mem part member)) 1

/-! ## Filling in order is a cut -/

/-- What goes into the part at hand, and the parts that are opened. -/
theorem exists_filled (small : ∀ a ∈ items, cost a ≤ size) (room : ℕ) :
    ∃ (first : List α) (parts : List (List α)), items = first ++ parts.flatten ∧
      weight cost first ≤ room ∧ (∀ part ∈ parts, weight cost part ≤ size) ∧
      parts.length = opened cost size room items := by
  induction items generalizing room with
  | nil => exact ⟨[], [], rfl, Nat.zero_le _, nofun, rfl⟩
  | cons a rest ih =>
    have fit := small a List.mem_cons_self
    replace ih := ih fun b member => small b (List.mem_cons_of_mem a member)
    rw [opened]
    split
    · next here =>
      obtain ⟨first, parts, rfl, light, fits, count⟩ := ih (room - cost a)
      exact ⟨a :: first, parts, rfl, by rw [weight_cons]; omega, fits, count⟩
    · obtain ⟨first, parts, rfl, light, fits, count⟩ := ih (size - cost a)
      refine ⟨[], (a :: first) :: parts, rfl, Nat.zero_le _, ?_, congrArg (· + 1) count⟩
      refine List.forall_mem_cons.mpr ⟨?_, fits⟩
      rw [weight_cons]
      omega

theorem exists_cut (positive : ∀ a ∈ items, 0 < cost a) (small : ∀ a ∈ items, cost a ≤ size) :
    ∃ parts, Cut cost size items parts ∧ parts.length = opened cost size 0 items := by
  obtain ⟨first, parts, joined, light, fits, count⟩ := exists_filled small 0
  cases first with
  | nil => exact ⟨parts, ⟨joined.symm, fits⟩, count⟩
  | cons a first =>
    have := positive a (joined ▸ List.mem_cons_self)
    rw [weight_cons] at light
    omega

/-- Filling in order cuts the items into the fewest parts. -/
theorem isLeast_opened (positive : ∀ a ∈ items, 0 < cost a)
    (small : ∀ a ∈ items, cost a ≤ size) :
    IsLeast {n | ∃ parts, Cut cost size items parts ∧ parts.length = n}
      (opened cost size 0 items) := by
  refine ⟨exists_cut positive small, ?_⟩
  rintro _ ⟨parts, cut, rfl⟩
  exact cut.opened_le 0

/-! ## The number of parts from what stays free -/

/-- The room of all the parts is what the items take, what stays free at the ends, and what the
last part has left. -/
theorem room_eq (positive : ∀ a ∈ items, 0 < cost a) (small : ∀ a ∈ items, cost a ≤ size)
    (hroom : room < size) :
    ∃ left < size, room + size * opened cost size room items =
      weight cost items + gaps cost size room items + left := by
  induction items generalizing room with
  | nil => exact ⟨room, hroom, by simp [opened, gaps]⟩
  | cons a rest ih =>
    have fit := small a List.mem_cons_self
    have takes := positive a List.mem_cons_self
    replace ih := fun room => @ih room
      (fun b member => positive b (List.mem_cons_of_mem a member))
      (fun b member => small b (List.mem_cons_of_mem a member))
    simp only [opened, gaps, weight_cons]
    split
    · obtain ⟨left, hleft, total⟩ := ih (room - cost a) (by omega)
      exact ⟨left, hleft, by omega⟩
    · obtain ⟨left, hleft, total⟩ := ih (size - cost a) (by omega)
      refine ⟨left, hleft, ?_⟩
      rw [Nat.mul_succ]
      omega

/-- A total with what a full division leaves of the last part. -/
theorem size_mul_ceil (hsize : 0 < size) (n : ℕ) :
    size * ((n + size - 1) / size) = n + (size - n % size) % size := by
  have whole := Nat.div_add_mod n size
  have bound := Nat.mod_lt n hsize
  rcases Nat.eq_zero_or_pos (n % size) with divides | rests
  · have ceil : (n + size - 1) / size = n / size := by
      rw [show n + size - 1 = size - 1 + size * (n / size) by omega,
        Nat.add_mul_div_left _ _ hsize, Nat.div_eq_of_lt (by omega), Nat.zero_add]
    rw [ceil, divides, Nat.sub_zero, Nat.mod_self]
    omega
  · have ceil : (n + size - 1) / size = n / size + 1 := by
      rw [show n + size - 1 = n % size - 1 + size * (n / size + 1) by rw [Nat.mul_succ]; omega,
        Nat.add_mul_div_left _ _ hsize, Nat.div_eq_of_lt (by omega), Nat.zero_add]
    rw [ceil, Nat.mod_eq_of_lt (by omega), Nat.mul_succ]
    omega

theorem ceil_le_opened (positive : ∀ a ∈ items, 0 < cost a) (small : ∀ a ∈ items, cost a ≤ size)
    (hsize : 0 < size) :
    (weight cost items + size - 1) / size ≤ opened cost size 0 items := by
  obtain ⟨left, hleft, total⟩ := room_eq positive small hsize
  have ceil := size_mul_ceil hsize (weight cost items)
  have short := Nat.mod_lt (size - weight cost items % size) hsize
  refine Nat.le_of_lt_succ (Nat.lt_of_mul_lt_mul_left (a := size) ?_)
  rw [Nat.mul_succ]
  omega

/-- The total over the size, rounded up, is the number of parts exactly when what stays free at the
ends fits into what a full division leaves of the last part. -/
theorem opened_eq_iff (positive : ∀ a ∈ items, 0 < cost a) (small : ∀ a ∈ items, cost a ≤ size)
    (hsize : 0 < size) :
    opened cost size 0 items = (weight cost items + size - 1) / size ↔
      gaps cost size 0 items ≤ (size - weight cost items % size) % size := by
  obtain ⟨left, hleft, total⟩ := room_eq positive small hsize
  have ceil := size_mul_ceil hsize (weight cost items)
  have short := Nat.mod_lt (size - weight cost items % size) hsize
  constructor
  · intro same
    rw [same, ceil] at total
    omega
  · intro few
    refine le_antisymm ?_ (ceil_le_opened positive small hsize)
    -- one part more would have more room than the items, what is unused and the last part's rest
    refine Nat.le_of_lt_succ (Nat.lt_of_mul_lt_mul_left (a := size) ?_)
    rw [Nat.mul_succ]
    omega

/-- Items of cost one leave nothing free. -/
theorem gaps_of_single (single : ∀ a ∈ items, cost a = 1) : gaps cost size room items = 0 := by
  induction items generalizing room with
  | nil => rfl
  | cons a rest ih =>
    have one := single a List.mem_cons_self
    replace ih := fun room => @ih room fun b member => single b (List.mem_cons_of_mem a member)
    rw [gaps]
    split
    · exact ih _
    · rw [ih]
      omega

end Filling
