import Mathlib.Data.List.Sort
import Mathlib.Order.Basic

/-!
# Sorting a list by a key

`sortBy key l` is `l` in ascending order of `key`, and `top key n l` are its last `n` elements,
those with the largest keys. When the keys are distinct the order of `l` does not matter, and
elements below the top may be added without a change to it.
-/

namespace KeySort

variable [LinearOrder κ] {key : α → κ} {l l' : List α} {n : ℕ}

/-- `l` in ascending order of `key`. -/
def sortBy (key : α → κ) (l : List α) : List α := l.insertionSort fun a b => key a ≤ key b

/-- The `n` elements with the largest keys, in ascending order. -/
def top (key : α → κ) (n : ℕ) (l : List α) : List α := (sortBy key l).drop (l.length - n)

theorem perm_sortBy (key : α → κ) (l : List α) : (sortBy key l).Perm l :=
  List.perm_insertionSort _ l

@[simp] theorem mem_sortBy : a ∈ sortBy key l ↔ a ∈ l := (perm_sortBy key l).mem_iff

@[simp] theorem length_sortBy : (sortBy key l).length = l.length := (perm_sortBy key l).length_eq

theorem pairwise_sortBy (key : α → κ) (l : List α) :
    (sortBy key l).Pairwise fun a b => key a ≤ key b := by
  have : Std.Total fun a b : α => key a ≤ key b := ⟨fun a b => le_total (key a) (key b)⟩
  have : IsTrans α fun a b : α => key a ≤ key b := ⟨fun _ _ _ => le_trans⟩
  exact List.pairwise_insertionSort _ l

theorem sortBy_eq_of_perm (perm : l.Perm l') (distinct : (l.map key).Nodup) :
    sortBy key l = sortBy key l' := by
  have both : (sortBy key l).Perm (sortBy key l') :=
    (perm_sortBy key l).trans (perm.trans (perm_sortBy key l').symm)
  refine both.eq_of_pairwise ?_ (pairwise_sortBy key l) (pairwise_sortBy key l')
  intro a b ha hb hab hba
  exact List.inj_on_of_nodup_map distinct (mem_sortBy.mp ha)
    (perm.mem_iff.mpr (mem_sortBy.mp hb)) (le_antisymm hab hba)

/-- Changing the elements and not their keys keeps the order. -/
theorem sortBy_map {f : α → α} (keeps : ∀ a, key (f a) = key a) (l : List α) :
    sortBy key (l.map f) = (sortBy key l).map f := by
  refine (List.map_insertionSort _ _ f l ?_).symm
  intro a _ b _
  rw [keeps, keeps]

theorem key_le_last (last : (sortBy key l).getLast? = some a) (mem : b ∈ l) : key b ≤ key a := by
  obtain ⟨init, split⟩ := List.getLast?_eq_some_iff.mp last
  have sorted := pairwise_sortBy key l
  have mem : b ∈ sortBy key l := mem_sortBy.mpr mem
  rw [split] at mem sorted
  rcases List.mem_append.mp mem with before | same
  · exact (List.pairwise_append.mp sorted).2.2 b before a (by simp)
  · rw [List.mem_singleton.mp same]

/-- The element with the largest key comes last. -/
theorem getLast?_of_greatest (distinct : (l.map key).Nodup) (mem : a ∈ l)
    (greatest : ∀ b ∈ l, key b ≤ key a) : (sortBy key l).getLast? = some a := by
  rcases last : (sortBy key l).getLast? with _ | b
  · have empty := List.getLast?_eq_none_iff.mp last
    have : a ∈ sortBy key l := mem_sortBy.mpr mem
    rw [empty] at this
    cases this
  · have member : b ∈ l := mem_sortBy.mp (List.mem_of_getLast? last)
    have same := le_antisymm (greatest b member) (key_le_last last mem)
    rw [List.inj_on_of_nodup_map distinct member mem same]

/-! ## The top -/

theorem getLast?_top (pos : 0 < n) : (top key n l).getLast? = (sortBy key l).getLast? := by
  rw [top, List.getLast?_drop, length_sortBy]
  split
  · next short =>
    have empty : l = [] := List.length_eq_zero_iff.mp (by omega)
    rw [empty]
    rfl
  · rfl

/-- In a sorted list the elements above `x` come after every element that is not. -/
theorem length_above_le {x : κ} (sorted : (front ++ b :: back).Pairwise fun a b => key a ≤ key b)
    (low : key b ≤ x) : ((front ++ b :: back).filter (x < key ·)).length ≤ back.length := by
  have none : front.filter (x < key ·) = [] := by
    apply List.filter_eq_nil_iff.mpr
    intro a mem
    have before := (List.pairwise_append.mp sorted).2.2 a mem b List.mem_cons_self
    simpa using before.trans low
  rw [List.filter_append, none, List.nil_append, List.filter_cons_of_neg (by simpa using low)]
  exact List.length_filter_le ..

/-- A key with `n` elements above it is below the top `n`. -/
theorem lt_of_mem_top {x : κ} (many : n ≤ (l.filter (x < key ·)).length)
    (mem : b ∈ top key n l) : x < key b := by
  by_contra low
  obtain ⟨front, back, split⟩ := List.append_of_mem mem
  have whole := List.take_append_drop (l.length - n) (sortBy key l)
  rw [← top, split, ← List.append_assoc] at whole
  have sorted := pairwise_sortBy key l
  rw [← whole] at sorted
  have few := length_above_le sorted (not_lt.mp low)
  rw [whole, ((perm_sortBy key l).filter _).length_eq] at few
  have size := congrArg List.length split
  rw [top, List.length_drop, length_sortBy, List.length_append, List.length_cons] at size
  omega

theorem orderedInsert_append {r : α → α → Prop} [DecidableRel r] (front : List α)
    (below : ∀ b ∈ back, r a b) :
    List.orderedInsert r a (front ++ back) = List.orderedInsert r a front ++ back := by
  induction front with
  | nil =>
    cases back with
    | nil => rfl
    | cons b back => exact List.orderedInsert_cons_of_le r back (below b List.mem_cons_self)
  | cons b front ih =>
    simp only [List.cons_append, List.orderedInsert_cons, ih]
    split <;> rfl

theorem top_cons (enough : n ≤ l.length) (below : ∀ b ∈ top key n l, key a ≤ key b) :
    top key n (a :: l) = top key n l := by
  have split := List.take_append_drop (l.length - n) (sortBy key l)
  have inserted : sortBy key (a :: l) =
      List.orderedInsert (fun a b => key a ≤ key b) a
        ((sortBy key l).take (l.length - n)) ++ top key n l := by
    rw [← orderedInsert_append _ below, top, split]
    rfl
  have length : (List.orderedInsert (fun a b => key a ≤ key b) a
      ((sortBy key l).take (l.length - n))).length = (a :: l).length - n := by
    rw [List.orderedInsert_length, List.length_take, length_sortBy, List.length_cons]
    omega
  rw [top, inserted, List.drop_left' length]

/-- Elements below the top leave it alone. -/
theorem top_append (older : List α)
    (below : ∀ a ∈ older, n ≤ (l.filter (key a < key ·)).length) :
    top key n (older ++ l) = top key n l := by
  induction older with
  | nil => rfl
  | cons a older ih =>
    have rest := ih fun b mem => below b (List.mem_cons_of_mem _ mem)
    have many := below a List.mem_cons_self
    have enough := many.trans (List.length_filter_le ..)
    rw [List.cons_append, top_cons, rest]
    · rw [List.length_append]
      omega
    · intro b mem
      rw [rest] at mem
      exact (lt_of_mem_top many mem).le

end KeySort
