import Mathlib.Algebra.BigOperators.Group.List.Basic
import Mathlib.Data.List.Dedup
import Mathlib.Data.List.Sort
import Mathlib.Algebra.Ring.Rat

/-!
# Grouping a list by a key

`distinctKeys key l` are the keys that occur in `l`, in ascending order, and `group key k l` is the
part of `l` with key `k`: the relation `GROUP BY key ORDER BY key`. Summing within the groups and
then over them is summing the whole list.
-/

namespace Grouping

variable [LinearOrder κ] {key : β → κ} {f : β → ℚ} {l : List β}

/-- The keys that occur in `l`, each once, in ascending order. -/
def distinctKeys (key : β → κ) (l : List β) : List κ :=
  (l.map key).dedup.insertionSort (· ≤ ·)

def group (key : β → κ) (k : κ) (l : List β) : List β := l.filter fun x => key x = k

/-- The sum of `f` over the elements with key `k`. -/
def groupSum (key : β → κ) (f : β → ℚ) (k : κ) (l : List β) : ℚ := ((group key k l).map f).sum

theorem mem_distinctKeys : k ∈ distinctKeys key l ↔ ∃ x ∈ l, key x = k := by
  simp [distinctKeys]

theorem nodup_distinctKeys : (distinctKeys key l).Nodup :=
  (List.perm_insertionSort (· ≤ ·) _).nodup_iff.mpr (List.nodup_dedup _)

theorem pairwise_distinctKeys : (distinctKeys key l).Pairwise (· < ·) := by
  have sorted : (distinctKeys key l).Pairwise (· ≤ ·) := List.pairwise_insertionSort _ _
  exact (sorted.and nodup_distinctKeys).imp fun h => lt_of_le_of_ne h.1 h.2

@[simp] theorem groupSum_nil : groupSum key f k [] = 0 := rfl

theorem groupSum_cons (x : β) :
    groupSum key f k (x :: l) = (if key x = k then f x else 0) + groupSum key f k l := by
  by_cases h : key x = k <;> simp [groupSum, group, h]

theorem groupSum_append (l l' : List β) :
    groupSum key f k (l ++ l') = groupSum key f k l + groupSum key f k l' := by
  simp [groupSum, group]

theorem groupSum_map (g : γ → β) (l : List γ) :
    groupSum key f k (l.map g) = groupSum (fun c => key (g c)) (fun c => f (g c)) k l := by
  simp [groupSum, group, List.filter_map, Function.comp_def]

theorem groupSum_flatMap (g : γ → List β) (l : List γ) :
    groupSum key f k (l.flatMap g) = (l.map fun c => groupSum key f k (g c)).sum := by
  induction l with
  | nil => rfl
  | cons c l ih => rw [List.flatMap_cons, groupSum_append, ih, List.map_cons, List.sum_cons]

private theorem sum_ite_eq {ks : List κ} (h : ks.Nodup) (k : κ) (v : ℚ) :
    (ks.map fun k' => if k = k' then v else 0).sum = if k ∈ ks then v else 0 := by
  induction ks with
  | nil => rfl
  | cons k' ks ih =>
    obtain ⟨hk', h⟩ := List.nodup_cons.mp h
    rw [List.map_cons, List.sum_cons, ih h]
    by_cases hk : k = k'
    · subst hk
      simp [hk']
    · simp [hk]

/-- Among keys without repetitions, a group has at most one element. -/
theorem groupSum_id {ks : List κ} (hks : ks.Nodup) (g : κ → ℚ) :
    groupSum id g k ks = if k ∈ ks then g k else 0 := by
  induction ks with
  | nil => simp
  | cons k' ks ih =>
    obtain ⟨hk', hks⟩ := List.nodup_cons.mp hks
    rw [groupSum_cons, ih hks]
    by_cases hk : k' = k
    · subst hk
      simp [hk']
    · simp [hk, Ne.symm hk]

/-- A sum in which only the elements of a group count is the sum of the group. -/
theorem sum_map_ite (l : List β) (p : β → Prop) [DecidablePred p] :
    (l.map fun x => if p x then f x else 0).sum = ((l.filter p).map f).sum := by
  induction l with
  | nil => rfl
  | cons x l ih => by_cases hx : p x <;> simp [hx, ih]

/-- Over keys without repetitions, the group sums add up to the elements with one of the keys. -/
theorem sum_groupSum {ks : List κ} (hks : ks.Nodup) (l : List β) :
    (ks.map fun k => groupSum key f k l).sum = ((l.filter fun x => key x ∈ ks).map f).sum := by
  rw [← sum_map_ite]
  induction l with
  | nil => simp
  | cons x l ih =>
    simp only [groupSum_cons, List.map_cons, List.sum_cons]
    rw [List.sum_map_add, sum_ite_eq hks, ih]

/-- The sums of all groups add up to the whole list. -/
theorem sum_distinctKeys (l : List β) :
    ((distinctKeys key l).map fun k => groupSum key f k l).sum = (l.map f).sum := by
  rw [sum_groupSum nodup_distinctKeys]
  congr 2
  exact List.filter_eq_self.mpr fun x mem => decide_eq_true (mem_distinctKeys.mpr ⟨x, mem, rfl⟩)

/-- A key that does not occur adds nothing to a sum over the keys. -/
theorem sum_map_distinctKeys {ks : List κ} (hks : ks.Nodup) (g : κ → ℚ)
    (within : ∀ k ∈ distinctKeys key l, k ∈ ks) (absent : ∀ k ∉ distinctKeys key l, g k = 0) :
    ((distinctKeys key l).map g).sum = (ks.map g).sum := by
  have occurs : ks.map g = ks.map fun k => if k ∈ distinctKeys key l then g k else 0 := by
    apply List.map_congr_left
    intro k _
    split
    · rfl
    · next none => exact absent k none
  rw [occurs, sum_map_ite]
  apply List.Perm.sum_eq
  apply List.Perm.map
  rw [List.perm_ext_iff_of_nodup nodup_distinctKeys (hks.filter _)]
  intro k
  simp only [List.mem_filter, decide_eq_true_eq]
  exact ⟨fun mem => ⟨within k mem, mem⟩, fun mem => mem.2⟩

/-! ## Coarser keys -/

variable [LinearOrder ι]

/-- The sum of a coarse group is the sum over the groups that fall into it. -/
theorem groupSum_coarse (coarse : κ → ι) (w : ι) (l : List β) :
    groupSum (fun x => coarse (key x)) f w l =
      (((distinctKeys key l).filter fun k => coarse k = w).map fun k =>
        groupSum key f k l).sum := by
  rw [sum_groupSum (nodup_distinctKeys.filter _), groupSum, group]
  congr 2
  apply List.filter_congr
  intro x mem
  simp only [List.mem_filter, mem_distinctKeys, decide_eq_true_eq, decide_eq_decide]
  exact (and_iff_right ⟨x, mem, rfl⟩).symm

/-- The keys of a coarse group are the keys that fall into it. -/
theorem length_distinctKeys_coarse (coarse : κ → ι) (w : ι) (l : List β) :
    (distinctKeys key (group (fun x => coarse (key x)) w l)).length =
      ((distinctKeys key l).filter fun k => coarse k = w).length := by
  have same : (distinctKeys key (group (fun x => coarse (key x)) w l)).Perm
      ((distinctKeys key l).filter fun k => coarse k = w) := by
    rw [List.perm_ext_iff_of_nodup nodup_distinctKeys (nodup_distinctKeys.filter _)]
    intro k
    simp only [mem_distinctKeys, group, List.mem_filter, decide_eq_true_eq]
    constructor
    · rintro ⟨x, ⟨mem, falls⟩, rfl⟩
      exact ⟨⟨x, mem, rfl⟩, falls⟩
    · rintro ⟨⟨x, mem, rfl⟩, falls⟩
      exact ⟨x, ⟨mem, falls⟩, rfl⟩
  exact same.length_eq

theorem mem_distinctKeys_coarse {coarse : κ → ι} :
    w ∈ distinctKeys (fun x => coarse (key x)) l ↔ ∃ k ∈ distinctKeys key l, coarse k = w := by
  simp only [mem_distinctKeys]
  constructor
  · rintro ⟨x, mem, rfl⟩
    exact ⟨key x, ⟨x, mem, rfl⟩, rfl⟩
  · rintro ⟨_, ⟨x, mem, rfl⟩, rfl⟩
    exact ⟨x, mem, rfl⟩

end Grouping
