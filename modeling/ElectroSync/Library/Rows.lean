import Mathlib.Data.List.MinMax
import Mathlib.Data.List.Nodup

/-!
# Tables as lists of rows

`updateWhere p f` is the update of the rows that meet `p`, and `filter` the deletion of those that
do not. The columns that an update keeps, and the rows that it does not meet, are as before.
`firstBy key tie` is the first row in the order of a column, where the database chooses among rows
that are equal in it.
-/

namespace Rows

variable {α β : Type*} {p q : α → Bool} {f g : α → α} {rows : List α} {row : α}

def updateWhere (p : α → Bool) (f : α → α) (rows : List α) : List α :=
  rows.map fun row => if p row then f row else row

theorem mem_updateWhere :
    row ∈ updateWhere p f rows ↔ ∃ old ∈ rows, (if p old then f old else old) = row :=
  List.mem_map

/-- A column that the update keeps. -/
theorem keeps_ite {key : α → β} (keeps : ∀ row, key (f row) = key row) (row : α) :
    key (if p row then f row else row) = key row := by
  split
  · exact keeps row
  · rfl

theorem updateWhere_of_none (none_ : ∀ row ∈ rows, p row = false) :
    updateWhere p f rows = rows := by
  refine (List.map_congr_left fun row mem => ?_).trans (List.map_id rows)
  rw [none_ row mem]
  rfl

theorem updateWhere_congr (same : ∀ row ∈ rows, p row = q row) :
    updateWhere p f rows = updateWhere q f rows := by
  apply List.map_congr_left
  intro row mem
  rw [same row mem]

/-- The frame of an update: a selection whose rows it leaves alone, and to which it adds none. -/
theorem filter_map_of_fixed (same : ∀ row ∈ rows, q (f row) = q row)
    (fixed : ∀ row ∈ rows, q row → f row = row) : (rows.map f).filter q = rows.filter q := by
  rw [List.filter_map, List.filter_congr fun row mem => ?_]
  · refine (List.map_congr_left fun row mem => ?_).trans (List.map_id _)
    exact fixed row (List.mem_filter.mp mem).1 (List.mem_filter.mp mem).2
  · exact same row mem

/-- A selection of a column that the update keeps. -/
theorem filter_updateWhere (keeps : ∀ row, q (f row) = q row) (rows : List α) :
    (updateWhere p f rows).filter q = updateWhere p f (rows.filter q) := by
  rw [updateWhere, List.filter_map]
  exact congrArg _ (List.filter_congr fun row _ => keeps_ite keeps row)

/-- An update that takes its rows out of a selection deletes them from it. -/
theorem filter_updateWhere_of_leaves (leaves : ∀ row, p row = true → q (f row) = false)
    (rows : List α) :
    (updateWhere p f rows).filter q = (rows.filter q).filter fun row => !p row := by
  induction rows with
  | nil => rfl
  | cons row rows ih =>
    rw [updateWhere, List.map_cons, ← updateWhere, List.filter_cons, List.filter_cons, ih]
    cases meets : p row with
    | true =>
      rw [if_pos rfl, leaves row meets, if_neg Bool.false_ne_true]
      cases q row with
      | true => rw [if_pos rfl, List.filter_cons, meets]; rfl
      | false => rfl
    | false =>
      rw [if_neg Bool.false_ne_true]
      cases q row with
      | true => rw [if_pos rfl, if_pos rfl, List.filter_cons, meets]; rfl
      | false => rfl

/-- A new row with a key of its own. -/
theorem nodup_map_snoc {key : α → β} (keys : (rows.map key).Nodup)
    (fresh : ∀ old ∈ rows, key old ≠ key row) : ((rows ++ [row]).map key).Nodup := by
  rw [List.map_append]
  refine keys.append (List.nodup_singleton _) (List.disjoint_singleton.mpr fun taken => ?_)
  obtain ⟨old, mem, same⟩ := List.mem_map.mp taken
  exact fresh old mem same

/-- Among rows with distinct keys, a selection that only one row meets. -/
theorem filter_eq_singleton {key : α → β} (keys : (rows.map key).Nodup) (mem : row ∈ rows)
    (meets : q row) (only : ∀ other ∈ rows, q other → other = row) : rows.filter q = [row] := by
  have nodup : (rows.filter q).Nodup := keys.of_map.filter q
  have all : ∀ other ∈ rows.filter q, other = row := by
    intro other mem
    obtain ⟨mem, meets⟩ := List.mem_filter.mp mem
    exact only other mem meets
  have mem : row ∈ rows.filter q := List.mem_filter.mpr ⟨mem, meets⟩
  obtain ⟨n, same⟩ : ∃ n, rows.filter q = List.replicate n row := ⟨_, List.eq_replicate_of_mem all⟩
  rw [same] at nodup mem ⊢
  obtain - | - | n := n
  · cases mem
  · rfl
  · exact absurd nodup (by simp [List.replicate_succ])

/-! ## Rows by key -/

theorem map_key_updateWhere {key : α → β} (keeps : ∀ row, key (f row) = key row) (rows : List α) :
    (updateWhere p f rows).map key = rows.map key := by
  rw [updateWhere, List.map_map]
  exact List.map_congr_left fun row _ => keeps_ite (p := p) keeps row

section Keyed
variable [DecidableEq β] {key : α → β} {k k' : β}

theorem find?_updateWhere (keeps : ∀ row, key (f row) = key row) (rows : List α) :
    (updateWhere p f rows).find? (fun row => key row = k) =
      (rows.find? fun row => key row = k).map fun row => if p row then f row else row := by
  rw [updateWhere, List.find?_map]
  congr 2
  funext row
  exact congrArg (fun k' => decide (k' = k)) (keeps_ite (p := p) keeps row)

/-- What an update of the rows of one key does to the row of that key. -/
theorem find?_updateWhere_self (keeps : ∀ row, key (f row) = key row) (rows : List α) :
    (updateWhere (fun row => key row = k) f rows).find? (fun row => key row = k) =
      (rows.find? fun row => key row = k).map f := by
  rw [find?_updateWhere keeps]
  cases found : rows.find? fun row => key row = k with
  | none => rfl
  | some row =>
    have here : key row = k := by simpa using List.find?_some found
    simp [here]

/-- … and to the row of any other. -/
theorem find?_updateWhere_other (keeps : ∀ row, key (f row) = key row) (other : k' ≠ k)
    (rows : List α) :
    (updateWhere (fun row => key row = k) f rows).find? (fun row => key row = k') =
      rows.find? fun row => key row = k' := by
  rw [find?_updateWhere keeps]
  cases found : rows.find? fun row => key row = k' with
  | none => rfl
  | some row =>
    have here : key row = k' := by simpa using List.find?_some found
    simp [here, other]

end Keyed

/-! ## The first row of an order -/

section FirstBy
variable [LinearOrder β] {key : α → β} {tie : ℕ}

def firstBy (key : α → β) (tie : ℕ) (rows : List α) : Option α :=
  let least := rows.filter fun row => rows.all fun other => key row ≤ key other
  least[tie % least.length]?

theorem firstBy_least (first : firstBy key tie rows = some row) :
    row ∈ rows ∧ ∀ other ∈ rows, key row ≤ key other := by
  obtain ⟨mem, least⟩ := List.mem_filter.mp (List.mem_of_getElem? first)
  exact ⟨mem, by simpa using least⟩

theorem least_ne_nil (nonempty : rows ≠ []) :
    (rows.filter fun row => rows.all fun other => key row ≤ key other) ≠ [] := by
  have exists_ : rows.argmin key ≠ none := mt List.argmin_eq_none.mp nonempty
  obtain ⟨row, least⟩ := Option.ne_none_iff_exists'.mp exists_
  refine List.ne_nil_of_mem (List.mem_filter.mpr ⟨List.argmin_mem least, ?_⟩)
  rw [List.all_eq_true]
  intro other mem
  exact decide_eq_true (List.le_of_mem_argmin mem least)

theorem firstBy_eq_none : firstBy key tie rows = none ↔ rows = [] := by
  constructor
  · intro absent
    by_contra nonempty
    have some_ : (rows.filter fun row => rows.all fun other => key row ≤ key other) ≠ [] :=
      least_ne_nil nonempty
    have bound := Nat.mod_lt tie (List.length_pos_iff.mpr some_)
    exact absurd bound (not_lt.mpr (List.getElem?_eq_none_iff.mp absent))
  · rintro rfl
    rfl

/-- The database may choose any row that comes first. -/
theorem exists_firstBy (mem : row ∈ rows) (least : ∀ other ∈ rows, key row ≤ key other) :
    ∃ tie, firstBy key tie rows = some row := by
  have mem : row ∈ rows.filter fun row => rows.all fun other => key row ≤ key other :=
    List.mem_filter.mpr ⟨mem, by simpa using least⟩
  obtain ⟨tie, bound, here⟩ := List.getElem_of_mem mem
  refine ⟨tie, ?_⟩
  rw [firstBy, Nat.mod_eq_of_lt bound, List.getElem?_eq_getElem bound, here]

end FirstBy

end Rows
