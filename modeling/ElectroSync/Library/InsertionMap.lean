import Mathlib.Data.List.Induction
import Mathlib.Data.List.Nodup

/-!
# Maps in the order of insertion

The `Map` of JavaScript: a list of entries with distinct keys, in the order in which the keys were
set first. Setting a key again replaces its value in place. A map that is built from a list of
entries holds, of each key, the last one.
-/

structure InsertionMap (κ α : Type) where
  entries : List (κ × α)
  nodup : (entries.map Prod.fst).Nodup

namespace InsertionMap

/-- The entries after setting a key. -/
def setEntry [DecidableEq κ] (k : κ) (v : α) : List (κ × α) → List (κ × α)
  | [] => [(k, v)]
  | entry :: entries =>
    if entry.1 = k then (k, v) :: entries else entry :: setEntry k v entries

variable [DecidableEq κ] {k : κ} {v : α} {entry : κ × α} {entries : List (κ × α)}

theorem keys_setEntry (k : κ) (v : α) (entries : List (κ × α)) :
    (setEntry k v entries).map Prod.fst =
      if k ∈ entries.map Prod.fst then entries.map Prod.fst else entries.map Prod.fst ++ [k] := by
  induction entries with
  | nil => rfl
  | cons first entries ih =>
    by_cases same : first.1 = k
    · rw [setEntry, if_pos same, if_pos (by simp [same]), List.map_cons, List.map_cons, same]
    · rw [setEntry, if_neg same, List.map_cons, ih]
      by_cases known : k ∈ entries.map Prod.fst
      · rw [if_pos known, if_pos (by simp [known]), List.map_cons]
      · rw [if_neg known, if_neg, List.map_cons, List.cons_append]
        rw [List.map_cons, List.mem_cons, not_or]
        exact ⟨Ne.symm same, known⟩

theorem nodup_setEntry (nodup : (entries.map Prod.fst).Nodup) :
    ((setEntry k v entries).map Prod.fst).Nodup := by
  rw [keys_setEntry]
  split
  · exact nodup
  · next fresh =>
    rw [List.nodup_append]
    refine ⟨nodup, List.nodup_singleton k, fun a member b last same => fresh ?_⟩
    rw [List.mem_singleton] at last
    rwa [← last, ← same]

theorem mem_setEntry (nodup : (entries.map Prod.fst).Nodup) :
    entry ∈ setEntry k v entries ↔ entry = (k, v) ∨ entry ∈ entries ∧ entry.1 ≠ k := by
  induction entries with
  | nil => simp [setEntry]
  | cons first entries ih =>
    obtain ⟨fresh, nodup⟩ := List.nodup_cons.mp nodup
    by_cases same : first.1 = k
    · subst same
      rw [setEntry, if_pos rfl, List.mem_cons, List.mem_cons]
      apply or_congr_right
      constructor
      · exact fun member => ⟨.inr member, fun same => fresh (same ▸ List.mem_map_of_mem member)⟩
      · rintro ⟨rfl | member, other⟩
        · exact absurd rfl other
        · exact member
    · rw [setEntry, if_neg same, List.mem_cons, ih nodup, List.mem_cons]
      constructor
      · rintro (rfl | rfl | ⟨member, other⟩)
        · exact .inr ⟨.inl rfl, same⟩
        · exact .inl rfl
        · exact .inr ⟨.inr member, other⟩
      · rintro (rfl | ⟨rfl | member, other⟩)
        · exact .inr (.inl rfl)
        · exact .inl rfl
        · exact .inr (.inr ⟨member, other⟩)

def empty : InsertionMap κ α := ⟨[], List.nodup_nil⟩

def set (map : InsertionMap κ α) (k : κ) (v : α) : InsertionMap κ α :=
  ⟨setEntry k v map.entries, nodup_setEntry map.nodup⟩

def get? (map : InsertionMap κ α) (k : κ) : Option α :=
  (map.entries.find? (·.1 = k)).map Prod.snd

/-- The map after setting the entries of a list one after the other. -/
def ofEntries (entries : List (κ × α)) : InsertionMap κ α :=
  entries.foldl (fun map entry => map.set entry.1 entry.2) empty

variable {map : InsertionMap κ α}

theorem get?_eq_some_iff : map.get? k = some v ↔ (k, v) ∈ map.entries := by
  rw [get?, Option.map_eq_some_iff]
  constructor
  · rintro ⟨entry, found, rfl⟩
    have same := List.find?_some found
    rw [← of_decide_eq_true same]
    exact List.mem_of_find?_eq_some found
  · intro member
    cases found : map.entries.find? (·.1 = k) with
    | none => exact absurd (decide_eq_true rfl) (List.find?_eq_none.mp found (k, v) member)
    | some entry =>
      have same := List.find?_some found
      rw [List.inj_on_of_nodup_map map.nodup (List.mem_of_find?_eq_some found) member
        (of_decide_eq_true same)]
      exact ⟨_, rfl, rfl⟩

theorem mem_set : entry ∈ (map.set k v).entries ↔
    entry = (k, v) ∨ entry ∈ map.entries ∧ entry.1 ≠ k :=
  mem_setEntry map.nodup

theorem ofEntries_snoc (entries : List (κ × α)) (entry : κ × α) :
    ofEntries (entries ++ [entry]) = (ofEntries entries).set entry.1 entry.2 := by
  simp only [ofEntries, List.foldl_append, List.foldl_cons, List.foldl_nil]

/-- What is set is found in the list. -/
theorem mem_of_mem_ofEntries (member : entry ∈ (ofEntries entries).entries) : entry ∈ entries := by
  induction entries using List.reverseRecOn with
  | nil => exact member
  | append_singleton entries last ih =>
    rw [ofEntries_snoc, mem_set] at member
    rcases member with rfl | ⟨member, -⟩
    · simp
    · exact List.mem_append_left _ (ih member)

/-- An entry whose key has no other value in the list is set. -/
theorem mem_ofEntries_of_unique (member : entry ∈ entries)
    (unique : ∀ other ∈ entries, other.1 = entry.1 → other = entry) :
    entry ∈ (ofEntries entries).entries := by
  induction entries using List.reverseRecOn with
  | nil => exact member
  | append_singleton entries last ih =>
    rw [ofEntries_snoc, mem_set]
    by_cases same : entry.1 = last.1
    · exact .inl (unique last (by simp) same.symm).symm
    · refine .inr ⟨ih ?_ fun other old => unique other (List.mem_append_left _ old), same⟩
      rcases List.mem_append.mp member with old | new
      · exact old
      · exact absurd (congrArg Prod.fst (List.mem_singleton.mp new)) same

theorem ofEntries_eq_nil_iff : (ofEntries entries).entries = [] ↔ entries = [] := by
  constructor
  · intro empty
    rcases List.eq_nil_or_concat entries with rfl | ⟨front, last, rfl⟩
    · rfl
    · have member : last ∈ (ofEntries (front ++ [last])).entries := by
        rw [ofEntries_snoc, mem_set]
        exact .inl rfl
      rw [List.concat_eq_append] at empty
      rw [empty] at member
      cases member
  · rintro rfl
    rfl

end InsertionMap
