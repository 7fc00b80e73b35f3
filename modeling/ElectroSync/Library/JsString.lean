import Mathlib.Data.List.DropRight

/-!
# JavaScript strings

White space as `String.prototype.trim` and the class `\s` of a regular expression have it, and the
number of a text of digits. Trimming is idempotent, and commutes with a map of the characters that
changes no white space, as the small letters of ASCII letters do. The first part of a text that
`split` takes apart is the text before its first separator.
-/

namespace JsString

/-- The white space and line terminator characters of the language. -/
def isSpace (c : Char) : Bool :=
  let n := c.toNat
  (0x9 ≤ n && n ≤ 0xD) || n = 0x20 || n = 0xA0 || n = 0x1680 || (0x2000 ≤ n && n ≤ 0x200A) ||
    n = 0x2028 || n = 0x2029 || n = 0x202F || n = 0x205F || n = 0x3000 || n = 0xFEFF

def trim (s : String) : String :=
  String.ofList ((s.toList.dropWhile isSpace).rdropWhile isSpace)

/-- The part of a string before its first white space. -/
def firstWord (s : String) : String :=
  String.ofList (s.toList.takeWhile fun c => !isSpace c)

/-- `Number(text)` of a text of ASCII digits. -/
def number (text : List Char) : ℕ := text.foldl (fun n c => 10 * n + (c.toNat - '0'.toNat)) 0

/-! ## Trimming -/

/-- Dropping at the end leaves a list as it is at its start. -/
theorem dropWhile_rdropWhile (p : Char → Bool) (l : List Char) :
    ((l.dropWhile p).rdropWhile p).dropWhile p = (l.dropWhile p).rdropWhile p := by
  rw [List.dropWhile_eq_self_iff]
  intro nonempty
  have pre := List.rdropWhile_prefix p (l.dropWhile p)
  rw [pre.getElem nonempty]
  exact List.dropWhile_get_zero_not p l (nonempty.trans_le pre.length_le)

theorem trim_trim (s : String) : trim (trim s) = trim s := by
  simp only [trim, String.toList_ofList]
  rw [dropWhile_rdropWhile, List.rdropWhile_idempotent]

theorem trim_sublist (s : String) : (trim s).toList.Sublist s.toList := by
  rw [trim, String.toList_ofList]
  exact (List.rdropWhile_prefix _ _).sublist.trans (List.dropWhile_sublist _)

theorem trim_map {f : Char → Char} (keeps : ∀ c, isSpace (f c) = isSpace c) (s : String) :
    trim (String.ofList (s.toList.map f)) = String.ofList ((trim s).toList.map f) := by
  have same : isSpace ∘ f = isSpace := funext keeps
  simp only [trim, String.toList_ofList, List.rdropWhile, List.dropWhile_map, same,
    ← List.map_reverse]

/-! ## Small letters -/

theorem toNat_toLower (c : Char) :
    c.toLower.toNat = if 65 ≤ c.toNat ∧ c.toNat ≤ 90 then c.toNat + 32 else c.toNat := by
  have bounds : (c.val ≥ 'A'.val ∧ c.val ≤ 'Z'.val) ↔ (65 ≤ c.toNat ∧ c.toNat ≤ 90) := by
    simp only [ge_iff_le, UInt32.le_iff_toNat_le]
    rfl
  unfold Char.toLower
  split
  · next upper =>
    rw [if_pos (bounds.mp upper)]
    have small := (bounds.mp upper).2
    change (c.val + ('a'.val - 'A'.val)).toNat = c.val.toNat + 32
    rw [UInt32.toNat_add]
    change c.val.toNat ≤ 90 at small
    change (c.val.toNat + 32) % 2 ^ 32 = _
    omega
  · next other => rw [if_neg (mt bounds.mpr other)]

theorem isSpace_toLower (c : Char) : isSpace c.toLower = isSpace c := by
  simp only [isSpace, toNat_toLower]
  split
  · next upper =>
    rw [Bool.eq_iff_iff]
    simp only [Bool.or_eq_true, Bool.and_eq_true, decide_eq_true_eq]
    omega
  · rfl

theorem toLower_toLower (c : Char) : c.toLower.toLower = c.toLower := by
  apply Char.toNat_inj.mp
  rw [toNat_toLower, if_neg]
  rw [toNat_toLower]
  split <;> omega

/-! ## Splitting -/

theorem splitOn_eq_cons_iff {sep : Char} {text word : List Char} {words : List (List Char)} :
    text.splitOn sep = word :: words ↔ sep ∉ word ∧
      (text = word ∧ words = [] ∨
        ∃ rest, text = word ++ sep :: rest ∧ words = rest.splitOn sep) := by
  constructor
  · intro split
    by_cases separated : sep ∈ text
    · obtain ⟨front, back, rfl, fresh⟩ := List.eq_append_cons_of_mem separated
      rw [List.splitOn_append_cons_self_of_not_mem fresh] at split
      cases split
      exact ⟨fresh, .inr ⟨back, rfl, rfl⟩⟩
    · rw [List.splitOn_eq_singleton separated] at split
      cases split
      exact ⟨separated, .inl ⟨rfl, rfl⟩⟩
  · rintro ⟨fresh, ⟨rfl, rfl⟩ | ⟨rest, rfl, rfl⟩⟩
    · exact List.splitOn_eq_singleton fresh
    · exact List.splitOn_append_cons_self_of_not_mem fresh rest

end JsString
