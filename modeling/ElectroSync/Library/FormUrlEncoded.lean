import Mathlib.Data.List.Basic

/-!
# `application/x-www-form-urlencoded`

Names and values are byte strings. A letter, a digit and each of `*-._` stands for itself, a blank
is a `+`, and every other byte is `%` and two hexadecimal digits; `=` separates a name from its
value, and `&` one pair from the next. `parse` reads back what `serialize` has written, whatever
bytes the names and values are made of. Strings are carried in UTF-8.
-/

namespace FormUrlEncoded

/-! ## Bytes -/

/-- The characters that stand for themselves. -/
def plain (c : Char) : Bool := c.isAlphanum || c ∈ ['*', '-', '.', '_']

def hexDigit (n : ℕ) : Char := if n < 10 then Char.ofNat (48 + n) else Char.ofNat (55 + n)

def hexValue (c : Char) : Option ℕ :=
  if '0' ≤ c ∧ c ≤ '9' then some (c.toNat - 48)
  else if 'A' ≤ c ∧ c ≤ 'F' then some (c.toNat - 55)
  else if 'a' ≤ c ∧ c ≤ 'f' then some (c.toNat - 87)
  else none

def encodeByte (b : UInt8) : List Char :=
  let c := Char.ofUInt8 b
  if c = ' ' then ['+']
  else if plain c then [c]
  else ['%', hexDigit (b.toNat / 16), hexDigit (b.toNat % 16)]

def encode (bytes : List UInt8) : List Char := bytes.flatMap encodeByte

/-- A `%` without two hexadecimal digits after it stands for itself. -/
def decode : List Char → List UInt8
  | [] => []
  | c :: rest =>
    if c = '+' then 32 :: decode rest
    else match c, rest with
    | '%', h :: l :: rest' =>
      match hexValue h, hexValue l with
      | some high, some low => UInt8.ofNat (16 * high + low) :: decode rest'
      | _, _ => 37 :: decode (h :: l :: rest')
    | c, rest => UInt8.ofNat c.toNat :: decode rest

/-! ## Pairs -/

def encodePair (pair : List UInt8 × List UInt8) : List Char :=
  encode pair.1 ++ '=' :: encode pair.2

def serialize (pairs : List (List UInt8 × List UInt8)) : List Char :=
  ['&'].intercalate (pairs.map encodePair)

/-- A sequence without a `=` is a name with an empty value. -/
def decodePair (sequence : List Char) : List UInt8 × List UInt8 :=
  (decode (sequence.takeWhile (· ≠ '=')), decode ((sequence.dropWhile (· ≠ '=')).drop 1))

def parse (text : List Char) : List (List UInt8 × List UInt8) :=
  ((text.splitOn '&').filter (· ≠ [])).map decodePair

/-! ## Strings -/

def utf8 (s : String) : List UInt8 := s.toUTF8.data.toList

/-- The string that the bytes are the encoding of. -/
def ofUtf8 (bytes : List UInt8) : Option String := String.fromUTF8? ⟨bytes.toArray⟩

/-- `URLSearchParams.toString` -/
def serializeStrings (pairs : List (String × String)) : String :=
  String.ofList (serialize (pairs.map fun pair => (utf8 pair.1, utf8 pair.2)))

def ofUtf8Pair (pair : List UInt8 × List UInt8) : Option (String × String) := do
  return (← ofUtf8 pair.1, ← ofUtf8 pair.2)

/-- The pairs of a text, when all of them are strings. -/
def parseStrings (text : String) : Option (List (String × String)) :=
  (parse text.toList).mapM ofUtf8Pair

theorem ofUtf8_utf8 (s : String) : ofUtf8 (utf8 s) = some s := by
  rw [ofUtf8, utf8, Array.toArray_toList]
  exact dif_pos s.isValidUTF8

theorem ofUtf8Pair_utf8 (pair : String × String) :
    ofUtf8Pair (utf8 pair.1, utf8 pair.2) = some pair := by
  simp only [ofUtf8Pair, ofUtf8_utf8]
  rfl

/-! ## What a byte is written as -/

/-- The three ways to write a byte. -/
inductive Written (b : UInt8) : List Char → Prop
  | blank (value : b = 32) : Written b ['+']
  | itself (c : Char) (clear : plain c) (value : UInt8.ofNat c.toNat = b) : Written b [c]
  | escaped (h l : Char) (high low : ℕ) (clear : plain h) (clear' : plain l)
      (first : hexValue h = some high) (second : hexValue l = some low)
      (value : UInt8.ofNat (16 * high + low) = b) : Written b ['%', h, l]

theorem hexDigit_spec {n : ℕ} (lt : n < 16) :
    hexValue (hexDigit n) = some n ∧ plain (hexDigit n) := by
  have all : ∀ n : Fin 16, hexValue (hexDigit n) = some n.val ∧ plain (hexDigit n) := by decide
  exact all ⟨n, lt⟩

theorem written_encodeByte (b : UInt8) : Written b (encodeByte b) := by
  have code : (Char.ofUInt8 b).toNat = b.toNat := rfl
  have value : UInt8.ofNat b.toNat = b := UInt8.ofNat_toNat
  simp only [encodeByte]
  split
  · next blank =>
    refine .blank (UInt8.toNat_inj.mp ?_)
    rw [← code, blank]
    rfl
  · split
    · next clear => exact .itself _ clear value
    · have lt := b.toNat_lt
      obtain ⟨first, clear⟩ := hexDigit_spec (n := b.toNat / 16) (by omega)
      obtain ⟨second, clear'⟩ := hexDigit_spec (n := b.toNat % 16) (by omega)
      exact .escaped _ _ _ _ clear clear' first second (by rw [Nat.div_add_mod, value])

theorem ne_of_plain {c d : Char} (clear : plain c) (other : plain d = false) : c ≠ d := by
  rintro rfl
  rw [clear] at other
  cases other

theorem decode_cons_of_plain {c : Char} (clear : plain c) (rest : List Char) :
    decode (c :: rest) = UInt8.ofNat c.toNat :: decode rest := by
  have plus : c ≠ '+' := ne_of_plain clear rfl
  have percent : c ≠ '%' := ne_of_plain clear rfl
  rw [decode.eq_def]
  simp only [if_neg plus]
  split
  · exact absurd rfl percent
  · rfl

theorem Written.decode {b : UInt8} {text : List Char} (written : Written b text)
    (rest : List Char) : decode (text ++ rest) = b :: decode rest := by
  cases written with
  | blank value =>
    subst value
    rfl
  | itself c clear value => rw [List.singleton_append, decode_cons_of_plain clear, value]
  | escaped h l high low clear clear' first second value =>
    change FormUrlEncoded.decode ('%' :: h :: l :: rest) = _
    rw [FormUrlEncoded.decode.eq_def]
    simp only [Char.reduceEq, if_false, first, second, value]

theorem decode_encode (bytes : List UInt8) : decode (encode bytes) = bytes := by
  induction bytes with
  | nil => rfl
  | cons b bytes ih => rw [encode, List.flatMap_cons, (written_encodeByte b).decode, ← encode, ih]

/-- The characters of an encoding. -/
def Clear (c : Char) : Prop := plain c ∨ c = '+' ∨ c = '%'

instance (c : Char) : Decidable (Clear c) := inferInstanceAs (Decidable (_ ∨ _ ∨ _))

theorem clear_encode (bytes : List UInt8) : ∀ c ∈ encode bytes, Clear c := by
  intro c member
  obtain ⟨b, -, member⟩ := List.mem_flatMap.mp member
  have written := written_encodeByte b
  generalize encodeByte b = text at member written
  cases written with
  | blank =>
    rw [List.mem_singleton] at member
    exact .inr (.inl member)
  | itself d clear =>
    rw [List.mem_singleton] at member
    exact .inl (member ▸ clear)
  | escaped h l high low clear clear' =>
    simp only [List.mem_cons, List.not_mem_nil, or_false] at member
    rcases member with rfl | rfl | rfl
    · exact .inr (.inr rfl)
    · exact .inl clear
    · exact .inl clear'

theorem not_mem_encode (bytes : List UInt8) {c : Char} (other : ¬ Clear c) : c ∉ encode bytes :=
  fun member => other (clear_encode bytes c member)

/-! ## Round trip -/

theorem decodePair_encodePair (pair : List UInt8 × List UInt8) :
    decodePair (encodePair pair) = pair := by
  have stop : ∀ c ∈ encode pair.1, decide (c ≠ '=') = true := by
    intro c member
    have other : '=' ∉ encode pair.1 := not_mem_encode _ (by decide)
    rw [decide_eq_true_eq]
    rintro rfl
    exact other member
  rw [decodePair, encodePair, List.takeWhile_append_of_pos stop, List.dropWhile_append_of_pos stop]
  simp [decode_encode]

theorem encodePair_ne_nil (pair : List UInt8 × List UInt8) : encodePair pair ≠ [] := by
  simp [encodePair]

theorem not_mem_encodePair (pair : List UInt8 × List UInt8) {c : Char} (other : ¬ Clear c)
    (different : c ≠ '=') : c ∉ encodePair pair := by
  simp [encodePair, not_mem_encode _ other, different]

theorem not_mem_serialize (pairs : List (List UInt8 × List UInt8)) {c : Char}
    (other : ¬ Clear c ∧ c ≠ '=' ∧ c ≠ '&') : c ∉ serialize pairs := by
  rw [serialize]
  induction pairs with
  | nil => simp
  | cons pair pairs ih =>
    have head := not_mem_encodePair pair other.1 other.2.1
    rcases pairs with _ | ⟨next, pairs⟩
    · simpa using head
    · rw [List.map_cons, List.map_cons, List.intercalate_cons_cons]
      simp only [List.mem_append, List.mem_singleton, not_or]
      exact ⟨⟨head, other.2.2⟩, ih⟩

/-- No byte of a name or a value is taken for a separator. -/
theorem parse_serialize (pairs : List (List UInt8 × List UInt8)) :
    parse (serialize pairs) = pairs := by
  rcases pairs with _ | ⟨pair, pairs⟩
  · rfl
  have apart : ∀ sequence ∈ (pair :: pairs).map encodePair, '&' ∉ sequence := by
    intro sequence member
    obtain ⟨pair, -, rfl⟩ := List.mem_map.mp member
    exact not_mem_encodePair pair (by decide) (by decide)
  have nonempty : ∀ sequence ∈ (pair :: pairs).map encodePair, decide (sequence ≠ []) = true := by
    intro sequence member
    obtain ⟨pair, -, rfl⟩ := List.mem_map.mp member
    exact decide_eq_true (encodePair_ne_nil pair)
  rw [parse, serialize, List.splitOn_intercalate _ apart (List.cons_ne_nil _ _),
    List.filter_eq_self.mpr nonempty, List.map_map]
  simp [Function.comp_def, decodePair_encodePair]

theorem parseStrings_serializeStrings (pairs : List (String × String)) :
    parseStrings (serializeStrings pairs) = some pairs := by
  rw [parseStrings, serializeStrings, String.toList_ofList, parse_serialize]
  induction pairs with
  | nil => rfl
  | cons pair pairs ih =>
    rw [List.map_cons, List.mapM_cons, ofUtf8Pair_utf8, ih]
    rfl

end FormUrlEncoded
