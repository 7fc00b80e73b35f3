import ElectroSync.Library.JsString
import Mathlib.Algebra.Order.Ring.Rat
import Mathlib.Algebra.Order.Field.Basic
import Mathlib.Tactic.Ring

/-!
# The number of a JavaScript string

`ofString` is `Number(text)`: what is left after trimming is empty (the number 0), a hexadecimal,
octal or binary literal, a decimal literal with an optional sign, fraction and exponent, or
`Infinity`; any other text is not a number. Values are exact, except that what rounds beyond the
largest double is infinite. `Mantissa`, `Exponent` and `RadixLiteral` state the same grammar as
relations, and `literal_eq_some_iff` says that the parser accepts it.
-/

namespace JsNumber
open JsString

/-- A number of the language. -/
inductive Value
  | nan
  | infinity
  | finite (v : ℚ)
  deriving DecidableEq

/-- The least magnitude that rounds to infinity: halfway from the largest double to `2 ^ 1024`. -/
@[irreducible] def overflow : ℚ := 2 ^ 1024 - 2 ^ 970

def Value.ofRat (v : ℚ) : Value := if |v| < overflow then .finite v else .infinity

/-! ## The parser -/

def wholeNumber (t : List Char) : Option ℕ :=
  if t ≠ [] ∧ t.all Char.isDigit then some (number t) else none

def signOf : List Char → ℤ × List Char
  | '+' :: t => (1, t)
  | '-' :: t => (-1, t)
  | t => (1, t)

/-- `ExponentPart`, the whole of a text; nothing is an exponent of 0. -/
def exponentPart : List Char → Option ℤ
  | [] => some 0
  | mark :: t =>
    if mark = 'e' ∨ mark = 'E' then
      (wholeNumber (signOf t).2).map fun n : ℕ => (signOf t).1 * (n : ℤ)
    else none

/-- The digits after a fraction point, and the rest. -/
def fraction : List Char → List Char × List Char
  | '.' :: t => (t.takeWhile Char.isDigit, t.dropWhile Char.isDigit)
  | t => ([], t)

/-- `StrUnsignedDecimalLiteral`, without `Infinity`. -/
def unsignedDecimal (t : List Char) : Option ℚ :=
  let whole := t.takeWhile Char.isDigit
  let (frac, rest) := fraction (t.dropWhile Char.isDigit)
  if whole ++ frac = [] then none
  else (exponentPart rest).map fun e => number (whole ++ frac) / 10 ^ frac.length * 10 ^ e

def radixOf (mark : Char) : Option ℕ :=
  if mark = 'x' ∨ mark = 'X' then some 16
  else if mark = 'o' ∨ mark = 'O' then some 8
  else if mark = 'b' ∨ mark = 'B' then some 2
  else none

/-- The value of a digit or letter in a radix beyond ten. -/
def digitValue (c : Char) : ℕ :=
  if c.isDigit then c.toNat - '0'.toNat else c.toLower.toNat - 'a'.toNat + 10

def radixDigit (radix : ℕ) (c : Char) : Bool := c.isAlphanum && digitValue c < radix

def radixNumber (radix : ℕ) (t : List Char) : ℕ :=
  t.foldl (fun n c => radix * n + digitValue c) 0

/-- `NonDecimalIntegerLiteral`; it takes no sign. -/
def nonDecimal : List Char → Option ℕ
  | '0' :: mark :: t => (radixOf mark).bind fun radix =>
    if t ≠ [] ∧ t.all (radixDigit radix) then some (radixNumber radix t) else none
  | _ => none

/-- `StrNumericLiteral`, without `Infinity`. -/
def literal (t : List Char) : Option ℚ :=
  match nonDecimal t with
  | some n => some n
  | none => (unsignedDecimal (signOf t).2).map fun v : ℚ => (signOf t).1 * v

/-- `Number(text)` -/
def ofString (text : String) : Value :=
  let t := (trim text).toList
  if t = [] then .finite 0
  else match literal t with
    | some v => .ofRat v
    | none => if (signOf t).2 = "Infinity".toList then .infinity else .nan

/-! ## The grammar -/

/-- The text holds decimal digits only. -/
def Digits (t : List Char) : Prop := ∀ c ∈ t, c.isDigit

/-- Digits with an optional fraction point, at least one digit. -/
inductive Mantissa : List Char → ℚ → Prop
  | whole : Digits w → w ≠ [] → Mantissa w (number w)
  | point : Digits w → Digits f → w ++ f ≠ [] →
    Mantissa (w ++ '.' :: f) (number (w ++ f) / 10 ^ f.length)

/-- An optional sign before a text. -/
inductive Signed [Neg α] (p : List Char → α → Prop) : List Char → α → Prop
  | plain : p t v → Signed p t v
  | plus : p t v → Signed p ('+' :: t) v
  | minus : p t v → Signed p ('-' :: t) (-v)

def Whole (t : List Char) (n : ℤ) : Prop := Digits t ∧ t ≠ [] ∧ n = number t

inductive Exponent : List Char → ℤ → Prop
  | mk : mark = 'e' ∨ mark = 'E' → Signed Whole t n → Exponent (mark :: t) n

/-- A mantissa before an exponent. -/
def Scaled (t : List Char) (v : ℚ) : Prop :=
  ∃ m x a n, t = m ++ x ∧ Mantissa m a ∧ Exponent x n ∧ v = a * 10 ^ n

/-- An optionally signed decimal numeral, without exponent. -/
def DecimalNumeral : List Char → ℚ → Prop := Signed Mantissa

def ExponentNumeral : List Char → ℚ → Prop := Signed Scaled

/-- A hexadecimal, octal or binary literal. -/
def RadixLiteral (t : List Char) (v : ℚ) : Prop :=
  ∃ mark radix ds, t = '0' :: mark :: ds ∧ radixOf mark = some radix ∧ ds ≠ [] ∧
    (∀ c ∈ ds, radixDigit radix c) ∧ v = radixNumber radix ds

variable {t m : List Char} {v a : ℚ}

theorem wholeNumber_eq_some_iff {n : ℕ} :
    wholeNumber t = some n ↔ Digits t ∧ t ≠ [] ∧ n = number t := by
  simp only [wholeNumber, Option.ite_none_right_eq_some, Option.some.injEq, List.all_eq_true]
  constructor
  · rintro ⟨⟨nonempty, digits⟩, rfl⟩
    exact ⟨digits, nonempty, rfl⟩
  · rintro ⟨digits, nonempty, rfl⟩
    exact ⟨⟨nonempty, digits⟩, rfl⟩

/-- A text that starts with neither sign is read without one. -/
theorem signOf_of_head (head : ∀ c ∈ t.head?, c ≠ '+' ∧ c ≠ '-') : signOf t = (1, t) := by
  unfold signOf
  split
  · exact absurd rfl (head '+' rfl).1
  · exact absurd rfl (head '-' rfl).2
  · rfl

theorem radixLiteral_iff : RadixLiteral t v ↔ ∃ n : ℕ, nonDecimal t = some n ∧ n = v := by
  unfold nonDecimal RadixLiteral
  split
  · next mark ds =>
    simp only [Option.bind_eq_some_iff, Option.ite_none_right_eq_some, Option.some.injEq,
      List.all_eq_true]
    constructor
    · rintro ⟨mark, radix, ds, same, marks, nonempty, digits, rfl⟩
      cases same
      exact ⟨_, ⟨radix, marks, ⟨nonempty, digits⟩, rfl⟩, rfl⟩
    · rintro ⟨_, ⟨radix, marks, ⟨nonempty, digits⟩, rfl⟩, rfl⟩
      exact ⟨mark, radix, ds, rfl, marks, nonempty, digits, rfl⟩
  · next other =>
    constructor
    · rintro ⟨mark, radix, ds, rfl, -⟩
      exact absurd rfl (other mark ds)
    · rintro ⟨n, h, -⟩
      cases h

/-- The sign of a text is read off it, when what follows a sign starts with none. -/
theorem signed_iff [Ring α] {p : List Char → α → Prop}
    (unsigned : ∀ t v, p t v → ∀ c ∈ t.head?, c ≠ '+' ∧ c ≠ '-') {v : α} :
    Signed p t v ↔ ∃ u, p (signOf t).2 u ∧ ((signOf t).1 : α) * u = v := by
  constructor
  · intro h
    cases h with
    | plain h =>
      rw [signOf_of_head (unsigned _ _ h)]
      exact ⟨v, h, by simp⟩
    | plus h => exact ⟨v, h, by simp [signOf]⟩
    | minus h => exact ⟨_, h, by simp [signOf]⟩
  · unfold signOf
    rintro ⟨u, h, rfl⟩
    split at h
    · simpa using Signed.plus h
    · simpa using Signed.minus h
    · simpa using Signed.plain h

theorem digit_ne_sign {c : Char} (digit : c.isDigit) : c ≠ '+' ∧ c ≠ '-' := by
  constructor
  · rintro rfl
    cases digit
  · rintro rfl
    cases digit

theorem Digits.head (digits : Digits t) : ∀ c ∈ t.head?, c ≠ '+' ∧ c ≠ '-' :=
  fun c mem => digit_ne_sign (digits c (List.mem_of_mem_head? mem))

theorem exponentPart_eq_some_iff {e : ℤ} :
    exponentPart t = some e ↔ t = [] ∧ e = 0 ∨ Exponent t e := by
  cases t with
  | nil =>
    constructor
    · intro h
      cases h
      exact .inl ⟨rfl, rfl⟩
    · rintro (⟨-, rfl⟩ | h)
      · rfl
      · cases h
  | cons mark t =>
    have read : ((wholeNumber (signOf t).2).map fun n : ℕ => (signOf t).1 * (n : ℤ)) = some e ↔
        Signed Whole t e := by
      rw [signed_iff fun t v h => h.1.head]
      simp only [Option.map_eq_some_iff, wholeNumber_eq_some_iff, Whole, Int.cast_id]
      constructor
      · rintro ⟨n, ⟨digits, nonempty, rfl⟩, rfl⟩
        exact ⟨_, ⟨digits, nonempty, rfl⟩, rfl⟩
      · rintro ⟨_, ⟨digits, nonempty, rfl⟩, rfl⟩
        exact ⟨_, ⟨digits, nonempty, rfl⟩, rfl⟩
    rw [exponentPart, Option.ite_none_right_eq_some, read]
    constructor
    · rintro ⟨marks, h⟩
      exact .inr (.mk marks h)
    · rintro (⟨h, -⟩ | h)
      · cases h
      · cases h with
        | mk marks h => exact ⟨marks, h⟩

/-! ## Mantissas -/

theorem takeWhile_digits {w r : List Char} (digits : Digits w) (stop : ∀ c ∈ r.head?, ¬c.isDigit) :
    (w ++ r).takeWhile Char.isDigit = w := by
  rw [List.takeWhile_append_of_pos digits]
  cases r with
  | nil => simp
  | cons c r => rw [List.takeWhile_cons_of_neg (stop c rfl), List.append_nil]

theorem dropWhile_digits {w r : List Char} (digits : Digits w) (stop : ∀ c ∈ r.head?, ¬c.isDigit) :
    (w ++ r).dropWhile Char.isDigit = r := by
  rw [List.dropWhile_append_of_pos digits]
  cases r with
  | nil => rfl
  | cons c r => rw [List.dropWhile_cons_of_neg (stop c rfl)]

theorem digits_takeWhile (t : List Char) : Digits (t.takeWhile Char.isDigit) :=
  fun _ mem => List.mem_takeWhile_imp mem

/-- A mantissa is read up to the first character that belongs to none. -/
theorem unsignedDecimal_append (mantissa : Mantissa m a) {r : List Char}
    (stop : ∀ c ∈ r.head?, c = 'e' ∨ c = 'E') :
    unsignedDecimal (m ++ r) = (exponentPart r).map fun e => a * 10 ^ e := by
  have nodigit : ∀ c ∈ r.head?, ¬c.isDigit := by
    intro c mem
    obtain rfl | rfl := stop c mem <;> decide
  cases mantissa with
  | whole digits nonempty =>
    have nopoint : fraction r = ([], r) := by
      unfold fraction
      split
      · exact absurd (stop '.' rfl) (by decide)
      · rfl
    simp [unsignedDecimal, takeWhile_digits digits nodigit, dropWhile_digits digits nodigit,
      nopoint, nonempty]
  | @point w f digits digits' nonempty =>
    have whole : ∀ c ∈ ('.' :: f ++ r).head?, ¬c.isDigit := by
      intro c mem
      cases mem
      decide
    have frac : fraction ('.' :: f ++ r) = (f, r) := by
      rw [List.cons_append, fraction, takeWhile_digits digits' nodigit,
        dropWhile_digits digits' nodigit]
    rw [unsignedDecimal, List.append_assoc, takeWhile_digits digits whole,
      dropWhile_digits digits whole, frac]
    simp [nonempty]

/-- What the parser reads is a mantissa and an exponent. -/
theorem unsignedDecimal_sound (read : unsignedDecimal t = some v) :
    ∃ m a r e, t = m ++ r ∧ Mantissa m a ∧ exponentPart r = some e ∧ v = a * 10 ^ e := by
  have cut := @List.takeWhile_append_dropWhile _ Char.isDigit t
  have digits := digits_takeWhile t
  unfold unsignedDecimal at read
  generalize t.takeWhile Char.isDigit = w at *
  generalize t.dropWhile Char.isDigit = r at *
  subst cut
  by_cases point : ∃ f, r = '.' :: f
  · obtain ⟨f, rfl⟩ := point
    simp only [fraction, Option.ite_none_left_eq_some, Option.map_eq_some_iff] at read
    obtain ⟨nonempty, e, exponent, rfl⟩ := read
    refine ⟨w ++ '.' :: f.takeWhile Char.isDigit, _, f.dropWhile Char.isDigit, e, ?_,
      .point digits (digits_takeWhile f) nonempty, exponent, rfl⟩
    simp
  · have none : fraction r = ([], r) := by
      unfold fraction
      split
      · next f => exact absurd ⟨f, rfl⟩ point
      · rfl
    simp only [none, List.append_nil, Option.ite_none_left_eq_some, Option.map_eq_some_iff] at read
    obtain ⟨nonempty, e, exponent, rfl⟩ := read
    exact ⟨w, _, r, e, rfl, .whole digits nonempty, exponent, by simp⟩

theorem unsignedDecimal_eq_some_iff :
    unsignedDecimal t = some v ↔ Mantissa t v ∨ Scaled t v := by
  constructor
  · intro read
    obtain ⟨m, a, r, e, rfl, mantissa, exponent, rfl⟩ := unsignedDecimal_sound read
    obtain ⟨rfl, rfl⟩ | exponent := exponentPart_eq_some_iff.mp exponent
    · refine .inl ?_
      simpa using mantissa
    · exact .inr ⟨m, r, a, e, rfl, mantissa, exponent, rfl⟩
  · rintro (mantissa | ⟨m, r, a, e, rfl, mantissa, exponent, rfl⟩)
    · have read := @unsignedDecimal_append t v mantissa [] (by simp)
      simpa [exponentPart] using read
    · have marked : ∀ c ∈ r.head?, c = 'e' ∨ c = 'E' := by
        cases exponent with
        | mk marks _ => simpa using marks
      rw [unsignedDecimal_append mantissa marked,
        exponentPart_eq_some_iff.mpr (.inr exponent), Option.map_some]

/-! ## Literals -/

theorem Mantissa.head (mantissa : Mantissa t v) : ∀ c ∈ t.head?, c ≠ '+' ∧ c ≠ '-' := by
  cases mantissa with
  | whole digits _ => exact digits.head
  | @point w f digits _ _ =>
    cases w with
    | nil =>
      intro c mem
      cases mem
      decide
    | cons d w =>
      intro c mem
      cases mem
      exact digit_ne_sign (digits d List.mem_cons_self)

theorem Mantissa.ne_nil (mantissa : Mantissa t v) : t ≠ [] := by
  cases mantissa with
  | whole _ nonempty => exact nonempty
  | point _ _ _ => exact List.append_ne_nil_of_right_ne_nil _ (List.cons_ne_nil _ _)

theorem Scaled.head (scaled : Scaled t v) : ∀ c ∈ t.head?, c ≠ '+' ∧ c ≠ '-' := by
  obtain ⟨m, x, a, n, rfl, mantissa, -, -⟩ := scaled
  intro c mem
  apply mantissa.head
  cases m with
  | nil => exact absurd rfl mantissa.ne_nil
  | cons d m => exact mem

/-- The characters of a decimal numeral. -/
theorem Mantissa.chars (mantissa : Mantissa t v) : ∀ c ∈ t, c.isDigit ∨ c = '.' := by
  cases mantissa with
  | whole digits _ => exact fun c mem => .inl (digits c mem)
  | point digits digits' _ =>
    intro c mem
    obtain mem | mem | mem := List.mem_append.mp mem |>.imp_right List.mem_cons.mp
    · exact .inl (digits c mem)
    · exact .inr mem
    · exact .inl (digits' c mem)

theorem Signed.chars [Neg α] {p : List Char → α → Prop} {q : Char → Prop} {v : α}
    (chars : ∀ t v, p t v → ∀ c ∈ t, q c) (h : Signed p t v) :
    ∀ c ∈ t, q c ∨ c = '+' ∨ c = '-' := by
  intro c mem
  cases h with
  | plain h => exact .inl (chars _ _ h c mem)
  | plus h =>
    obtain rfl | mem := List.mem_cons.mp mem
    · tauto
    · exact .inl (chars _ _ h c mem)
  | minus h =>
    obtain rfl | mem := List.mem_cons.mp mem
    · tauto
    · exact .inl (chars _ _ h c mem)

theorem Exponent.chars {n : ℤ} (exponent : Exponent t n) :
    ∀ c ∈ t, c.isDigit ∨ c = 'e' ∨ c = 'E' ∨ c = '+' ∨ c = '-' := by
  cases exponent with
  | mk marks value =>
    intro c mem
    obtain rfl | mem := List.mem_cons.mp mem
    · tauto
    · have := Signed.chars (fun _ _ whole => whole.1) value c mem
      tauto

/-- The characters of a decimal numeral are neither exponent nor radix marks. -/
theorem DecimalNumeral.chars (h : DecimalNumeral t v) :
    ∀ c ∈ t, (c.isDigit ∨ c = '.') ∨ c = '+' ∨ c = '-' :=
  Signed.chars (fun _ _ => Mantissa.chars) h

theorem ExponentNumeral.chars (h : ExponentNumeral t v) :
    ∀ c ∈ t, (c.isDigit ∨ c = '.' ∨ c = 'e' ∨ c = 'E' ∨ c = '+' ∨ c = '-') ∨ c = '+' ∨ c = '-' := by
  refine Signed.chars (fun t v scaled => ?_) h
  obtain ⟨m, x, a, n, rfl, mantissa, exponent, -⟩ := scaled
  intro c mem
  obtain mem | mem := List.mem_append.mp mem
  · have := mantissa.chars c mem
    tauto
  · have := exponent.chars c mem
    tauto

theorem Signed.exists_char [Neg α] {p : List Char → α → Prop} {q : Char → Prop} {v : α}
    (char : ∀ t v, p t v → ∃ c ∈ t, q c) (h : Signed p t v) : ∃ c ∈ t, q c := by
  cases h with
  | plain h => exact char _ _ h
  | plus h =>
    obtain ⟨c, mem, marks⟩ := char _ _ h
    exact ⟨c, List.mem_cons_of_mem _ mem, marks⟩
  | minus h =>
    obtain ⟨c, mem, marks⟩ := char _ _ h
    exact ⟨c, List.mem_cons_of_mem _ mem, marks⟩

theorem ExponentNumeral.marked (h : ExponentNumeral t v) : ∃ c ∈ t, c = 'e' ∨ c = 'E' := by
  refine Signed.exists_char (fun t v scaled => ?_) h
  obtain ⟨m, _, a, n, rfl, -, ⟨marks, -⟩, -⟩ := scaled
  exact ⟨_, List.mem_append_right _ List.mem_cons_self, marks⟩

theorem RadixLiteral.marked (h : RadixLiteral t v) : ∃ c ∈ t, radixOf c ≠ none := by
  obtain ⟨mark, radix, ds, rfl, marks, -⟩ := h
  exact ⟨mark, by simp, by simp [marks]⟩

theorem radixOf_digit {c : Char} (digit : c.isDigit) : radixOf c = none := by
  unfold radixOf
  split
  · next marks => obtain rfl | rfl := marks <;> cases digit
  split
  · next marks => obtain rfl | rfl := marks <;> cases digit
  split
  · next marks => obtain rfl | rfl := marks <;> cases digit
  · rfl

theorem DecimalNumeral.not_radix (h : DecimalNumeral t v) : ∀ w, ¬RadixLiteral t w := by
  intro w radix
  obtain ⟨c, mem, marks⟩ := radix.marked
  apply marks
  obtain (digit | rfl) | rfl | rfl := h.chars c mem
  · exact radixOf_digit digit
  · rfl
  · rfl
  · rfl

theorem ExponentNumeral.not_radix (h : ExponentNumeral t v) : ∀ w, ¬RadixLiteral t w := by
  intro w radix
  obtain ⟨c, mem, marks⟩ := radix.marked
  apply marks
  obtain (digit | rfl | rfl | rfl | rfl | rfl) | rfl | rfl := h.chars c mem
  · exact radixOf_digit digit
  all_goals rfl

/-- A decimal numeral has no exponent. -/
theorem DecimalNumeral.not_exponent (h : DecimalNumeral t v) : ∀ w, ¬ExponentNumeral t w := by
  intro w exponent
  obtain ⟨c, mem, marks⟩ := exponent.marked
  have chars := h.chars c mem
  obtain rfl | rfl := marks
  · revert chars
    decide
  · revert chars
    decide

/-- The parser accepts the numerals of the grammar, with their values. -/
theorem literal_eq_some_iff :
    literal t = some v ↔ DecimalNumeral t v ∨ ExponentNumeral t v ∨ RadixLiteral t v := by
  have decimal : ((unsignedDecimal (signOf t).2).map fun v : ℚ => (signOf t).1 * v) = some v ↔
      DecimalNumeral t v ∨ ExponentNumeral t v := by
    rw [DecimalNumeral, ExponentNumeral, signed_iff fun _ _ => Mantissa.head,
      signed_iff fun _ _ => Scaled.head, ← exists_or]
    simp only [Option.map_eq_some_iff, unsignedDecimal_eq_some_iff, or_and_right]
  rw [← or_assoc, ← decimal]
  unfold literal
  cases radix : nonDecimal t with
  | none => simp [radixLiteral_iff, radix]
  | some n =>
    have literal : RadixLiteral t n := radixLiteral_iff.mpr ⟨n, radix, rfl⟩
    have other : ¬(DecimalNumeral t v ∨ ExponentNumeral t v) := by
      rintro (h | h)
      · exact h.not_radix _ literal
      · exact h.not_radix _ literal
    rw [decimal, or_iff_right other]
    simp [radixLiteral_iff, radix]

/-- A text has a finite value when nothing is left of it, or a numeral that does not overflow. -/
theorem ofString_eq_finite_iff {text : String} :
    ofString text = .finite v ↔ (trim text).toList = [] ∧ v = 0 ∨
      literal (trim text).toList = some v ∧ |v| < overflow := by
  unfold ofString
  by_cases empty : (trim text).toList = []
  · rw [if_pos empty, empty, Value.finite.injEq]
    constructor
    · rintro rfl
      exact .inl ⟨rfl, rfl⟩
    · rintro (⟨-, rfl⟩ | ⟨h, -⟩)
      · rfl
      · cases h
  · rw [if_neg empty, or_iff_right fun h => empty h.1]
    cases literal (trim text).toList with
    | none =>
      have other : (if (signOf (trim text).toList).2 = "Infinity".toList then Value.infinity
          else .nan) ≠ .finite v := by
        split
        · exact Value.noConfusion
        · exact Value.noConfusion
      exact ⟨fun h => absurd h other, fun h => absurd h.1 (Option.some_ne_none v).symm⟩
    | some w =>
      rw [Option.some_inj]
      constructor
      · intro h
        by_cases small : |w| < overflow
        · cases (if_pos small).symm.trans h
          exact ⟨rfl, small⟩
        · cases (if_neg small).symm.trans h
      · rintro ⟨rfl, small⟩
        exact if_pos small

end JsNumber
