import ElectroSync.Nesco.DateDecoding
import ElectroSync.Library.JsNumber

/-!
# The amounts of the portal (`parseAmount` of `nesco/portal/nesco.parsing.ts`)

A cell is folded to ASCII digits, its commas are deleted, and what is left after trimming is read by
the conversion of the language. That conversion accepts every decimal numeral, and literals that no
amount is written in: exponents, and hexadecimal, octal and binary integers.
-/

namespace ElectroSync
open JsNumber

/-- `toAsciiDigits(raw).replace(/,/g, '').trim()` -/
def cleaned (raw : String) : String :=
  JsString.trim (String.ofList ((toAsciiDigits raw).toList.filter (· ≠ ',')))

def parseAmount (raw : Option String) (field : String) : Except NescoPortalError ℚ :=
  match raw with
  | none => .error (layoutError s!"Expected a value for \"{field}\" but the field was absent")
  | some raw =>
    if cleaned raw = "" ∨ cleaned raw = "-" then .ok 0
    else match ofString (cleaned raw) with
      | .finite parsed => .ok parsed
      | _ => .error (layoutError s!"Expected a number for \"{field}\" but received \"{raw}\"")

/-- The texts are the same but for their commas and the script of their digits. -/
def SameAmount (raw raw' : String) : Prop :=
  ∃ text, Respells (raw.toList.filter (· ≠ ',')) text ∧ Respells (raw'.toList.filter (· ≠ ',')) text

/-- A blank cell or a dash is 0, a decimal numeral is its value, and nothing else is an amount. -/
structure ReadsDecimals (raw field : String) : Prop where
  blank : cleaned raw = "" ∨ cleaned raw = "-" → parseAmount (some raw) field = .ok 0
  decimal : ∀ v, DecimalNumeral (cleaned raw).toList v → parseAmount (some raw) field = .ok v
  other : cleaned raw ≠ "" → cleaned raw ≠ "-" →
    (∀ v, ¬DecimalNumeral (cleaned raw).toList v) →
      ∃ message, parseAmount (some raw) field = .error (layoutError message)

variable {raw raw' field : String} {v : ℚ}

theorem cleaned_eq (raw : String) :
    cleaned raw = JsString.trim (String.ofList
      ((raw.toList.filter (· ≠ ',')).map asciiDigit)) := by
  have comma (c : Char) : asciiDigit c = ',' ↔ c = ',' := by
    rw [asciiDigit_eq_iff]
    constructor
    · rintro ⟨-, same | ⟨digit, -⟩⟩
      · exact same
      · cases digit
    · rintro rfl
      exact ⟨by decide, .inl rfl⟩
  simp only [cleaned, toAsciiDigits, String.toList_ofList, List.filter_map, Function.comp_def,
    ne_eq, comma]

theorem cleaned_of_same (same : SameAmount raw raw') : cleaned raw = cleaned raw' := by
  obtain ⟨text, spelled, spelled'⟩ := same
  rw [cleaned_eq, cleaned_eq, respells_iff.mp spelled, respells_iff.mp spelled']

theorem trim_cleaned (raw : String) : JsString.trim (cleaned raw) = cleaned raw :=
  JsString.trim_trim _

theorem parseAmount_blank (blank : cleaned raw = "" ∨ cleaned raw = "-") :
    parseAmount (some raw) field = .ok 0 := by
  rw [parseAmount, if_pos blank]

/-- What is read besides the blanks: a numeral of the conversion that does not overflow. -/
theorem parseAmount_eq_ok_iff (nonempty : cleaned raw ≠ "") (nodash : cleaned raw ≠ "-") :
    parseAmount (some raw) field = .ok v ↔
      literal (cleaned raw).toList = some v ∧ |v| < overflow := by
  have some_left : (cleaned raw).toList ≠ [] := fun h => nonempty (String.toList_eq_nil_iff.mp h)
  have finite := @ofString_eq_finite_iff v (cleaned raw)
  rw [trim_cleaned, or_iff_right fun h => some_left h.1] at finite
  rw [← finite, parseAmount, if_neg (not_or.mpr ⟨nonempty, nodash⟩)]
  cases ofString (cleaned raw) with
  | nan => simp
  | infinity => simp
  | finite w => simp

theorem parseAmount_error (nonempty : cleaned raw ≠ "") (nodash : cleaned raw ≠ "-")
    (unread : ∀ v, parseAmount (some raw) field ≠ .ok v) :
    ∃ message, parseAmount (some raw) field = .error (layoutError message) := by
  rw [parseAmount, if_neg (not_or.mpr ⟨nonempty, nodash⟩)] at unread ⊢
  cases h : ofString (cleaned raw) with
  | nan => exact ⟨_, rfl⟩
  | infinity => exact ⟨_, rfl⟩
  | finite v =>
    rw [h] at unread
    exact absurd rfl (unread v)

/-- Neither the script of the digits nor the commas change what is read. -/
theorem parseAmount_same (same : SameAmount raw raw') :
    (parseAmount (some raw) field).toOption = (parseAmount (some raw') field).toOption := by
  simp only [parseAmount, cleaned_of_same same]
  split
  · rfl
  split
  · rfl
  · rfl

/-- A blank is no numeral. -/
theorem literal_blank (blank : cleaned raw = "" ∨ cleaned raw = "-") :
    literal (cleaned raw).toList = none := by
  obtain h | h := blank
  · rw [h]
    rfl
  · rw [h]
    rfl

theorem amounts_decimal_iff (raw field : String) :
    (∀ raw', SameAmount raw raw' →
        (parseAmount (some raw) field).toOption = (parseAmount (some raw') field).toOption) ∧
      (ReadsDecimals raw field ↔
        (∀ v, ExponentNumeral (cleaned raw).toList v ∨ RadixLiteral (cleaned raw).toList v →
          overflow ≤ |v|) ∧
        ∀ v, DecimalNumeral (cleaned raw).toList v → |v| < overflow) := by
  refine ⟨fun raw' => parseAmount_same, ?_⟩
  have numeral (v : ℚ) := @literal_eq_some_iff (cleaned raw).toList v
  by_cases blank : cleaned raw = "" ∨ cleaned raw = "-"
  · simp only [literal_blank blank, reduceCtorEq, false_iff, not_or] at numeral
    constructor
    · intro _
      exact ⟨fun v h => h.elim (absurd · (numeral v).2.1) (absurd · (numeral v).2.2),
        fun v h => absurd h (numeral v).1⟩
    · intro _
      exact ⟨fun _ => parseAmount_blank blank, fun v h => absurd h (numeral v).1,
        fun nonempty nodash => absurd blank (not_or.mpr ⟨nonempty, nodash⟩)⟩
  obtain ⟨nonempty, nodash⟩ := not_or.mp blank
  have read (v : ℚ) := @parseAmount_eq_ok_iff raw field v nonempty nodash
  constructor
  · intro reads
    constructor
    · intro v other
      refine not_lt.mp fun small => ?_
      have none : ∀ w, ¬DecimalNumeral (cleaned raw).toList w := by
        intro w decimal
        obtain exponent | radix := other
        · exact decimal.not_exponent v exponent
        · exact decimal.not_radix v radix
      obtain ⟨message, error⟩ := reads.other nonempty nodash none
      have accepted := (read v).mpr ⟨(numeral v).mpr (.inr other), small⟩
      rw [error] at accepted
      cases accepted
    · intro v decimal
      exact ((read v).mp (reads.decimal v decimal)).2
  · rintro ⟨others, decimals⟩
    refine ⟨fun h => absurd h blank, ?_, ?_⟩
    · intro v decimal
      exact (read v).mpr ⟨(numeral v).mpr (.inl decimal), decimals v decimal⟩
    · intro _ _ none
      apply parseAmount_error nonempty nodash
      intro v accepted
      obtain ⟨literal, small⟩ := (read v).mp accepted
      obtain decimal | other := (numeral v).mp literal
      · exact none v decimal
      · exact absurd small (not_lt.mpr (others v other))

/-- A thousand, written with an exponent. -/
theorem amounts_decimal_fails :
    parseAmount (some "1e3") "balance" = .ok 1000 ∧ ¬ReadsDecimals "1e3" "balance" := by
  have accepted : parseAmount (some "1e3") "balance" = .ok 1000 := by decide +kernel
  have clean : cleaned "1e3" = "1e3" := by decide +kernel
  refine ⟨accepted, fun reads => ?_⟩
  have none : ∀ v, ¬DecimalNumeral (cleaned "1e3").toList v := by
    intro v decimal
    have mark := decimal.chars 'e' (by rw [clean]; decide)
    revert mark
    decide
  obtain ⟨message, error⟩ := reads.other (by rw [clean]; decide) (by rw [clean]; decide) none
  rw [accepted] at error
  cases error

example : parseAmount (some "১,৫২৩.৪৫") "field" = .ok 1523.45 := by decide +kernel

end ElectroSync
