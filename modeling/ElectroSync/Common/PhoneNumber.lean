import Mathlib.Data.List.Basic

/-!
# Phone numbers (`common/phone-number.ts`)

The dialling form of a Bangladeshi mobile number: `880`, a one and nine digits. It is a function of
the digits of a text alone, and the same for all the ways to spell one national number.
-/

namespace ElectroSync
namespace PhoneNumber

def bengaliZero : ℕ := 0x09e6
def bengaliNine : ℕ := 0x09ef

/-- A Bengali digit in ASCII, and every other character as it is. -/
def foldDigit (character : Char) : Char :=
  let code := character.toNat
  if bengaliZero ≤ code && code ≤ bengaliNine then Char.ofNat (code - bengaliZero + '0'.toNat)
  else character

def toNationalNumber (digits : List Char) : Option (List Char) :=
  if digits.length = 13 && ['8', '8', '0'].isPrefixOf digits then some (digits.drop 3)
  else if digits.length = 11 && ['0'].isPrefixOf digits then some (digits.drop 1)
  else if digits.length = 10 then some digits
  else none

/-- `/^1\d{9}$/` -/
def isMobile (national : List Char) : Bool :=
  national.length = 10 && ['1'].isPrefixOf national && national.all Char.isDigit

end PhoneNumber

open PhoneNumber in
def toBangladeshMsisdn (raw : Option String) : Option String :=
  match raw with
  | none => none
  | some "" => none
  | some raw =>
    let digits := (raw.toList.map foldDigit).filter Char.isDigit
    -- the international dialling prefix
    let digits := if ['0', '0'].isPrefixOf digits then digits.drop 2 else digits
    match toNationalNumber digits with
    | none => none
    | some national =>
      if isMobile national then some (String.ofList (['8', '8', '0'] ++ national)) else none

example : toBangladeshMsisdn (some "+880 1700-000 000") = some "8801700000000" := by decide +kernel

namespace PhoneNumber

/-- A one and nine digits, all of them ASCII. -/
def IsNational (national : String) : Prop :=
  ∃ rest : List Char, national.toList = '1' :: rest ∧ rest.length = 9 ∧
    ∀ c ∈ rest, c.isDigit = true

/-- A character that is neither an ASCII nor a Bengali digit. -/
def Stray (c : Char) : Prop := c.isDigit = false ∧ ¬ (bengaliZero ≤ c.toNat ∧ c.toNat ≤ bengaliNine)

/-! ## The digits of a text -/

def digits (text : List Char) : List Char := (text.map foldDigit).filter Char.isDigit

/-- What `toBangladeshMsisdn` makes of the digits. -/
def ofDigits (digits : List Char) : Option String :=
  match toNationalNumber (if ['0', '0'].isPrefixOf digits then digits.drop 2 else digits) with
  | none => none
  | some national =>
    if isMobile national then some (String.ofList (['8', '8', '0'] ++ national)) else none

theorem toBangladeshMsisdn_eq (raw : String) :
    toBangladeshMsisdn (some raw) = ofDigits (digits raw.toList) := by
  rcases eq_or_ne raw "" with rfl | nonempty
  · rfl
  · unfold toBangladeshMsisdn
    split
    · contradiction
    · next same => cases same; contradiction
    · next same => cases same; rfl

theorem digits_append (front back : List Char) :
    digits (front ++ back) = digits front ++ digits back := by
  rw [digits, List.map_append, List.filter_append]
  rfl

theorem foldDigit_of_isDigit {c : Char} (digit : c.isDigit = true) : foldDigit c = c := by
  have bound : c.toNat ≤ 57 := (Char.isDigit_iff_toNat.mp digit).2
  have ascii : ¬ bengaliZero ≤ c.toNat := by
    rw [bengaliZero]
    omega
  simp only [foldDigit, ascii, decide_false, Bool.false_and, Bool.false_eq_true, if_false]

theorem foldDigit_of_stray {c : Char} (stray : Stray c) : foldDigit c = c := by
  simp only [foldDigit, Bool.and_eq_true, decide_eq_true_eq, if_neg stray.2]

theorem foldDigit_bengali {n : ℕ} (h : n < 10) :
    foldDigit (Char.ofNat (bengaliZero + n)) = Char.ofNat ('0'.toNat + n) := by
  revert n
  decide

theorem digits_of_isDigit {text : List Char} (all : ∀ c ∈ text, c.isDigit = true) :
    digits text = text := by
  rw [digits, List.map_congr_left fun c member => foldDigit_of_isDigit (all c member), List.map_id']
  exact List.filter_eq_self.mpr all

theorem digits_of_stray {text : List Char} (all : ∀ c ∈ text, Stray c) : digits text = [] := by
  rw [digits, List.map_congr_left fun c member => foldDigit_of_stray (all c member), List.map_id']
  exact List.filter_eq_nil_iff.mpr fun c member => Bool.eq_false_iff.mp (all c member).1

/-! ## The national number -/

theorem isMobile_iff {national : String} :
    isMobile national.toList = true ↔ IsNational national := by
  simp only [isMobile, Bool.and_eq_true, decide_eq_true_eq, List.isPrefixOf_iff_prefix,
    List.all_eq_true, IsNational]
  constructor
  · rintro ⟨⟨length, rest, shape⟩, all⟩
    refine ⟨rest, shape.symm, ?_, fun c member => all c ?_⟩
    · rw [← shape] at length
      exact Nat.succ.inj length
    · rw [← shape]
      exact List.mem_cons_of_mem _ member
  · rintro ⟨rest, shape, length, all⟩
    rw [shape]
    refine ⟨⟨congrArg (· + 1) length, rest, rfl⟩, List.forall_mem_cons.mpr ⟨rfl, all⟩⟩

theorem IsNational.digits {national : String} (h : IsNational national) :
    digits national.toList = national.toList := by
  obtain ⟨rest, shape, -, all⟩ := h
  rw [shape]
  exact digits_of_isDigit (List.forall_mem_cons.mpr ⟨rfl, all⟩)

/-- The digits of a result are the country code and a national number. -/
theorem exists_national {text : List Char} {number : String} (found : ofDigits text = some number) :
    ∃ national, IsNational national ∧ number = "880" ++ national := by
  simp only [ofDigits] at found
  split at found
  · cases found
  · next national _ =>
    split at found
    · next mobile =>
      cases found
      refine ⟨String.ofList national, ?_, ?_⟩
      · rwa [← isMobile_iff, String.toList_ofList]
      · rw [String.ofList_append]
    · cases found

/-- What may stand before the digits of a national number. -/
theorem ofDigits_spelling {national : String} (h : IsNational national) {front : List Char}
    (known : front ∈ [[], ['0'], ['8', '8', '0'], ['0', '0', '8', '8', '0']]) :
    ofDigits (front ++ national.toList) = some ("880" ++ national) := by
  have mobile := isMobile_iff.mpr h
  obtain ⟨rest, shape, length, -⟩ := h
  have found : toNationalNumber (if ['0', '0'].isPrefixOf (front ++ national.toList) then
      (front ++ national.toList).drop 2 else front ++ national.toList) = some national.toList := by
    rw [shape]
    simp only [List.mem_cons, List.not_mem_nil, or_false] at known
    rcases known with rfl | rfl | rfl | rfl <;> simp [toNationalNumber, length]
  simp only [ofDigits, found, mobile, if_true, String.ofList_append, String.ofList_toList]

/-! ## One number for all its spellings -/

/-- Where two texts have the same digits, their numbers are the same. -/
theorem toBangladeshMsisdn_congr {raw raw' : String} (h : digits raw.toList = digits raw'.toList) :
    toBangladeshMsisdn (some raw) = toBangladeshMsisdn (some raw') := by
  rw [toBangladeshMsisdn_eq, toBangladeshMsisdn_eq, h]

theorem toBangladeshMsisdn_shape {raw : Option String} {number : String}
    (found : toBangladeshMsisdn raw = some number) :
    ∃ national, IsNational national ∧ number = "880" ++ national := by
  cases raw with
  | none => cases found
  | some raw => exact exists_national (toBangladeshMsisdn_eq raw ▸ found)

theorem toBangladeshMsisdn_spelling {national : String} (h : IsNational national)
    {spelling : String} (known : spelling ∈ ["", "0", "880", "+880", "00880"]) :
    toBangladeshMsisdn (some (spelling ++ national)) = some ("880" ++ national) := by
  have front : digits spelling.toList ∈
      [[], ['0'], ['8', '8', '0'], ['0', '0', '8', '8', '0']] := by
    revert spelling
    decide
  rw [toBangladeshMsisdn_eq, String.toList_append, digits_append, h.digits]
  exact ofDigits_spelling h front

/-- A number that the code returned is its own dialling form. -/
theorem toBangladeshMsisdn_stable {raw : Option String} {number : String}
    (found : toBangladeshMsisdn raw = some number) :
    toBangladeshMsisdn (some number) = some number := by
  obtain ⟨national, h, rfl⟩ := toBangladeshMsisdn_shape found
  exact toBangladeshMsisdn_spelling h (by decide)

theorem toBangladeshMsisdn_insert {stray : String} (h : ∀ c ∈ stray.toList, Stray c)
    (front back : String) :
    toBangladeshMsisdn (some (front ++ stray ++ back)) =
      toBangladeshMsisdn (some (front ++ back)) := by
  refine toBangladeshMsisdn_congr ?_
  simp only [String.toList_append, digits_append, digits_of_stray h, List.append_nil]

theorem toBangladeshMsisdn_respell {n : ℕ} (h : n < 10) (front back : String) :
    toBangladeshMsisdn (some (front ++ String.singleton (Char.ofNat (bengaliZero + n)) ++ back)) =
      toBangladeshMsisdn
        (some (front ++ String.singleton (Char.ofNat ('0'.toNat + n)) ++ back)) := by
  have ascii : foldDigit (Char.ofNat ('0'.toNat + n)) = Char.ofNat ('0'.toNat + n) := by
    revert n
    decide
  refine toBangladeshMsisdn_congr ?_
  simp only [String.toList_append, String.toList_singleton, digits_append]
  simp only [digits, List.map_cons, List.map_nil, foldDigit_bengali h, ascii]

/-- A function of texts that gives every national number one form, the same for all the ways to
spell it. -/
structure Canonical (normalize : String → Option String) : Prop where
  shape : ∀ raw, normalize raw = none ∨
    ∃ national, IsNational national ∧ normalize raw = some ("880" ++ national)
  stable : ∀ raw number, normalize raw = some number → normalize number = some number
  insert : ∀ front stray back : String, (∀ c ∈ stray.toList, Stray c) →
    normalize (front ++ stray ++ back) = normalize (front ++ back)
  respell : ∀ (front back : String), ∀ n < 10,
    normalize (front ++ String.singleton (Char.ofNat (0x09E6 + n)) ++ back) =
      normalize (front ++ String.singleton (Char.ofNat (0x30 + n)) ++ back)
  spellings : ∀ national, IsNational national → ∀ spelling ∈ ["", "0", "880", "+880", "00880"],
    normalize (spelling ++ national) = some ("880" ++ national)
  distinct : ∀ national other, IsNational national → IsNational other →
    normalize national = normalize other → national = other

theorem canonical_toBangladeshMsisdn : Canonical fun raw => toBangladeshMsisdn (some raw) where
  shape raw := by
    cases found : toBangladeshMsisdn (some raw) with
    | none => exact .inl rfl
    | some number =>
      obtain ⟨national, h, rfl⟩ := toBangladeshMsisdn_shape found
      exact .inr ⟨national, h, rfl⟩
  stable _ _ found := toBangladeshMsisdn_stable found
  insert front _ back h := toBangladeshMsisdn_insert h front back
  respell front back _ h := toBangladeshMsisdn_respell h front back
  spellings _ h _ known := toBangladeshMsisdn_spelling h known
  distinct national other h h' same := by
    have plain : "" ∈ ["", "0", "880", "+880", "00880"] := by decide
    have first := toBangladeshMsisdn_spelling h plain
    have second := toBangladeshMsisdn_spelling h' plain
    rw [String.empty_append] at first second
    have joined := Option.some.inj (first.symm.trans (same.trans second))
    exact (String.append_right_inj "880").mp joined

end PhoneNumber

end ElectroSync
