import ElectroSync.Library.Filling
import ElectroSync.Sms.Encoding

/-!
# The parts that a message is billed in

A handset puts the parts of a message together again, and no pair of units is divided between two
of them. The code divides the units of the whole message by the size of a part, which is the least
number of parts as long as the room that pairs leave at the ends of parts is spare.
-/

namespace ElectroSync
open Sms Filling

namespace SmsEncoding

/-- The septets of a character, or its code units. -/
def cost : SmsEncoding → Char → ℕ
  | text, c => if c.toNat ∈ extensionTable then 2 else 1
  | unicode, c => if c.toNat < 0x10000 then 1 else 2

def singleLimit : SmsEncoding → ℕ
  | text => 160
  | unicode => 70

def concatenatedLimit : SmsEncoding → ℕ
  | text => 153
  | unicode => 67

/-- The message in parts that a provider carries. A part is made of whole characters, so that
neither an escape pair nor a surrogate pair is divided. -/
structure Carries (encoding : SmsEncoding) (message : String) (parts : List (List Char)) :
    Prop where
  together : parts.flatten = message.toList
  single : ∀ part, parts = [part] → weight encoding.cost part ≤ encoding.singleLimit
  several : parts.length ≠ 1 → ∀ part ∈ parts,
    weight encoding.cost part ≤ encoding.concatenatedLimit

def units (encoding : SmsEncoding) (message : String) : ℕ := weight encoding.cost message.toList

/-- What the pairs that do not fit at the end of a part leave free there, when one part after the
other is filled. -/
def unused (encoding : SmsEncoding) (message : String) : ℕ :=
  gaps encoding.cost encoding.concatenatedLimit 0 message.toList

/-- What the units of a message leave of the last part when they fill every other part. -/
def spare (encoding : SmsEncoding) (message : String) : ℕ :=
  (encoding.concatenatedLimit - encoding.units message % encoding.concatenatedLimit) %
    encoding.concatenatedLimit

/-! ## The least number of parts -/

variable {encoding : SmsEncoding} {message : String} {parts : List (List Char)}

theorem cost_pos (c : Char) : 0 < encoding.cost c := by
  cases encoding <;> simp only [cost] <;> split <;> decide

theorem cost_le_two (c : Char) : encoding.cost c ≤ 2 := by
  cases encoding <;> simp only [cost] <;> split <;> decide

theorem concatenatedLimit_le : 2 ≤ encoding.concatenatedLimit ∧
    encoding.concatenatedLimit ≤ encoding.singleLimit := by
  cases encoding <;> decide

theorem units_pos (nonempty : message ≠ "") : 0 < encoding.units message := by
  obtain ⟨c, rest, shape⟩ := List.exists_cons_of_ne_nil (mt String.toList_eq_nil_iff.mp nonempty)
  rw [units, shape, weight_cons]
  exact Nat.add_pos_left (cost_pos c) _

theorem small (c : Char) : encoding.cost c ≤ encoding.concatenatedLimit :=
  (cost_le_two c).trans concatenatedLimit_le.1

/-- More than a single part holds is cut into parts of the smaller size. -/
theorem carries_iff (long : encoding.singleLimit < encoding.units message) :
    encoding.Carries message parts ↔
      Cut encoding.cost encoding.concatenatedLimit message.toList parts := by
  constructor
  · intro carried
    refine ⟨carried.together, carried.several fun one => ?_⟩
    obtain ⟨part, rfl⟩ := List.length_eq_one_iff.mp one
    have fit := carried.single part rfl
    rw [units, ← carried.together, List.flatten_singleton] at long
    omega
  · intro cut
    refine ⟨cut.together, fun part one => ?_, fun _ => cut.fits⟩
    exact (cut.fits part (one ▸ List.mem_singleton_self part)).trans concatenatedLimit_le.2

/-- One part carries what fits into it, and there is no fewer. -/
theorem isLeast_one (nonempty : message ≠ "")
    (short : encoding.units message ≤ encoding.singleLimit) :
    IsLeast {n | ∃ parts, encoding.Carries message parts ∧ parts.length = n} 1 := by
  constructor
  · refine ⟨[message.toList], ⟨List.flatten_singleton, ?_, fun two => absurd rfl two⟩, rfl⟩
    intro part same
    cases same
    exact short
  · rintro _ ⟨parts, carried, rfl⟩
    refine List.length_pos_iff.mpr fun none => nonempty ?_
    have together := carried.together
    rw [none, List.flatten_nil] at together
    exact String.toList_inj.mp together.symm

theorem isLeast_several (long : encoding.singleLimit < encoding.units message) :
    IsLeast {n | ∃ parts, encoding.Carries message parts ∧ parts.length = n}
      (opened encoding.cost encoding.concatenatedLimit 0 message.toList) := by
  simp only [carries_iff long]
  exact isLeast_opened (fun c _ => cost_pos c) (fun c _ => small c)

/-- The units over the size of a part, rounded up, are the least number of parts exactly when the
units that stay unused are spare. -/
theorem isLeast_ceil_iff (long : encoding.singleLimit < encoding.units message) :
    IsLeast {n | ∃ parts, encoding.Carries message parts ∧ parts.length = n}
        ((encoding.units message + encoding.concatenatedLimit - 1) / encoding.concatenatedLimit) ↔
      encoding.unused message ≤ encoding.spare message := by
  have least := isLeast_several long
  rw [unused, spare, units, ← opened_eq_iff (fun c _ => cost_pos c) (fun c _ => small c)
    (Nat.zero_lt_two.trans_le concatenatedLimit_le.1)]
  constructor
  · intro ceil
    exact least.unique ceil
  · intro same
    rw [← same]
    exact least

end SmsEncoding

namespace Sms
open SmsEncoding

/-- The alphabet that a message needs. -/
def alphabet (message : String) : SmsEncoding :=
  if message.toList.all fun c => decide (InTables c) then .text else .unicode

theorem alphabet_of_tables {message : String} (tables : ∀ c ∈ message.toList, InTables c) :
    alphabet message = .text :=
  if_pos (List.all_eq_true.mpr fun c member => decide_eq_true (tables c member))

theorem alphabet_of_other {message : String} (other : ¬ ∀ c ∈ message.toList, InTables c) :
    alphabet message = .unicode :=
  if_neg fun all => other fun c member => of_decide_eq_true (List.all_eq_true.mp all c member)

/-- The encoding is the one of the alphabet that the message needs, and the segments are the least
number of parts that carry it. -/
structure BillsParts (message : String) : Prop where
  encoding : (describeSms message).encoding = .text ↔ ∀ c ∈ message.toList, InTables c
  empty : message = "" → (describeSms message).segments = 0
  segments : message ≠ "" →
    IsLeast {n | ∃ parts, (alphabet message).Carries message parts ∧ parts.length = n}
      (describeSms message).segments

/-! ## What the code counts -/

theorem gsm7Septets_eq (message : String) :
    gsm7Septets message = SmsEncoding.text.units message := by
  have same : (fun c => if gsm7Extended.contains c then 2 else 1) = SmsEncoding.text.cost := by
    funext c
    simp only [List.contains_iff_mem, mem_gsm7Extended, cost]
  rw [gsm7Septets, foldl_weight, same, Nat.zero_add, units]

theorem utf16Length_eq (message : String) :
    utf16Length message = SmsEncoding.unicode.units message := by
  have same : codeUnits = SmsEncoding.unicode.cost := by
    funext c
    simp only [codeUnits, cost, Nat.lt_succ_iff]
  rw [utf16Length, foldl_weight, same, Nat.zero_add, units]

/-- The shape of a message, in the terms of its alphabet. -/
theorem describeSms_eq (message : String) :
    describeSms message =
      { encoding := alphabet message
        segments := countSegments ((alphabet message).units message)
          (alphabet message).singleLimit (alphabet message).concatenatedLimit } := by
  by_cases tables : ∀ c ∈ message.toList, InTables c
  · rw [describeSms, if_pos (isGsm7_iff.mpr tables), alphabet_of_tables tables, gsm7Septets_eq]
    rfl
  · rw [describeSms, if_neg (mt isGsm7_iff.mp tables), alphabet_of_other tables, utf16Length_eq]
    rfl

theorem encoding_iff (message : String) :
    (describeSms message).encoding = .text ↔ ∀ c ∈ message.toList, InTables c := by
  rw [describeSms_eq]
  by_cases tables : ∀ c ∈ message.toList, InTables c
  · exact iff_of_true (alphabet_of_tables tables) tables
  · refine iff_of_false ?_ tables
    rw [alphabet_of_other tables]
    exact nofun

theorem segments_empty : (describeSms "").segments = 0 := by
  rw [describeSms_eq]
  rfl

theorem segments_of_short {message : String} (nonempty : message ≠ "")
    (short : (alphabet message).units message ≤ (alphabet message).singleLimit) :
    (describeSms message).segments = 1 := by
  rw [describeSms_eq]
  dsimp only [countSegments]
  rw [if_neg (units_pos nonempty).ne', if_pos short]

theorem segments_of_long {message : String}
    (long : (alphabet message).singleLimit < (alphabet message).units message) :
    (describeSms message).segments = ((alphabet message).units message +
      (alphabet message).concatenatedLimit - 1) / (alphabet message).concatenatedLimit := by
  rw [describeSms_eq]
  dsimp only [countSegments]
  rw [if_neg (by omega), if_neg (by omega)]

/-- The segments are never more than the parts that a provider needs. -/
theorem segments_le {message : String} {parts : List (List Char)}
    (carried : (alphabet message).Carries message parts) :
    (describeSms message).segments ≤ parts.length := by
  rcases Nat.lt_or_ge (alphabet message).singleLimit ((alphabet message).units message) with
    long | short
  · rw [segments_of_long long]
    exact (ceil_le_opened (fun c _ => cost_pos c) (fun c _ => small c)
      (Nat.zero_lt_two.trans_le concatenatedLimit_le.1)).trans
        (((carries_iff long).mp carried).opened_le 0)
  · rcases eq_or_ne message "" with rfl | nonempty
    · rw [segments_empty]
      exact Nat.zero_le _
    · rw [segments_of_short nonempty short]
      exact (isLeast_one nonempty short).2 ⟨parts, carried, rfl⟩

/-- The message fits into one part, or the units that pairs leave unused at the ends of parts are
ones that the last part has to spare. -/
def PairsFit (message : String) : Prop :=
  (alphabet message).units message ≤ (alphabet message).singleLimit ∨
    (alphabet message).unused message ≤ (alphabet message).spare message

instance (message : String) : Decidable (PairsFit message) := inferInstanceAs (Decidable (_ ∨ _))

theorem billsParts_iff (message : String) : BillsParts message ↔ PairsFit message := by
  rcases Nat.lt_or_ge (alphabet message).singleLimit ((alphabet message).units message) with
    long | short
  · have nonempty : message ≠ "" := by
      rintro rfl
      exact absurd long (by decide)
    constructor
    · intro bills
      have least := bills.segments nonempty
      rw [segments_of_long long] at least
      exact .inr ((isLeast_ceil_iff long).mp least)
    · rintro (short | few)
      · exact absurd short (Nat.not_le.mpr long)
      refine ⟨encoding_iff message, fun empty => absurd empty nonempty, fun _ => ?_⟩
      rw [segments_of_long long]
      exact (isLeast_ceil_iff long).mpr few
  · refine ⟨fun _ => .inl short, fun _ => ⟨encoding_iff message, ?_, fun nonempty => ?_⟩⟩
    · rintro rfl
      exact segments_empty
    · rw [segments_of_short nonempty short]
      exact isLeast_one nonempty short

/-- Sixty-seven emojis are two parts by the code, and three for a provider: a part of 67 units
carries 33 of them. -/
theorem emojis_not_billsParts : ¬ BillsParts (String.ofList (List.replicate 67 '😀')) := by
  intro bills
  have characters : (String.ofList (List.replicate 67 '😀')).toList = List.replicate 67 '😀' :=
    String.toList_ofList
  have needs : alphabet (String.ofList (List.replicate 67 '😀')) = .unicode := by
    have member : '😀' ∈ (String.ofList (List.replicate 67 '😀')).toList := by
      rw [characters]
      exact List.mem_replicate.mpr ⟨by decide, rfl⟩
    exact alphabet_of_other fun tables => absurd (tables '😀' member) (by decide)
  have long : (alphabet (String.ofList (List.replicate 67 '😀'))).singleLimit <
      (alphabet (String.ofList (List.replicate 67 '😀'))).units
        (String.ofList (List.replicate 67 '😀')) := by
    rw [needs, units, characters]
    decide +kernel
  have nonempty : String.ofList (List.replicate 67 '😀') ≠ "" := by
    intro none
    rw [none] at characters
    exact absurd characters (by decide)
  have least := bills.segments nonempty
  rw [segments_of_long long] at least
  have few := (isLeast_ceil_iff long).mp least
  rw [needs, unused, spare, units, characters] at few
  revert few
  decide +kernel

/-- A message without escape or surrogate pairs is billed for its parts. -/
theorem pairsFit_of_no_pair {message : String}
    (single : ∀ c ∈ message.toList, (alphabet message).cost c = 1) :
    PairsFit message := by
  refine .inr ?_
  rw [unused, gaps_of_single single]
  exact Nat.zero_le _

end Sms
end ElectroSync
