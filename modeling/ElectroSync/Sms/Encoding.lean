import Mathlib.Data.List.Basic
import Mathlib.Data.List.Perm.Basic

/-!
# The encoding of a message and its segments (`sms/sms.encoding.ts`)

The alphabet is found by content, and its two tables are those of GSM 03.38.
-/

namespace ElectroSync

inductive SmsEncoding
  | text
  | unicode
  deriving DecidableEq

structure SmsShape where
  encoding : SmsEncoding
  segments : ℕ
  deriving DecidableEq

namespace Sms

/-! ## `sms/sms.constants.ts` -/

def gsm7SingleLimit : ℕ := 160
def gsm7ConcatenatedLimit : ℕ := 153
def ucs2SingleLimit : ℕ := 70
def ucs2ConcatenatedLimit : ℕ := 67

/-! ## The code -/

def gsm7Basic : List Char :=
  ["@£$¥èéùìòÇ\nØø\rÅå",
   "Δ_ΦΓΛΩΠΨΣΘΞÆæßÉ",
   " !\"#¤%&'()*+,-./",
   "0123456789:;<=>?",
   "¡ABCDEFGHIJKLMNO",
   "PQRSTUVWXYZÄÖÑÜ§",
   "¿abcdefghijklmno",
   "pqrstuvwxyzäöñüà"].flatMap String.toList

def gsm7Extended : List Char := "^\x7b\x7d\\[~]|€\x0c".toList

def isGsm7 (message : String) : Bool :=
  message.toList.all fun character =>
    gsm7Basic.contains character || gsm7Extended.contains character

def gsm7Septets (message : String) : ℕ :=
  message.toList.foldl
    (fun septets character => septets + if gsm7Extended.contains character then 2 else 1) 0

/-- The UTF-16 code units of a character. -/
def codeUnits (character : Char) : ℕ := if character.toNat ≤ 0xFFFF then 1 else 2

/-- `message.length` -/
def utf16Length (message : String) : ℕ :=
  message.toList.foldl (fun units character => units + codeUnits character) 0

/-- `countSegments`; the last case is `Math.ceil(units / concatenated)`. -/
def countSegments (units single concatenated : ℕ) : ℕ :=
  if units = 0 then 0
  else if units ≤ single then 1
  else (units + concatenated - 1) / concatenated

def describeSms (message : String) : SmsShape :=
  if isGsm7 message then
    { encoding := .text
      segments := countSegments (gsm7Septets message) gsm7SingleLimit gsm7ConcatenatedLimit }
  else
    { encoding := .unicode
      segments := countSegments (utf16Length message) ucs2SingleLimit ucs2ConcatenatedLimit }

/-! ## The tables of GSM 03.38 -/

/-- The characters of the basic table by their septet, without the escape at `0x1B`. -/
def basicTable : List ℕ :=
  [0x40, 0xA3, 0x24, 0xA5, 0xE8, 0xE9, 0xF9, 0xEC, 0xF2, 0xC7, 0x0A, 0xD8, 0xF8, 0x0D, 0xC5, 0xE5,
   0x394, 0x5F, 0x3A6, 0x393, 0x39B, 0x3A9, 0x3A0, 0x3A8, 0x3A3, 0x398, 0x39E, 0xC6, 0xE6, 0xDF,
   0xC9, 0x20, 0x21, 0x22, 0x23, 0xA4] ++ List.range' 0x25 27 ++ [0xA1] ++ List.range' 0x41 26 ++
  [0xC4, 0xD6, 0xD1, 0xDC, 0xA7, 0xBF] ++ List.range' 0x61 26 ++ [0xE4, 0xF6, 0xF1, 0xFC, 0xE0]

/-- The characters of the extension table by the septet that follows the escape. -/
def extensionTable : List ℕ := [0x0C, 0x5E, 0x7B, 0x7D, 0x5C, 0x5B, 0x7E, 0x5D, 0x7C, 0x20AC]

def InTables (c : Char) : Prop := c.toNat ∈ basicTable ∨ c.toNat ∈ extensionTable

instance (c : Char) : Decidable (InTables c) := inferInstanceAs (Decidable (_ ∨ _))

theorem basicTable_eq : gsm7Basic.map Char.toNat = basicTable := by decide +kernel

theorem extensionTable_perm : (gsm7Extended.map Char.toNat).Perm extensionTable := by
  decide +kernel

theorem mem_gsm7Basic {c : Char} : c ∈ gsm7Basic ↔ c.toNat ∈ basicTable := by
  rw [← basicTable_eq, List.mem_map]
  exact ⟨fun member => ⟨c, member, rfl⟩, fun ⟨_, member, same⟩ => Char.toNat_inj.mp same ▸ member⟩

theorem mem_gsm7Extended {c : Char} : c ∈ gsm7Extended ↔ c.toNat ∈ extensionTable := by
  rw [← extensionTable_perm.mem_iff, List.mem_map]
  exact ⟨fun member => ⟨c, member, rfl⟩, fun ⟨_, member, same⟩ => Char.toNat_inj.mp same ▸ member⟩

theorem isGsm7_iff {message : String} :
    isGsm7 message = true ↔ ∀ c ∈ message.toList, InTables c := by
  simp only [isGsm7, List.all_eq_true, Bool.or_eq_true, List.contains_iff_mem, mem_gsm7Basic,
    mem_gsm7Extended, InTables]

end Sms
end ElectroSync
