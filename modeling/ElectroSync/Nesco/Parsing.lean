import ElectroSync.Library.Calendar
import ElectroSync.Library.JsString
import ElectroSync.Library.Matcher

/-!
# The dates of the portal (`nesco/portal/nesco.parsing.ts`)

The portal prints dates in three formats: slashes and a 24-hour clock for the installation,
`dd-MMM-yyyy` for the recharges, and the settlement stamp in the label of the balance. A regular
expression is a `Matcher`; its captures are the fields of what the matcher returns.
-/

namespace ElectroSync
open Calendar Matcher

inductive NescoFailureReason
  | upstreamUnreachable
  | upstreamTimeout
  | upstreamError
  | layoutChanged
  | customerNotFound
  deriving DecidableEq

structure NescoPortalError where
  reason : NescoFailureReason
  message : String
  deriving DecidableEq

def layoutError (message : String) : NescoPortalError := ⟨.layoutChanged, message⟩

def bengaliZero : ℕ := 0x09E6
def dhakaUtcOffsetMinutes : ℤ := 360

def monthAbbreviations : List (String × ℤ) :=
  [("JAN", 0), ("FEB", 1), ("MAR", 2), ("APR", 3), ("MAY", 4), ("JUN", 5), ("JUL", 6), ("AUG", 7),
    ("SEP", 8), ("OCT", 9), ("NOV", 10), ("DEC", 11)]

def asciiDigit (digit : Char) : Char :=
  if '০' ≤ digit ∧ digit ≤ '৯' then Char.ofNat (digit.toNat - bengaliZero + '0'.toNat) else digit

def toAsciiDigits (value : String) : String := String.ofList (value.toList.map asciiDigit)

/-- `toUpperCase` of ASCII letters. -/
def upper (text : List Char) : String := String.ofList (text.map Char.toUpper)

/-- `replace(/^[^\d]+/, '')` -/
def stripPrefix (text : String) : String :=
  String.ofList (text.toList.dropWhile fun c => !c.isDigit)

/-! ## Instants -/

/-- Bangladesh wall-clock components as Unix epoch seconds. -/
def dhakaTimeToEpochSeconds (parts : Clock) (field raw : String) : Except NescoPortalError ℤ :=
  let asUtc := dateUTC parts
  -- `Date.UTC` rolls impossible dates over; only the date is compared back
  let rolledOver := (utcDate asUtc).year ≠ parts.year ∨ (utcDate asUtc).month ≠ parts.month ∨
    (utcDate asUtc).day ≠ parts.day
  if rolledOver then .error (layoutError s!"\"{field}\" is not a real date: \"{raw}\"")
  else
    let epochMs := asUtc - dhakaUtcOffsetMinutes * 60_000
    .ok (epochMs / 1000)

def to24Hour (rawHour meridiem : List Char) (raw : String) : Except NescoPortalError ℤ :=
  let hour := JsString.number rawHour
  if hour < 1 ∨ hour > 12 then
    .error (layoutError s!"Hour out of range for a 12-hour clock in \"{raw}\"")
  else if upper meridiem = "AM" then .ok (if hour = 12 then 0 else hour)
  else .ok (if hour = 12 then 12 else hour + 12)

/-! ## Patterns -/

def digits (lo hi : ℕ) : Matcher (List Char) := run Char.isDigit lo (some hi)

def spaces (lo : ℕ) : Matcher (List Char) := run JsString.isSpace lo none

/-- `(AM|PM)` with the flag `i` -/
def meridiem : Matcher (List Char) :=
  let ignoreCase (c letter : Char) : Bool := c.toUpper == letter
  alt (literal ignoreCase ['A', 'M']) (literal ignoreCase ['P', 'M'])

structure SlashMatch where
  day : List Char
  month : List Char
  year : List Char
  hour : Option (List Char)
  minute : Option (List Char)
  second : Option (List Char)

/-- `(?::(\d{2}))?` -/
def seconds : Matcher (Option (List Char)) := opt do
  let _ ← char ':'
  digits 2 2

/-- `\s+(\d{1,2}):(\d{2})(?::(\d{2}))?` -/
def slashTime : Matcher (List Char × List Char × Option (List Char)) := do
  let _ ← spaces 1
  let hour ← digits 1 2
  let _ ← char ':'
  let minute ← digits 2 2
  let second ← seconds
  return (hour, minute, second)

/-- `(\d{1,2})\/(\d{1,2})\/(\d{4})(?:\s+(\d{1,2}):(\d{2})(?::(\d{2}))?)?` -/
def slashPattern : Matcher SlashMatch := do
  let day ← digits 1 2
  let _ ← char '/'
  let month ← digits 1 2
  let _ ← char '/'
  let year ← digits 4 4
  let time ← opt slashTime
  return ⟨day, month, year, time.map (·.1), time.map (·.2.1), time.bind (·.2.2)⟩

/-- The captures of the two patterns with a month name and a 12-hour clock. -/
structure NamedMatch where
  day : List Char
  monthName : List Char
  year : List Char
  rawHour : List Char
  minute : List Char
  second : Option (List Char)
  meridiem : List Char

/-- `(\d{1,2})-([A-Za-z]{3})-(\d{4})\s+(\d{1,2}):(\d{2})\s*(AM|PM)` -/
def rechargePattern : Matcher NamedMatch := do
  let day ← digits 1 2
  let _ ← char '-'
  let monthName ← run Char.isAlpha 3 (some 3)
  let _ ← char '-'
  let year ← digits 4 4
  let _ ← spaces 1
  let rawHour ← digits 1 2
  let _ ← char ':'
  let minute ← digits 2 2
  let _ ← spaces 0
  let half ← meridiem
  return ⟨day, monthName, year, rawHour, minute, none, half⟩

/-- `(\d{1,2})\s+([A-Za-z]+)\s+(\d{4})\s+(\d{1,2}):(\d{2})(?::(\d{2}))?\s*(AM|PM)` -/
def stampPattern : Matcher NamedMatch := do
  let day ← digits 1 2
  let _ ← spaces 1
  let monthName ← run Char.isAlpha 1 none
  let _ ← spaces 1
  let year ← digits 4 4
  let _ ← spaces 1
  let rawHour ← digits 1 2
  let _ ← char ':'
  let minute ← digits 2 2
  let second ← seconds
  let _ ← spaces 0
  let half ← meridiem
  return ⟨day, monthName, year, rawHour, minute, second, half⟩

/-- `\(([^)]*)\)\s*` -/
def groupPattern : Matcher (List Char) := do
  let _ ← char '('
  let group ← run (· != ')') 0 none
  let _ ← char ')'
  let _ ← spaces 0
  return group

/-! ## The three formats -/

/-- `dd/MM/yyyy HH:mm:ss`, the time optional. -/
def parseSlashDateTime (raw field : String) : Except NescoPortalError ℤ :=
  match exec slashPattern (JsString.trim (toAsciiDigits raw)).toList with
  | none => .error <| layoutError
      s!"Expected \"{field}\" as \"dd/MM/yyyy HH:mm:ss\" but received \"{raw}\""
  | some m => dhakaTimeToEpochSeconds {
      year := JsString.number m.year
      month := JsString.number m.month - 1
      day := JsString.number m.day
      hour := JsString.number (m.hour.getD ['0'])
      minute := JsString.number (m.minute.getD ['0'])
      second := JsString.number (m.second.getD ['0']) } field raw

def parseInstallationDate (raw : String) : Except NescoPortalError ℤ :=
  parseSlashDateTime raw "meterInstalledAt"

/-- `dd-MMM-yyyy hh:mm AM|PM` -/
def parseRechargeDate (raw : String) : Except NescoPortalError ℤ :=
  match exec rechargePattern (JsString.trim (toAsciiDigits raw)).toList with
  | none => .error <| layoutError
      s!"Expected recharge date as \"dd-MMM-yyyy hh:mm AM/PM\" but received \"{raw}\""
  | some m => match monthAbbreviations.lookup (upper m.monthName) with
    | none => .error <| layoutError
        s!"Unrecognised month \"{String.ofList m.monthName}\" in recharge date \"{raw}\""
    | some monthIndex => do
      let hour ← to24Hour m.rawHour m.meridiem raw
      dhakaTimeToEpochSeconds {
        year := JsString.number m.year
        month := monthIndex
        day := JsString.number m.day
        hour
        minute := JsString.number m.minute
        second := 0 } "rechargedDate" raw

/-- `d MMMM yyyy h:mm:ss AM|PM` after a prefix without digits, the seconds optional. -/
def parseBalanceStamp (raw field : String) : Except NescoPortalError ℤ :=
  match exec stampPattern (JsString.trim (stripPrefix (toAsciiDigits raw))).toList with
  | none => .error <| layoutError
      s!"Expected \"{field}\" as \"d MMMM yyyy h:mm:ss AM/PM\" but received \"{raw}\""
  | some m => match monthAbbreviations.lookup (upper (m.monthName.take 3)) with
    | none => .error <| layoutError
        s!"Unrecognised month \"{String.ofList m.monthName}\" in \"{field}\""
    | some monthIndex => do
      let hour ← to24Hour m.rawHour m.meridiem raw
      dhakaTimeToEpochSeconds {
        year := JsString.number m.year
        month := monthIndex
        day := JsString.number m.day
        hour
        minute := JsString.number m.minute
        second := JsString.number (m.second.getD ['0']) } field raw

/-- The stamp in the last parenthesised group of the label of the balance. -/
def parseBalanceAsOf (label : String) : Option ℤ :=
  match search groupPattern label.toList with
  | none => none
  | some stamp => (parseBalanceStamp (String.ofList stamp) "balanceAsOf").toOption

example : parseInstallationDate "15/03/2021 14:22:31" = .ok 1615796551 := by decide +kernel

example : parseRechargeDate "০৫-feb-2025 02:30 PM" = .ok 1738744200 := by decide +kernel

example : parseBalanceAsOf "অবশিষ্ট ব্যালেন্স (টাকা)(সময়ঃ 15 August 2026 12:00:00 AM )" =
    some 1786730400 := by decide +kernel

end ElectroSync
