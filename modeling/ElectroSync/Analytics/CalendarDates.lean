import ElectroSync.Alerts.MeterPoll
import ElectroSync.Analytics.Conservation
import ElectroSync.Nesco.RenderedDates

/-!
# Calendar dates as texts

The analytics count days on milliseconds and the sweep on the day of the month; both start from a
`YYYY-MM-DD` text and print one. On real dates both move along the calendar, and the range of two
dates is what the calendar has between them.
-/

namespace ElectroSync
open Calendar Rounding

/-! ## `Date` of the language -/

namespace DateText

/-- The time of an instant, in milliseconds; beyond this a date is invalid. -/
def maxTime : ℤ := 8_640_000_000_000_000

def timeClip (t : ℤ) : Option ℤ := if |t| ≤ maxTime then some t else none

def isoYear (year : ℤ) : List Char :=
  if 0 ≤ year ∧ year ≤ 9999 then numeral 4 year.toNat
  else (if year < 0 then '-' else '+') :: numeral 6 year.natAbs

def isoDate (d : Date) : List Char :=
  isoYear d.year ++ '-' :: numeral 2 (d.month + 1).toNat ++ '-' :: numeral 2 d.day.toNat

def toISOString (t : ℤ) : String :=
  let time := (t % msPerDay).toNat
  String.ofList (isoDate (utcDate t) ++ 'T' :: numeral 2 (time / 3_600_000) ++
    ':' :: numeral 2 (time / 60_000 % 60) ++ ':' :: numeral 2 (time / 1000 % 60) ++
    '.' :: numeral 3 (time % 1000) ++ ['Z'])

/-- `date.toISOString().slice(0, 10)`, which throws on an invalid date. -/
def isoDay (date : Option ℤ) : Option String :=
  date.map fun t => String.ofList ((toISOString t).toList.take 10)

/-- A number of that many digits at the start of a text, and the rest. -/
def readNumber (width : ℕ) (text : List Char) : Option (ℤ × List Char) :=
  if (text.take width).length = width ∧ (text.take width).all Char.isDigit = true then
    some (JsString.number (text.take width), text.drop width)
  else none

def readYear : List Char → Option (ℤ × List Char)
  | '+' :: text => readNumber 6 text
  | '-' :: text => (readNumber 6 text).bind fun (year, rest) =>
    if year = 0 then none else some (-year, rest)
  | text => readNumber 4 text

/-- The date of a text in one of the forms of the interchange format: a year, a year and a month,
or all of a date. -/
def readDate (text : List Char) : Option Date :=
  match readYear text with
  | some (year, []) => some ⟨year, 0, 1⟩
  | some (year, '-' :: rest) =>
    match readNumber 2 rest with
    | some (month, []) => some ⟨year, month - 1, 1⟩
    | some (month, '-' :: rest) =>
      match readNumber 2 rest with
      | some (day, []) => some ⟨year, month - 1, day⟩
      | _ => none
    | _ => none
  | _ => none

instance (d : Date) : Decidable d.Exists :=
  decidable_of_iff ((0 ≤ d.month ∧ d.month < 12) ∧
      (1 ≤ d.day ∧ d.day ≤ (monthLengths d.year).getD d.month.toNat 0))
    ⟨fun ⟨month, day⟩ => ⟨month, day⟩, fun ⟨month, day⟩ => ⟨month, day⟩⟩

/-- The time of `${date}T00:00:00` at an offset; `none` is `NaN`. -/
def parse (date : String) (offset : ℤ) : Option ℤ :=
  ((readDate date.toList).filter fun d => decide d.Exists).bind fun d =>
    timeClip (makeDay d.year d.month d.day * msPerDay - offset)

/-! ## `analytics/analytics.service.ts` -/

/-- `addDays`; `none` is a `RangeError`. -/
def addDays (date : String) (days : ℤ) : Option String :=
  isoDay ((parse date 0).bind fun t => timeClip (t + days * msPerDay))

inductive RangeFailure
  | badRequest (exception : BadRequestException)
  | invalidTime
  deriving DecidableEq

structure ResolvedRange where
  rangeStart : ℤ
  /-- `none` is an invalid date. -/
  rangeEnd : Option ℤ
  days : List String
  deriving DecidableEq

def resolveRange (fromDate toDate : String) : Except RangeFailure ResolvedRange :=
  match parse fromDate dhakaOffsetMs, parse toDate dhakaOffsetMs with
  | some rangeStart, some inclusiveEnd =>
    if inclusiveEnd < rangeStart then
      .error (.badRequest ⟨"to must not be earlier than from."⟩)
    else
      let dayCount := roundHalfUp ((inclusiveEnd - rangeStart : ℤ) / msPerDay) + 1
      if dayCount > maxRangeDays then
        .error (.badRequest ⟨s!"Range must not exceed {maxRangeDays} days."⟩)
      else
        match (List.range dayCount.toNat).mapM fun i : ℕ => addDays fromDate i with
        | none => .error .invalidTime
        | some days => .ok ⟨rangeStart, timeClip (inclusiveEnd + msPerDay), days⟩
  | _, _ => .error (.badRequest ⟨"from and to must be YYYY-MM-DD dates."⟩)

/-! ## `alerts/balance-sweep.service.ts` -/

def dhakaDay (instant : ℤ) : Option String := isoDay (timeClip (instant + dhakaOffsetMs))

/-- `setUTCDate` keeps the time of the day. -/
def setUTCDate (t : ℤ) (day : ℤ) : Option ℤ :=
  timeClip (makeDay (utcDate t).year (utcDate t).month day * msPerDay + t % msPerDay)

def dhakaDaysBefore (day : String) (count : ℕ) : Option String :=
  isoDay ((parse day 0).bind fun t => setUTCDate t ((utcDate t).day - count))

def dhakaDayBefore (day : String) : Option String := dhakaDaysBefore day 1

/-- The dates `from` and `to` that `checkUsageAnomaly` asks for, of the clock. -/
def anomalyRequest (now : ℤ) : Option (String × String) := do
  let today ← dhakaDay now
  let yesterday ← dhakaDayBefore today
  let fromDate ← dhakaDaysBefore yesterday anomalyBaselineDays
  return (fromDate, yesterday)

/-! ## Texts of real dates -/

/-- A date that a `YYYY-MM-DD` text can write. -/
structure Written (d : Date) : Prop where
  real : d.Exists
  first : 0 ≤ d.year
  last : d.year ≤ 9999

/-- `YYYY-MM-DD` -/
def text (d : Date) : String :=
  String.ofList (numeral 4 d.year.toNat ++ '-' :: numeral 2 (d.month + 1).toNat ++
    '-' :: numeral 2 d.day.toNat)

def dayOf (d : Date) : ℤ := makeDay d.year d.month d.day

variable {d : Date} {rest : List Char}

theorem monthLengths_le (year : ℤ) (month : ℕ) : (monthLengths year).getD month 0 ≤ 31 := by
  rcases Nat.lt_or_ge month 12 with inside | outside
  · unfold monthLengths
    split <;> revert month <;> decide
  · rw [List.getD_eq_getElem?_getD, List.getElem?_eq_none outside]
    decide

theorem readNumber_numeral {width n : ℕ} (h : n < 10 ^ width) (rest : List Char) :
    readNumber width (numeral width n ++ rest) = some ((n : ℤ), rest) := by
  have front : (numeral width n ++ rest).take width = numeral width n :=
    List.take_left' (length_numeral width n)
  have back : (numeral width n ++ rest).drop width = rest :=
    List.drop_left' (length_numeral width n)
  rw [readNumber, front, back, number_numeral h,
    if_pos ⟨length_numeral width n, List.all_eq_true.mpr (isDigit_numeral width n)⟩]

/-- A year of four digits has no sign. -/
theorem readYear_numeral {n : ℕ} (h : n < 10 ^ 4) :
    readYear (numeral 4 n ++ rest) = some ((n : ℤ), rest) := by
  have digits := isDigit_numeral 4 n
  have read := readNumber_numeral h rest
  obtain ⟨c, cs, shape⟩ := List.exists_cons_of_length_eq_add_one (length_numeral 4 n)
  rw [shape] at digits read ⊢
  have digit := digits c List.mem_cons_self
  unfold readYear
  split
  · next same =>
    cases same
    contradiction
  · next same =>
    cases same
    contradiction
  · exact read

theorem readDate_text (h : Written d) : readDate (text d).toList = some d := by
  obtain ⟨⟨⟨early, _⟩, first, _⟩, old, _⟩ := id h
  have longest := monthLengths_le d.year d.month.toNat
  have year : d.year.toNat < 10 ^ 4 := by omega
  have month : (d.month + 1).toNat < 10 ^ 2 := by omega
  have day : d.day.toNat < 10 ^ 2 := by omega
  have last := readNumber_numeral day []
  rw [List.append_nil] at last
  rw [text, String.toList_ofList, readDate, List.append_assoc, readYear_numeral year]
  simp only [List.cons_append, readNumber_numeral month, last]
  rw [Int.toNat_of_nonneg old, Int.toNat_of_nonneg (by omega), Int.toNat_of_nonneg (by omega),
    add_sub_cancel_right]

theorem text_inj {d' : Date} (h : Written d) (h' : Written d') (same : text d = text d') :
    d = d' := by
  have read := readDate_text h
  rw [same, readDate_text h'] at read
  exact (Option.some.inj read).symm

theorem isoDate_eq (h : Written d) : String.ofList (isoDate d) = text d := by
  rw [isoDate, isoYear, if_pos ⟨h.first, h.last⟩]
  rfl

/-! ## Days -/

theorem ofDay_dayOf (h : d.Exists) : ofDay (dayOf d) = d := ofDay_makeDay h

theorem dayOf_ofDay (day : ℤ) : dayOf (ofDay day) = day := makeDay_ofDay day

/-- The days of the years of four digits. -/
theorem written_ofDay_iff {day : ℤ} : Written (ofDay day) ↔ -719_528 ≤ day ∧ day < 2_932_897 := by
  have years := year_mem_iff day 0 10000
  have first : dayFromYear 0 = -719_528 := by decide
  have last : dayFromYear 10000 = 2_932_897 := by decide
  rw [first, last] at years
  rw [← years]
  exact ⟨fun h => ⟨h.first, Int.lt_add_one_of_le h.last⟩,
    fun h => ⟨ofDay_exists day, h.1, Int.le_of_lt_add_one h.2⟩⟩

theorem Written.bounds (h : Written d) : -719_528 ≤ dayOf d ∧ dayOf d < 2_932_897 :=
  written_ofDay_iff.mp (by rwa [ofDay_dayOf h.real])

theorem iterate_next (h : Written d) (n : ℕ) : Date.next^[n] d = ofDay (dayOf d + n) := by
  rw [ofDay_add, ofDay_dayOf h.real]

theorem dayOf_iterate (h : Written d) (n : ℕ) : dayOf (Date.next^[n] d) = dayOf d + n := by
  rw [iterate_next h, dayOf_ofDay]

/-- What lies between two real dates is real. -/
theorem Written.between {m n : ℕ} (h : Written d) (last : Written (Date.next^[n] d))
    (before : m ≤ n) : Written (Date.next^[m] d) := by
  have lo := h.bounds
  have hi := last.bounds
  rw [dayOf_iterate h] at hi
  rw [iterate_next h, written_ofDay_iff]
  omega

/-- Of two real dates one comes so many days after the other. -/
theorem exists_iterate {d' : Date} (h : Written d) (h' : Written d') :
    (∃ n, d' = Date.next^[n] d) ∨ ∃ n, 0 < n ∧ d = Date.next^[n] d' := by
  rcases le_or_gt (dayOf d) (dayOf d') with forward | back
  · refine .inl ⟨(dayOf d' - dayOf d).toNat, ?_⟩
    rw [iterate_next h, Int.toNat_of_nonneg (by omega), add_sub_cancel, ofDay_dayOf h'.real]
  · refine .inr ⟨(dayOf d - dayOf d').toNat, by omega, ?_⟩
    rw [iterate_next h', Int.toNat_of_nonneg (by omega), add_sub_cancel, ofDay_dayOf h.real]

/-! ## Reading and printing -/

theorem msPerDay_eq : msPerDay = 86_400_000 := rfl

theorem dhakaOffsetMs_eq : dhakaOffsetMs = 21_600_000 := rfl

theorem timeClip_of_le {t : ℤ} (h : |t| ≤ maxTime) : timeClip t = some t := if_pos h

/-- The midnight of a real date, at an offset of less than a day. -/
theorem parse_text (h : Written d) {offset : ℤ} (small : 0 ≤ offset ∧ offset ≤ msPerDay) :
    parse (text d) offset = some (dayOf d * msPerDay - offset) := by
  have range := h.bounds
  rw [parse, readDate_text h, Option.filter_some, if_pos (decide_eq_true h.real),
    Option.bind_some]
  refine timeClip_of_le (abs_le.mpr ?_)
  rw [msPerDay_eq] at small ⊢
  rw [maxTime]
  change _ ≤ dayOf d * _ - _ ∧ dayOf d * _ - _ ≤ _
  omega

theorem parse_dhaka (h : Written d) :
    parse (text d) dhakaOffsetMs = some (dhakaMidnight (dayOf d)) :=
  parse_text h (by decide)

/-- The ten characters that are printed of an instant. -/
def printed (day : ℤ) : String := String.ofList ((isoDate (ofDay day)).take 10)

theorem length_isoDate (d : Date) : 10 ≤ (isoDate d).length := by
  simp only [isoDate, isoYear]
  split <;> simp [length_numeral]

theorem isoDay_some (t : ℤ) : isoDay (some t) = some (printed (t / msPerDay)) := by
  have slice : ∀ tail : List Char, (isoDate (utcDate t) ++ tail).take 10 =
      (isoDate (utcDate t)).take 10 := fun tail =>
    List.take_append_of_le_length (length_isoDate _)
  simp only [isoDay, toISOString, String.toList_ofList, Option.map_some, List.append_assoc, slice]
  rfl

theorem printed_of_written {day : ℤ} (h : Written (ofDay day)) :
    printed day = text (ofDay day) := by
  have length : (isoDate (ofDay day)).length = 10 := by
    simp [isoDate, isoYear, if_pos (And.intro h.first h.last), length_numeral]
  rw [printed, List.take_of_length_le length.le, isoDate_eq h]

theorem text_head (d : Date) : ∃ c cs, (text d).toList = c :: cs ∧ c.isDigit = true := by
  obtain ⟨c, cs, shape⟩ := List.exists_cons_of_length_eq_add_one (length_numeral 4 d.year.toNat)
  have digit := isDigit_numeral 4 d.year.toNat c (shape ▸ List.mem_cons_self)
  rw [text, String.toList_ofList, shape]
  exact ⟨c, _, rfl, digit⟩

/-- What is printed of a year without a text of four digits starts with a sign. -/
theorem printed_head {day : ℤ} (h : ¬ Written (ofDay day)) :
    ∃ c cs, (printed day).toList = c :: cs ∧ c.isDigit = false := by
  have signed : ¬ (0 ≤ (ofDay day).year ∧ (ofDay day).year ≤ 9999) := fun years =>
    h ⟨ofDay_exists day, years.1, years.2⟩
  rw [printed, String.toList_ofList, isoDate, isoYear, if_neg signed]
  refine ⟨_, _, rfl, ?_⟩
  split <;> rfl

/-- A text of a real date is printed for the instants of that date alone. -/
theorem printed_eq_text_iff {day : ℤ} (h : Written d) : printed day = text d ↔ day = dayOf d := by
  constructor
  · intro same
    by_cases written : Written (ofDay day)
    · rw [printed_of_written written] at same
      rw [← text_inj written h same, dayOf_ofDay]
    · obtain ⟨c, cs, front, sign⟩ := printed_head written
      obtain ⟨c', cs', front', digit⟩ := text_head d
      rw [same, front'] at front
      cases front
      rw [digit] at sign
      contradiction
  · rintro rfl
    have back := ofDay_dayOf h.real
    rw [printed_of_written (by rwa [back]), back]

/-! ## The two ways to count days -/

/-- The milliseconds of that many days later. -/
theorem addDays_text (h : Written d) (days : ℤ) :
    addDays (text d) days =
      (timeClip ((dayOf d + days) * msPerDay)).map fun _ => printed (dayOf d + days) := by
  have sum : dayOf d * msPerDay - 0 + days * msPerDay = (dayOf d + days) * msPerDay := by ring
  rw [addDays, parse_text h ⟨le_rfl, by decide⟩, Option.bind_some, sum, timeClip]
  split
  · rw [isoDay_some, Int.mul_ediv_cancel _ (by decide), Option.map_some]
  · rw [Option.map_none, isoDay, Option.map_none]

/-- The date of the month that many days earlier. -/
theorem dhakaDaysBefore_text (h : Written d) (count : ℕ) :
    dhakaDaysBefore (text d) count = addDays (text d) (-count) := by
  have midnight : (dayOf d * msPerDay - 0) / 86_400_000 = dayOf d := by
    rw [msPerDay_eq, sub_zero, Int.mul_ediv_cancel _ (by decide)]
  have date : utcDate (dayOf d * msPerDay - 0) = d := by rw [utcDate, midnight, ofDay_dayOf h.real]
  have back : makeDay d.year d.month (d.day - count) = dayOf d + -(count : ℤ) := by
    simp only [dayOf, makeDay]
    ring
  have start : (dayOf d * msPerDay - 0) % msPerDay = 0 := by
    rw [sub_zero, Int.mul_emod_left]
  have sum : dayOf d * msPerDay - 0 + -(count : ℤ) * msPerDay =
      (dayOf d + -(count : ℤ)) * msPerDay := by ring
  rw [dhakaDaysBefore, addDays, parse_text h ⟨le_rfl, by decide⟩, Option.bind_some,
    Option.bind_some, setUTCDate, date, back, start, add_zero, sum]

/-! ## The range -/

theorem days_text (h : Written d) {count : ℕ} (few : count ≤ 366) :
    (List.range count).mapM (fun i : ℕ => addDays (text d) i) =
      some ((List.range count).map fun i : ℕ => printed (dayOf d + i)) := by
  have range := h.bounds
  have each : ∀ i ∈ List.range count, addDays (text d) (i : ℕ) = some (printed (dayOf d + i)) := by
    intro i member
    have early := List.mem_range.mp member
    rw [addDays_text h, timeClip_of_le, Option.map_some]
    rw [abs_le, msPerDay_eq, maxTime]
    omega
  generalize List.range count = places at each ⊢
  induction places with
  | nil => rfl
  | cons i places ih =>
    rw [List.mapM_cons, each i List.mem_cons_self,
      ih fun j member => each j (List.mem_cons_of_mem i member)]
    rfl

/-- A range of day numbers, with its days printed. -/
def printRange : Except BadRequestException ElectroSync.ResolvedRange →
    Except RangeFailure ResolvedRange
  | .ok range => .ok ⟨range.rangeStart, some range.rangeEnd, range.days.map printed⟩
  | .error e => .error (.badRequest e)

/-- On real dates the texts are resolved as their days are. -/
theorem resolveRange_text {d' : Date} (h : Written d) (h' : Written d')
    (granularity : UsageGranularity) (meterId : Option String) :
    resolveRange (text d) (text d') = printRange
      (ElectroSync.resolveRange ⟨granularity, some (dayOf d), some (dayOf d'), meterId⟩) := by
  have stop : timeClip (dhakaMidnight (dayOf d') + msPerDay) =
      some (dhakaMidnight (dayOf d') + msPerDay) := by
    have range := h'.bounds
    apply timeClip_of_le
    rw [dhakaMidnight, abs_le, msPerDay_eq, dhakaOffsetMs_eq, maxTime]
    omega
  simp only [resolveRange, ElectroSync.resolveRange, parse_dhaka h, parse_dhaka h', stop]
  by_cases inverted : dhakaMidnight (dayOf d') < dhakaMidnight (dayOf d)
  · simp only [if_pos inverted, printRange]
  simp only [if_neg inverted, dayCount_eq]
  by_cases long : dayOf d' - dayOf d + 1 > maxRangeDays
  · simp only [if_pos long, printRange]
  have few : (dayOf d' - dayOf d + 1).toNat ≤ 366 := by
    rw [maxRangeDays] at long
    omega
  simp only [if_neg long, printRange, days_text h few, List.map_map]
  rfl

variable {n : ℕ}

theorem printed_add (h : Written d) (h' : Written (Date.next^[n] d)) :
    printed (dayOf d + n) = text (Date.next^[n] d) := by
  rw [printed_eq_text_iff h', dayOf_iterate h]

/-- The range of a date and the one so many days later. -/
theorem resolveRange_of_le (h : Written d) (h' : Written (Date.next^[n] d)) (few : n < 366) :
    resolveRange (text d) (text (Date.next^[n] d)) =
      .ok ⟨dhakaMidnight (dayOf d), some (dhakaMidnight (dayOf d + (n + 1))),
        (List.range (n + 1)).map fun i => text (Date.next^[i] d)⟩ := by
  have forward : ¬ dhakaMidnight (dayOf d + n) < dhakaMidnight (dayOf d) := by
    simp only [dhakaMidnight, msPerDay_eq]
    omega
  have short : ¬ dayOf d + n - dayOf d + 1 > maxRangeDays := by
    rw [maxRangeDays]
    omega
  have count : (dayOf d + n - dayOf d + 1).toNat = n + 1 := by omega
  have stop : dhakaMidnight (dayOf d + n) + msPerDay = dhakaMidnight (dayOf d + (n + 1)) := by
    simp only [dhakaMidnight]
    ring
  have days : (List.range (n + 1)).map (fun i : ℕ => printed (dayOf d + i)) =
      (List.range (n + 1)).map fun i => text (Date.next^[i] d) := by
    refine List.map_congr_left fun i member => ?_
    exact printed_add h (h.between h' (Nat.lt_succ_iff.mp (List.mem_range.mp member)))
  rw [resolveRange_text h h' .daily none]
  simp only [ElectroSync.resolveRange, dayOf_iterate h, dayCount_eq, if_neg forward, if_neg short,
    count, stop, printRange, List.map_map, ← days]
  rfl

theorem resolveRange_of_long (h : Written d) (h' : Written (Date.next^[n] d)) (many : 366 ≤ n) :
    resolveRange (text d) (text (Date.next^[n] d)) =
      .error (.badRequest ⟨"Range must not exceed 366 days."⟩) := by
  have forward : ¬ dhakaMidnight (dayOf d + n) < dhakaMidnight (dayOf d) := by
    simp only [dhakaMidnight, msPerDay_eq]
    omega
  have long : dayOf d + n - dayOf d + 1 > maxRangeDays := by
    rw [maxRangeDays]
    omega
  rw [resolveRange_text h h' .daily none]
  simp only [ElectroSync.resolveRange, dayOf_iterate h, dayCount_eq, if_neg forward, if_pos long]
  rfl

theorem resolveRange_of_inverted (h : Written d) (h' : Written (Date.next^[n] d)) (back : 0 < n) :
    resolveRange (text (Date.next^[n] d)) (text d) =
      .error (.badRequest ⟨"to must not be earlier than from."⟩) := by
  have inverted : dhakaMidnight (dayOf d) < dhakaMidnight (dayOf d + n) := by
    simp only [dhakaMidnight, msPerDay_eq]
    omega
  rw [resolveRange_text h' h .daily none]
  simp only [ElectroSync.resolveRange, dayOf_iterate h, if_pos inverted]
  rfl

/-- An instant lies between two Dhaka midnights exactly when its Dhaka date is one of the days. -/
theorem dhakaDay_mem_iff (h : Written d) (h' : Written (Date.next^[n] d)) {instant : ℤ}
    (valid : |instant| ≤ maxTime) :
    (dhakaMidnight (dayOf d) ≤ instant ∧ instant < dhakaMidnight (dayOf d + (n + 1))) ↔
      ∃ day ∈ (List.range (n + 1)).map fun i => text (Date.next^[i] d),
        dhakaDay instant = some day := by
  have last := h'.bounds
  rw [dayOf_iterate h] at last
  rw [abs_le, maxTime] at valid
  have between : (dhakaMidnight (dayOf d) ≤ instant ∧
      instant < dhakaMidnight (dayOf d + (n + 1))) ↔
      ∃ i < n + 1, (instant + dhakaOffsetMs) / msPerDay = dayOf d + (i : ℕ) := by
    simp only [dhakaMidnight, msPerDay_eq, dhakaOffsetMs_eq]
    constructor
    · rintro ⟨start, stop⟩
      exact ⟨((instant + 21_600_000) / 86_400_000 - dayOf d).toNat, by omega, by omega⟩
    · rintro ⟨i, inside, same⟩
      omega
  rw [between]
  simp only [List.mem_map, List.mem_range, exists_exists_and_eq_and]
  refine exists_congr fun i => and_congr_right fun inside => ?_
  have written := h.between h' (Nat.lt_succ_iff.mp inside)
  rw [← dayOf_iterate h, ← printed_eq_text_iff written, dhakaDay, timeClip]
  split
  · rw [isoDay_some, Option.some.injEq]
  · next invalid =>
    -- the last hours of time are on no day that can be printed
    refine iff_of_false (fun same => invalid ?_) nofun
    rw [printed_eq_text_iff written, dayOf_iterate h, msPerDay_eq] at same
    rw [abs_le, maxTime]
    rw [dhakaOffsetMs_eq] at same ⊢
    omega

/-! ## The dates of the anomaly check -/

theorem dhakaDaysBefore_iterate (h : Written d) (h' : Written (Date.next^[n] d)) :
    dhakaDaysBefore (text (Date.next^[n] d)) n = some (text d) := by
  have range := h.bounds
  have back : dayOf (Date.next^[n] d) + -(n : ℤ) = dayOf d := by
    rw [dayOf_iterate h]
    ring
  rw [dhakaDaysBefore_text h', addDays_text h', back, timeClip_of_le, Option.map_some,
    (printed_eq_text_iff h).mpr rfl]
  rw [abs_le, msPerDay_eq, maxTime]
  omega

/-- What the check asks for on the day after the last one it covers. -/
theorem anomalyRequest_eq (h : Written d)
    (h' : Written (Date.next^[anomalyBaselineDays + 1] d)) {now : ℤ}
    (today : dhakaDay now = some (text (Date.next^[anomalyBaselineDays + 1] d))) :
    anomalyRequest now = some (text d, text (Date.next^[anomalyBaselineDays] d)) := by
  rw [anomalyRequest, today]
  generalize anomalyBaselineDays = count at h' ⊢
  have yesterday := h.between h' (Nat.le_succ count)
  rw [Function.iterate_succ_apply', ← Function.iterate_one Date.next] at h'
  have before := dhakaDaysBefore_iterate yesterday h'
  rw [Function.iterate_one, ← Function.iterate_succ_apply' Date.next] at before
  simp only [Option.bind_eq_bind, Option.bind_some, dhakaDayBefore, before,
    dhakaDaysBefore_iterate h yesterday]
  rfl

/-! ## Ranges and instants -/

/-- A range has the dates of `n + 1` days from a date on, and the instants of those days. -/
structure CalendarRange (d : Date) (n : ℕ) (range : ResolvedRange) : Prop where
  days : range.days = (List.range (n + 1)).map fun i => text (Date.next^[i] d)
  instants : ∃ stop, range.rangeEnd = some stop ∧
    stop - range.rangeStart = 24 * 60 * 60 * 1000 * range.days.length ∧
    ∀ instant, |instant| ≤ maxTime →
      ((range.rangeStart ≤ instant ∧ instant < stop) ↔
        ∃ day ∈ range.days, dhakaDay instant = some day)

theorem exists_calendarRange (h : Written d) (h' : Written (Date.next^[n] d)) (few : n < 366) :
    ∃ range, resolveRange (text d) (text (Date.next^[n] d)) = .ok range ∧
      CalendarRange d n range := by
  refine ⟨_, resolveRange_of_le h h' few, rfl, _, rfl, ?_, fun _ => dhakaDay_mem_iff h h'⟩
  rw [List.length_map, List.length_range]
  simp only [dhakaMidnight, msPerDay_eq]
  push_cast
  ring

/-- Of two real dates one is some days after the other. In that order their range has the dates
from the first to the last and the instants of these days, unless there are more than 366, and in
the other it is refused. Counting back on the day of the month is counting milliseconds, and the
anomaly check asks for the baseline days and yesterday. -/
theorem calendar_ranges :
    (∀ d d', Written d → Written d' →
      (∃ n, d' = Date.next^[n] d) ∨ ∃ n, 0 < n ∧ d = Date.next^[n] d') ∧
    (∀ d n, Written d → Written (Date.next^[n] d) →
      (n < 366 → ∃ range, resolveRange (text d) (text (Date.next^[n] d)) = .ok range ∧
        CalendarRange d n range) ∧
      (366 ≤ n → resolveRange (text d) (text (Date.next^[n] d)) =
        .error (.badRequest ⟨"Range must not exceed 366 days."⟩)) ∧
      (0 < n → resolveRange (text (Date.next^[n] d)) (text d) =
        .error (.badRequest ⟨"to must not be earlier than from."⟩))) ∧
    (∀ d, Written d → ∀ n : ℕ, dhakaDaysBefore (text d) n = addDays (text d) (-n)) ∧
    ∀ d now, Written d → Written (Date.next^[anomalyBaselineDays + 1] d) →
      dhakaDay now = some (text (Date.next^[anomalyBaselineDays + 1] d)) →
      ∃ first yesterday range, anomalyRequest now = some (first, yesterday) ∧
        yesterday = text (Date.next^[anomalyBaselineDays] d) ∧
        resolveRange first yesterday = .ok range ∧
        range.days.length = anomalyBaselineDays + 1 ∧ range.days.getLast? = some yesterday := by
  refine ⟨fun _ _ => exists_iterate, fun d n h h' => ⟨exists_calendarRange h h',
    resolveRange_of_long h h', resolveRange_of_inverted h h'⟩,
    fun _ h => dhakaDaysBefore_text h, fun d now h h' today => ?_⟩
  have yesterday := h.between h' (Nat.le_succ anomalyBaselineDays)
  refine ⟨_, _, _, anomalyRequest_eq h h' today, rfl,
    resolveRange_of_le h yesterday (by decide), ?_, ?_⟩
  · rw [List.length_map, List.length_range]
  · rw [List.range_succ, List.map_append, List.map_singleton, List.getLast?_append,
      List.getLast?_singleton, Option.some_or]

/-- A range over the leap day, and the check at the midnight that begins 2 March. -/
theorem calendar_ranges_leapDay :
    (∃ range, resolveRange "2024-02-27" "2024-03-01" = .ok range ∧
      CalendarRange ⟨2024, 1, 27⟩ 3 range ∧
      range.days = ["2024-02-27", "2024-02-28", "2024-02-29", "2024-03-01"]) ∧
    resolveRange "2024-03-01" "2024-02-27" =
      .error (.badRequest ⟨"to must not be earlier than from."⟩) ∧
    dhakaDaysBefore "2024-03-01" 2 = addDays "2024-03-01" (-(2 : ℕ)) ∧
    ∃ first yesterday range, anomalyRequest 1_709_316_000_000 = some (first, yesterday) ∧
      yesterday = "2024-03-01" ∧ resolveRange first yesterday = .ok range ∧
      range.days.length = anomalyBaselineDays + 1 ∧ range.days.getLast? = some yesterday := by
  have first : Written ⟨2024, 1, 27⟩ := ⟨by decide, by decide, by decide⟩
  have last : Written (Date.next^[3] ⟨2024, 1, 27⟩) := ⟨by decide, by decide, by decide⟩
  have firstText : text ⟨2024, 1, 27⟩ = "2024-02-27" := by decide +kernel
  have lastText : text (Date.next^[3] ⟨2024, 1, 27⟩) = "2024-03-01" := by decide +kernel
  obtain ⟨-, ranges, back, checks⟩ := calendar_ranges
  obtain ⟨short, -, inverted⟩ := ranges _ 3 first last
  rw [firstText, lastText] at short inverted
  obtain ⟨range, resolved, calendar⟩ := short (by decide)
  refine ⟨⟨range, resolved, calendar, ?_⟩, inverted (by decide), ?_, ?_⟩
  · rw [calendar.days]
    decide +kernel
  · rw [← lastText]
    exact back _ last 2
  · have yesterdayText : "2024-03-01" = text (Date.next^[anomalyBaselineDays] ⟨2024, 1, 16⟩) := by
      decide +kernel
    rw [yesterdayText]
    exact checks ⟨2024, 1, 16⟩ _ ⟨by decide, by decide, by decide⟩
      ⟨by decide, by decide, by decide⟩ (by decide +kernel)

end DateText
end ElectroSync
