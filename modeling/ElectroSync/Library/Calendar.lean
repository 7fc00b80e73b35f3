import Mathlib.Algebra.Order.BigOperators.Group.List
import Mathlib.Algebra.Order.Ring.Int
import Mathlib.Logic.Function.Iterate

/-!
# The Gregorian calendar of ECMAScript

Days are counted from 1 January 1970 and months from zero. `makeDay` turns any year, month and day
into a day number and carries what is out of range; `ofDay` reads the date of a day number. The date
read back is the one put in exactly when that is a date of the calendar, and likewise for times of
the day. `dateUTC` is `Date.UTC`, with its treatment of the years before 100.
-/

namespace Calendar

def leap (year : ℤ) : Bool := year % 4 = 0 && (year % 100 ≠ 0 || year % 400 = 0)

/-- The number of the first day of a year. -/
def dayFromYear (year : ℤ) : ℤ :=
  365 * (year - 1970) + (year - 1969) / 4 - (year - 1901) / 100 + (year - 1601) / 400

/-- The last year that starts on the day or before. The mean length of a year gives it up to one. -/
def yearFromDay (day : ℤ) : ℤ :=
  let year := 1970 + day * 400 / 146_097
  if day < dayFromYear year then year - 1
  else if dayFromYear (year + 1) ≤ day then year + 1
  else year

def monthLengths (year : ℤ) : List ℤ :=
  [31, if leap year then 29 else 28, 31, 30, 31, 30, 31, 31, 30, 31, 30, 31]

@[ext] structure Date where
  year : ℤ
  month : ℤ
  day : ℤ
  deriving DecidableEq

/-- The date is one of the calendar. -/
structure Date.Exists (d : Date) : Prop where
  month : 0 ≤ d.month ∧ d.month < 12
  day : 1 ≤ d.day ∧ d.day ≤ (monthLengths d.year).getD d.month.toNat 0

def makeDay (year month day : ℤ) : ℤ :=
  dayFromYear (year + month / 12) +
    ((monthLengths (year + month / 12)).take (month % 12).toNat).sum + day - 1

/-- The piece of a partition that holds a point, and the place of the point in it. -/
def locate : List ℤ → ℤ → ℕ × ℤ
  | [], point => (0, point)
  | length :: lengths, point =>
    if point < length then (0, point)
    else
      let (piece, place) := locate lengths (point - length)
      (piece + 1, place)

def ofDay (day : ℤ) : Date :=
  let year := yearFromDay day
  let (month, place) := locate (monthLengths year) (day - dayFromYear year)
  ⟨year, month, place + 1⟩

/-- A date and a time of the day. -/
@[ext] structure Clock extends Date where
  hour : ℤ
  minute : ℤ
  second : ℤ
  deriving DecidableEq

namespace Clock

/-- The second of the day, also when the time is none of a day. -/
def time (c : Clock) : ℤ := c.hour * 3600 + c.minute * 60 + c.second

/-- The clock shows a time that exists, without leap seconds. -/
structure Exists (c : Clock) : Prop where
  date : c.toDate.Exists
  hour : 0 ≤ c.hour ∧ c.hour < 24
  minute : 0 ≤ c.minute ∧ c.minute < 60
  second : 0 ≤ c.second ∧ c.second < 60

/-- The seconds since 1 January 1970; what is out of range is carried. -/
def toSeconds (c : Clock) : ℤ := makeDay c.year c.month c.day * 86_400 + c.time

def ofSeconds (t : ℤ) : Clock where
  toDate := ofDay (t / 86_400)
  hour := t % 86_400 / 3600
  minute := t % 3600 / 60
  second := t % 60

end Clock

/-- `Date.UTC`, in milliseconds. A year of two digits is one of the twentieth century. -/
def dateUTC (c : Clock) : ℤ :=
  let year := if 0 ≤ c.year ∧ c.year ≤ 99 then 1900 + c.year else c.year
  { c with year }.toSeconds * 1000

/-- `getUTCFullYear`, `getUTCMonth` and `getUTCDate` of a time in milliseconds. -/
def utcDate (t : ℤ) : Date := ofDay (t / 86_400_000)

/-! ## Years -/

theorem dayFromYear_succ (year : ℤ) :
    dayFromYear (year + 1) = dayFromYear year + if leap year then 366 else 365 := by
  by_cases h : leap year
  · rw [if_pos h]
    simp only [leap, Bool.and_eq_true, Bool.or_eq_true, decide_eq_true_eq] at h
    simp only [dayFromYear]
    omega
  · rw [if_neg h]
    simp only [leap, Bool.and_eq_true, Bool.or_eq_true, decide_eq_true_eq] at h
    simp only [dayFromYear]
    omega

theorem sum_monthLengths (year : ℤ) :
    (monthLengths year).sum = if leap year then 366 else 365 := by
  unfold monthLengths
  split <;> rfl

/-- The years of four centuries have 146097 days. -/
theorem dayFromYear_bounds (year : ℤ) :
    146_097 * (year - 1970) - 506 ≤ 400 * dayFromYear year ∧
      400 * dayFromYear year ≤ 146_097 * (year - 1970) + 589 := by
  simp only [dayFromYear]
  omega

theorem yearFromDay_spec (day : ℤ) :
    dayFromYear (yearFromDay day) ≤ day ∧ day < dayFromYear (yearFromDay day + 1) := by
  simp only [yearFromDay]
  generalize mean : 1970 + day * 400 / 146_097 = year
  have before := dayFromYear_bounds (year - 1)
  have after := dayFromYear_bounds (year + 1 + 1)
  split
  · next early =>
    rw [sub_add_cancel]
    exact ⟨by omega, early⟩
  split
  · next late => exact ⟨late, by omega⟩
  · next early late => exact ⟨not_lt.mp early, not_le.mp late⟩

theorem dayFromYear_mono {year year' : ℤ} (h : year ≤ year') :
    dayFromYear year ≤ dayFromYear year' := by
  simp only [dayFromYear]
  omega

theorem yearFromDay_eq {day year : ℤ} (starts : dayFromYear year ≤ day)
    (ends : day < dayFromYear (year + 1)) : yearFromDay day = year := by
  obtain ⟨starts', ends'⟩ := yearFromDay_spec day
  rcases lt_trichotomy (yearFromDay day) year with before | same | after
  · have later := dayFromYear_mono (Int.add_one_le_of_lt before)
    omega
  · exact same
  · have later := dayFromYear_mono (Int.add_one_le_of_lt after)
    omega

/-! ## Months -/

theorem locate_spec (lengths : List ℤ) (point : ℤ) (start : 0 ≤ point)
    (stop : point < lengths.sum) :
    point = (lengths.take (locate lengths point).1).sum + (locate lengths point).2 ∧
      (locate lengths point).1 < lengths.length ∧ 0 ≤ (locate lengths point).2 ∧
      (locate lengths point).2 < lengths.getD (locate lengths point).1 0 := by
  induction lengths generalizing point with
  | nil => exact absurd start (not_le.mpr stop)
  | cons length lengths ih =>
    rw [List.sum_cons] at stop
    simp only [locate]
    split
    · next inside => simpa using ⟨start, inside⟩
    · next past =>
      obtain ⟨sum, piece, place, inside⟩ := ih (point - length) (by omega) (by omega)
      simp only [List.take_succ_cons, List.sum_cons, List.length_cons, List.getD_cons_succ]
      exact ⟨by omega, by omega, place, inside⟩

theorem locate_eq {lengths : List ℤ} {piece : ℕ} {place : ℤ} (start : 0 ≤ place)
    (stop : place < lengths.getD piece 0) (lengths_nonneg : ∀ length ∈ lengths, 0 ≤ length) :
    locate lengths ((lengths.take piece).sum + place) = (piece, place) := by
  induction lengths generalizing piece with
  | nil => exact absurd start (not_le.mpr stop)
  | cons length lengths ih =>
    obtain ⟨-, lengths_nonneg'⟩ := List.forall_mem_cons.mp lengths_nonneg
    cases piece with
    | zero =>
      have inside : 0 + place < length := by simpa using stop
      rw [List.take_zero, List.sum_nil, locate, if_pos inside, zero_add]
    | succ piece =>
      have front : 0 ≤ (lengths.take piece).sum :=
        List.sum_nonneg fun length member => lengths_nonneg' length (List.mem_of_mem_take member)
      have past : ¬ length + (lengths.take piece).sum + place < length := by omega
      have place' : length + (lengths.take piece).sum + place - length =
          (lengths.take piece).sum + place := by omega
      rw [List.take_succ_cons, List.sum_cons, locate, if_neg past, place', ih stop lengths_nonneg']

theorem monthLengths_nonneg (year : ℤ) : ∀ length ∈ monthLengths year, 0 ≤ length := by
  unfold monthLengths
  split <;> decide

/-- A place in a piece is a place in the whole. -/
theorem take_sum_add_lt (lengths : List ℤ) (piece : ℕ) (place : ℤ) (start : 0 ≤ place)
    (stop : place < lengths.getD piece 0) (lengths_nonneg : ∀ length ∈ lengths, 0 ≤ length) :
    0 ≤ (lengths.take piece).sum + place ∧ (lengths.take piece).sum + place < lengths.sum := by
  induction lengths generalizing piece with
  | nil => exact absurd start (not_le.mpr stop)
  | cons length lengths ih =>
    obtain ⟨length_nonneg, lengths_nonneg⟩ := List.forall_mem_cons.mp lengths_nonneg
    cases piece with
    | zero =>
      have inside : place < length := by simpa using stop
      have rest := List.sum_nonneg lengths_nonneg
      rw [List.take_zero, List.sum_nil, List.sum_cons]
      omega
    | succ piece =>
      obtain ⟨nonneg, lt⟩ := ih piece stop lengths_nonneg
      rw [List.take_succ_cons, List.sum_cons, List.sum_cons]
      omega

/-! ## Dates -/

theorem makeDay_of_exists {d : Date} (h : d.Exists) :
    makeDay d.year d.month d.day =
      dayFromYear d.year + ((monthLengths d.year).take d.month.toNat).sum + (d.day - 1) := by
  obtain ⟨month, -⟩ := h
  have year : d.month / 12 = 0 := by omega
  have month : d.month % 12 = d.month := by omega
  rw [makeDay, year, month, add_zero, add_sub_assoc]

theorem ofDay_exists (day : ℤ) : (ofDay day).Exists := by
  obtain ⟨starts, ends⟩ := yearFromDay_spec day
  rw [dayFromYear_succ, ← sum_monthLengths] at ends
  obtain ⟨-, piece, place, inside⟩ := locate_spec (monthLengths (yearFromDay day))
    (day - dayFromYear (yearFromDay day)) (by omega) (by omega)
  have twelve : (monthLengths (yearFromDay day)).length = 12 := rfl
  refine ⟨⟨Int.natCast_nonneg _, ?_⟩, ?_⟩
  · simp only [ofDay]
    omega
  · simp only [ofDay, Int.toNat_natCast]
    omega

theorem makeDay_ofDay (day : ℤ) :
    makeDay (ofDay day).year (ofDay day).month (ofDay day).day = day := by
  obtain ⟨starts, ends⟩ := yearFromDay_spec day
  rw [dayFromYear_succ, ← sum_monthLengths] at ends
  obtain ⟨sum, -⟩ := locate_spec (monthLengths (yearFromDay day))
    (day - dayFromYear (yearFromDay day)) (by omega) (by omega)
  rw [makeDay_of_exists (ofDay_exists day)]
  simp only [ofDay, Int.toNat_natCast]
  omega

theorem ofDay_makeDay {d : Date} (h : d.Exists) : ofDay (makeDay d.year d.month d.day) = d := by
  obtain ⟨⟨month, -⟩, first, last⟩ := id h
  obtain ⟨nonneg, lt⟩ := take_sum_add_lt (monthLengths d.year) d.month.toNat (d.day - 1)
    (by omega) (by omega) (monthLengths_nonneg _)
  have year : yearFromDay (makeDay d.year d.month d.day) = d.year := by
    apply yearFromDay_eq
    · rw [makeDay_of_exists h]
      omega
    · rw [makeDay_of_exists h, dayFromYear_succ, ← sum_monthLengths]
      omega
  have place : makeDay d.year d.month d.day - dayFromYear d.year =
      ((monthLengths d.year).take d.month.toNat).sum + (d.day - 1) := by
    rw [makeDay_of_exists h]
    omega
  simp only [ofDay, year, place]
  rw [locate_eq (by omega) (by omega) (monthLengths_nonneg _)]
  ext
  · rfl
  · exact Int.toNat_of_nonneg month
  · exact sub_add_cancel ..

/-! ## The next date -/

/-- The date of the day after. -/
def Date.next (d : Date) : Date :=
  if d.day < (monthLengths d.year).getD d.month.toNat 0 then ⟨d.year, d.month, d.day + 1⟩
  else if d.month < 11 then ⟨d.year, d.month + 1, 1⟩
  else ⟨d.year + 1, 0, 1⟩

theorem monthLengths_pos (year : ℤ) {month : ℕ} (h : month < 12) :
    1 ≤ (monthLengths year).getD month 0 := by
  unfold monthLengths
  split <;> revert month <;> decide

theorem Date.Exists.next {d : Date} (h : d.Exists) : d.next.Exists := by
  obtain ⟨⟨start, stop⟩, first, last⟩ := h
  simp only [Date.next]
  split
  · next inside => exact ⟨⟨start, stop⟩, Int.le_add_one first, Int.add_one_le_of_lt inside⟩
  split
  · next early =>
    have next : d.month + 1 < 12 := by omega
    have place : (d.month + 1).toNat < 12 := by omega
    exact ⟨⟨Int.le_add_one start, next⟩, le_rfl, monthLengths_pos _ place⟩
  · exact ⟨⟨le_rfl, (by decide : (0 : ℤ) < 12)⟩, le_rfl, monthLengths_pos _ (by decide : 0 < 12)⟩

theorem take_succ_sum (lengths : List ℤ) (piece : ℕ) :
    (lengths.take (piece + 1)).sum = (lengths.take piece).sum + lengths.getD piece 0 := by
  induction lengths generalizing piece with
  | nil => simp
  | cons length lengths ih =>
    cases piece with
    | zero => simp
    | succ piece =>
      rw [List.take_succ_cons, List.sum_cons, ih, List.take_succ_cons, List.sum_cons, add_assoc,
        List.getD_cons_succ]

theorem makeDay_next {d : Date} (h : d.Exists) :
    makeDay d.next.year d.next.month d.next.day = makeDay d.year d.month d.day + 1 := by
  have month := h.month
  have last := h.day.2
  rw [makeDay_of_exists h.next, makeDay_of_exists h]
  simp only [Date.next]
  split
  · dsimp only
    omega
  · next full =>
    split
    · dsimp only
      have carried := take_succ_sum (monthLengths d.year) d.month.toNat
      have piece : (d.month + 1).toNat = d.month.toNat + 1 := by omega
      rw [piece, carried]
      omega
    · dsimp only
      have year := take_succ_sum (monthLengths d.year) 11
      have piece : d.month.toNat = 11 := by omega
      have whole : (monthLengths d.year).take (11 + 1) = monthLengths d.year := rfl
      rw [whole, sum_monthLengths] at year
      rw [piece] at last full ⊢
      rw [dayFromYear_succ, year]
      simp only [Int.toNat_zero, List.take_zero, List.sum_nil]
      omega

theorem ofDay_succ (day : ℤ) : ofDay (day + 1) = (ofDay day).next := by
  have real := ofDay_exists day
  rw [← ofDay_makeDay real.next, makeDay_next real, makeDay_ofDay]

theorem ofDay_add (day : ℤ) (count : ℕ) : ofDay (day + count) = Date.next^[count] (ofDay day) := by
  induction count with
  | zero => rw [Nat.cast_zero, add_zero, Function.iterate_zero_apply]
  | succ count ih => rw [Function.iterate_succ_apply', ← ih, ← ofDay_succ, Nat.cast_succ, add_assoc]

/-- The days of a span of years. -/
theorem year_mem_iff (day first last : ℤ) :
    first ≤ (ofDay day).year ∧ (ofDay day).year < last ↔
      dayFromYear first ≤ day ∧ day < dayFromYear last := by
  obtain ⟨starts, ends⟩ := yearFromDay_spec day
  constructor
  · rintro ⟨lo, hi⟩
    exact ⟨(dayFromYear_mono lo).trans starts, ends.trans_le (dayFromYear_mono hi)⟩
  · rintro ⟨lo, hi⟩
    refine ⟨?_, ?_⟩
    · by_contra early
      have := dayFromYear_mono (Int.add_one_le_of_lt (not_le.mp early))
      exact absurd (ends.trans_le this) (not_lt.mpr lo)
    · by_contra late
      exact absurd ((dayFromYear_mono (not_lt.mp late)).trans starts) (not_le.mpr hi)

/-- A date is read back exactly when it exists and nothing was carried into it. -/
theorem ofDay_add_eq_iff {d : Date} {carry : ℤ} :
    ofDay (makeDay d.year d.month d.day + carry) = d ↔ d.Exists ∧ carry = 0 := by
  constructor
  · intro same
    have back := makeDay_ofDay (makeDay d.year d.month d.day + carry)
    have real := ofDay_exists (makeDay d.year d.month d.day + carry)
    rw [same] at back real
    exact ⟨real, by omega⟩
  · rintro ⟨real, rfl⟩
    rw [add_zero, ofDay_makeDay real]

/-! ## Clocks -/

namespace Clock
variable {c : Clock} {t : ℤ}

theorem Exists.time_lt (h : c.Exists) : 0 ≤ c.time ∧ c.time < 86_400 := by
  obtain ⟨-, hour, minute, second⟩ := h
  rw [time]
  omega

theorem ofSeconds_toSeconds (h : c.Exists) : ofSeconds c.toSeconds = c := by
  obtain ⟨nonneg, lt⟩ := h.time_lt
  obtain ⟨-, hour, minute, second⟩ := id h
  have day : c.toSeconds / 86_400 = makeDay c.year c.month c.day := by
    rw [toSeconds]
    omega
  have date : ofDay (c.toSeconds / 86_400) = c.toDate := by rw [day, ofDay_makeDay h.date]
  simp only [ofSeconds, date]
  simp only [toSeconds, time]
  ext
  · rfl
  · rfl
  · rfl
  · change _ % _ / _ = _
    omega
  · change _ % _ / _ = _
    omega
  · change _ % _ = _
    omega

theorem ofSeconds_exists (t : ℤ) : (ofSeconds t).Exists := by
  refine ⟨ofDay_exists _, ?_, ?_, ?_⟩
  all_goals
    simp only [ofSeconds]
    omega

end Clock

/-- The date that `Date.UTC` makes of a clock that is nowhere negative is the date put in exactly
when that exists, its year has three digits, and the time is one of a day. -/
theorem utcDate_dateUTC_iff {c : Clock} (year : 0 ≤ c.year) (month : -1 ≤ c.month)
    (day : 0 ≤ c.day) (time : 0 ≤ c.time) :
    utcDate (dateUTC c) = c.toDate ↔ 100 ≤ c.year ∧ c.toDate.Exists ∧ c.time < 86_400 := by
  rcases le_or_gt c.year 99 with short | long
  · have made : dateUTC c = (makeDay (1900 + c.year) c.month c.day * 86_400 + c.time) * 1000 := by
      rw [dateUTC, if_pos ⟨year, short⟩]
      rfl
    have carried : dateUTC c / 86_400_000 =
        makeDay (1900 + c.year) c.month c.day + c.time / 86_400 := by
      omega
    refine iff_of_false ?_ (by omega)
    intro same
    have years : yearFromDay (dateUTC c / 86_400_000) = c.year := congrArg Date.year same
    obtain ⟨-, ends⟩ := yearFromDay_spec (dateUTC c / 86_400_000)
    rw [years, carried, makeDay] at ends
    have months : 0 ≤ ((monthLengths (1900 + c.year + c.month / 12)).take
        (c.month % 12).toNat).sum :=
      List.sum_nonneg fun length member =>
        monthLengths_nonneg _ length (List.mem_of_mem_take member)
    have later := dayFromYear_mono (show c.year + 1 + 1 ≤ 1900 + c.year + c.month / 12 by omega)
    have next := dayFromYear_succ (c.year + 1)
    split at next <;> omega
  · have made : dateUTC c = (makeDay c.year c.month c.day * 86_400 + c.time) * 1000 := by
      rw [dateUTC, if_neg (by omega)]
      rfl
    have carried : dateUTC c / 86_400_000 = makeDay c.year c.month c.day + c.time / 86_400 := by
      omega
    rw [utcDate, carried, ofDay_add_eq_iff]
    constructor
    · rintro ⟨real, none⟩
      exact ⟨long, real, by omega⟩
    · rintro ⟨-, real, day⟩
      exact ⟨real, by omega⟩

end Calendar
