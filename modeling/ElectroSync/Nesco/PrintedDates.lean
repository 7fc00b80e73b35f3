import ElectroSync.Nesco.Parsing

/-!
# What the portal prints

The three formats of a date, as texts: how the digits are spelled, where white space may stand, and
which clock the text shows. A pattern of the parser reads exactly the texts of its format, each in
one way.
-/

namespace ElectroSync
open Calendar Matcher

/-! ## Characters -/

theorem isDigit_iff {c : Char} : c.isDigit = true ↔ 48 ≤ c.toNat ∧ c.toNat ≤ 57 := by
  simp only [Char.isDigit, Bool.and_eq_true, decide_eq_true_eq, ge_iff_le,
    UInt32.le_iff_toNat_le]
  rfl

theorem isAlpha_iff {c : Char} : c.isAlpha = true ↔
    (65 ≤ c.toNat ∧ c.toNat ≤ 90) ∨ (97 ≤ c.toNat ∧ c.toNat ≤ 122) := by
  change (decide (c.val ≥ 'A'.val ∧ c.val ≤ 'Z'.val) ||
    (decide (c.val ≥ 'a'.val) && decide (c.val ≤ 'z'.val))) = true ↔ _
  simp only [Bool.and_eq_true, Bool.or_eq_true, decide_eq_true_eq, ge_iff_le,
    UInt32.le_iff_toNat_le]
  rfl

theorem isDigit_of_isSpace {c : Char} (h : JsString.isSpace c = true) : c.isDigit = false := by
  rw [← Bool.not_eq_true, isDigit_iff]
  simp only [JsString.isSpace, Bool.or_eq_true, Bool.and_eq_true, decide_eq_true_eq] at h
  omega

theorem isAlpha_of_isSpace {c : Char} (h : JsString.isSpace c = true) : c.isAlpha = false := by
  rw [← Bool.not_eq_true, isAlpha_iff]
  simp only [JsString.isSpace, Bool.or_eq_true, Bool.and_eq_true, decide_eq_true_eq] at h
  omega

theorem isSpace_of_isDigit {c : Char} (h : c.isDigit = true) : JsString.isSpace c = false := by
  rw [← Bool.not_eq_true]
  intro space
  rw [isDigit_of_isSpace space] at h
  cases h

theorem isSpace_of_isAlpha {c : Char} (h : c.isAlpha = true) : JsString.isSpace c = false := by
  rw [← Bool.not_eq_true]
  intro space
  rw [isAlpha_of_isSpace space] at h
  cases h

/-! ## Texts -/

/-- A numeral of the given number of ASCII digits. -/
structure Digits (lo hi : ℕ) (text : List Char) (value : ℤ) : Prop where
  digits : ∀ c ∈ text, c.isDigit = true
  least : lo ≤ text.length
  most : text.length ≤ hi
  value : value = JsString.number text

structure Gap (lo : ℕ) (text : List Char) : Prop where
  spaces : ∀ c ∈ text, JsString.isSpace c = true
  least : lo ≤ text.length

def SecondsText (text : List Char) (second : ℤ) : Prop :=
  (text = [] ∧ second = 0) ∨ ∃ digits, text = ':' :: digits ∧ Digits 2 2 digits second

/-- The time of a date with slashes, or nothing at midnight. -/
def SlashTimeText (text : List Char) (c : Clock) : Prop :=
  (text = [] ∧ c.hour = 0 ∧ c.minute = 0 ∧ c.second = 0) ∨
    ∃ gap hour minute seconds, text = gap ++ (hour ++ ':' :: (minute ++ seconds)) ∧ Gap 1 gap ∧
      Digits 1 2 hour c.hour ∧ Digits 2 2 minute c.minute ∧ SecondsText seconds c.second

/-- `dd/MM/yyyy`, with or without `HH:mm` or `HH:mm:ss`. -/
def SlashText (text : List Char) (c : Clock) : Prop :=
  ∃ day month year time, text = day ++ '/' :: (month ++ '/' :: (year ++ time)) ∧
    Digits 1 2 day c.day ∧ Digits 1 2 month (c.month + 1) ∧ Digits 4 4 year c.year ∧
    SlashTimeText time c

/-- The hour of a 12-hour clock as an hour of the day. -/
def hourOfDay (hour : ℤ) (pm : Bool) : ℤ := hour % 12 + if pm then 12 else 0

/-- `h:mm AM`, with or without seconds; the letters are of either case. -/
def TwelveHourText (seconds text : List Char) (c : Clock) : Prop :=
  ∃ digits hour minute gap half pm, text = digits ++ ':' :: (minute ++ (seconds ++ (gap ++ half))) ∧
    Digits 1 2 digits hour ∧ 1 ≤ hour ∧ hour ≤ 12 ∧ Digits 2 2 minute c.minute ∧ Gap 0 gap ∧
    upper half = (if pm then "PM" else "AM") ∧ c.hour = hourOfDay hour pm

/-- The first three letters of the name are those of the month, of either case. -/
def NamesMonth (name : List Char) (month : ℤ) : Prop :=
  (∀ c ∈ name, c.isAlpha = true) ∧ monthAbbreviations.lookup (upper (name.take 3)) = some month

/-- `dd-MMM-yyyy hh:mm AM` -/
def RechargeText (text : List Char) (c : Clock) : Prop :=
  ∃ day name year gap time, text = day ++ '-' :: (name ++ '-' :: (year ++ (gap ++ time))) ∧
    Digits 1 2 day c.day ∧ NamesMonth name c.month ∧ name.length = 3 ∧ Digits 4 4 year c.year ∧
    Gap 1 gap ∧ TwelveHourText [] time c ∧ c.second = 0

/-- `d MMMM yyyy h:mm:ss AM`, with or without seconds. -/
def StampText (text : List Char) (c : Clock) : Prop :=
  ∃ day gap name gap' year gap'' time seconds,
    text = day ++ (gap ++ (name ++ (gap' ++ (year ++ (gap'' ++ time))))) ∧
    Digits 1 2 day c.day ∧ Gap 1 gap ∧ NamesMonth name c.month ∧ Gap 1 gap' ∧
    Digits 4 4 year c.year ∧ Gap 1 gap'' ∧ TwelveHourText seconds time c ∧
    SecondsText seconds c.second

/-! ## Patterns that are determined -/

variable {s rest : List Char} {follow : List Char → Prop}

/-- A numeral before something else than a digit. -/
theorem determined_digits (stops : ∀ rest, follow rest → Stops Char.isDigit rest) :
    Determined follow (digits lo hi) :=
  determined_run stops

theorem determined_spaces (stops : ∀ rest, follow rest → Stops JsString.isSpace rest) :
    Determined follow (spaces lo) :=
  determined_run stops

theorem isAlpha_of_toUpper {c : Char} (h : c.toUpper.isAlpha = true) : c.isAlpha = true := by
  unfold Char.toUpper at h
  split at h
  · next lower =>
    rw [isAlpha_iff]
    simp only [UInt32.le_iff_toNat_le] at lower
    exact .inr lower
  · exact h

theorem upper_eq_iff {text letters : List Char} :
    upper text = String.ofList letters ↔ text.map Char.toUpper = letters :=
  String.ofList_inj

theorem mem_literal_upper {letters : List Char} :
    (half, rest) ∈ literal (fun c letter => c.toUpper == letter) letters s ↔
      s = half ++ rest ∧ upper half = String.ofList letters := by
  rw [mem_literal, upper_eq_iff, ← List.forall₂_eq_eq_eq, List.forall₂_map_left_iff]
  simp only [beq_iff_eq]

theorem mem_meridiem : (half, rest) ∈ meridiem s ↔
    s = half ++ rest ∧ (upper half = "AM" ∨ upper half = "PM") := by
  simp only [meridiem, mem_alt, mem_literal_upper]
  exact and_or_left.symm

theorem determined_meridiem : Determined follow meridiem := determined_alt_literal rfl

/-- A meridiem begins with a letter. -/
theorem isAlpha_of_meridiem (h : upper half = "AM" ∨ upper half = "PM") :
    ∃ c tail, half = c :: tail ∧ c.isAlpha = true := by
  have letters : ∃ first last, half.map Char.toUpper = [first, last] ∧ first.isAlpha = true := by
    rcases h with am | pm
    · exact ⟨'A', 'M', upper_eq_iff.mp am, rfl⟩
    · exact ⟨'P', 'M', upper_eq_iff.mp pm, rfl⟩
  obtain ⟨first, last, letters, alpha⟩ := letters
  cases half with
  | nil => cases letters
  | cons c tail =>
    rw [List.map_cons] at letters
    obtain ⟨rfl, -⟩ := List.cons.inj letters
    exact ⟨c, tail, rfl, isAlpha_of_toUpper alpha⟩

theorem mem_digits :
    (l, rest) ∈ digits lo hi s ↔ s = l ++ rest ∧ Digits lo hi l (JsString.number l) := by
  rw [digits, mem_run]
  constructor
  · rintro ⟨split, all, least, most⟩
    exact ⟨split, all, least, most hi rfl, rfl⟩
  · rintro ⟨split, all, least, most, -⟩
    refine ⟨split, all, least, ?_⟩
    rintro _ ⟨⟩
    exact most

theorem mem_spaces : (l, rest) ∈ spaces lo s ↔ s = l ++ rest ∧ Gap lo l := by
  rw [spaces, mem_run]
  constructor
  · rintro ⟨split, all, least, -⟩
    exact ⟨split, all, least⟩
  · rintro ⟨split, all, least⟩
    exact ⟨split, all, least, nofun⟩

theorem Digits.number {n : ℤ} (h : Digits lo hi text n) :
    Digits lo hi text (JsString.number text) :=
  ⟨h.digits, h.least, h.most, rfl⟩

/-! ## Dates with slashes -/

theorem mem_seconds_of_text (rest : List Char) (h : SecondsText text second) :
    ∃ ds, (ds, rest) ∈ seconds (text ++ rest) ∧ second = JsString.number (ds.getD ['0']) := by
  rcases h with ⟨rfl, rfl⟩ | ⟨ds, rfl, read⟩
  · exact ⟨none, mem_opt_none.mpr rfl, rfl⟩
  · refine ⟨some ds, ?_, read.value⟩
    simp only [seconds, mem_opt_some, mem_bind, mem_char, mem_digits]
    exact ⟨[':'], _, ⟨rfl, rfl⟩, rfl, read.number⟩

theorem text_of_mem_seconds (h : (ds, rest) ∈ seconds s) :
    ∃ text, s = text ++ rest ∧ SecondsText text (JsString.number (ds.getD ['0'])) := by
  cases ds with
  | none =>
    cases mem_opt_none.mp h
    exact ⟨[], rfl, .inl ⟨rfl, rfl⟩⟩
  | some ds =>
    simp only [seconds, mem_opt_some, mem_bind, mem_char, mem_digits] at h
    obtain ⟨_, _, ⟨rfl, rfl⟩, rfl, read⟩ := h
    exact ⟨':' :: ds, rfl, .inr ⟨ds, rfl, read⟩⟩

theorem determined_seconds (apart : ∀ rest, follow rest → Stops (· == ':') rest) :
    Determined follow seconds := by
  apply Determined.opt
  · exact determined_char.bind_fixed fun _ => determined_run_exact
  · intro s l rest member _ follows
    obtain ⟨_, _, first, -⟩ := mem_bind.mp member
    obtain ⟨rfl, -⟩ := mem_char.mp first
    cases apart _ follows ':' rfl

theorem determined_slashTime : Determined AtEnd slashTime := by
  refine (determined_spaces fun _ => id).bind_stops (fun _ => ?_)
    fun _ _ _ _ h => stops_of_run Nat.one_pos (fun _ => isSpace_of_isDigit) h
  refine (determined_digits fun _ => id).bind_stops (fun _ => ?_)
    fun _ _ _ _ h => stops_of_char rfl h
  refine determined_char.bind_fixed fun _ => ?_
  refine determined_run_exact.bind_fixed fun _ => ?_
  apply Determined.bind_pure
  apply determined_seconds
  rintro _ rfl _ ⟨⟩

theorem determined_slashPattern : Determined AtEnd slashPattern := by
  refine (determined_digits fun _ => id).bind_stops (fun _ => ?_)
    fun _ _ _ _ h => stops_of_char rfl h
  refine determined_char.bind_fixed fun _ => ?_
  refine (determined_digits fun _ => id).bind_stops (fun _ => ?_)
    fun _ _ _ _ h => stops_of_char rfl h
  refine determined_char.bind_fixed fun _ => ?_
  refine determined_run_exact.bind_fixed fun _ => ?_
  apply Determined.bind_pure
  apply Determined.opt determined_slashTime
  rintro _ _ _ h _ rfl
  simp only [slashTime, mem_bind, mem_spaces] at h
  obtain ⟨gap, _, ⟨split, read⟩, -⟩ := h
  cases (List.append_eq_nil_iff.mp split.symm).1
  exact absurd read.least (by decide)

/-- The components that the parser takes from a match. -/
def SlashMatch.clock (m : SlashMatch) : Clock where
  year := JsString.number m.year
  month := JsString.number m.month - 1
  day := JsString.number m.day
  hour := JsString.number (m.hour.getD ['0'])
  minute := JsString.number (m.minute.getD ['0'])
  second := JsString.number (m.second.getD ['0'])

theorem exec_slashPattern_iff :
    (∃ m, exec slashPattern s = some m ∧ m.clock = c) ↔ SlashText s c := by
  simp only [exec_eq_some_iff determined_slashPattern]
  constructor
  · rintro ⟨m, member, rfl⟩
    simp only [slashPattern, mem_bind, mem_digits, mem_char, mem_pure] at member
    obtain ⟨day, _, ⟨rfl, hday⟩, _, _, ⟨rfl, -⟩, month, _, ⟨rfl, hmonth⟩, _, _, ⟨rfl, -⟩, year, _,
      ⟨rfl, hyear⟩, time, _, htime, rfl, rfl⟩ := member
    refine ⟨day, month, year, _, rfl, hday, ?_, hyear, ?_⟩
    · exact ⟨hmonth.digits, hmonth.least, hmonth.most, sub_add_cancel ..⟩
    cases time with
    | none =>
      cases mem_opt_none.mp htime
      exact .inl ⟨rfl, rfl, rfl, rfl⟩
    | some time =>
      simp only [slashTime, mem_opt_some, mem_bind, mem_spaces, mem_digits, mem_char,
        mem_pure] at htime
      obtain ⟨gap, _, ⟨rfl, hgap⟩, hour, _, ⟨rfl, hhour⟩, _, _, ⟨rfl, -⟩, minute, _,
        ⟨rfl, hminute⟩, second, _, hsecond, rfl, rfl⟩ := htime
      obtain ⟨text, rfl, read⟩ := text_of_mem_seconds hsecond
      rw [List.append_nil]
      exact .inr ⟨gap, hour, minute, text, rfl, hgap, hhour, hminute, read⟩
  · rintro ⟨day, month, year, time, rfl, hday, hmonth, hyear, htime⟩
    simp only [slashPattern, mem_bind, mem_digits, mem_char, mem_pure]
    rcases htime with ⟨rfl, hour, minute, second⟩ | ⟨gap, hour, minute, text, rfl, hgap, hhour,
      hminute, hsecond⟩
    · refine ⟨_, ⟨day, _, ⟨rfl, hday.number⟩, _, _, ⟨rfl, rfl⟩, month, _, ⟨rfl, hmonth.number⟩, _,
        _, ⟨rfl, rfl⟩, year, _, ⟨rfl, hyear.number⟩, none, _, mem_opt_none.mpr rfl, rfl, rfl⟩, ?_⟩
      ext
      · exact hyear.value.symm
      · exact (sub_eq_of_eq_add hmonth.value.symm)
      · exact hday.value.symm
      · exact hour.symm
      · exact minute.symm
      · exact second.symm
    · obtain ⟨ds, hds, second⟩ := mem_seconds_of_text [] hsecond
      rw [List.append_nil] at hds
      refine ⟨_, ⟨day, _, ⟨rfl, hday.number⟩, _, _, ⟨rfl, rfl⟩, month, _, ⟨rfl, hmonth.number⟩, _,
        _, ⟨rfl, rfl⟩, year, _, ⟨rfl, hyear.number⟩, some (hour, minute, ds), _, ?_, rfl, rfl⟩, ?_⟩
      · simp only [slashTime, mem_opt_some, mem_bind, mem_spaces, mem_digits, mem_char, mem_pure]
        exact ⟨gap, _, ⟨rfl, hgap⟩, hour, _, ⟨rfl, hhour.number⟩, _, _, ⟨rfl, rfl⟩, minute, _,
          ⟨rfl, hminute.number⟩, ds, _, hds, rfl, rfl⟩
      · ext
        · exact hyear.value.symm
        · exact (sub_eq_of_eq_add hmonth.value.symm)
        · exact hday.value.symm
        · exact hhour.value.symm
        · exact hminute.value.symm
        · exact second.symm

/-! ## Dates with a month name -/

theorem to24Hour_iff {digits half : List Char} {hour : ℤ} {raw : String} {pm : Bool}
    (meridiem : upper half = if pm then "PM" else "AM") :
    to24Hour digits half raw = .ok hour ↔ 1 ≤ (JsString.number digits : ℤ) ∧
      (JsString.number digits : ℤ) ≤ 12 ∧ hour = hourOfDay (JsString.number digits) pm := by
  simp only [to24Hour, meridiem, hourOfDay]
  generalize JsString.number digits = n
  cases pm
  all_goals
    simp only [Bool.false_eq_true, if_true, if_false, String.reduceEq]
    split_ifs <;> simp only [Except.ok.injEq, false_iff, not_and] <;> omega

/-- The parser reads the hour of a text of a 12-hour clock. -/
theorem twelveHourText_iff (raw : String) {sec time : List Char} {c : Clock} :
    TwelveHourText sec time c ↔ ∃ ds minute gap half,
      time = ds ++ ':' :: (minute ++ (sec ++ (gap ++ half))) ∧
      Digits 1 2 ds (JsString.number ds) ∧ Digits 2 2 minute (JsString.number minute) ∧
      Gap 0 gap ∧ (upper half = "AM" ∨ upper half = "PM") ∧
      to24Hour ds half raw = .ok c.hour ∧ c.minute = JsString.number minute := by
  constructor
  · rintro ⟨ds, hour, minute, gap, half, pm, rfl, hhour, lo, hi, hminute, hgap, letters, same⟩
    refine ⟨ds, minute, gap, half, rfl, hhour.number, hminute.number, hgap, ?_, ?_, hminute.value⟩
    · cases pm
      · exact .inl letters
      · exact .inr letters
    · rw [to24Hour_iff letters, ← hhour.value]
      exact ⟨lo, hi, same⟩
  · rintro ⟨ds, minute, gap, half, rfl, hhour, hminute, hgap, letters, hour, same⟩
    have half : ∃ pm : Bool, upper half = if pm then "PM" else "AM" := by
      rcases letters with am | pm
      · exact ⟨false, am⟩
      · exact ⟨true, pm⟩
    obtain ⟨pm, half⟩ := half
    obtain ⟨lo, hi, value⟩ := (to24Hour_iff half).mp hour
    exact ⟨ds, _, minute, gap, _, pm, rfl, hhour, lo, hi, same ▸ hminute, hgap, half, value⟩

/-- The components that the parser takes from a match, given the month and the hour. -/
def NamedMatch.clock (m : NamedMatch) (month hour : ℤ) : Clock where
  year := JsString.number m.year
  month
  day := JsString.number m.day
  hour
  minute := JsString.number m.minute
  second := JsString.number (m.second.getD ['0'])

theorem stops_meridiem {p : Char → Bool} (apart : ∀ c, c.isAlpha = true → p c = false)
    (h : (half, rest) ∈ meridiem s) : Stops p s := by
  obtain ⟨rfl, letters⟩ := mem_meridiem.mp h
  obtain ⟨c, tail, rfl, alpha⟩ := isAlpha_of_meridiem letters
  exact stops_cons (apart c alpha)

/-- What follows the seconds is white space or a letter. -/
theorem stops_half {p : Char → Bool} (f : List Char → Matcher α)
    (letter : ∀ c, c.isAlpha = true → p c = false)
    (space : ∀ c, JsString.isSpace c = true → p c = false)
    (h : (a, rest) ∈ (spaces 0 >>= fun _ => meridiem >>= f) s) : Stops p s := by
  obtain ⟨gap, _, first, second⟩ := mem_bind.mp h
  obtain ⟨rfl, read⟩ := mem_spaces.mp first
  cases gap with
  | nil =>
    obtain ⟨half, _, member, -⟩ := mem_bind.mp second
    exact stops_meridiem letter member
  | cons c gap => exact stops_cons (space c (read.spaces c List.mem_cons_self))

theorem determined_rechargePattern : Determined AtEnd rechargePattern := by
  refine (determined_digits fun _ => id).bind_stops (fun _ => ?_)
    fun _ _ _ _ h => stops_of_char rfl h
  refine determined_char.bind_fixed fun _ => ?_
  refine determined_run_exact.bind_fixed fun _ => ?_
  refine determined_char.bind_fixed fun _ => ?_
  refine determined_run_exact.bind_fixed fun _ => ?_
  refine (determined_spaces fun _ => id).bind_stops (fun _ => ?_)
    fun _ _ _ _ h => stops_of_run Nat.one_pos (fun _ => isSpace_of_isDigit) h
  refine (determined_digits fun _ => id).bind_stops (fun _ => ?_)
    fun _ _ _ _ h => stops_of_char rfl h
  refine determined_char.bind_fixed fun _ => ?_
  refine determined_run_exact.bind_fixed fun _ => ?_
  refine (determined_spaces fun _ => id).bind_stops (fun _ => ?_) ?_
  · exact determined_meridiem.bind_pure _
  · intro _ _ _ _ h
    obtain ⟨half, _, member, -⟩ := mem_bind.mp h
    exact stops_meridiem (fun _ => isSpace_of_isAlpha) member

theorem determined_stampPattern : Determined AtEnd stampPattern := by
  refine (determined_digits fun _ => id).bind_stops (fun _ => ?_)
    fun _ _ _ _ h => stops_of_run Nat.one_pos (fun _ => isDigit_of_isSpace) h
  refine (determined_spaces fun _ => id).bind_stops (fun _ => ?_)
    fun _ _ _ _ h => stops_of_run Nat.one_pos (fun _ => isSpace_of_isAlpha) h
  refine (determined_run fun _ => id).bind_stops (fun _ => ?_)
    fun _ _ _ _ h => stops_of_run Nat.one_pos (fun _ => isAlpha_of_isSpace) h
  refine (determined_spaces fun _ => id).bind_stops (fun _ => ?_)
    fun _ _ _ _ h => stops_of_run (by decide) (fun _ => isSpace_of_isDigit) h
  refine determined_run_exact.bind_fixed fun _ => ?_
  refine (determined_spaces fun _ => id).bind_stops (fun _ => ?_)
    fun _ _ _ _ h => stops_of_run Nat.one_pos (fun _ => isSpace_of_isDigit) h
  refine (determined_digits fun _ => id).bind_stops (fun _ => ?_)
    fun _ _ _ _ h => stops_of_char rfl h
  refine determined_char.bind_fixed fun _ => ?_
  refine determined_run_exact.bind_fixed fun _ => ?_
  refine (determined_seconds fun _ => id).bind_stops (fun _ => ?_) ?_
  · refine (determined_spaces fun _ => id).bind_stops (fun _ => ?_) ?_
    · exact determined_meridiem.bind_pure _
    · intro _ _ _ _ h
      obtain ⟨half, _, member, -⟩ := mem_bind.mp h
      exact stops_meridiem (fun _ => isSpace_of_isAlpha) member
  · intro _ _ _ _ h
    refine stops_half _ (fun c alpha => ?_) (fun c space => ?_) h
    · rw [beq_eq_false_iff_ne]
      rintro rfl
      cases alpha
    · rw [beq_eq_false_iff_ne]
      rintro rfl
      cases space

/-- A recharge has no seconds. -/
theorem second_of_rechargePattern (h : (m, rest) ∈ rechargePattern s) : m.second = none := by
  simp only [rechargePattern, mem_bind, mem_pure] at h
  obtain ⟨_, _, -, _, _, -, _, _, -, _, _, -, _, _, -, _, _, -, _, _, -, _, _, -, _, _, -, _, _, -,
    _, _, -, rfl, -⟩ := h
  rfl

theorem exec_rechargePattern_iff (raw : String) {c : Clock} :
    (∃ m month hour, exec rechargePattern s = some m ∧
        monthAbbreviations.lookup (upper m.monthName) = some month ∧
        to24Hour m.rawHour m.meridiem raw = .ok hour ∧ m.clock month hour = c) ↔
      RechargeText s c := by
  simp only [exec_eq_some_iff determined_rechargePattern]
  constructor
  · rintro ⟨m, month, hour, member, named, half, rfl⟩
    simp only [rechargePattern, mem_bind, mem_digits, mem_char, mem_spaces, mem_run, mem_meridiem,
      mem_pure] at member
    obtain ⟨day, _, ⟨rfl, hday⟩, _, _, ⟨rfl, -⟩, name, _, ⟨rfl, letters, least, most⟩, _, _,
      ⟨rfl, -⟩, year, _, ⟨rfl, hyear⟩, gap, _, ⟨rfl, hgap⟩, ds, _, ⟨rfl, hhour⟩, _, _, ⟨rfl, -⟩,
      minute, _, ⟨rfl, hminute⟩, gap', _, ⟨rfl, hgap'⟩, half', _, ⟨rfl, hhalf⟩, rfl, rfl⟩ := member
    have three : name.length = 3 := Nat.le_antisymm (most 3 rfl) least
    rw [List.append_nil]
    refine ⟨day, name, year, gap, _, rfl, hday, ⟨letters, ?_⟩, three, hyear, hgap, ?_, rfl⟩
    · rw [List.take_of_length_le three.le]
      exact named
    · exact (twelveHourText_iff raw).mpr ⟨ds, minute, gap', half', rfl, hhour, hminute, hgap',
        hhalf, half, rfl⟩
  · rintro ⟨day, name, year, gap, time, rfl, hday, ⟨letters, named⟩, three, hyear, hgap, htime,
      hsecond⟩
    obtain ⟨ds, minute, gap', half, rfl, hhour, hminute, hgap', hhalf, hour, same⟩ :=
      (twelveHourText_iff raw).mp htime
    rw [List.take_of_length_le three.le] at named
    refine ⟨⟨day, name, year, ds, minute, none, half⟩, _, _, ?_, named, hour, ?_⟩
    · simp only [rechargePattern, mem_bind, mem_digits, mem_char, mem_spaces, mem_run,
        mem_meridiem, mem_pure]
      exact ⟨day, _, ⟨rfl, hday.number⟩, _, _, ⟨rfl, rfl⟩, name, _,
        ⟨rfl, letters, three.ge, fun _ h => three.trans_le (Option.some.inj h).le⟩, _, _,
        ⟨rfl, rfl⟩, year, _, ⟨rfl, hyear.number⟩, gap, _, ⟨rfl, hgap⟩, ds, _, ⟨rfl, hhour⟩, _, _,
        ⟨rfl, rfl⟩, minute, _, ⟨rfl, hminute⟩, gap', _, ⟨rfl, hgap'⟩, half, _,
        ⟨(List.append_nil half).symm, hhalf⟩, rfl, rfl⟩
    · ext
      · exact hyear.value.symm
      · rfl
      · exact hday.value.symm
      · rfl
      · exact same.symm
      · exact hsecond.symm

theorem exec_stampPattern_iff (raw : String) {c : Clock} :
    (∃ m month hour, exec stampPattern s = some m ∧
        monthAbbreviations.lookup (upper (m.monthName.take 3)) = some month ∧
        to24Hour m.rawHour m.meridiem raw = .ok hour ∧ m.clock month hour = c) ↔
      StampText s c := by
  simp only [exec_eq_some_iff determined_stampPattern]
  constructor
  · rintro ⟨m, month, hour, member, named, half, rfl⟩
    simp only [stampPattern, mem_bind, mem_digits, mem_char, mem_spaces, mem_run, mem_meridiem,
      mem_pure] at member
    obtain ⟨day, _, ⟨rfl, hday⟩, gap₁, _, ⟨rfl, hgap₁⟩, name, _, ⟨rfl, letters, -, -⟩, gap₂, _,
      ⟨rfl, hgap₂⟩, year, _, ⟨rfl, hyear⟩, gap₃, _, ⟨rfl, hgap₃⟩, ds, _, ⟨rfl, hhour⟩, _, _,
      ⟨rfl, -⟩, minute, _, ⟨rfl, hminute⟩, second, _, hsecond, gap', _, ⟨rfl, hgap'⟩, half', _,
      ⟨rfl, hhalf⟩, rfl, rfl⟩ := member
    obtain ⟨text, rfl, read⟩ := text_of_mem_seconds hsecond
    rw [List.append_nil]
    exact ⟨day, gap₁, name, gap₂, year, gap₃, _, text, rfl, hday, hgap₁, ⟨letters, named⟩, hgap₂,
      hyear, hgap₃, (twelveHourText_iff raw).mpr ⟨ds, minute, gap', half', rfl, hhour, hminute,
        hgap', hhalf, half, rfl⟩, read⟩
  · rintro ⟨day, gap₁, name, gap₂, year, gap₃, time, text, rfl, hday, hgap₁, ⟨letters, named⟩,
      hgap₂, hyear, hgap₃, htime, hsecond⟩
    have unbounded : ∀ m ∈ (none : Option ℕ), name.length ≤ m := by simp
    obtain ⟨ds, minute, gap', half, rfl, hhour, hminute, hgap', hhalf, hour, same⟩ :=
      (twelveHourText_iff raw).mp htime
    obtain ⟨second, read, value⟩ := mem_seconds_of_text (gap' ++ half) hsecond
    have nonempty : 1 ≤ name.length := by
      rw [Nat.one_le_iff_ne_zero, ne_eq, List.length_eq_zero_iff]
      rintro rfl
      cases named
    refine ⟨⟨day, name, year, ds, minute, second, half⟩, _, _, ?_, named, hour, ?_⟩
    · simp only [stampPattern, mem_bind, mem_digits, mem_char, mem_spaces, mem_run, mem_meridiem,
        mem_pure]
      exact ⟨day, _, ⟨rfl, hday.number⟩, gap₁, _, ⟨rfl, hgap₁⟩, name, _,
        ⟨rfl, letters, nonempty, unbounded⟩, gap₂, _, ⟨rfl, hgap₂⟩, year, _,
        ⟨rfl, hyear.number⟩, gap₃, _, ⟨rfl, hgap₃⟩, ds, _, ⟨rfl, hhour⟩, _, _, ⟨rfl, rfl⟩, minute,
        _, ⟨rfl, hminute⟩, second, _, read, gap', _, ⟨rfl, hgap'⟩, half, _,
        ⟨(List.append_nil half).symm, hhalf⟩, rfl, rfl⟩
    · ext
      · exact hyear.value.symm
      · rfl
      · exact hday.value.symm
      · rfl
      · exact same.symm
      · exact value.symm

end ElectroSync
