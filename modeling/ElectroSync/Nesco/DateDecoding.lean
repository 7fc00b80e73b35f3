import ElectroSync.Nesco.PrintedDates

/-!
# Decoding the dates of the portal

A parser reads a text when the text shows a clock in its format, in digits of either script and
with any white space around it, the year has three digits, the date exists, and the time adds up to
less than a day. Then it answers the Unix seconds of the clock at +06:00.
-/

namespace ElectroSync
open Calendar Matcher

/-! ## Spellings -/

/-- The digit of the Bengali script. -/
def bengaliDigit (digit : Char) : Char := Char.ofNat (digit.toNat - '0'.toNat + bengaliZero)

/-- The raw text is a text in ASCII digits, with any of the digits in the Bengali script. -/
def Respells (raw text : List Char) : Prop :=
  List.Forall₂ (fun c a => ¬ ('০' ≤ a ∧ a ≤ '৯') ∧
    (c = a ∨ a.isDigit = true ∧ c = bengaliDigit a)) raw text

theorem bengali_iff {c : Char} : '০' ≤ c ∧ c ≤ '৯' ↔ 2534 ≤ c.toNat ∧ c.toNat ≤ 2543 := by
  simp only [Char.le_def, UInt32.le_iff_toNat_le]
  rfl

theorem asciiDigit_eq_iff {c a : Char} :
    asciiDigit c = a ↔ ¬ ('০' ≤ a ∧ a ≤ '৯') ∧ (c = a ∨ a.isDigit = true ∧ c = bengaliDigit a) := by
  have ascii : ∀ n < 10, asciiDigit (bengaliDigit (Char.ofNat (48 + n))) = Char.ofNat (48 + n) := by
    decide
  have bengali : ∀ n < 10, bengaliDigit (asciiDigit (Char.ofNat (2534 + n))) =
      Char.ofNat (2534 + n) ∧ (asciiDigit (Char.ofNat (2534 + n))).isDigit = true ∧
      ¬ ('০' ≤ asciiDigit (Char.ofNat (2534 + n)) ∧
        asciiDigit (Char.ofNat (2534 + n)) ≤ '৯') := by
    decide
  constructor
  · rintro rfl
    by_cases h : '০' ≤ c ∧ c ≤ '৯'
    · obtain ⟨lo, hi⟩ := bengali_iff.mp h
      obtain ⟨back, digit, plain⟩ := bengali (c.toNat - 2534) (by omega)
      rw [Nat.add_sub_cancel' lo, Char.ofNat_toNat] at back digit plain
      exact ⟨plain, .inr ⟨digit, back.symm⟩⟩
    · have same : asciiDigit c = c := if_neg h
      rw [same]
      exact ⟨h, .inl rfl⟩
  · rintro ⟨plain, same | ⟨digit, same⟩⟩
    · rw [same]
      exact if_neg plain
    · rw [same]
      obtain ⟨lo, hi⟩ := isDigit_iff.mp digit
      have back := ascii (a.toNat - 48) (by omega)
      rwa [Nat.add_sub_cancel' lo, Char.ofNat_toNat] at back

theorem respells_iff {raw text : List Char} : Respells raw text ↔ raw.map asciiDigit = text := by
  rw [← List.forall₂_eq_eq_eq, List.forall₂_map_left_iff, Respells]
  simp only [asciiDigit_eq_iff]

/-! ## White space -/

variable {p : Char → Bool} {s text inner : List Char} {c : Clock}

theorem dropWhile_append_all {front : List Char} (h : ∀ a ∈ front, p a = true) :
    (front ++ s).dropWhile p = s.dropWhile p := by
  induction front with
  | nil => rfl
  | cons a front ih =>
    rw [List.cons_append, List.dropWhile_cons_of_pos (h a List.mem_cons_self)]
    exact ih fun b member => h b (List.mem_cons_of_mem _ member)

/-- The text ends with something else than white space. -/
structure Closed (text : List Char) : Prop where
  nonempty : text ≠ []
  stop : Stops JsString.isSpace text.reverse

/-- The text begins and ends with something else than white space. -/
structure Trimmed (text : List Char) : Prop extends Closed text where
  start : Stops JsString.isSpace text

/-- White space around a text. -/
def Padded (text inner : List Char) : Prop :=
  ∃ front back, text = front ++ (inner ++ back) ∧ Gap 0 front ∧ Gap 0 back

theorem trim_of_padded (trimmed : Trimmed inner) (padded : Padded text inner) :
    (JsString.trim (String.ofList text)).toList = inner := by
  obtain ⟨front, back, rfl, hfront, hback⟩ := padded
  have reversed : ∀ a ∈ back.reverse, JsString.isSpace a = true := by
    intro a member
    exact hback.spaces a (List.mem_reverse.mp member)
  rw [JsString.trim, String.toList_ofList, String.toList_ofList, dropWhile_append_all hfront.spaces,
    (trimmed.start.append trimmed.nonempty back).dropWhile_eq, List.rdropWhile,
    List.reverse_append, dropWhile_append_all reversed, trimmed.stop.dropWhile_eq,
    List.reverse_reverse]

theorem padded_trim (text : List Char) :
    Padded text (JsString.trim (String.ofList text)).toList := by
  refine ⟨text.takeWhile JsString.isSpace,
    (text.dropWhile JsString.isSpace).rtakeWhile JsString.isSpace, ?_, ⟨?_, Nat.zero_le _⟩,
    ⟨?_, Nat.zero_le _⟩⟩
  · rw [JsString.trim, String.toList_ofList, String.toList_ofList,
      List.rdropWhile_append_rtakeWhile, List.takeWhile_append_dropWhile]
  · exact fun a => List.mem_takeWhile_imp
  · exact fun a => List.mem_rtakeWhile_imp

theorem Closed.append (h : Closed text) (front : List Char) : Closed (front ++ text) where
  nonempty := by simp [h.nonempty]
  stop := by
    rw [List.reverse_append]
    exact h.stop.append (by simp [h.nonempty]) _

theorem Closed.cons (h : Closed text) (a : Char) : Closed (a :: text) := h.append [a]

theorem trimmed_of_all {q : Char → Bool} (all : ∀ a ∈ text, q a = true)
    (apart : ∀ a, q a = true → JsString.isSpace a = false) (nonempty : text ≠ []) :
    Trimmed text where
  nonempty := nonempty
  start a member := apart a (all a (List.mem_of_mem_head? member))
  stop a member := apart a (all a (List.mem_reverse.mp (List.mem_of_mem_head? member)))

theorem Digits.trimmed {n : ℤ} (h : Digits lo hi text n) (pos : 0 < lo) : Trimmed text := by
  apply trimmed_of_all h.digits (fun _ => isSpace_of_isDigit)
  rintro rfl
  exact absurd h.least (not_le.mpr pos)

theorem SecondsText.closed {second : ℤ} (h : SecondsText text second) (front : Closed s) :
    Closed (s ++ text) := by
  rcases h with ⟨rfl, -⟩ | ⟨ds, rfl, read⟩
  · rwa [List.append_nil]
  · exact ((read.trimmed (by decide)).toClosed.cons ':').append s

theorem SlashText.trimmed (h : SlashText text c) : Trimmed text := by
  obtain ⟨day, month, year, time, rfl, hday, -, hyear, htime⟩ := h
  have day := hday.trimmed (by decide)
  refine ⟨Closed.append (Closed.cons (Closed.append (Closed.cons ?_ _) _) _) _,
    day.start.append day.nonempty _⟩
  rcases htime with ⟨rfl, -⟩ | ⟨gap, hour, minute, seconds, rfl, -, -, hminute, hsecond⟩
  · rw [List.append_nil]
    exact (hyear.trimmed (by decide)).toClosed
  · exact Closed.append (Closed.append (Closed.append (Closed.cons
      (hsecond.closed (hminute.trimmed (by decide)).toClosed) _) _) _) _

theorem TwelveHourText.closed {sec : List Char} (h : TwelveHourText sec text c) : Closed text := by
  obtain ⟨ds, -, minute, gap, half, pm, rfl, -, -, -, -, -, letters, -⟩ := h
  have alpha : ∀ a ∈ half, a.isAlpha = true := by
    have upper : (half.map Char.toUpper).all Char.isAlpha = true := by
      cases pm
      · rw [upper_eq_iff.mp letters]
        rfl
      · rw [upper_eq_iff.mp letters]
        rfl
    intro a member
    exact isAlpha_of_toUpper (List.all_eq_true.mp upper _ (List.mem_map_of_mem member))
  have nonempty : half ≠ [] := by
    rintro rfl
    cases pm
    · cases upper_eq_iff.mp letters
    · cases upper_eq_iff.mp letters
  exact Closed.append (Closed.cons (Closed.append (Closed.append (Closed.append
    (trimmed_of_all alpha (fun _ => isSpace_of_isAlpha) nonempty).toClosed _) _) _) _) _

theorem RechargeText.trimmed (h : RechargeText text c) : Trimmed text := by
  obtain ⟨day, name, year, gap, time, rfl, hday, -, -, -, -, htime, -⟩ := h
  have day := hday.trimmed (by decide)
  exact ⟨Closed.append (Closed.cons (Closed.append (Closed.cons (Closed.append
    (htime.closed.append _) _) _) _) _) _, day.start.append day.nonempty _⟩

theorem StampText.trimmed (h : StampText text c) : Trimmed text := by
  obtain ⟨day, gap, name, gap', year, gap'', time, seconds, rfl, hday, -, -, -, -, -, htime, -⟩ := h
  have day := hday.trimmed (by decide)
  exact ⟨Closed.append (Closed.append (Closed.append (Closed.append (Closed.append
    (htime.closed.append _) _) _) _) _) _, day.start.append day.nonempty _⟩

/-! ## What is printed -/

/-- The text shows the clock in a format, with white space around. -/
def Prints (format : List Char → Clock → Prop) (raw : String) (c : Clock) : Prop :=
  ∃ text inner, Respells raw.toList text ∧ Padded text inner ∧ format inner c

theorem prints_iff {format : List Char → Clock → Prop}
    (trimmed : ∀ {text}, format text c → Trimmed text) (raw : String) :
    Prints format raw c ↔ format (JsString.trim (toAsciiDigits raw)).toList c := by
  constructor
  · rintro ⟨text, inner, spelled, padded, shows⟩
    rw [toAsciiDigits, respells_iff.mp spelled, trim_of_padded (trimmed shows) padded]
    exact shows
  · intro shows
    exact ⟨_, _, respells_iff.mpr rfl, padded_trim _, shows⟩

/-- The text shows the clock of a settlement after a prefix without digits. -/
def PrintsStamp (raw : List Char) (c : Clock) : Prop :=
  ∃ text front inner back, Respells raw text ∧ text = front ++ (inner ++ back) ∧
    (∀ a ∈ front, a.isDigit = false) ∧ Gap 0 back ∧ StampText inner c

theorem printsStamp_iff (raw : String) :
    PrintsStamp raw.toList c ↔
      StampText (JsString.trim (stripPrefix (toAsciiDigits raw))).toList c := by
  constructor
  · rintro ⟨text, front, inner, back, spelled, rfl, hfront, hback, shows⟩
    have digit : Stops (fun c => !c.isDigit) inner := by
      obtain ⟨day, _, _, _, _, _, _, _, rfl, hday, -⟩ := shows
      apply Stops.append _ (hday.trimmed (by decide)).nonempty
      intro a member
      exact congrArg not (hday.digits a (List.mem_of_mem_head? member))
    have padded : Padded (inner ++ back) inner := ⟨[], back, rfl, ⟨nofun, le_rfl⟩, hback⟩
    rw [stripPrefix, toAsciiDigits, respells_iff.mp spelled, String.toList_ofList,
      dropWhile_append_all fun a member => congrArg not (hfront a member),
      (digit.append shows.trimmed.nonempty back).dropWhile_eq,
      trim_of_padded shows.trimmed padded]
    exact shows
  · intro shows
    obtain ⟨front, back, split, hfront, hback⟩ := padded_trim
      ((toAsciiDigits raw).toList.dropWhile fun c => !c.isDigit)
    refine ⟨_, (toAsciiDigits raw).toList.takeWhile (fun c => !c.isDigit) ++ front, _, back,
      respells_iff.mpr rfl, ?_, ?_, hback, shows⟩
    · rw [List.append_assoc, stripPrefix, ← split, List.takeWhile_append_dropWhile, toAsciiDigits,
        String.toList_ofList]
    · intro a member
      rcases List.mem_append.mp member with prefixed | space
      · have other : (!a.isDigit) = true :=
          List.mem_takeWhile_imp (p := fun c : Char => !c.isDigit) prefixed
        simpa using other
      · exact isDigit_of_isSpace (hfront.spaces a space)

/-! ## The last group of a label -/

/-- The last parenthesised group of a label: nothing but white space comes after it, and each
parenthesis opened before it is closed before it. -/
def LastGroup (label group : List Char) : Prop :=
  ∃ front back, label = front ++ '(' :: (group ++ ')' :: back) ∧ ')' ∉ group ∧ Gap 0 back ∧
    ∀ inside, '(' :: inside <:+ front → ')' ∈ inside

theorem determined_groupPattern : Determined AtEnd groupPattern := by
  refine determined_char.bind_fixed fun _ => ?_
  refine (determined_run fun _ => id).bind_stops (fun _ => ?_)
    fun _ _ _ _ h => stops_of_char rfl h
  refine determined_char.bind_fixed fun _ => ?_
  refine (determined_spaces ?_).bind_pure _
  rintro _ rfl _ ⟨⟩

theorem not_mem_iff {text : List Char} : (∀ a ∈ text, (a != ')') = true) ↔ ')' ∉ text := by
  simp only [bne_iff_ne]
  exact ⟨fun all member => all _ member rfl, fun none a member same => none (same ▸ member)⟩

theorem exec_groupPattern_iff {group : List Char} : exec groupPattern s = some group ↔
    ∃ back, s = '(' :: (group ++ ')' :: back) ∧ ')' ∉ group ∧ Gap 0 back := by
  rw [exec_eq_some_iff determined_groupPattern]
  simp only [groupPattern, mem_bind, mem_char, mem_run, mem_spaces, mem_pure]
  constructor
  · rintro ⟨_, _, ⟨rfl, -⟩, _, _, ⟨rfl, all, -⟩, _, _, ⟨rfl, -⟩, back, _, ⟨rfl, hback⟩, rfl, rfl⟩
    exact ⟨back, by rw [List.append_nil], not_mem_iff.mp all, hback⟩
  · rintro ⟨back, rfl, open_, hback⟩
    have unbounded : ∀ m ∈ (none : Option ℕ), group.length ≤ m := by simp
    exact ⟨_, _, ⟨rfl, rfl⟩, group, _, ⟨rfl, not_mem_iff.mpr open_, Nat.zero_le _, unbounded⟩, _,
      _, ⟨rfl, rfl⟩, back, _, ⟨(List.append_nil back).symm, hback⟩, rfl, rfl⟩

theorem search_groupPattern_iff {label group : List Char} :
    search groupPattern label = some group ↔ LastGroup label group := by
  constructor
  · intro found
    obtain ⟨front, s, rfl, here, earlier⟩ := exists_of_search found
    obtain ⟨back, rfl, none, hback⟩ := exec_groupPattern_iff.mp here
    refine ⟨front, back, rfl, none, hback, fun inside suffix => ?_⟩
    by_contra unclosed
    have longer : exec groupPattern ('(' :: inside ++ '(' :: (group ++ ')' :: back)) =
        some (inside ++ '(' :: group) := by
      refine exec_groupPattern_iff.mpr ⟨back, by simp, ?_, hback⟩
      simp [unclosed, none]
    rw [earlier _ (List.cons_ne_nil _ _) suffix] at longer
    cases longer
  · rintro ⟨front, back, rfl, none, hback, closed⟩
    refine search_append (fun between nonempty suffix => ?_)
      (exec_groupPattern_iff.mpr ⟨back, rfl, none, hback⟩)
    rw [Option.eq_none_iff_forall_ne_some]
    intro group' here
    obtain ⟨back', split, none', hback'⟩ := exec_groupPattern_iff.mp here
    cases between with
    | nil => exact nonempty rfl
    | cons a inside =>
      obtain ⟨rfl, tails⟩ := List.cons.inj split
      obtain ⟨inner, outer, rfl, first⟩ := List.eq_append_cons_of_mem (closed inside suffix)
      change inner ++ ')' :: outer ++ '(' :: (group ++ ')' :: back) = _ at tails
      rw [List.append_assoc, List.cons_append] at tails
      -- the first closing parenthesis is one of the front, so more than white space comes after it
      obtain ⟨-, rest⟩ := span_unique tails (not_mem_iff.mpr first) (not_mem_iff.mpr none')
        (stops_cons rfl) (stops_cons rfl)
      obtain ⟨-, rfl⟩ := List.cons.inj rest
      cases hback'.spaces '(' (by simp)

/-- The label of a balance shows the clock in its last group. -/
def PrintsBalance (label : String) (c : Clock) : Prop :=
  ∃ group, LastGroup label.toList group ∧ PrintsStamp group c

/-! ## What is read -/

/-- The Unix seconds of a clock at UTC+06:00. -/
def dhakaSeconds (c : Clock) : ℤ := c.toSeconds - dhakaUtcOffsetMinutes * 60

/-- The clocks that the parsers accept. -/
structure Readable (c : Clock) : Prop where
  year : 100 ≤ c.year
  date : c.toDate.Exists
  time : c.time < 86_400

/-- No component is negative; a month zero may have been printed. -/
structure Natural (c : Clock) : Prop where
  year : 0 ≤ c.year
  month : -1 ≤ c.month
  day : 0 ≤ c.day
  hour : 0 ≤ c.hour
  minute : 0 ≤ c.minute
  second : 0 ≤ c.second

/-- A parser reads the clock that is printed, if it accepts it, and nothing else. -/
structure Reads (answer : Option ℤ) (prints : Clock → Prop) : Prop where
  unique : ∀ {c c'}, prints c → prints c' → c = c'
  natural : ∀ {c}, prints c → Natural c
  accepts : ∀ t, answer = some t ↔ ∃ c, prints c ∧ Readable c ∧ t = dhakaSeconds c

theorem Natural.time (h : Natural c) : 0 ≤ c.time := by
  obtain ⟨-, -, -, hour, minute, second⟩ := h
  rw [Clock.time]
  omega

theorem dhakaTimeToEpochSeconds_iff (natural : Natural c) {field raw : String} {t : ℤ} :
    dhakaTimeToEpochSeconds c field raw = .ok t ↔ Readable c ∧ t = dhakaSeconds c := by
  have back : ((utcDate (dateUTC c)).year ≠ c.year ∨ (utcDate (dateUTC c)).month ≠ c.month ∨
      (utcDate (dateUTC c)).day ≠ c.day) ↔ ¬ utcDate (dateUTC c) = c.toDate := by
    rw [Date.ext_iff]
    tauto
  have readable := utcDate_dateUTC_iff natural.year natural.month natural.day natural.time
  simp only [dhakaTimeToEpochSeconds, back]
  split
  · next rolledOver =>
    refine iff_of_false (by simp) ?_
    rintro ⟨⟨year, date, time⟩, -⟩
    exact rolledOver (readable.mpr ⟨year, date, time⟩)
  · next same =>
    obtain ⟨year, date, time⟩ := readable.mp (not_not.mp same)
    have none : ¬ (0 ≤ c.year ∧ c.year ≤ 99) := by omega
    have seconds : (dateUTC c - dhakaUtcOffsetMinutes * 60_000) / 1000 = dhakaSeconds c := by
      have utc : dateUTC c = c.toSeconds * 1000 := by
        rw [dateUTC, if_neg none]
      rw [utc, dhakaSeconds, dhakaUtcOffsetMinutes]
      omega
    rw [Except.ok.injEq, seconds, eq_comm]
    exact ⟨fun same => ⟨⟨year, date, time⟩, same⟩, And.right⟩

theorem Digits.nonneg {n : ℤ} (h : Digits lo hi text n) : 0 ≤ n := by
  rw [h.value]
  exact Int.natCast_nonneg _

theorem SecondsText.nonneg {second : ℤ} (h : SecondsText text second) : 0 ≤ second := by
  rcases h with ⟨-, rfl⟩ | ⟨ds, -, read⟩
  · exact le_rfl
  · exact read.nonneg

theorem SlashText.natural (h : SlashText text c) : Natural c := by
  obtain ⟨day, month, year, time, -, hday, hmonth, hyear, htime⟩ := h
  have month := neg_le_iff_add_nonneg.mpr hmonth.nonneg
  rcases htime with ⟨-, hour, minute, second⟩ | ⟨_, _, _, _, -, -, hhour, hminute, hsecond⟩
  · exact ⟨hyear.nonneg, month, hday.nonneg, hour.ge, minute.ge, second.ge⟩
  · exact ⟨hyear.nonneg, month, hday.nonneg, hhour.nonneg, hminute.nonneg, hsecond.nonneg⟩

theorem NamesMonth.nonneg {name : List Char} {month : ℤ} (h : NamesMonth name month) :
    0 ≤ month := by
  have table : ∀ entry ∈ monthAbbreviations, 0 ≤ entry.2 := by decide
  obtain ⟨before, after, split, -⟩ := List.lookup_eq_some_iff.mp h.2
  exact table _ (split ▸ List.mem_append_right before List.mem_cons_self)

theorem TwelveHourText.nonneg {sec : List Char} (h : TwelveHourText sec text c) :
    0 ≤ c.hour ∧ 0 ≤ c.minute := by
  obtain ⟨_, hour, _, _, _, pm, -, -, lo, -, hminute, -, -, same⟩ := h
  refine ⟨?_, hminute.nonneg⟩
  rw [same, hourOfDay]
  split <;> omega

theorem RechargeText.natural (h : RechargeText text c) : Natural c := by
  obtain ⟨_, _, _, _, _, -, hday, hname, -, hyear, -, htime, second⟩ := h
  exact ⟨hyear.nonneg, (by decide : (-1 : ℤ) ≤ 0).trans hname.nonneg, hday.nonneg, htime.nonneg.1,
    htime.nonneg.2, second.ge⟩

theorem StampText.natural (h : StampText text c) : Natural c := by
  obtain ⟨_, _, _, _, _, _, _, _, -, hday, -, hname, -, hyear, -, htime, hsecond⟩ := h
  exact ⟨hyear.nonneg, (by decide : (-1 : ℤ) ≤ 0).trans hname.nonneg, hday.nonneg, htime.nonneg.1,
    htime.nonneg.2, hsecond.nonneg⟩

/-- A parser that reads the components of a format reads the clocks printed. -/
theorem reads_of_iff {prints : Clock → Prop} {answer : Option ℤ} (components : Clock → Prop)
    (field raw : String) (unique : ∀ {c c'}, components c → components c' → c = c')
    (natural : ∀ {c}, components c → Natural c) (same : ∀ c, prints c ↔ components c)
    (parse : ∀ t, answer = some t ↔
      ∃ c, components c ∧ dhakaTimeToEpochSeconds c field raw = .ok t) : Reads answer prints := by
  constructor
  · intro c c' h h'
    exact unique ((same c).mp h) ((same c').mp h')
  · intro c h
    exact natural ((same c).mp h)
  · intro t
    rw [parse]
    apply exists_congr
    intro c
    rw [same]
    exact and_congr_right fun h => dhakaTimeToEpochSeconds_iff (natural h)

theorem toOption_eq_some_iff {answer : Except ε α} {a : α} :
    answer.toOption = some a ↔ answer = .ok a := by
  cases answer <;> simp [Except.toOption]

theorem reads_installationDate (raw : String) :
    Reads (parseInstallationDate raw).toOption (Prints SlashText raw) := by
  refine reads_of_iff (SlashText (JsString.trim (toAsciiDigits raw)).toList) "meterInstalledAt"
    raw ?_ SlashText.natural (fun _ => prints_iff SlashText.trimmed raw) fun t => ?_
  · intro c c' h h'
    obtain ⟨m, found, rfl⟩ := exec_slashPattern_iff.mpr h
    obtain ⟨m', found', rfl⟩ := exec_slashPattern_iff.mpr h'
    cases found.symm.trans found'
    rfl
  · rw [toOption_eq_some_iff]
    unfold parseInstallationDate parseSlashDateTime
    simp only [← exec_slashPattern_iff]
    rcases exec slashPattern (JsString.trim (toAsciiDigits raw)).toList with _ | m
    · simp
    · simp only [Option.some.injEq, exists_eq_left']
      rfl

theorem reads_rechargeDate (raw : String) :
    Reads (parseRechargeDate raw).toOption (Prints RechargeText raw) := by
  refine reads_of_iff (RechargeText (JsString.trim (toAsciiDigits raw)).toList) "rechargedDate"
    raw ?_ RechargeText.natural (fun _ => prints_iff RechargeText.trimmed raw) fun t => ?_
  · intro c c' h h'
    obtain ⟨m, month, hour, found, named, half, rfl⟩ := (exec_rechargePattern_iff raw).mpr h
    obtain ⟨m', month', hour', found', named', half', rfl⟩ :=
      (exec_rechargePattern_iff raw).mpr h'
    cases found.symm.trans found'
    cases named.symm.trans named'
    cases half.symm.trans half'
    rfl
  · rw [toOption_eq_some_iff]
    unfold parseRechargeDate
    simp only [← exec_rechargePattern_iff raw]
    rcases found : exec rechargePattern (JsString.trim (toAsciiDigits raw)).toList with _ | m
    · simp
    rcases named : monthAbbreviations.lookup (upper m.monthName) with _ | month
    · simp [named]
    rcases half : to24Hour m.rawHour m.meridiem raw with e | hour
    · simp [named, half, bind, Except.bind]
    · have clock : m.clock month hour = { m.clock month hour with second := 0 } := by
        simp only [NamedMatch.clock, second_of_rechargePattern (mem_of_exec found)]
        rfl
      simp only [Option.some.injEq, ↓existsAndEq, named, half, Except.ok.injEq, true_and, bind,
        Except.bind]
      rw [clock]
      rfl

theorem reads_balanceStamp (raw field : String) :
    Reads (parseBalanceStamp raw field).toOption (PrintsStamp raw.toList) := by
  refine reads_of_iff (StampText (JsString.trim (stripPrefix (toAsciiDigits raw))).toList) field
    raw ?_ StampText.natural (fun _ => printsStamp_iff raw) fun t => ?_
  · intro c c' h h'
    obtain ⟨m, month, hour, found, named, half, rfl⟩ := (exec_stampPattern_iff raw).mpr h
    obtain ⟨m', month', hour', found', named', half', rfl⟩ := (exec_stampPattern_iff raw).mpr h'
    cases found.symm.trans found'
    cases named.symm.trans named'
    cases half.symm.trans half'
    rfl
  · rw [toOption_eq_some_iff]
    unfold parseBalanceStamp
    simp only [← exec_stampPattern_iff raw]
    rcases exec stampPattern (JsString.trim (stripPrefix (toAsciiDigits raw))).toList with _ | m
    · simp
    rcases named : monthAbbreviations.lookup (upper (m.monthName.take 3)) with _ | month
    · simp [named]
    rcases half : to24Hour m.rawHour m.meridiem raw with e | hour
    · simp [named, half, bind, Except.bind]
    · simp only [Option.some.injEq, ↓existsAndEq, named, half, Except.ok.injEq, true_and, bind,
        Except.bind]
      rfl

theorem reads_balanceAsOf (label : String) :
    Reads (parseBalanceAsOf label) (PrintsBalance label) := by
  rcases found : search groupPattern label.toList with _ | group
  · have none : parseBalanceAsOf label = none := by simp only [parseBalanceAsOf, found]
    have unprinted (c : Clock) : ¬ PrintsBalance label c := by
      rintro ⟨group, last, -⟩
      rw [search_groupPattern_iff.mpr last] at found
      cases found
    refine ⟨fun h => absurd h (unprinted _), fun h => absurd h (unprinted _), fun t => ?_⟩
    rw [none]
    refine iff_of_false nofun ?_
    rintro ⟨c, printed, -⟩
    exact unprinted c printed
  · have answer : parseBalanceAsOf label =
        (parseBalanceStamp (String.ofList group) "balanceAsOf").toOption := by
      simp only [parseBalanceAsOf, found]
    have printed (c : Clock) :
        PrintsBalance label c ↔ PrintsStamp (String.ofList group).toList c := by
      rw [String.toList_ofList]
      constructor
      · rintro ⟨group', last, shows⟩
        cases found.symm.trans (search_groupPattern_iff.mpr last)
        exact shows
      · exact fun shows => ⟨group, search_groupPattern_iff.mp found, shows⟩
    have reads := reads_balanceStamp (String.ofList group) "balanceAsOf"
    rw [answer]
    refine ⟨fun h h' => reads.unique ((printed _).mp h) ((printed _).mp h'),
      fun h => reads.natural ((printed _).mp h), fun t => ?_⟩
    simp only [printed]
    exact reads.accepts t

/-! ## Decoding -/

theorem Reads.decodes {answer : Option ℤ} {prints : Clock → Prop} (reads : Reads answer prints)
    (printed : prints c) (real : c.Exists) (year : 100 ≤ c.year) :
    answer = some (dhakaSeconds c) :=
  (reads.accepts _).mpr ⟨c, printed, ⟨year, real.date, real.time_lt.2⟩, rfl⟩

theorem Reads.rejects {answer : Option ℤ} {prints : Clock → Prop} (reads : Reads answer prints)
    (printed : prints c) (early : c.year < 100) : answer = none := by
  rw [Option.eq_none_iff_forall_ne_some]
  intro t answered
  obtain ⟨c', printed', readable, -⟩ := (reads.accepts t).mp answered
  rw [reads.unique printed printed'] at early
  exact absurd readable.year (not_le.mpr early)

end ElectroSync
