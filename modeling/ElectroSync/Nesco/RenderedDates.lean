import ElectroSync.Nesco.DateDecoding
import Mathlib.Tactic.IntervalCases

/-!
# Printing the dates of the portal

Every clock that exists has a text in each of the three formats, and every text of a clock, however
its digits and letters are spelled, is decoded to the instant of the clock.
-/

namespace ElectroSync
open Calendar Matcher

/-! ## Numerals -/

/-- A numeral of a fixed number of digits. -/
def numeral : ℕ → ℕ → List Char
  | 0, _ => []
  | width + 1, n => numeral width (n / 10) ++ [Char.ofNat ('0'.toNat + n % 10)]

theorem digit_spec : ∀ d < 10, (Char.ofNat ('0'.toNat + d)).isDigit = true ∧
    (Char.ofNat ('0'.toNat + d)).toNat - '0'.toNat = d := by
  decide

theorem length_numeral (width n : ℕ) : (numeral width n).length = width := by
  induction width generalizing n with
  | zero => rfl
  | succ width ih => rw [numeral, List.length_append, ih, List.length_singleton]

theorem isDigit_numeral (width n : ℕ) : ∀ c ∈ numeral width n, c.isDigit = true := by
  induction width generalizing n with
  | zero => exact nofun
  | succ width ih =>
    rw [numeral, List.forall_mem_append]
    refine ⟨ih _, fun c member => ?_⟩
    rw [List.mem_singleton.mp member]
    exact (digit_spec _ (Nat.mod_lt n (by decide))).1

theorem number_numeral {width n : ℕ} (h : n < 10 ^ width) :
    JsString.number (numeral width n) = n := by
  induction width generalizing n with
  | zero =>
    rw [pow_zero, Nat.lt_one_iff] at h
    rw [h]
    rfl
  | succ width ih =>
    have front := ih (n := n / 10) (Nat.div_lt_of_lt_mul (by rwa [pow_succ'] at h))
    have last := (digit_spec _ (Nat.mod_lt n (by decide))).2
    rw [JsString.number] at front
    rw [numeral, JsString.number, List.foldl_append, front, List.foldl_cons, List.foldl_nil, last,
      Nat.div_add_mod]

theorem digits_numeral {width lo hi : ℕ} {n : ℤ} (nonneg : 0 ≤ n) (lt : n < 10 ^ width)
    (least : lo ≤ width) (most : width ≤ hi) : Digits lo hi (numeral width n.toNat) n where
  digits := isDigit_numeral _ _
  least := by rwa [length_numeral]
  most := by rwa [length_numeral]
  value := by
    have small : n.toNat < 10 ^ width := by
      rw [Int.toNat_lt nonneg]
      exact_mod_cast lt
    rw [number_numeral small, Int.toNat_of_nonneg nonneg]

/-! ## Texts -/

def monthNames : List String :=
  ["January", "February", "March", "April", "May", "June", "July", "August", "September",
    "October", "November", "December"]

/-- `dd/MM/yyyy HH:mm:ss` -/
def slashDate (c : Clock) : List Char :=
  numeral 2 c.day.toNat ++ '/' :: (numeral 2 (c.month + 1).toNat ++ '/' ::
    (numeral 4 c.year.toNat ++ ([' '] ++ (numeral 2 c.hour.toNat ++ ':' ::
      (numeral 2 c.minute.toNat ++ ':' :: numeral 2 c.second.toNat)))))

/-- `hh:mm AM`, with the text of the seconds before the white space. -/
def twelveHours (c : Clock) (seconds : List Char) : List Char :=
  numeral 2 (if c.hour % 12 = 0 then 12 else c.hour % 12).toNat ++ ':' ::
    (numeral 2 c.minute.toNat ++ (seconds ++ ([' '] ++
      if 12 ≤ c.hour then ['P', 'M'] else ['A', 'M'])))

/-- `dd-MMM-yyyy hh:mm AM` -/
def rechargeDate (c : Clock) : List Char :=
  numeral 2 c.day.toNat ++ '-' :: (((monthNames.getD c.month.toNat "").toList.take 3) ++ '-' ::
    (numeral 4 c.year.toNat ++ ([' '] ++ twelveHours c [])))

/-- `dd MMMM yyyy hh:mm:ss AM` -/
def settlementStamp (c : Clock) : List Char :=
  numeral 2 c.day.toNat ++ ([' '] ++ ((monthNames.getD c.month.toNat "").toList ++ ([' '] ++
    (numeral 4 c.year.toNat ++ ([' '] ++
      twelveHours c (':' :: numeral 2 c.second.toNat))))))

theorem gap_space {lo : ℕ} (least : lo ≤ 1) : Gap lo [' '] := by
  refine ⟨fun c member => ?_, least⟩
  rw [List.mem_singleton.mp member]
  rfl

theorem namesMonth_name {month : ℤ} (nonneg : 0 ≤ month) (lt : month < 12) :
    NamesMonth (monthNames.getD month.toNat "").toList month ∧
      NamesMonth ((monthNames.getD month.toNat "").toList.take 3) month ∧
      ((monthNames.getD month.toNat "").toList.take 3).length = 3 := by
  unfold NamesMonth
  rw [← List.all_eq_true, ← List.all_eq_true]
  interval_cases month <;> decide +kernel

theorem day_le {d : Date} (real : d.Exists) : d.day ≤ 31 := by
  have lengths : ∀ length ∈ monthLengths d.year, length ≤ 31 := by
    unfold monthLengths
    split <;> decide
  obtain ⟨⟨nonneg, lt⟩, -, day⟩ := real
  have inside : d.month.toNat < (monthLengths d.year).length := by
    rw [Int.toNat_lt nonneg]
    exact lt
  rw [← List.getElem_eq_getD (h := inside)] at day
  exact day.trans (lengths _ (List.getElem_mem inside))

variable {c : Clock}

theorem twelveHourText_twelveHours (real : c.Exists) (seconds : List Char) :
    TwelveHourText seconds (twelveHours c seconds) c := by
  obtain ⟨-, ⟨hour, hour'⟩, ⟨minute, minute'⟩, -⟩ := real
  refine ⟨_, if c.hour % 12 = 0 then 12 else c.hour % 12, _, [' '], _, 12 ≤ c.hour, rfl,
    digits_numeral ?_ ?_ (by decide) le_rfl, ?_, ?_, digits_numeral minute ?_ le_rfl le_rfl,
    gap_space (by decide), ?_, ?_⟩
  · split <;> omega
  · split <;> omega
  · split <;> omega
  · split <;> omega
  · omega
  · by_cases pm : 12 ≤ c.hour
    · simp only [pm, if_true, decide_true]
      decide
    · simp only [pm, if_false, decide_false]
      decide
  · rw [hourOfDay]
    by_cases pm : 12 ≤ c.hour
    · simp only [pm, decide_true, if_true]
      split <;> omega
    · simp only [pm, decide_false, Bool.false_eq_true, if_false]
      split <;> omega

/-- Every clock that exists has a text in each format, a recharge only to the minute. -/
theorem texts_of_clock (real : c.Exists) (year : 0 ≤ c.year ∧ c.year ≤ 9999) :
    SlashText (slashDate c) c ∧ (c.second = 0 → RechargeText (rechargeDate c) c) ∧
      StampText (settlementStamp c) c := by
  obtain ⟨full, short, three⟩ := namesMonth_name real.date.month.1 real.date.month.2
  have last := day_le real.date
  obtain ⟨⟨⟨month, month'⟩, day, -⟩, ⟨hour, hour'⟩, ⟨minute, minute'⟩, second, second'⟩ := id real
  have hday : Digits 1 2 (numeral 2 c.day.toNat) c.day :=
    digits_numeral (by omega) (by omega) (by decide) le_rfl
  have hyear : Digits 4 4 (numeral 4 c.year.toNat) c.year :=
    digits_numeral year.1 (by omega) le_rfl le_rfl
  have hsecond : SecondsText (':' :: numeral 2 c.second.toNat) c.second :=
    .inr ⟨_, rfl, digits_numeral second (by omega) le_rfl le_rfl⟩
  refine ⟨⟨_, _, _, _, rfl, hday, digits_numeral (by omega) (by omega) (by decide) le_rfl, hyear,
    .inr ⟨[' '], _, _, _, rfl, gap_space le_rfl,
      digits_numeral hour (by omega) (by decide) le_rfl,
      digits_numeral minute (by omega) le_rfl le_rfl, hsecond⟩⟩, fun whole => ?_, ?_⟩
  · exact ⟨_, _, _, [' '], _, rfl, hday, short, three, hyear, gap_space le_rfl,
      twelveHourText_twelveHours real [], whole⟩
  · exact ⟨_, [' '], _, [' '], _, [' '], _, _, rfl, hday, gap_space le_rfl, full,
      gap_space le_rfl, hyear, gap_space le_rfl, twelveHourText_twelveHours real _, hsecond⟩

/-! ## Decoding -/

/-- Every date and time that exists, from the year 100 on, is read from any of its texts. -/
theorem portal_dates_decode (c : Clock) (real : c.Exists) (year : 100 ≤ c.year) :
    (∀ raw, Prints SlashText raw c → parseInstallationDate raw = .ok (dhakaSeconds c)) ∧
      (∀ raw, Prints RechargeText raw c → parseRechargeDate raw = .ok (dhakaSeconds c)) ∧
      ∀ label, PrintsBalance label c → parseBalanceAsOf label = some (dhakaSeconds c) :=
  ⟨fun raw printed =>
      toOption_eq_some_iff.mp ((reads_installationDate raw).decodes printed real year),
    fun raw printed => toOption_eq_some_iff.mp ((reads_rechargeDate raw).decodes printed real year),
    fun label printed => (reads_balanceAsOf label).decodes printed real year⟩

/-- Five minutes into the leap day of 2024. -/
def leapDay : Clock := ⟨⟨2024, 1, 29⟩, 0, 5, 0⟩

theorem leapDay_exists : leapDay.Exists :=
  ⟨⟨by decide, by decide⟩, by decide, by decide, by decide⟩

theorem prints_of_spelled {format : List Char → Clock → Prop} {raw : String} {text : List Char}
    (spelled : raw.toList.map asciiDigit = text) (shows : format text c) : Prints format raw c :=
  ⟨text, text, respells_iff.mpr spelled, ⟨[], [], (List.append_nil text).symm, ⟨nofun, le_rfl⟩,
    ⟨nofun, le_rfl⟩⟩, shows⟩

/-- A label whose last group spells the stamp of a settlement. -/
theorem printsBalance_of_search {text group : List Char} (real : c.Exists)
    (year : 0 ≤ c.year ∧ c.year ≤ 9999) (found : search groupPattern text = some group)
    (spelled : group.map asciiDigit = "সময়ঃ ".toList ++ (settlementStamp c ++ [' '])) :
    PrintsBalance (String.ofList text) c := by
  have front : ("সময়ঃ ".toList.all fun a => !a.isDigit) = true := by decide +kernel
  rw [PrintsBalance, String.toList_ofList]
  refine ⟨group, search_groupPattern_iff.mp found, _, "সময়ঃ ".toList, settlementStamp c, [' '],
    respells_iff.mpr rfl, spelled, fun a member => ?_, gap_space (by decide),
    (texts_of_clock real year).2.2⟩
  exact Bool.not_eq_true' _ ▸ List.all_eq_true.mp front a member

theorem portal_dates_decode_leapDay :
    parseInstallationDate "২৯/02/2024 00:05:00" = .ok 1709143500 ∧
      parseRechargeDate "29-Feb-২০২৪ 12:05 AM" = .ok 1709143500 ∧
      parseBalanceAsOf "ব্যালেন্স (টাকা)(সময়ঃ ২৯ February 2024 12:05:00 AM )" =
        some 1709143500 := by
  obtain ⟨slash, recharge, balance⟩ := portal_dates_decode leapDay leapDay_exists (by decide)
  obtain ⟨hslash, hrecharge, -⟩ := texts_of_clock leapDay_exists (by decide)
  have seconds : dhakaSeconds leapDay = 1709143500 := by decide +kernel
  rw [← seconds]
  refine ⟨slash _ (prints_of_spelled (by decide +kernel) hslash),
    recharge _ (prints_of_spelled (by decide +kernel) (hrecharge rfl)),
    balance _ (printsBalance_of_search leapDay_exists (by decide)
      (show _ = some "সময়ঃ ২৯ February 2024 12:05:00 AM ".toList by decide +kernel)
      (by decide +kernel))⟩

end ElectroSync
