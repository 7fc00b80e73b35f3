import ElectroSync.Alerts.AnomalyDay
import ElectroSync.Nesco.RenderedDates

/-!
# The day a settlement is billed to

The portal stamps a balance with the instant it settles. The stamp passes through four clocks on
its way to a daily figure: the twelve-hour clock of the label, the Unix seconds, the bound of the
window and the wall clock of the query, which steps back one microsecond. A stamp of midnight closes
the day before it.
-/

namespace ElectroSync
open Rounding Grouping Calendar

def Amount.ofBucket : Amount → BucketRow → ℚ
  | consumed => (·.cost)
  | recharged => (·.recharged)

/-- What the rows of a query report for a day: nothing when it is not among them. -/
def figure (amount : Amount) (d : ℤ) (rows : List BucketRow) : ℚ :=
  groupSum BucketRow.bucket amount.ofBucket d rows

/-- One more row in the table of samples. -/
def UsageTables.insert (tables : UsageTables) (s : UsageSampleRow) : UsageTables :=
  { tables with meterUsageSample := tables.meterUsageSample ++ [s] }

/-- Whatever else is stored, the row adds its amounts to the daily figures of one day, for every
query in whose scope and range it lies, and changes no other figure. -/
def BilledTo (s : UsageSampleRow) (day : ℤ) : Prop :=
  ∀ (tables : UsageTables) (userId : String) (query : UsageAnalyticsQueryDto)
    (range : ResolvedRange) (fromDay toDay : ℤ),
    tables.owns userId s.meterId → meterFilter query.meterId s.meterId = true →
    query.granularity = .daily → query.fromDay = some fromDay → query.toDay = some toDay →
    resolveRange query = .ok range →
    ∀ amount d, figure amount d (fetchBuckets (tables.insert s) userId query range) =
      figure amount d (fetchBuckets tables userId query range) +
        if d = day ∧ fromDay ≤ d ∧ d ≤ toDay then amount.ofSample s else 0

theorem UsageSample.advances_micros (s : UsageSample) :
    s.windowStart * 1000 < s.windowEnd * 1000 := by
  have := s.advances
  omega

/-- The row in which a sample is stored. -/
def UsageSample.row (meterId : String) (s : UsageSample) : UsageSampleRow where
  meterId
  windowStart := s.windowStart * 1000
  windowEnd := s.windowEnd * 1000
  consumedCost := s.consumedCost
  rechargePaid := s.rechargePaid
  advances := s.advances_micros

/-- The day that a settlement stamped with the clock closes. -/
def billingDay (c : Clock) : ℤ :=
  if c.time = 0 then makeDay c.year c.month c.day - 1 else makeDay c.year c.month c.day

/-- Every sample from an earlier reading to a reading stamped with the clock is billed to the day
that the stamp closes. -/
def BilledAsPrinted (c : Clock) : Prop :=
  ∀ label limits (row : MonitoredMeter) (snapshot : NescoSnapshot) now openingBalance windowStart,
    PrintsBalance label c → snapshot.balanceAsOf = parseBalanceAsOf label →
    dhakaSeconds c * 1000 ≤ now → row.lastBalance = some openingBalance →
    row.lastBalanceAt = some windowStart → windowStart < dhakaSeconds c * 1000 →
    ∃ sample, buildSample limits row snapshot
        (resolveReadingInstant snapshot.balanceAsOf now).instant = some sample ∧
      BilledTo (sample.row row.meterId) (billingDay c)

variable {tables : UsageTables} {userId : String} {query : UsageAnalyticsQueryDto}
  {range : ResolvedRange} {fromDay toDay d : ℤ} {amount : Amount} {s : UsageSampleRow}

/-! ## The daily figures -/

/-- The figure of a day of the range adds up the samples in scope that close on it. -/
theorem figure_daily (covers : range.Covers fromDay toDay) (daily : query.granularity = .daily) :
    figure amount d (fetchBuckets tables userId query range) =
      if fromDay ≤ d ∧ d ≤ toDay then
        groupSum UsageSampleRow.closingDay amount.ofSample d (tables.inScope userId query.meterId)
      else 0 := by
  have column : figure amount d (fetchBuckets tables userId query range) =
      if d ∈ distinctKeys SpreadRow.day (spreadOf tables userId query.meterId range) then
        groupSum SpreadRow.day amount.ofSpread d (spreadOf tables userId query.meterId range)
      else 0 := by
    rw [fetchBuckets, daily, figure, selectFor, groupSum_map]
    refine (groupSum_id nodup_distinctKeys _).trans ?_
    cases amount <;> rfl
  rw [column]
  by_cases inRange : fromDay ≤ d ∧ d ≤ toDay
  · rw [if_pos inRange, ← groupSum_spreadOf covers inRange.1 inRange.2]
    split
    · rfl
    · next absent =>
      rw [mem_distinctKeys] at absent
      have none : group SpreadRow.day d (spreadOf tables userId query.meterId range) = [] := by
        apply List.filter_eq_nil_iff.mpr
        intro row member same
        exact absent ⟨row, member, of_decide_eq_true same⟩
      rw [groupSum, none]
      rfl
  · rw [if_neg inRange, if_neg fun member => inRange (mem_days_spreadOf covers member)]

theorem inScope_insert (owned : tables.owns userId s.meterId)
    (named : meterFilter query.meterId s.meterId = true) :
    (tables.insert s).inScope userId query.meterId =
      tables.inScope userId query.meterId ++ [s] := by
  rw [UsageTables.inScope, UsageTables.insert, List.filter_append]
  refine congrArg _ (List.filter_cons_of_pos (decide_eq_true ⟨owned, named⟩))

theorem billedTo_closingDay (s : UsageSampleRow) : BilledTo s s.closingDay := by
  intro tables userId query range fromDay toDay owned named daily hfrom hto accepted amount d
  obtain ⟨fromDay', toDay', hfrom', hto', covers⟩ := resolveRange_covers accepted
  cases hfrom.symm.trans hfrom'
  cases hto.symm.trans hto'
  rw [figure_daily covers daily, figure_daily covers daily, inScope_insert owned named,
    groupSum_append, groupSum_cons, groupSum_nil, add_zero]
  by_cases inRange : fromDay ≤ d ∧ d ≤ toDay
  · simp only [inRange, if_true, and_true, eq_comm]
  · simp only [inRange, if_false, and_false, add_zero]

/-- A sample of some cost is billed to one day only. -/
theorem billedTo_iff (cost : s.consumedCost ≠ 0) : BilledTo s d ↔ d = s.closingDay := by
  constructor
  · intro billed
    let tables : UsageTables := ⟨[⟨s.meterId, ""⟩], [], List.nodup_singleton _⟩
    let query : UsageAnalyticsQueryDto := ⟨.daily, some s.closingDay, some s.closingDay, none⟩
    have owned : tables.owns "" s.meterId := ⟨_, List.mem_singleton_self _, rfl, rfl⟩
    have accepted : ∃ range, resolveRange query = .ok range := by
      simp only [query, resolveRange, dayCount_eq, lt_irrefl, if_false]
      exact ⟨_, if_neg (by rw [sub_self]; decide)⟩
    obtain ⟨range, accepted⟩ := accepted
    have moved := billed tables "" query range _ _ owned rfl rfl rfl rfl accepted .consumed
      s.closingDay
    have expected := billedTo_closingDay s tables "" query range _ _ owned rfl rfl rfl rfl accepted
      .consumed s.closingDay
    rw [expected, add_left_cancel_iff, if_pos ⟨rfl, le_rfl, le_rfl⟩] at moved
    by_contra other
    rw [if_neg fun same => other same.1.symm] at moved
    exact cost moved
  · rintro rfl
    exact billedTo_closingDay s

/-! ## The stamp -/

theorem closingDay_row {sample : UsageSample} {meterId : String} :
    (sample.row meterId).closingDay = dhakaDay (sample.windowEnd - 1) :=
  closingDay_tables sample.windowEnd

/-- The last millisecond before a clock lies in the day that the clock closes. -/
theorem dhakaDay_dhakaSeconds {c : Clock} (real : c.Exists) :
    dhakaDay (dhakaSeconds c * 1000 - 1) = billingDay c := by
  obtain ⟨-, hour, minute, second⟩ := real
  have time : 0 ≤ c.time ∧ c.time < 86_400 := by
    rw [Clock.time]
    omega
  simp only [dhakaDay, dhakaSeconds, billingDay, Clock.toSeconds, dhakaUtcOffsetMinutes,
    dhakaOffsetMs, msPerDay, secondsPerDay]
  split
  · omega
  · omega

theorem buildSample_of_stamp {row : MonitoredMeter} {openingBalance : ℚ} {windowStart instant : ℤ}
    (limits : UsageSamplingLimits) (snapshot : NescoSnapshot)
    (hopening : row.lastBalance = some openingBalance)
    (hstart : row.lastBalanceAt = some windowStart) (earlier : windowStart < instant) :
    ∃ sample, buildSample limits row snapshot instant = some sample ∧
      sample.windowEnd = instant := by
  simp only [buildSample, hopening, hstart]
  rcases built : buildUsageSample _ limits with _ | sample
  · rw [buildUsageSample_eq_none_iff] at built
    exact absurd earlier (not_lt.mpr built)
  · exact ⟨sample, rfl, (buildUsageSample_spec built).2.1⟩

/-- A settlement is billed to the day that is printed, or at midnight to the day before. -/
theorem settlement_billed {c : Clock} (real : c.Exists) (year : 100 ≤ c.year) :
    BilledAsPrinted c := by
  intro label limits row snapshot now openingBalance windowStart printed stamped polled hopening
    hstart earlier
  rw [stamped, (portal_dates_decode c real year).2.2 label printed,
    resolveReadingInstant_stamped polled]
  obtain ⟨sample, built, stop⟩ := buildSample_of_stamp limits snapshot hopening hstart earlier
  refine ⟨sample, built, ?_⟩
  rw [← dhakaDay_dhakaSeconds real, ← stop, ← closingDay_row]
  exact billedTo_closingDay _

/-- The midnight that begins 15 August 2026. -/
def midAugust : Clock := ⟨⟨2026, 7, 15⟩, 0, 0, 0⟩

theorem midAugust_exists : midAugust.Exists :=
  ⟨⟨by decide, by decide⟩, by decide, by decide, by decide⟩

/-- A meter read a day before the clock, at 80 taka. -/
def readBefore (c : Clock) : MonitoredMeter where
  meterId := "m1"
  userId := "ayesha"
  customerNo := "77"
  label := none
  settings := none
  severity := none
  lastRechargeToken := none
  lastBalance := some 80
  lastBalanceAt := some (dhakaSeconds c * 1000 - msPerDay)
  lastAnomalyOn := none

def augustLabel : String := "ব্যালেন্স (টাকা)(সময়ঃ 15 August 2026 12:00:00 AM )"

theorem settlement_billed_midAugust :
    ∃ sample, buildSample ⟨500, 48⟩ (readBefore midAugust) ⟨50, parseBalanceAsOf augustLabel, []⟩
        (resolveReadingInstant (parseBalanceAsOf augustLabel)
          (dhakaSeconds midAugust * 1000)).instant = some sample ∧
      BilledTo (sample.row "m1") (makeDay 2026 7 14) := by
  have printed : PrintsBalance augustLabel midAugust :=
    printsBalance_of_search midAugust_exists (by decide)
      (show _ = some "সময়ঃ 15 August 2026 12:00:00 AM ".toList by decide +kernel)
      (by decide +kernel)
  have day : billingDay midAugust = makeDay 2026 7 14 := by decide +kernel
  generalize read : parseBalanceAsOf augustLabel = reading
  rw [← day]
  exact settlement_billed midAugust_exists (by decide) augustLabel ⟨500, 48⟩ (readBefore midAugust)
    ⟨50, reading, []⟩ (dhakaSeconds midAugust * 1000) 80 (dhakaSeconds midAugust * 1000 - msPerDay)
    printed read.symm le_rfl rfl rfl (by decide +kernel)

/-- The midnight that begins the year 50. -/
def yearFifty : Clock := ⟨⟨50, 0, 1⟩, 0, 0, 0⟩

theorem yearFifty_exists : yearFifty.Exists :=
  ⟨⟨by decide, by decide⟩, by decide, by decide, by decide⟩

def fiftyLabel : String := "ব্যালেন্স (টাকা)(সময়ঃ 01 January 0050 12:00:00 AM )"

/-- A year before 100 is not read, so that the reading counts as one of the poll. -/
theorem settlement_billed_fails : ¬ ∀ c : Clock, c.Exists → BilledAsPrinted c := by
  intro settles
  have printed : PrintsBalance fiftyLabel yearFifty :=
    printsBalance_of_search yearFifty_exists (by decide)
      (show _ = some "সময়ঃ 01 January 0050 12:00:00 AM ".toList by decide +kernel)
      (by decide +kernel)
  have unread : parseBalanceAsOf fiftyLabel = none :=
    (reads_balanceAsOf fiftyLabel).rejects printed (by decide)
  obtain ⟨sample, built, billed⟩ := settles yearFifty yearFifty_exists fiftyLabel ⟨500, 48⟩
    (readBefore yearFifty) ⟨50, none, []⟩ 0 80 (dhakaSeconds yearFifty * 1000 - msPerDay) printed
    unread.symm (by decide +kernel) rfl rfl (by decide +kernel)
  have row : (buildSample ⟨500, 48⟩ (readBefore yearFifty) ⟨50, none, []⟩ 0).map (fun s =>
      (s.consumedCost, s.windowEnd)) = some (30, 0) := by decide +kernel
  change buildSample _ _ _ 0 = _ at built
  rw [built, Option.map_some, Option.some.injEq, Prod.mk.injEq] at row
  obtain ⟨cost, stop⟩ := row
  have same := (billedTo_iff (s := sample.row "m1") (d := billingDay yearFifty) ?_).mp billed
  · rw [closingDay_row, stop] at same
    revert same
    decide +kernel
  · change sample.consumedCost ≠ 0
    rw [cost]
    decide

end ElectroSync
