import ElectroSync.Analytics.Coverage

/-!
# The totals and the shape of a series

The total of an answer adds up its points. The points of the daily and the weekly series are sums
over the same rows, so their totals agree; those of the weekday series are averages without
recharges. A point exists only for a bucket that some window touches, so a series has the shape its
documentation promises exactly when each of the promised buckets was observed.
-/

namespace ElectroSync
open Rounding Grouping Windows

section
variable {tables : UsageTables} {userId : String} {query : UsageAnalyticsQueryDto}
  {range : ResolvedRange} {spread : List SpreadRow} {response : UsageAnalyticsDto}
  {granularity : UsageGranularity} {amount : Amount}

/-! ## Totals -/

/-- The ISO days of the week, Monday first. -/
def isoWeekdays : List ℤ := [1, 2, 3, 4, 5, 6, 7]

/-- How the totals of the three series of one query are related. -/
structure TotalsRelated (daily weekly weekday : UsageAnalyticsDto) : Prop where
  sums : weekly.total = daily.total
  rechargedAmount : weekday.total.rechargedAmount = 0
  /-- The mean days of the week, added up. -/
  consumedCost : weekday.total.consumedCost = (isoWeekdays.map fun dow =>
    round (((pointsIn isodow dow daily.points).map (·.consumedCost)).sum /
      (pointsIn isodow dow daily.points).length)).sum
  single : (∀ dow, (pointsIn isodow dow daily.points).length ≤ 1) →
    weekday.total.consumedCost = daily.total.consumedCost

@[simp] theorem round_zero : round 0 = 0 := Decimal.zero.roundTo_eq

/-- The total adds up the points, also when there are none. -/
theorem usage_totals (answered : usage tables userId query = .ok response) (amount : Amount) :
    amount.ofTotals response.total = round (response.points.map amount.ofPoint).sum := by
  obtain ⟨_, -, ⟨-, rfl⟩ | ⟨-, totals, -⟩⟩ := usage_ok answered
  · cases amount with
    | consumed => exact round_zero.symm
    | recharged => exact round_zero.symm
  · exact totals amount

/-- A point that is a sum shows it unrounded. -/
theorem selectFor_amounts (sums : granularity ≠ .weekday) (amount : Amount)
    (money : ∀ row ∈ spread, Cents row.cost ∧ Cents row.recharged) (meterCount : ℕ)
    (days : List ℤ) :
    ((selectFor granularity spread).map fun row =>
        amount.ofPoint (toPoint { query with granularity } row meterCount days)) =
      (distinctKeys (fun row => bucketOf granularity row.day) spread).map fun bucket =>
        groupSum (fun row => bucketOf granularity row.day) amount.ofSpread bucket spread := by
  have cents (key : SpreadRow → ℤ) (bucket : ℤ) :
      round (groupSum key amount.ofSpread bucket spread) =
        groupSum key amount.ofSpread bucket spread :=
    (cents_groupSum (cents_amount money amount) bucket).roundTo_eq
  cases granularity with
  | daily =>
    rw [selectFor, List.map_map]
    apply List.map_congr_left
    intro bucket _
    cases amount with
    | consumed => exact cents SpreadRow.day bucket
    | recharged => exact cents SpreadRow.day bucket
  | weekly =>
    rw [selectFor, List.map_map]
    apply List.map_congr_left
    intro bucket _
    cases amount with
    | consumed => exact cents (truncWeek ·.day) bucket
    | recharged => exact cents (truncWeek ·.day) bucket
  | weekday => exact absurd rfl sums

/-- The total of a series of sums is the sum over all rows. -/
theorem Reports.total
    (reports : Reports tables userId { query with granularity } range spread response)
    (answered : usage tables userId { query with granularity } = .ok response)
    (sums : granularity ≠ .weekday)
    (money : ∀ row ∈ spread, Cents row.cost ∧ Cents row.recharged) (amount : Amount) :
    amount.ofTotals response.total = (spread.map amount.ofSpread).sum := by
  have cents : Cents (spread.map amount.ofSpread).sum := by
    apply Decimal.sum
    intro v mem
    obtain ⟨row, member, rfl⟩ := List.mem_map.mp mem
    exact cents_amount money amount row member
  rw [usage_totals answered, reports.points, List.map_map]
  have amounts := @selectFor_amounts query spread granularity sums amount money
    (countMeters tables userId query.meterId) range.days
  exact (congrArg (fun l => round l.sum) amounts).trans
    ((congrArg round (sum_distinctKeys spread)).trans cents.roundTo_eq)

theorem isodow_mem (d : ℤ) : isodow d ∈ isoWeekdays := by
  simp only [isodow, isoWeekdays, List.mem_cons, List.not_mem_nil, or_false]
  omega

/-- The total of the weekday series adds up the means of its days of the week. -/
theorem Reports.weekday_total
    (reports : Reports tables userId { query with granularity := .weekday } range spread response)
    (answered : usage tables userId { query with granularity := .weekday } = .ok response)
    (coverage : ℤ → ℚ) :
    response.total.rechargedAmount = 0 ∧
      response.total.consumedCost = (isoWeekdays.map fun dow =>
        round (((pointsIn isodow dow (dayPoints spread coverage)).map (·.consumedCost)).sum /
          (pointsIn isodow dow (dayPoints spread coverage)).length)).sum := by
  constructor
  · have total := usage_totals answered .recharged
    have none : ∀ v ∈ response.points.map Amount.recharged.ofPoint, v = 0 := by
      intro v mem
      rw [reports.points, selectFor, List.map_map, List.map_map] at mem
      obtain ⟨bucket, -, rfl⟩ := List.mem_map.mp mem
      exact round_zero
    rw [List.sum_eq_zero none, round_zero] at total
    exact total
  · have total := usage_totals answered .consumed
    have costs : response.points.map Amount.consumed.ofPoint =
        (distinctKeys (isodow ·.day) spread).map fun dow =>
          round (((pointsIn isodow dow (dayPoints spread coverage)).map (·.consumedCost)).sum /
            (pointsIn isodow dow (dayPoints spread coverage)).length) := by
      rw [reports.points, selectFor, List.map_map, List.map_map]
      apply List.map_congr_left
      intro dow _
      rw [sum_pointsIn_cost, length_pointsIn]
      rfl
    have cents : Cents (response.points.map Amount.consumed.ofPoint).sum := by
      apply Decimal.sum
      intro v mem
      rw [costs] at mem
      obtain ⟨dow, -, rfl⟩ := List.mem_map.mp mem
      exact decimal_roundTo 2 _
    rw [show round _ = _ from cents.roundTo_eq, costs] at total
    refine total.trans (sum_map_distinctKeys (by decide) _ ?_ ?_)
    · intro dow mem
      obtain ⟨row, -, rfl⟩ := mem_distinctKeys.mp mem
      exact isodow_mem row.day
    · intro dow absent
      rw [mem_bucket_iff isodow dow coverage, not_not] at absent
      simp [absent]

/-- Averages over single days are sums. -/
theorem sum_singles {points : List UsagePointDto}
    (money : Cents ((points.map (·.consumedCost)).sum)) (single : points.length ≤ 1) :
    round ((points.map (·.consumedCost)).sum / points.length) =
      (points.map (·.consumedCost)).sum := by
  match points with
  | [] => simp
  | [point] =>
    rw [List.length_singleton, Nat.cast_one, div_one]
    exact money.roundTo_eq
  | _ :: _ :: _ => simp at single

/-- The daily and the weekly total agree; the weekday total adds up means, without recharges, and
agrees on the cost as long as no day of the week was observed twice. -/
theorem totals_related (userId : String) (accepted : resolveRange query = .ok range)
    (money : ∀ s ∈ tables.meterUsageSample, Cents s.consumedCost ∧ Cents s.rechargePaid) :
    ∃ daily weekly weekday,
      usage tables userId { query with granularity := .daily } = .ok daily ∧
      usage tables userId { query with granularity := .weekly } = .ok weekly ∧
      usage tables userId { query with granularity := .weekday } = .ok weekday ∧
      TotalsRelated daily weekly weekday := by
  obtain ⟨daily, hdaily, dailyRows⟩ :=
    usage_reports tables userId accepted .daily
  obtain ⟨weekly, hweekly, weeklyRows⟩ :=
    usage_reports tables userId accepted .weekly
  obtain ⟨weekday, hweekday, weekdayRows⟩ :=
    usage_reports tables userId accepted .weekday
  have cents := cents_spreadOf userId query.meterId range money
  generalize spreadOf tables userId query.meterId range = spread
    at dailyRows weeklyRows weekdayRows cents
  obtain ⟨coverage, points⟩ := dailyRows.daily cents
  have dailyTotal := dailyRows.total hdaily (by decide) cents
  have weeklyTotal := weeklyRows.total hweekly (by decide) cents
  obtain ⟨recharged, consumed⟩ := weekdayRows.weekday_total hweekday coverage
  refine ⟨daily, weekly, weekday, hdaily, hweekly, hweekday, ?_, recharged, ?_, ?_⟩
  · exact (UsageTotalsDto.mk.injEq ..).mpr
      ⟨(weeklyTotal .consumed).trans (dailyTotal .consumed).symm,
        (weeklyTotal .recharged).trans (dailyTotal .recharged).symm⟩
  · rw [points]
    exact consumed
  · intro single
    rw [points] at single
    have mean : ∀ dow ∈ isoWeekdays,
        round (((pointsIn isodow dow (dayPoints spread coverage)).map (·.consumedCost)).sum /
          (pointsIn isodow dow (dayPoints spread coverage)).length) =
        groupSum (isodow ·.day) SpreadRow.cost dow spread := by
      intro dow _
      have sum := @sum_pointsIn_cost spread isodow dow coverage
      have money := @cents_groupSum _ (isodow ·.day) _ (cents_amount cents .consumed) dow
      rw [sum_singles (sum ▸ money) (single dow), sum]
    rw [consumed, List.map_congr_left mean, sum_groupSum (by decide)]
    refine Eq.trans ?_ (dailyTotal .consumed).symm
    congr 2
    exact List.filter_eq_self.mpr fun row _ => decide_eq_true (isodow_mem row.day)

/-! ## Shape -/

/-- The buckets a series should hold: the days of the range, the weeks it touches, or the seven
days of the week. -/
def Promised (granularity : UsageGranularity) (days : List ℤ) (bucket : ℤ) : Prop :=
  match granularity with
  | .daily => bucket ∈ days
  | .weekly => ∃ d ∈ days, truncWeek d = bucket
  | .weekday => bucket ∈ isoWeekdays

/-- Start of the bucket of a point, or its day of the week. -/
def UsagePointDto.bucket (point : UsagePointDto) (granularity : UsageGranularity) : Option ℤ :=
  if granularity = .weekday then point.weekday else point.date

/-- One point for each promised bucket, in ascending order. -/
structure SeriesShape (granularity : UsageGranularity) (days : List ℤ)
    (points : List UsagePointDto) : Prop where
  ascending : ∃ buckets : List ℤ, buckets.Pairwise (· < ·) ∧
    points.map (·.bucket granularity) = buckets.map some
  promised : ∀ point ∈ points, ∀ bucket, point.bucket granularity = some bucket →
    Promised granularity days bucket
  complete : ∀ bucket, Promised granularity days bucket →
    ∃ point ∈ points, point.bucket granularity = some bucket

/-- The buckets of the points are those of the rows. -/
theorem Reports.buckets
    (reports : Reports tables userId { query with granularity } range spread response) :
    response.points.map (·.bucket granularity) =
      (distinctKeys (fun row => bucketOf granularity row.day) spread).map some := by
  rw [reports.points, ← selectFor_buckets, List.map_map, List.map_map]
  apply List.map_congr_left
  intro row _
  by_cases weekday : granularity = .weekday
  · simp [UsagePointDto.bucket, toPoint, weekday]
  · simp [UsagePointDto.bucket, toPoint, weekday]

theorem promised_bucketOf {days : List ℤ} {d : ℤ} (member : d ∈ days) :
    Promised granularity days (bucketOf granularity d) := by
  cases granularity with
  | daily => exact member
  | weekly => exact ⟨d, member, rfl⟩
  | weekday => exact isodow_mem d

/-- An answer is ascending and holds promised buckets only; it holds all of them exactly when each
has a day in the range that a window of a meter in scope touches. -/
theorem series_shape_iff (userId : String) (accepted : resolveRange query = .ok range) :
    ∃ response, usage tables userId query = .ok response ∧
      (SeriesShape query.granularity range.days response.points ↔
        ∀ bucket, Promised query.granularity range.days bucket →
          ∃ d ∈ range.days, bucketOf query.granularity d = bucket ∧
            ∃ s ∈ tables.inScope userId query.meterId, s.Touches d) := by
  obtain ⟨fromDay, toDay, covers, series⟩ := resolveRange_series accepted
  obtain ⟨response, answered, reports⟩ := usage_reports tables userId accepted query.granularity
  refine ⟨response, answered, ?_⟩
  have buckets := reports.buckets
  have returned (bucket : ℤ) :
      bucket ∈ distinctKeys (fun row => bucketOf query.granularity row.day)
          (spreadOf tables userId query.meterId range) ↔
        ∃ d ∈ range.days, bucketOf query.granularity d = bucket ∧
          ∃ s ∈ tables.inScope userId query.meterId, s.Touches d := by
    simp only [mem_distinctKeys_coarse, mem_days_iff covers, series, mem_generateSeries]
    tauto
  have present (bucket : ℤ) :
      (∃ point ∈ response.points, point.bucket query.granularity = some bucket) ↔
        ∃ d ∈ range.days, bucketOf query.granularity d = bucket ∧
          ∃ s ∈ tables.inScope userId query.meterId, s.Touches d := by
    rw [← returned, ← List.mem_map, buckets]
    simp
  constructor
  · intro shape bucket promised
    exact (present bucket).mp (shape.complete bucket promised)
  · intro observed
    refine ⟨⟨_, pairwise_distinctKeys, buckets⟩, ?_, ?_⟩
    · intro point member bucket same
      obtain ⟨d, inRange, rfl, -⟩ := (present bucket).mp ⟨point, member, same⟩
      exact promised_bucketOf inRange
    · intro bucket promised
      exact (present bucket).mpr (observed bucket promised)

end

/-- No day of the week is observed twice in days 0 to 3. -/
theorem totals_related_sampleTables :
    ∃ daily weekly weekday,
      usage sampleTables "ayesha" ⟨.daily, some 0, some 3, none⟩ = .ok daily ∧
      usage sampleTables "ayesha" ⟨.weekly, some 0, some 3, none⟩ = .ok weekly ∧
      usage sampleTables "ayesha" ⟨.weekday, some 0, some 3, none⟩ = .ok weekday ∧
      TotalsRelated daily weekly weekday :=
  @totals_related sampleTables ⟨.daily, some 0, some 3, none⟩
    ⟨dhakaMidnight 0, dhakaMidnight 4, [0, 1, 2, 3]⟩ "ayesha" (by decide +kernel)
    (by decide +kernel)

/-- Two Mondays, 60 and 40 taka, and a recharge on the second. -/
def twoMondays : UsageTables where
  meter := [⟨"m1", "rahim"⟩]
  meterUsageSample := [
    ⟨"m1", dayStart 4, dayStart 5, 60, 0, by decide⟩,
    ⟨"m1", dayStart 11, dayStart 12, 40, 500, by decide⟩]
  meter_pk := by decide

/-- The weekday total drops the recharge, and halves the cost. -/
theorem totals_related_fails :
    (usage twoMondays "rahim" ⟨.daily, some 4, some 11, none⟩).map (·.total) = .ok ⟨100, 500⟩ ∧
    (usage twoMondays "rahim" ⟨.weekly, some 4, some 11, none⟩).map (·.total) = .ok ⟨100, 500⟩ ∧
    (usage twoMondays "rahim" ⟨.weekday, some 4, some 11, none⟩).map (·.total) = .ok ⟨50, 0⟩ := by
  decide +kernel

theorem series_shape_iff_sampleTables :
    ∃ response, usage sampleTables "ayesha" ⟨.daily, some 0, some 3, none⟩ = .ok response ∧
      (SeriesShape .daily [0, 1, 2, 3] response.points ↔
        ∀ bucket, Promised .daily [0, 1, 2, 3] bucket →
          ∃ d ∈ [0, 1, 2, 3], bucketOf .daily d = bucket ∧
            ∃ s ∈ sampleTables.inScope "ayesha" none, s.Touches d) :=
  @series_shape_iff sampleTables ⟨.daily, some 0, some 3, none⟩
    ⟨dhakaMidnight 0, dhakaMidnight 4, [0, 1, 2, 3]⟩ "ayesha" (by decide +kernel)

/-- Eight days with two observed: the series of the days of the week has one point. -/
theorem series_shape_fails :
    countMeters twoMondays "rahim" none = 1 ∧
      ∃ response, usage twoMondays "rahim" ⟨.weekday, some 4, some 11, none⟩ = .ok response ∧
        response.points = [⟨none, some 1, 50, 0, 1⟩] ∧
        ¬SeriesShape .weekday [4, 5, 6, 7, 8, 9, 10, 11] response.points := by
  refine ⟨by decide, ⟨.weekday, "BDT", 1, 2, [⟨none, some 1, 50, 0, 1⟩], ⟨50, 0⟩⟩,
    by decide +kernel, rfl, ?_⟩
  intro shape
  obtain ⟨point, member, tuesday⟩ := shape.complete 2 (show 2 ∈ isoWeekdays by decide)
  cases List.mem_singleton.mp member
  cases tuesday

end ElectroSync
