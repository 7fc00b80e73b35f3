import ElectroSync.Analytics.Conservation

/-!
# The weekly and weekday series

Both aggregate the rows of `spread` by a key that depends on the day only, so they are aggregations
of the daily series: a week adds up the points of its days, and a weekday averages them. The number
of observed days does not depend on the granularity.
-/

namespace ElectroSync
open Rounding Grouping

section
variable {tables : UsageTables} {userId : String} {meterId : Option String}
  {query : UsageAnalyticsQueryDto} {range : ResolvedRange} {spread : List SpreadRow} {d : ℤ}
  {amount : Amount}

/-- The points of a daily series whose days fall into a bucket. -/
def pointsIn (bucket : ℤ → ℤ) (b : ℤ) (points : List UsagePointDto) : List UsagePointDto :=
  points.filter fun point => point.date.any (bucket · = b)

/-- The weekly series adds up the daily one. -/
structure WeeklyOfDaily (daily weekly : List UsagePointDto) : Prop where
  point_eq : ∀ point ∈ weekly, ∃ monday, point.date = some monday ∧
    point.consumedCost = ((pointsIn truncWeek monday daily).map (·.consumedCost)).sum ∧
    point.rechargedAmount = ((pointsIn truncWeek monday daily).map (·.rechargedAmount)).sum
  weeks : ∀ monday, (∃ point ∈ weekly, point.date = some monday) ↔
    pointsIn truncWeek monday daily ≠ []

/-- The weekday series averages the daily one. -/
structure WeekdayOfDaily (daily weekday : List UsagePointDto) : Prop where
  point_eq : ∀ point ∈ weekday, ∃ dow, point.weekday = some dow ∧
    point.consumedCost = round (((pointsIn isodow dow daily).map (·.consumedCost)).sum /
      (pointsIn isodow dow daily).length)
  weekdays : ∀ dow, (∃ point ∈ weekday, point.weekday = some dow) ↔
    pointsIn isodow dow daily ≠ []

/-- The point of a day, from the rows of `spread`. -/
def dayPoint (spread : List SpreadRow) (coverage : ℤ → ℚ) (d : ℤ) : UsagePointDto where
  date := some d
  weekday := none
  consumedCost := groupSum SpreadRow.day SpreadRow.cost d spread
  rechargedAmount := groupSum SpreadRow.day SpreadRow.recharged d spread
  coverage := coverage d

def dayPoints (spread : List SpreadRow) (coverage : ℤ → ℚ) : List UsagePointDto :=
  (distinctKeys SpreadRow.day spread).map (dayPoint spread coverage)

/-- Every amount of `spread` is one of a sample, or nothing. -/
theorem cents_spreadOf (userId : String) (meterId : Option String) (range : ResolvedRange)
    (money : ∀ s ∈ tables.meterUsageSample, Cents s.consumedCost ∧ Cents s.rechargePaid) :
    ∀ row ∈ spreadOf tables userId meterId range, Cents row.cost ∧ Cents row.recharged := by
  intro row mem
  simp only [spreadOf, boundsOf_eq, List.mem_flatMap, List.mem_map, Bounds.spread] at mem
  obtain ⟨_, ⟨s, inReach, rfl⟩, d, -, rfl⟩ := mem
  obtain ⟨cost, recharged⟩ :=
    money s (List.mem_of_mem_filter (List.mem_of_mem_filter inReach))
  constructor
  · dsimp only
    split
    · exact cost
    · exact .zero
  · dsimp only
    split
    · exact recharged
    · exact .zero

theorem cents_amount (money : ∀ row ∈ spread, Cents row.cost ∧ Cents row.recharged)
    (amount : Amount) : ∀ row ∈ spread, Cents (amount.ofSpread row) := by
  intro row member
  cases amount with
  | consumed => exact (money row member).1
  | recharged => exact (money row member).2

theorem cents_groupSum {key : SpreadRow → ℤ} {column : SpreadRow → ℚ}
    (money : ∀ row ∈ spread, Cents (column row)) (b : ℤ) :
    Cents (groupSum key column b spread) := by
  apply Decimal.sum
  intro v hv
  obtain ⟨row, mem, rfl⟩ := List.mem_map.mp hv
  exact money row (List.mem_of_mem_filter mem)

theorem pointsIn_dayPoints (bucket : ℤ → ℤ) (b : ℤ) (coverage : ℤ → ℚ) :
    pointsIn bucket b (dayPoints spread coverage) =
      ((distinctKeys SpreadRow.day spread).filter fun d => bucket d = b).map
        (dayPoint spread coverage) := by
  rw [pointsIn, dayPoints, List.filter_map]
  rfl

/-- The amounts of a bucket's daily points add up to those of its rows. -/
theorem sum_pointsIn (amount : Amount) (bucket : ℤ → ℤ) (b : ℤ) (coverage : ℤ → ℚ) :
    ((pointsIn bucket b (dayPoints spread coverage)).map amount.ofPoint).sum =
      groupSum (fun row => bucket row.day) amount.ofSpread b spread := by
  rw [pointsIn_dayPoints, groupSum_coarse, List.map_map]
  cases amount with
  | consumed => rfl
  | recharged => rfl

theorem sum_pointsIn_cost (bucket : ℤ → ℤ) (b : ℤ) (coverage : ℤ → ℚ) :
    ((pointsIn bucket b (dayPoints spread coverage)).map (·.consumedCost)).sum =
      groupSum (fun row => bucket row.day) SpreadRow.cost b spread :=
  sum_pointsIn .consumed bucket b coverage

theorem sum_pointsIn_recharged (bucket : ℤ → ℤ) (b : ℤ) (coverage : ℤ → ℚ) :
    ((pointsIn bucket b (dayPoints spread coverage)).map (·.rechargedAmount)).sum =
      groupSum (fun row => bucket row.day) SpreadRow.recharged b spread :=
  sum_pointsIn .recharged bucket b coverage

theorem length_pointsIn (bucket : ℤ → ℤ) (b : ℤ) (coverage : ℤ → ℚ) :
    (pointsIn bucket b (dayPoints spread coverage)).length =
      countDistinctDays (group (fun row => bucket row.day) b spread) := by
  rw [pointsIn_dayPoints, List.length_map, countDistinctDays, length_distinctKeys_coarse]

theorem mem_bucket_iff (bucket : ℤ → ℤ) (b : ℤ) (coverage : ℤ → ℚ) :
    b ∈ distinctKeys (fun row => bucket row.day) spread ↔
      pointsIn bucket b (dayPoints spread coverage) ≠ [] := by
  rw [mem_distinctKeys_coarse, pointsIn_dayPoints, ne_eq, List.map_eq_nil_iff,
    List.filter_eq_nil_iff]
  simp

/-! ## The three answers -/

/-- What an answer reports of `spread`: the points, and how many days it holds. -/
structure Reports (tables : UsageTables) (userId : String) (query : UsageAnalyticsQueryDto)
    (range : ResolvedRange) (spread : List SpreadRow) (response : UsageAnalyticsDto) : Prop where
  points : response.points = (selectFor query.granularity spread).map fun row =>
    toPoint query row (countMeters tables userId query.meterId) range.days
  observedDays : response.observedDays = countDistinctDays spread

theorem selectFor_observedDays (granularity : UsageGranularity) (spread : List SpreadRow) :
    (((selectFor granularity spread).head?.map (·.observedDays)).getD 0) =
      countDistinctDays spread := by
  have empty {bucket : SpreadRow → ℤ} (none : distinctKeys bucket spread = []) : spread = [] := by
    apply List.eq_nil_iff_forall_not_mem.mpr
    intro row mem
    have : bucket row ∈ distinctKeys bucket spread := mem_distinctKeys.mpr ⟨row, mem, rfl⟩
    rw [none] at this
    cases this
  have first {bucket : SpreadRow → ℤ} {row : ℤ → BucketRow}
      (same : ∀ b, (row b).observedDays = countDistinctDays spread) :
      ((((distinctKeys bucket spread).map row).head?.map (·.observedDays)).getD 0) =
        countDistinctDays spread := by
    cases keys : distinctKeys bucket spread with
    | nil =>
      rw [empty keys]
      rfl
    | cons b rest => simp [same]
  cases granularity with
  | daily => exact first fun _ => rfl
  | weekly => exact first fun _ => rfl
  | weekday => exact first fun _ => rfl

/-- An accepted query reports the rows of its range; without meters in scope there are none. -/
theorem usage_reports (tables : UsageTables) (userId : String)
    (accepted : resolveRange query = .ok range) (granularity : UsageGranularity) :
    ∃ response, usage tables userId { query with granularity } = .ok response ∧
      Reports tables userId { query with granularity } range
        (spreadOf tables userId query.meterId range) response := by
  have accepted' : resolveRange { query with granularity } = .ok range := accepted
  obtain ⟨response, answered⟩ := usage_of_range tables userId accepted'
  refine ⟨response, answered, ?_⟩
  obtain ⟨_, same, shape⟩ := usage_ok answered
  cases accepted'.symm.trans same
  obtain ⟨none, rfl⟩ | ⟨points, -, observed⟩ := shape
  · have empty : tables.inScope userId query.meterId = [] :=
      List.eq_nil_iff_forall_not_mem.mpr fun s member => countMeters_pos member none
    have spread : spreadOf tables userId query.meterId range = [] := by
      rw [spreadOf, boundsOf_eq, empty]
      rfl
    rw [spread]
    exact ⟨by cases granularity <;> rfl, rfl⟩
  · exact ⟨points, observed.trans (selectFor_observedDays granularity _)⟩

section Reports
variable {response : UsageAnalyticsDto}

theorem Reports.daily (reports : Reports tables userId { query with granularity := .daily } range
      spread response)
    (money : ∀ row ∈ spread, Cents row.cost ∧ Cents row.recharged) :
    ∃ coverage, response.points = dayPoints spread coverage := by
  -- the coverage reads nothing of a row but its seconds
  refine ⟨fun d => (toPoint { query with granularity := .daily }
    ⟨d, 0, 0, groupSum SpreadRow.day SpreadRow.secs d spread, 0⟩
    (countMeters tables userId query.meterId) range.days).coverage, ?_⟩
  rw [reports.points, dayPoints, selectFor, List.map_map]
  apply List.map_congr_left
  intro d _
  have cents (amount : Amount) :=
    @cents_groupSum spread SpreadRow.day _ (cents_amount money amount) d
  exact (UsagePointDto.mk.injEq ..).mpr ⟨rfl, rfl, (cents .consumed).roundTo_eq,
    (cents .recharged).roundTo_eq, rfl⟩

theorem Reports.weekly (reports : Reports tables userId { query with granularity := .weekly } range
      spread response)
    (money : ∀ row ∈ spread, Cents row.cost ∧ Cents row.recharged) (coverage : ℤ → ℚ) :
    WeeklyOfDaily (dayPoints spread coverage) response.points := by
  constructor
  · intro point mem
    rw [reports.points, selectFor, List.map_map] at mem
    obtain ⟨monday, -, rfl⟩ := List.mem_map.mp mem
    refine ⟨monday, rfl, ?_, ?_⟩
    · rw [sum_pointsIn_cost]
      exact (cents_groupSum (cents_amount money .consumed) monday).roundTo_eq
    · rw [sum_pointsIn_recharged]
      exact (cents_groupSum (cents_amount money .recharged) monday).roundTo_eq
  · intro monday
    rw [← mem_bucket_iff, reports.points, selectFor, List.map_map]
    constructor
    · rintro ⟨point, mem, date⟩
      obtain ⟨b, member, rfl⟩ := List.mem_map.mp mem
      cases date
      exact member
    · intro mem
      exact ⟨_, List.mem_map_of_mem mem, rfl⟩

theorem Reports.weekday (reports : Reports tables userId { query with granularity := .weekday }
      range spread response) (coverage : ℤ → ℚ) :
    WeekdayOfDaily (dayPoints spread coverage) response.points := by
  constructor
  · intro point mem
    rw [reports.points, selectFor, List.map_map] at mem
    obtain ⟨dow, -, rfl⟩ := List.mem_map.mp mem
    refine ⟨dow, rfl, ?_⟩
    rw [sum_pointsIn_cost, length_pointsIn]
    rfl
  · intro dow
    rw [← mem_bucket_iff, reports.points, selectFor, List.map_map]
    constructor
    · rintro ⟨point, mem, same⟩
      obtain ⟨b, member, rfl⟩ := List.mem_map.mp mem
      cases same
      exact member
    · intro mem
      exact ⟨_, List.mem_map_of_mem mem, rfl⟩

end Reports

/-- On the same data, the weekly series adds up the daily points of each week, the weekday series
averages them by weekday, and all three report the number of daily points as observed days. -/
theorem series_aggregate_daily (userId : String) (accepted : resolveRange query = .ok range)
    (money : ∀ s ∈ tables.meterUsageSample, Cents s.consumedCost ∧ Cents s.rechargePaid) :
    ∃ daily weekly weekday,
      usage tables userId { query with granularity := .daily } = .ok daily ∧
      usage tables userId { query with granularity := .weekly } = .ok weekly ∧
      usage tables userId { query with granularity := .weekday } = .ok weekday ∧
      WeeklyOfDaily daily.points weekly.points ∧ WeekdayOfDaily daily.points weekday.points ∧
      daily.observedDays = daily.points.length ∧ weekly.observedDays = daily.points.length ∧
      weekday.observedDays = daily.points.length := by
  obtain ⟨daily, hdaily, dailyRows⟩ :=
    usage_reports tables userId accepted .daily
  obtain ⟨weekly, hweekly, weeklyRows⟩ :=
    usage_reports tables userId accepted .weekly
  obtain ⟨weekday, hweekday, weekdayRows⟩ :=
    usage_reports tables userId accepted .weekday
  have cents := cents_spreadOf userId query.meterId range money
  obtain ⟨coverage, points⟩ := dailyRows.daily cents
  have length : daily.points.length =
      countDistinctDays (spreadOf tables userId query.meterId range) := by
    rw [points, dayPoints, List.length_map, countDistinctDays]
  refine ⟨daily, weekly, weekday, hdaily, hweekly, hweekday, ?_, ?_, ?_, ?_, ?_⟩
  · rw [points]
    exact weeklyRows.weekly cents coverage
  · rw [points]
    exact weekdayRows.weekday coverage
  · rw [dailyRows.observedDays, length]
  · rw [weeklyRows.observedDays, length]
  · rw [weekdayRows.observedDays, length]

end

/-- Days 0 to 3 are a Thursday to a Sunday. -/
theorem series_aggregate_daily_sampleTables :
    ∃ daily weekly weekday,
      usage sampleTables "ayesha" ⟨.daily, some 0, some 3, none⟩ = .ok daily ∧
      usage sampleTables "ayesha" ⟨.weekly, some 0, some 3, none⟩ = .ok weekly ∧
      usage sampleTables "ayesha" ⟨.weekday, some 0, some 3, none⟩ = .ok weekday ∧
      WeeklyOfDaily daily.points weekly.points ∧ WeekdayOfDaily daily.points weekday.points ∧
      daily.observedDays = daily.points.length ∧ weekly.observedDays = daily.points.length ∧
      weekday.observedDays = daily.points.length :=
  @series_aggregate_daily sampleTables ⟨.daily, some 0, some 3, none⟩
    ⟨dhakaMidnight 0, dhakaMidnight 4, [0, 1, 2, 3]⟩ "ayesha" (by decide +kernel)
    (by decide +kernel)

end ElectroSync
