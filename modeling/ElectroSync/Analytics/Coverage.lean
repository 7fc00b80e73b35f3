import ElectroSync.Analytics.Aggregation
import ElectroSync.Library.Coverage
import Mathlib.Algebra.BigOperators.Ring.List
import Mathlib.Algebra.Order.BigOperators.Group.List
import Mathlib.Data.String.Basic

/-!
# Coverage measures observed time

A point's coverage is the share of its days that the samples of the meters in scope observed. The
query cuts each window at the midnights it crosses; when the windows of a meter do not overlap, the
pieces in a day add up to the part of the day they cover, and no day is observed for longer than it
lasts. The clamp of the coverage to 1 therefore never takes effect.
-/

namespace ElectroSync
open Rounding Grouping Windows

/-- The first instant of a Dhaka day, in microseconds. -/
def dayStart (day : ℤ) : ℤ := dhakaMidnight day * 1000

def UsageSampleRow.window (s : UsageSampleRow) : ℤ × ℤ := (s.windowStart, s.windowEnd)

namespace UsageTables

def metersInScope (tables : UsageTables) (userId : String) (meterId : Option String) :
    List MeterRow :=
  tables.meter.filter fun m => m.userId = userId && meterFilter meterId m.id

def windowsOf (tables : UsageTables) (meterId : String) : List (ℤ × ℤ) :=
  (group UsageSampleRow.meterId meterId tables.meterUsageSample).map UsageSampleRow.window

/-- The windows of a meter do not overlap. -/
def WindowsApart (tables : UsageTables) : Prop := ∀ meterId, Separated (tables.windowsOf meterId)

/-- How long the meters in scope were observed on a day, all together, in microseconds. -/
def observedTime (tables : UsageTables) (userId : String) (meterId : Option String) (d : ℤ) : ℕ :=
  ((tables.metersInScope userId meterId).map fun m =>
    (covered (tables.windowsOf m.id) (dayStart d) (dayStart (d + 1))).card).sum

/-- How long they were not, in microseconds. -/
def missingTime (tables : UsageTables) (userId : String) (meterId : Option String) (d : ℤ) : ℕ :=
  ((tables.metersInScope userId meterId).map fun m =>
    (uncovered (tables.windowsOf m.id) (dayStart d) (dayStart (d + 1))).card).sum

/-- The days of the range that a point speaks about; a weekday speaks about those observed. -/
def bucketDays (tables : UsageTables) (userId : String) (query : UsageAnalyticsQueryDto)
    (days : List ℤ) (bucket : ℤ) : List ℤ :=
  match query.granularity with
  | .daily => [bucket]
  | .weekly => days.filter fun d => truncWeek d = bucket
  | .weekday => days.filter fun d => isodow d = bucket ∧
      ∃ s ∈ tables.inScope userId query.meterId, s.Touches d

/-- The observed time of a bucket over the time there was to observe. -/
def coverageOf (tables : UsageTables) (userId : String) (query : UsageAnalyticsQueryDto)
    (days : List ℤ) (bucket : ℤ) : ℚ :=
  let days := tables.bucketDays userId query days bucket
  (days.map (tables.observedTime userId query.meterId)).sum /
    (microsPerDay * countMeters tables userId query.meterId * days.length)

end UsageTables

section
variable {tables : UsageTables} {userId : String} {meterId : Option String}
  {query : UsageAnalyticsQueryDto} {range : ResolvedRange} {fromDay toDay d : ℤ}

theorem extent_day (d : ℤ) : (extent (dayStart d) (dayStart (d + 1)) : ℤ) = microsPerDay := by
  rw [extent_int]
  · simp only [dayStart, dhakaMidnight, microsPerDay]
    ring
  · simp only [dayStart, dhakaMidnight, msPerDay, secondsPerDay]
    omega

/-! ## The seconds of a day -/

/-- The piece of a window that the query cuts out at two midnights. -/
theorem overlap_eq (s : UsageSampleRow) (d : ℤ) :
    s.bounds.overlap d = min s.windowEnd (dayStart (d + 1)) - max s.windowStart (dayStart d) := by
  have start := dhakaMicros_midnight d
  have stop := dhakaMicros_midnight (d + 1)
  simp only [Bounds.overlap, UsageSampleRow.bounds, dayStart, dhakaMicros] at start stop ⊢
  omega

/-- A day of the series holds a piece of the window, and any other day holds none. -/
theorem card_within (s : UsageSampleRow) (d : ℤ) :
    ((within (dayStart d) (dayStart (d + 1)) s.window).card : ℤ) =
      if s.Touches d then s.bounds.overlap d else 0 := by
  have window := s.advances
  simp only [within, UsageSampleRow.window, Int.card_Ioc, overlap_eq, UsageSampleRow.Touches,
    dayStart, dhakaMidnight, msPerDay, secondsPerDay]
  split <;> omega

/-- What one sample adds to the seconds of a day: the length of its part in that day. -/
theorem groupSum_secs (s : UsageSampleRow) (hfrom : fromDay ≤ d) (hto : d ≤ toDay) :
    groupSum SpreadRow.day SpreadRow.secs d (s.bounds.spread fromDay toDay) =
      (within (dayStart d) (dayStart (d + 1)) s.window).card / 1_000_000 := by
  have length := congrArg (Int.cast : ℤ → ℚ) (card_within s d)
  rw [Int.cast_natCast] at length
  rw [groupSum_row, length, Bounds.row]
  by_cases touches : s.Touches d
  · rw [if_pos ⟨touches, hfrom, hto⟩, if_pos touches]
  · rw [if_neg fun h => touches h.1, if_neg touches]
    simp

/-- A window out of reach of the range has no part in its days. -/
theorem within_eq_empty (covers : range.Covers fromDay toDay) {s : UsageSampleRow}
    (hfrom : fromDay ≤ d) (hto : d ≤ toDay)
    (out : ¬(s.windowEnd > range.rangeStart * 1000 ∧ s.windowStart < range.rangeEnd * 1000)) :
    (within (dayStart d) (dayStart (d + 1)) s.window).card = 0 := by
  have := card_within s d
  rw [if_neg fun touches => out (inReach_of_touches covers touches hfrom hto)] at this
  exact_mod_cast this

/-- The samples in scope are those of the meters in scope. -/
theorem inScope_eq (tables : UsageTables) (userId : String) (meterId : Option String) :
    tables.inScope userId meterId = tables.meterUsageSample.filter fun s =>
      s.meterId ∈ (tables.metersInScope userId meterId).map (·.id) := by
  apply List.filter_congr
  intro s _
  rw [decide_eq_decide]
  simp only [UsageTables.metersInScope, UsageTables.owns, List.mem_map, List.mem_filter,
    decide_eq_true_eq, Bool.and_eq_true]
  constructor
  · rintro ⟨⟨m, member, same, owner⟩, filter⟩
    exact ⟨m, ⟨member, owner, same ▸ filter⟩, same⟩
  · rintro ⟨m, ⟨member, owner, filter⟩, same⟩
    exact ⟨⟨m, member, same, owner⟩, same ▸ filter⟩

theorem nodup_metersInScope :
    ((tables.metersInScope userId meterId).map (·.id)).Nodup :=
  tables.meter_pk.sublist (List.filter_sublist.map _)

theorem cast_sum (l : List β) (f : β → ℕ) :
    (((l.map f).sum : ℕ) : ℚ) = (l.map fun x => (f x : ℚ)).sum := by
  rw [← Nat.coe_castAddMonoidHom, map_list_sum, List.map_map]
  rfl

/-- Without overlaps, the samples in scope observe of a day what their windows cover of it. -/
theorem sum_within (apart : tables.WindowsApart) (d : ℤ) :
    ((tables.inScope userId meterId).map fun s =>
      ((within (dayStart d) (dayStart (d + 1)) s.window).card : ℚ)).sum =
      tables.observedTime userId meterId d := by
  have byMeter := @sum_groupSum _ _ _ UsageSampleRow.meterId
    (fun s => ((within (dayStart d) (dayStart (d + 1)) s.window).card : ℚ)) _
    (@nodup_metersInScope tables userId meterId) tables.meterUsageSample
  rw [inScope_eq, ← byMeter, UsageTables.observedTime, List.map_map, cast_sum]
  congr 1
  apply List.map_congr_left
  intro m _
  rw [Function.comp_apply, card_covered (apart m.id), UsageTables.windowsOf, groupSum, List.map_map,
    cast_sum]
  rfl

/-- The seconds the query attributes to a day of the range are those its windows cover. -/
theorem secs_eq (apart : tables.WindowsApart) (covers : range.Covers fromDay toDay)
    (hfrom : fromDay ≤ d) (hto : d ≤ toDay) :
    groupSum SpreadRow.day SpreadRow.secs d (spreadOf tables userId meterId range) =
      tables.observedTime userId meterId d / 1_000_000 := by
  rw [← sum_within apart]
  simp only [spreadOf, covers.first, covers.last, boundsOf_eq, groupSum_flatMap, List.map_map,
    Function.comp_def, groupSum_secs _ hfrom hto]
  rw [← sum_map_ite, div_eq_mul_inv, ← List.sum_map_mul_right]
  congr 1
  apply List.map_congr_left
  intro s _
  split
  · rfl
  · next out => simp [within_eq_empty covers hfrom hto out]

/-! ## The days of a bucket -/

/-- The days of an accepted range are those from its first to its last. -/
theorem resolveRange_series (accepted : resolveRange query = .ok range) :
    ∃ fromDay toDay, range.Covers fromDay toDay ∧ range.days = generateSeries fromDay toDay := by
  obtain ⟨fromDay, toDay, first, last, covers⟩ := resolveRange_covers accepted
  refine ⟨fromDay, toDay, covers, ?_⟩
  simp only [resolveRange, first, last, dayCount_eq] at accepted
  split at accepted
  · cases accepted
  split at accepted
  · cases accepted
  cases accepted
  simp only [generateSeries]
  congr 2
  omega

/-- The key of a day in the aggregation of a granularity. -/
def bucketOf : UsageGranularity → ℤ → ℤ
  | .daily => id
  | .weekly => truncWeek
  | .weekday => isodow

theorem selectFor_buckets (granularity : UsageGranularity) (spread : List SpreadRow) :
    (selectFor granularity spread).map (·.bucket) =
      distinctKeys (fun row => bucketOf granularity row.day) spread := by
  cases granularity with
  | daily => simp [selectFor, bucketOf, Function.comp_def]
  | weekly => simp [selectFor, bucketOf, Function.comp_def]
  | weekday => simp [selectFor, bucketOf, Function.comp_def]

theorem truncWeek_eq_iff (d d' : ℤ) :
    truncWeek d = truncWeek d' ↔ truncWeek d' ≤ d ∧ d < truncWeek d' + 7 := by
  simp only [truncWeek]
  omega

theorem mem_bucketDays (series : range.days = generateSeries fromDay toDay)
    (covers : range.Covers fromDay toDay) (bucket : ℤ)
    (observed : d ∈ distinctKeys SpreadRow.day (spreadOf tables userId query.meterId range)) :
    d ∈ tables.bucketDays userId query range.days bucket ↔
      bucketOf query.granularity d = bucket := by
  obtain ⟨inRange, touched⟩ := (mem_days_iff covers).mp observed
  have member : d ∈ range.days := series ▸ mem_generateSeries.mpr inRange
  simp only [UsageTables.bucketDays]
  cases query.granularity with
  | daily => simp [bucketOf]
  | weekly => simp [bucketOf, member]
  | weekday => simp [bucketOf, member, touched]

theorem nodup_bucketDays (series : range.days = generateSeries fromDay toDay) (bucket : ℤ) :
    (tables.bucketDays userId query range.days bucket).Nodup := by
  have nodup : range.days.Nodup := series ▸ generateSeries_nodup fromDay toDay
  simp only [UsageTables.bucketDays]
  cases query.granularity with
  | daily => exact List.nodup_singleton bucket
  | weekly => exact nodup.filter _
  | weekday => exact nodup.filter _

/-- A bucket that is returned has a day, and its days lie in the range. -/
theorem bucketDays_inRange (series : range.days = generateSeries fromDay toDay)
    (covers : range.Covers fromDay toDay) {bucket : ℤ}
    (returned : bucket ∈ distinctKeys (fun row => bucketOf query.granularity row.day)
      (spreadOf tables userId query.meterId range)) :
    tables.bucketDays userId query range.days bucket ≠ [] ∧
      ∀ d ∈ tables.bucketDays userId query range.days bucket, fromDay ≤ d ∧ d ≤ toDay := by
  obtain ⟨d, observed, same⟩ := mem_distinctKeys_coarse.mp returned
  refine ⟨List.ne_nil_of_mem ((mem_bucketDays series covers bucket observed).mpr same), ?_⟩
  intro d' member
  rw [← mem_generateSeries, ← series]
  simp only [UsageTables.bucketDays] at member
  cases granularity : query.granularity with
  | daily =>
    rw [granularity] at member same
    cases List.mem_singleton.mp member
    cases same
    exact series ▸ mem_generateSeries.mpr (mem_days_spreadOf covers observed)
  | weekly =>
    rw [granularity] at member
    exact List.mem_of_mem_filter member
  | weekday =>
    rw [granularity] at member
    exact List.mem_of_mem_filter member

/-- The seconds of a bucket add up over its days. -/
theorem bucket_secs (apart : tables.WindowsApart)
    (series : range.days = generateSeries fromDay toDay) (covers : range.Covers fromDay toDay)
    {bucket : ℤ}
    (returned : bucket ∈ distinctKeys (fun row => bucketOf query.granularity row.day)
      (spreadOf tables userId query.meterId range)) :
    groupSum (fun row => bucketOf query.granularity row.day) SpreadRow.secs bucket
        (spreadOf tables userId query.meterId range) =
      ((tables.bucketDays userId query range.days bucket).map
        (tables.observedTime userId query.meterId)).sum / 1_000_000 := by
  have days : groupSum (fun row => bucketOf query.granularity row.day) SpreadRow.secs bucket
        (spreadOf tables userId query.meterId range) =
      ((tables.bucketDays userId query range.days bucket).map fun d =>
        groupSum SpreadRow.day SpreadRow.secs d
          (spreadOf tables userId query.meterId range)).sum := by
    rw [sum_groupSum (nodup_bucketDays series bucket), groupSum, group]
    congr 2
    apply List.filter_congr
    intro row member
    rw [decide_eq_decide, mem_bucketDays series covers bucket]
    exact mem_distinctKeys.mpr ⟨row, member, rfl⟩
  rw [days, cast_sum, div_eq_mul_inv, ← List.sum_map_mul_right]
  congr 1
  apply List.map_congr_left
  intro d member
  obtain ⟨hfrom, hto⟩ := (bucketDays_inRange series covers returned).2 d member
  rw [secs_eq apart covers hfrom hto, div_eq_mul_inv]

/-- A weekday is averaged over as many days as it has in the range that were observed. -/
theorem length_bucketDays_weekday (series : range.days = generateSeries fromDay toDay)
    (covers : range.Covers fromDay toDay) (weekday : query.granularity = .weekday) (bucket : ℤ) :
    (tables.bucketDays userId query range.days bucket).length =
      countDistinctDays (group (fun row => isodow row.day) bucket
        (spreadOf tables userId query.meterId range)) := by
  rw [countDistinctDays, length_distinctKeys_coarse]
  apply List.Perm.length_eq
  rw [List.perm_ext_iff_of_nodup (nodup_bucketDays series bucket) (nodup_distinctKeys.filter _)]
  intro d
  simp only [UsageTables.bucketDays, weekday, List.mem_filter, decide_eq_true_eq,
    mem_days_iff covers, series, mem_generateSeries]
  tauto

theorem length_bucketDays (sums : query.granularity ≠ .weekday) {bucket : ℤ}
    (returned : bucket ∈ distinctKeys (fun row => bucketOf query.granularity row.day)
      (spreadOf tables userId query.meterId range)) :
    (tables.bucketDays userId query range.days bucket).length =
      expectedDays query.granularity bucket range.days := by
  obtain ⟨d, -, same⟩ := mem_distinctKeys_coarse.mp returned
  simp only [UsageTables.bucketDays, expectedDays]
  cases granularity : query.granularity with
  | daily => rfl
  | weekly =>
    rw [granularity] at same
    subst same
    congr 1
    apply List.filter_congr
    intro d' _
    rw [bucketOf, ← Bool.decide_and, decide_eq_decide]
    exact truncWeek_eq_iff d' d
  | weekday => exact absurd granularity sums

/-- What a row carries to the coverage: the seconds of its bucket, averaged for a weekday. -/
theorem selectFor_secs {granularity : UsageGranularity} {spread : List SpreadRow} {row : BucketRow}
    (member : row ∈ selectFor granularity spread) :
    row.secs = groupSum (fun row => bucketOf granularity row.day) SpreadRow.secs row.bucket spread /
      if granularity = .weekday then
        (countDistinctDays (group (fun row => isodow row.day) row.bucket spread) : ℚ)
      else 1 := by
  cases granularity with
  | daily =>
    obtain ⟨bucket, -, rfl⟩ := List.mem_map.mp member
    exact (div_one _).symm
  | weekly =>
    obtain ⟨bucket, -, rfl⟩ := List.mem_map.mp member
    exact (div_one _).symm
  | weekday =>
    obtain ⟨bucket, -, rfl⟩ := List.mem_map.mp member
    rfl

theorem bucket_returned {row : BucketRow} (member : row ∈ fetchBuckets tables userId query range) :
    row.bucket ∈ distinctKeys (fun row => bucketOf query.granularity row.day)
      (spreadOf tables userId query.meterId range) := by
  rw [← selectFor_buckets]
  exact List.mem_map_of_mem member

/-- The quotient that `toPoint` clamps and rounds. -/
theorem row_coverage (apart : tables.WindowsApart)
    (series : range.days = generateSeries fromDay toDay) (covers : range.Covers fromDay toDay)
    {row : BucketRow} (member : row ∈ fetchBuckets tables userId query range) :
    row.secs / (secondsPerDay * expectedDays query.granularity row.bucket range.days *
        countMeters tables userId query.meterId) =
      tables.coverageOf userId query range.days row.bucket := by
  have returned := bucket_returned member
  rw [selectFor_secs member, bucket_secs apart series covers returned, UsageTables.coverageOf]
  by_cases weekday : query.granularity = .weekday
  · rw [if_pos weekday, ← length_bucketDays_weekday series covers weekday]
    simp only [expectedDays, weekday, microsPerDay, msPerDay, secondsPerDay]
    push_cast
    ring
  · rw [if_neg weekday, ← length_bucketDays weekday returned]
    simp only [microsPerDay, msPerDay, secondsPerDay]
    push_cast
    ring

/-! ## Observed and missing time -/

theorem observedTime_add_missing (tables : UsageTables) (userId : String)
    (meterId : Option String) (d : ℤ) :
    ((tables.observedTime userId meterId d + tables.missingTime userId meterId d : ℕ) : ℚ) =
      microsPerDay * countMeters tables userId meterId := by
  have day := congrArg (Int.cast : ℤ → ℚ) (extent_day d)
  rw [Int.cast_natCast] at day
  rw [UsageTables.observedTime, UsageTables.missingTime, ← List.sum_map_add, cast_sum]
  simp only [card_covered_add_uncovered, day, List.map_const', List.sum_replicate, nsmul_eq_mul]
  exact mul_comm _ _

theorem sum_observed_add_missing (tables : UsageTables) (userId : String)
    (meterId : Option String) (days : List ℤ) :
    ((days.map (tables.observedTime userId meterId)).sum : ℚ) +
        (days.map (tables.missingTime userId meterId)).sum =
      microsPerDay * countMeters tables userId meterId * days.length := by
  rw [← Nat.cast_add, ← List.sum_map_add, cast_sum]
  simp only [observedTime_add_missing, List.map_const', List.sum_replicate, nsmul_eq_mul]
  exact mul_comm _ _

/-- A bucket that is returned had time to observe. -/
theorem expectedTime_pos (series : range.days = generateSeries fromDay toDay)
    (covers : range.Covers fromDay toDay) {bucket : ℤ}
    (returned : bucket ∈ distinctKeys (fun row => bucketOf query.granularity row.day)
      (spreadOf tables userId query.meterId range)) :
    0 < (microsPerDay * countMeters tables userId query.meterId *
      (tables.bucketDays userId query range.days bucket).length : ℚ) := by
  obtain ⟨d, observed, -⟩ := mem_distinctKeys_coarse.mp returned
  obtain ⟨-, s, scope, -⟩ := (mem_days_iff covers).mp observed
  have meters := Nat.pos_of_ne_zero (countMeters_pos scope)
  have days := List.length_pos_of_ne_nil (bucketDays_inRange series covers returned).1
  have day : (0 : ℚ) < microsPerDay := by norm_num [microsPerDay, msPerDay, secondsPerDay]
  positivity

/-- Coverage is what is left of 1 after the missing share. -/
theorem coverageOf_eq (series : range.days = generateSeries fromDay toDay)
    (covers : range.Covers fromDay toDay) {bucket : ℤ}
    (returned : bucket ∈ distinctKeys (fun row => bucketOf query.granularity row.day)
      (spreadOf tables userId query.meterId range)) :
    tables.coverageOf userId query range.days bucket =
      1 - ((tables.bucketDays userId query range.days bucket).map
          (tables.missingTime userId query.meterId)).sum /
        (microsPerDay * countMeters tables userId query.meterId *
          (tables.bucketDays userId query range.days bucket).length) := by
  have expected := expectedTime_pos series covers returned
  rw [UsageTables.coverageOf, eq_sub_iff_add_eq, ← add_div, sum_observed_add_missing,
    div_self expected.ne']

theorem coverageOf_mem (series : range.days = generateSeries fromDay toDay)
    (covers : range.Covers fromDay toDay) {bucket : ℤ}
    (returned : bucket ∈ distinctKeys (fun row => bucketOf query.granularity row.day)
      (spreadOf tables userId query.meterId range)) :
    0 ≤ tables.coverageOf userId query range.days bucket ∧
      tables.coverageOf userId query range.days bucket ≤ 1 := by
  have expected := expectedTime_pos series covers returned
  constructor
  · exact div_nonneg (Nat.cast_nonneg _) expected.le
  · rw [coverageOf_eq series covers returned]
    exact sub_le_self 1 (div_nonneg (Nat.cast_nonneg _) expected.le)

theorem expectedDays_ne_zero (series : range.days = generateSeries fromDay toDay)
    (covers : range.Covers fromDay toDay) {bucket : ℤ}
    (returned : bucket ∈ distinctKeys (fun row => bucketOf query.granularity row.day)
      (spreadOf tables userId query.meterId range)) :
    expectedDays query.granularity bucket range.days ≠ 0 := by
  by_cases weekday : query.granularity = .weekday
  · rw [weekday]
    exact one_ne_zero
  · rw [← length_bucketDays weekday returned]
    exact List.length_pos_of_ne_nil (bucketDays_inRange series covers returned).1 |>.ne'

/-- The clamp of `toPoint` never takes effect. -/
theorem toPoint_coverage (apart : tables.WindowsApart)
    (series : range.days = generateSeries fromDay toDay) (covers : range.Covers fromDay toDay)
    {row : BucketRow} (member : row ∈ fetchBuckets tables userId query range) :
    (toPoint query row (countMeters tables userId query.meterId) range.days).coverage =
      round (tables.coverageOf userId query range.days row.bucket) := by
  have returned := bucket_returned member
  simp only [toPoint, if_neg (expectedDays_ne_zero series covers returned),
    row_coverage apart series covers member, min_eq_left (coverageOf_mem series covers returned).2]

/-! ## The answer -/

/-- The coverage of an answer is the observed share of its buckets. -/
structure MeasuresCoverage (tables : UsageTables) (userId : String)
    (query : UsageAnalyticsQueryDto) (range : ResolvedRange) (response : UsageAnalyticsDto) :
    Prop where
  seconds : ∀ d ∈ range.days,
    groupSum SpreadRow.day SpreadRow.secs d (spreadOf tables userId query.meterId range) =
      tables.observedTime userId query.meterId d / 1_000_000
  expects : ∀ row ∈ fetchBuckets tables userId query range,
    expectedDays query.granularity row.bucket range.days ≠ 0
  share : ∀ row ∈ fetchBuckets tables userId query range,
    row.secs / (secondsPerDay * expectedDays query.granularity row.bucket range.days *
        countMeters tables userId query.meterId) =
      tables.coverageOf userId query range.days row.bucket
  unclamped : ∀ row ∈ fetchBuckets tables userId query range,
    0 ≤ tables.coverageOf userId query range.days row.bucket ∧
      tables.coverageOf userId query range.days row.bucket ≤ 1
  points : response.points.map (·.coverage) = (fetchBuckets tables userId query range).map
    fun row => round (tables.coverageOf userId query range.days row.bucket)

theorem coverage_measures (userId : String) (apart : tables.WindowsApart)
    (accepted : resolveRange query = .ok range) :
    ∃ response, usage tables userId query = .ok response ∧
      MeasuresCoverage tables userId query range response := by
  obtain ⟨fromDay, toDay, covers, series⟩ := resolveRange_series accepted
  obtain ⟨response, answered, reports⟩ := usage_reports tables userId accepted query.granularity
  refine ⟨response, answered, ?_, ?_, ?_, ?_, ?_⟩
  · intro d member
    obtain ⟨hfrom, hto⟩ := mem_generateSeries.mp (series ▸ member)
    exact secs_eq apart covers hfrom hto
  · intro row member
    exact expectedDays_ne_zero series covers (bucket_returned member)
  · intro row member
    exact row_coverage apart series covers member
  · intro row member
    exact coverageOf_mem series covers (bucket_returned member)
  · rw [reports.points, List.map_map]
    apply List.map_congr_left
    intro row member
    exact toPoint_coverage apart series covers member

/-! ## Full coverage -/

/-- Every instant of the bucket's days lies in a window of every meter in scope. -/
def FullyObserved (tables : UsageTables) (userId : String) (query : UsageAnalyticsQueryDto)
    (days : List ℤ) (bucket : ℤ) : Prop :=
  ∀ d ∈ tables.bucketDays userId query days bucket,
    ∀ m ∈ tables.metersInScope userId query.meterId,
      ∀ t, dayStart d < t → t ≤ dayStart (d + 1) →
        ∃ s ∈ tables.meterUsageSample, s.meterId = m.id ∧ s.windowStart < t ∧ t ≤ s.windowEnd

/-- A coverage of 1 says that nothing is missing, and a gap shows. -/
def NotOverstated (tables : UsageTables) (userId : String) (query : UsageAnalyticsQueryDto)
    (days : List ℤ) (bucket : ℤ) (coverage : ℚ) : Prop :=
  (coverage = 1 → FullyObserved tables userId query days bucket) ∧
    (¬FullyObserved tables userId query days bucket → coverage < 1)

/-- What is missing of the bucket's days, over all meters in scope, is nothing at all or more than
a two-hundredth of the time there was to observe. -/
def GapVisible (tables : UsageTables) (userId : String) (query : UsageAnalyticsQueryDto)
    (days : List ℤ) (bucket : ℤ) : Prop :=
  let bucketDays := tables.bucketDays userId query days bucket
  let missing : ℤ := (bucketDays.map (tables.missingTime userId query.meterId)).sum
  missing = 0 ∨
    microsPerDay * countMeters tables userId query.meterId * bucketDays.length < 200 * missing

theorem exists_window_iff {p : ℤ × ℤ → Prop} (id : String) :
    (∃ w ∈ tables.windowsOf id, p w) ↔
      ∃ s ∈ tables.meterUsageSample, s.meterId = id ∧ p s.window := by
  simp only [UsageTables.windowsOf, group, List.mem_map, List.mem_filter, decide_eq_true_eq]
  constructor
  · rintro ⟨_, ⟨s, ⟨member, same⟩, rfl⟩, holds⟩
    exact ⟨s, member, same, holds⟩
  · rintro ⟨s, member, same, holds⟩
    exact ⟨_, ⟨s, ⟨member, same⟩, rfl⟩, holds⟩

theorem fullyObserved_iff (days : List ℤ) (bucket : ℤ) :
    FullyObserved tables userId query days bucket ↔
      ((tables.bucketDays userId query days bucket).map
        (tables.missingTime userId query.meterId)).sum = 0 := by
  rw [List.sum_eq_zero_iff]
  simp only [FullyObserved, UsageTables.missingTime, List.forall_mem_map, List.sum_eq_zero_iff,
    card_uncovered_eq_zero, exists_window_iff]
  rfl

/-- Two decimals round up to 1 what misses at most a two-hundredth. -/
theorem round_lt_one_iff (v : ℚ) : round v < 1 ↔ v < 199 / 200 := by
  have scale : (0 : ℚ) < 10 ^ 2 := by norm_num
  rw [round, roundTo, div_lt_one scale]
  have whole : ((roundHalfUp (v * 10 ^ 2) : ℚ) < 10 ^ 2) ↔ roundHalfUp (v * 10 ^ 2) < 100 := by
    exact_mod_cast Iff.rfl
  rw [whole, roundHalfUp_lt_iff]
  constructor <;> intro h <;> push_cast at * <;> linarith

/-- A daily or weekly answer never overstates a bucket whose gap is visible, and overstates every
other. -/
theorem full_coverage_iff (userId : String) (apart : tables.WindowsApart)
    (accepted : resolveRange query = .ok range) (sums : query.granularity ≠ .weekday) :
    ∃ response, usage tables userId query = .ok response ∧
      ∀ point ∈ response.points, ∃ bucket, point.date = some bucket ∧
        (NotOverstated tables userId query range.days bucket point.coverage ↔
          GapVisible tables userId query range.days bucket) := by
  obtain ⟨fromDay, toDay, covers, series⟩ := resolveRange_series accepted
  obtain ⟨response, answered, reports⟩ := usage_reports tables userId accepted query.granularity
  have points : response.points = (fetchBuckets tables userId query range).map fun row =>
      toPoint query row (countMeters tables userId query.meterId) range.days := reports.points
  refine ⟨response, answered, ?_⟩
  intro point mem
  rw [points] at mem
  obtain ⟨row, member, rfl⟩ := List.mem_map.mp mem
  have returned := bucket_returned member
  have expected := expectedTime_pos series covers returned
  have below := round_lt_one_iff (tables.coverageOf userId query range.days row.bucket)
  refine ⟨row.bucket, if_neg sums, ?_⟩
  rw [toPoint_coverage apart series covers member]
  rw [coverageOf_eq series covers returned] at below ⊢
  simp only [NotOverstated, fullyObserved_iff, GapVisible]
  generalize ((tables.bucketDays userId query range.days row.bucket).map
    (tables.missingTime userId query.meterId)).sum = missing at below ⊢
  generalize (tables.bucketDays userId query range.days row.bucket).length = days
    at expected below ⊢
  generalize countMeters tables userId query.meterId = meters at expected below ⊢
  have gap : (1 - missing / (microsPerDay * meters * days) : ℚ) < 199 / 200 ↔
      microsPerDay * meters * days < 200 * (missing : ℤ) := by
    rw [sub_lt_comm, lt_div_iff₀ expected, ← @Int.cast_lt ℚ]
    push_cast
    constructor <;> intro h <;> linarith
  rw [gap] at below
  rw [below, Nat.cast_eq_zero, ← or_iff_not_imp_left, and_iff_right_iff_imp]
  rintro (none | visible) full
  · exact none
  · exact absurd full (below.mpr visible).ne

/-- Samples of a meter that start where an earlier one stopped, or later, do not overlap. -/
theorem windowsApart_of_inOrder (inOrder : tables.meterUsageSample.Pairwise fun s s' =>
      s.meterId = s'.meterId → s.windowEnd ≤ s'.windowStart) :
    tables.WindowsApart := by
  intro id
  refine List.pairwise_map.mpr (List.Pairwise.imp_of_mem ?_ (inOrder.filter _))
  intro s s' member member' after
  have same := of_decide_eq_true (List.mem_filter.mp member).2
  have same' := of_decide_eq_true (List.mem_filter.mp member').2
  exact Set.Ioc_disjoint_Ioc_of_le (after (same.trans same'.symm))

end

theorem coverage_measures_sampleTables :
    ∃ response, usage sampleTables "ayesha" ⟨.weekday, some 0, some 3, none⟩ = .ok response ∧
      MeasuresCoverage sampleTables "ayesha" ⟨.weekday, some 0, some 3, none⟩
        ⟨dhakaMidnight 0, dhakaMidnight 4, [0, 1, 2, 3]⟩ response :=
  @coverage_measures sampleTables ⟨.weekday, some 0, some 3, none⟩
    ⟨dhakaMidnight 0, dhakaMidnight 4, [0, 1, 2, 3]⟩ "ayesha"
    (windowsApart_of_inOrder (by decide +kernel)) (by decide +kernel)

theorem full_coverage_iff_sampleTables :
    ∃ response, usage sampleTables "ayesha" ⟨.weekly, some 0, some 3, none⟩ = .ok response ∧
      ∀ point ∈ response.points, ∃ bucket, point.date = some bucket ∧
        (NotOverstated sampleTables "ayesha" ⟨.weekly, some 0, some 3, none⟩ [0, 1, 2, 3] bucket
            point.coverage ↔
          GapVisible sampleTables "ayesha" ⟨.weekly, some 0, some 3, none⟩ [0, 1, 2, 3] bucket) :=
  @full_coverage_iff sampleTables ⟨.weekly, some 0, some 3, none⟩
    ⟨dhakaMidnight 0, dhakaMidnight 4, [0, 1, 2, 3]⟩ "ayesha"
    (windowsApart_of_inOrder (by decide +kernel)) (by decide +kernel) (by decide)

/-- One meter, read at midnight and again a minute before the next. -/
def minuteShort : UsageTables where
  meter := [⟨"m1", "ayesha"⟩]
  meterUsageSample := [⟨"m1", dayStart 0, dayStart 1 - 60_000_000, 64.26, 0, by decide⟩]
  meter_pk := by decide

/-- The last minute of the day is missing, and the coverage is 1. -/
theorem full_coverage_fails :
    minuteShort.WindowsApart ∧
      usage minuteShort "ayesha" ⟨.daily, some 0, some 0, none⟩ = .ok {
        granularity := .daily
        currency := "BDT"
        meterCount := 1
        observedDays := 1
        points := [⟨some 0, none, 64.26, 0, 1⟩]
        total := ⟨64.26, 0⟩ } ∧
      ¬NotOverstated minuteShort "ayesha" ⟨.daily, some 0, some 0, none⟩ [0] 0 1 := by
  refine ⟨windowsApart_of_inOrder (by decide +kernel), by decide +kernel, ?_⟩
  rintro ⟨full, -⟩
  obtain ⟨s, member, -, -, upTo⟩ := full rfl 0 List.mem_cons_self ⟨"m1", "ayesha"⟩
    (by decide +kernel) (dayStart 1) (by decide +kernel) le_rfl
  cases List.mem_singleton.mp member
  exact absurd upTo (by decide +kernel)

end ElectroSync
