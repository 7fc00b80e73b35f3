import ElectroSync.Analytics.Usage

/-!
# The daily analytics conserve cost

A sample is billed whole to the Dhaka day its window closes on. Three filters decide which samples
a query sees: the instant range in `bounds`, the day series of `generate_series`, and the clip to
the requested days. On closing days they agree, so that each sample that closes in the range is
counted once, and no other sample at all.
-/

namespace ElectroSync
open Rounding Grouping

/-- The Dhaka day of the last microsecond of the window. -/
def UsageSampleRow.closingDay (s : UsageSampleRow) : ℤ := truncDay (dhakaMicros (s.windowEnd - 1))

namespace UsageTables

def owns (tables : UsageTables) (userId meterId : String) : Prop :=
  ∃ m ∈ tables.meter, m.id = meterId ∧ m.userId = userId

instance (tables : UsageTables) (userId meterId : String) :
    Decidable (tables.owns userId meterId) :=
  inferInstanceAs (Decidable (∃ m ∈ tables.meter, _))

/-- The samples of a user's meters, cut down to one meter when the query names one. -/
def inScope (tables : UsageTables) (userId : String) (meterId : Option String) :
    List UsageSampleRow :=
  tables.meterUsageSample.filter fun s =>
    tables.owns userId s.meterId ∧ meterFilter meterId s.meterId

end UsageTables

section
variable {tables : UsageTables} {userId : String} {meterId : Option String}
  {query : UsageAnalyticsQueryDto} {range : ResolvedRange} {fromDay toDay d : ℤ}

/-! ## The range -/

theorem generateSeries_nodup (start stop : ℤ) : (generateSeries start stop).Nodup := by
  refine List.Nodup.map ?_ List.nodup_range
  intro i j same
  simpa using same

theorem mem_generateSeries {start stop : ℤ} :
    d ∈ generateSeries start stop ↔ start ≤ d ∧ d ≤ stop := by
  simp only [generateSeries, List.mem_map, List.mem_range]
  constructor
  · rintro ⟨i, hi, rfl⟩
    omega
  · rintro ⟨hstart, hstop⟩
    exact ⟨(d - start).toNat, by omega, by omega⟩

/-- The days of an accepted range, and its bounds as wall-clock times. -/
structure ResolvedRange.Covers (range : ResolvedRange) (fromDay toDay : ℤ) : Prop where
  nonempty : fromDay ≤ toDay
  first : range.days.head?.getD 0 = fromDay
  last : range.days.getLast?.getD 0 = toDay
  start : range.rangeStart = dhakaMidnight fromDay
  stop : range.rangeEnd = dhakaMidnight (toDay + 1)

theorem dhakaMidnight_sub (fromDay toDay : ℤ) :
    dhakaMidnight toDay - dhakaMidnight fromDay = (toDay - fromDay) * msPerDay := by
  simp only [dhakaMidnight]
  ring

theorem dayCount_eq (fromDay toDay : ℤ) :
    roundHalfUp ((dhakaMidnight toDay - dhakaMidnight fromDay : ℤ) / msPerDay) =
      toDay - fromDay := by
  have whole : (((toDay - fromDay) * msPerDay : ℤ) : ℚ) / msPerDay = (toDay - fromDay : ℤ) := by
    have : (msPerDay : ℚ) ≠ 0 := by norm_num [msPerDay, secondsPerDay]
    rw [Int.cast_mul, mul_div_assoc, div_self this, mul_one]
  rw [dhakaMidnight_sub, whole, roundHalfUp_intCast]

theorem resolveRange_covers (accepted : resolveRange query = .ok range) :
    ∃ fromDay toDay, query.fromDay = some fromDay ∧ query.toDay = some toDay ∧
      range.Covers fromDay toDay := by
  rcases hfrom : query.fromDay with _ | fromDay
  · simp [resolveRange, hfrom] at accepted
  rcases hto : query.toDay with _ | toDay
  · simp [resolveRange, hfrom, hto] at accepted
  simp only [resolveRange, hfrom, hto, dayCount_eq] at accepted
  split at accepted
  · cases accepted
  · next ordered =>
    split at accepted
    · cases accepted
    cases accepted
    have nonempty : fromDay ≤ toDay := by
      simp only [dhakaMidnight, msPerDay, secondsPerDay] at ordered
      omega
    obtain ⟨n, hn⟩ : ∃ n : ℕ, (toDay - fromDay + 1).toNat = n + 1 :=
      ⟨(toDay - fromDay).toNat, by omega⟩
    refine ⟨fromDay, toDay, rfl, rfl, nonempty, ?_, ?_, rfl, ?_⟩
    · simp [hn, List.range_succ_eq_map, addDays]
    · simp only [hn, List.range_succ, List.map_append, List.map_singleton, List.getLast?_append,
        List.getLast?_singleton, Option.some_or, Option.getD_some, addDays]
      omega
    · simp only [dhakaMidnight]
      ring

/-- Some of the window lies in the day. -/
def UsageSampleRow.Touches (s : UsageSampleRow) (d : ℤ) : Prop :=
  s.windowStart < dhakaMidnight (d + 1) * 1000 ∧ dhakaMidnight d * 1000 < s.windowEnd

instance (s : UsageSampleRow) (d : ℤ) : Decidable (s.Touches d) :=
  inferInstanceAs (Decidable (_ ∧ _))

theorem UsageSampleRow.touches_iff (s : UsageSampleRow) :
    s.Touches d ↔ truncDay s.bounds.ws ≤ d ∧ d ≤ s.closingDay := by
  have start := dhakaMicros_midnight d
  have stop := dhakaMicros_midnight (d + 1)
  rw [← Int.lt_add_one_iff, truncDay_lt_iff, UsageSampleRow.closingDay, truncDay_le_iff]
  simp only [UsageSampleRow.Touches, UsageSampleRow.bounds, dhakaMicros] at start stop ⊢
  omega

/-- A window closes on a day that it touches. -/
theorem UsageSampleRow.touches_closingDay (s : UsageSampleRow) : s.Touches s.closingDay := by
  refine s.touches_iff.mpr ⟨truncDay_mono ?_, le_rfl⟩
  have window := s.advances
  simp only [UsageSampleRow.bounds, dhakaMicros]
  omega

/-- A window that touches a day of the range is in reach of it. -/
theorem inReach_of_touches (covers : range.Covers fromDay toDay) {s : UsageSampleRow}
    (touches : s.Touches d) (hfrom : fromDay ≤ d) (hto : d ≤ toDay) :
    s.windowEnd > range.rangeStart * 1000 ∧ s.windowStart < range.rangeEnd * 1000 := by
  obtain ⟨start, stop⟩ := touches
  rw [covers.start, covers.stop]
  simp only [dhakaMidnight, msPerDay, secondsPerDay] at start stop ⊢
  omega

/-! ## The spread of one sample -/

@[simp] theorem bounds_closingDay (s : UsageSampleRow) :
    s.bounds.closingDay = s.closingDay := by
  simp only [Bounds.closingDay, UsageSampleRow.bounds, UsageSampleRow.closingDay, dhakaMicros]
  congr 1
  omega

/-- The two amounts a sample carries through the query. -/
inductive Amount
  | consumed
  | recharged

namespace Amount

def ofSample : Amount → UsageSampleRow → ℚ
  | consumed => (·.consumedCost)
  | recharged => (·.rechargePaid)

def ofSpread : Amount → SpreadRow → ℚ
  | consumed => (·.cost)
  | recharged => (·.recharged)

def ofPoint : Amount → UsagePointDto → ℚ
  | consumed => (·.consumedCost)
  | recharged => (·.rechargedAmount)

def ofTotals : Amount → UsageTotalsDto → ℚ
  | consumed => (·.consumedCost)
  | recharged => (·.rechargedAmount)

end Amount

variable {amount : Amount}

/-- The row that a window has for a day of its series. -/
def Bounds.row (b : Bounds) (d : ℤ) : SpreadRow where
  day := d
  secs := b.overlap d / 1_000_000
  cost := if d = b.closingDay then b.consumedCost else 0
  recharged := if d = b.closingDay then b.rechargePaid else 0

/-- What one sample adds to a day: the column of its row, when it touches the day and the clip keeps
it. -/
theorem groupSum_row (s : UsageSampleRow) (column : SpreadRow → ℚ) :
    groupSum SpreadRow.day column d (s.bounds.spread fromDay toDay) =
      if s.Touches d ∧ fromDay ≤ d ∧ d ≤ toDay then column (s.bounds.row d) else 0 := by
  have nodup := (generateSeries_nodup (truncDay s.bounds.ws) s.closingDay).filter
    fun d => decide (fromDay ≤ d ∧ d ≤ toDay)
  have rows : s.bounds.spread fromDay toDay = ((generateSeries (truncDay s.bounds.ws)
      s.bounds.closingDay).filter fun d => fromDay ≤ d ∧ d ≤ toDay).map s.bounds.row := rfl
  rw [rows, bounds_closingDay, groupSum_map]
  apply (groupSum_id nodup fun d => column (s.bounds.row d)).trans
  simp only [List.mem_filter, mem_generateSeries, decide_eq_true_eq, s.touches_iff]

/-- Of an amount, a sample adds everything on its closing day. -/
theorem groupSum_spread (s : UsageSampleRow) :
    groupSum SpreadRow.day amount.ofSpread d (s.bounds.spread fromDay toDay) =
      if s.closingDay = d ∧ fromDay ≤ d ∧ d ≤ toDay then amount.ofSample s else 0 := by
  have column : amount.ofSpread (s.bounds.row d) =
      if d = s.closingDay then amount.ofSample s else 0 := by
    cases amount <;> exact if_congr (by rw [bounds_closingDay]) rfl rfl
  rw [groupSum_row, column]
  by_cases closes : s.closingDay = d
  · subst closes
    simp [s.touches_closingDay]
  · simp [closes, Ne.symm closes]

/-! ## The query on all samples -/

/-- The join on the primary key of `meter` finds a sample of the user's meters once. -/
private theorem join_eq {meters : List MeterRow} (pk : (meters.map (·.id)).Nodup)
    (userId meterId : String) (p : Bool) (b : Bounds) :
    ((meters.filter fun m => m.id = meterId && m.userId = userId && p).map fun _ => b) =
      if (∃ m ∈ meters, m.id = meterId ∧ m.userId = userId) ∧ p then [b] else [] := by
  induction meters with
  | nil => simp
  | cons m meters ih =>
    obtain ⟨fresh, pk⟩ := List.nodup_cons.mp pk
    rw [List.filter_cons]
    by_cases same : m.id = meterId
    · have other : ∀ m' ∈ meters, m'.id ≠ meterId := fun m' member same' =>
        fresh (List.mem_map.mpr ⟨m', member, same'.trans same.symm⟩)
      have tail : (meters.filter fun m => m.id = meterId && m.userId = userId && p) = [] :=
        List.filter_eq_nil_iff.mpr fun m' member => by simp [other m' member]
      have unique : (∃ m' ∈ m :: meters, m'.id = meterId ∧ m'.userId = userId) ↔
          m.userId = userId := by
        simp only [List.mem_cons, exists_eq_or_imp, same, true_and, or_iff_left_iff_imp]
        exact fun ⟨m', member, same', _⟩ => absurd same' (other m' member)
      rw [tail]
      simp only [unique, same]
      by_cases owner : m.userId = userId <;> cases p <;> simp [owner]
    · simp [same, ih pk]

theorem boundsOf_eq (tables : UsageTables) (userId : String) (meterId : Option String)
    (range : ResolvedRange) :
    boundsOf tables userId meterId range =
      ((tables.inScope userId meterId).filter fun s => s.windowEnd > range.rangeStart * 1000 ∧
        s.windowStart < range.rangeEnd * 1000).map (·.bounds) := by
  simp only [boundsOf, UsageTables.inScope, UsageTables.owns, List.filter_filter]
  induction tables.meterUsageSample with
  | nil => rfl
  | cons s samples ih =>
    have join := join_eq tables.meter_pk userId s.meterId
      (decide (s.windowEnd > range.rangeStart * 1000) &&
        decide (s.windowStart < range.rangeEnd * 1000) && meterFilter meterId s.meterId) s.bounds
    simp only [← Bool.and_assoc] at join
    rw [List.flatMap_cons, ih, join, List.filter_cons]
    simp only [Bool.and_eq_true, decide_eq_true_eq]
    by_cases reach : s.windowEnd > range.rangeStart * 1000 ∧ s.windowStart < range.rangeEnd * 1000
    · by_cases inScope : (∃ m ∈ tables.meter, m.id = s.meterId ∧ m.userId = userId) ∧
        meterFilter meterId s.meterId
      · rw [if_pos ⟨inScope.1, reach, inScope.2⟩, if_pos ⟨reach, decide_eq_true inScope⟩]
        rfl
      · rw [if_neg fun h => inScope ⟨h.1, h.2.2⟩, if_neg fun h => inScope (of_decide_eq_true h.2),
          List.nil_append]
    · rw [if_neg fun h => reach h.2.1, if_neg fun h => reach h.1, List.nil_append]

/-- On a day of the range, the query sums exactly the samples in scope that close on it. -/
theorem groupSum_spreadOf (covers : range.Covers fromDay toDay) (hfrom : fromDay ≤ d)
    (hto : d ≤ toDay) :
    groupSum SpreadRow.day amount.ofSpread d (spreadOf tables userId meterId range) =
      groupSum UsageSampleRow.closingDay amount.ofSample d (tables.inScope userId meterId) := by
  simp only [spreadOf, covers.first, covers.last, boundsOf_eq, groupSum_flatMap, List.map_map,
    Function.comp_def, groupSum_spread, sum_map_ite, List.filter_filter]
  rw [groupSum, group]
  congr 2
  apply List.filter_congr
  intro s _
  simp only [hfrom, hto, and_true, Bool.and_eq_left_iff_imp, decide_eq_true_eq]
  rintro rfl
  exact inReach_of_touches covers s.touches_closingDay hfrom hto

/-- The days of the result are the days of the range that a sample in scope touches. -/
theorem mem_days_iff (covers : range.Covers fromDay toDay) :
    d ∈ distinctKeys SpreadRow.day (spreadOf tables userId meterId range) ↔
      (fromDay ≤ d ∧ d ≤ toDay) ∧ ∃ s ∈ tables.inScope userId meterId, s.Touches d := by
  simp only [mem_distinctKeys, spreadOf, covers.first, covers.last, boundsOf_eq, List.flatMap_map,
    List.mem_flatMap, List.mem_filter, decide_eq_true_eq, Bounds.spread, List.mem_map,
    mem_generateSeries, bounds_closingDay, UsageSampleRow.touches_iff]
  constructor
  · rintro ⟨_, ⟨s, ⟨member, -⟩, d, ⟨series, clip⟩, rfl⟩, rfl⟩
    exact ⟨clip, s, member, series⟩
  · rintro ⟨clip, s, member, series⟩
    exact ⟨_, ⟨s, ⟨member, inReach_of_touches covers (s.touches_iff.mpr series) clip.1 clip.2⟩,
      d, ⟨series, clip⟩, rfl⟩, rfl⟩

theorem mem_days_spreadOf (covers : range.Covers fromDay toDay)
    (member : d ∈ distinctKeys SpreadRow.day (spreadOf tables userId meterId range)) :
    fromDay ≤ d ∧ d ≤ toDay :=
  ((mem_days_iff covers).mp member).1

/-- A sample that closes in the range has its closing day among the days of the result. -/
theorem closingDay_mem_days (covers : range.Covers fromDay toDay) {s : UsageSampleRow}
    (member : s ∈ tables.inScope userId meterId) (hfrom : fromDay ≤ s.closingDay)
    (hto : s.closingDay ≤ toDay) :
    s.closingDay ∈ distinctKeys SpreadRow.day (spreadOf tables userId meterId range) :=
  (mem_days_iff covers).mpr ⟨⟨hfrom, hto⟩, s, member, s.touches_closingDay⟩

theorem countMeters_pos {s : UsageSampleRow} (member : s ∈ tables.inScope userId meterId) :
    countMeters tables userId meterId ≠ 0 := by
  obtain ⟨-, scope⟩ := List.mem_filter.mp member
  obtain ⟨⟨m, hm, same, owner⟩, filter⟩ := of_decide_eq_true scope
  refine List.length_pos_iff.mpr (List.ne_nil_of_mem (a := m) ?_) |>.ne'
  simp [hm, owner, same, filter]

/-! ## The response -/

/-- The shape of an answer: empty without meters in scope, else one point for each bucket. -/
theorem usage_ok {response : UsageAnalyticsDto}
    (accepted : usage tables userId query = .ok response) :
    ∃ range, resolveRange query = .ok range ∧
      (countMeters tables userId query.meterId = 0 ∧ response = emptyUsage query 0 ∨
        response.points = (fetchBuckets tables userId query range).map (fun row =>
            toPoint query row (countMeters tables userId query.meterId) range.days) ∧
          (∀ amount : Amount, amount.ofTotals response.total =
            round (response.points.map amount.ofPoint).sum) ∧
          response.observedDays =
            ((fetchBuckets tables userId query range).head?.map (·.observedDays)).getD 0) := by
  rcases hrange : resolveRange query with _ | range
  · simp [usage, hrange, bind, Except.bind] at accepted
  refine ⟨range, rfl, ?_⟩
  simp only [usage, hrange, bind, Except.bind, pure, Except.pure] at accepted
  split at accepted
  · next none =>
    cases accepted
    exact .inl ⟨none, rfl⟩
  · cases accepted
    refine .inr ⟨rfl, fun amount => ?_, rfl⟩
    cases amount <;> rfl

/-- An accepted range is answered, whatever the granularity. -/
theorem usage_of_range (tables : UsageTables) (userId : String)
    (accepted : resolveRange query = .ok range) :
    ∃ response, usage tables userId query = .ok response := by
  simp only [usage, accepted, bind, Except.bind, pure, Except.pure]
  split
  · exact ⟨_, rfl⟩
  · exact ⟨_, rfl⟩

theorem cents_sum {samples : List UsageSampleRow}
    (money : ∀ s ∈ samples, Cents s.consumedCost ∧ Cents s.rechargePaid) :
    Cents (samples.map amount.ofSample).sum := by
  apply Decimal.sum
  intro v hv
  obtain ⟨s, hs, rfl⟩ := List.mem_map.mp hv
  obtain ⟨consumed, recharged⟩ := money s hs
  cases amount
  · exact consumed
  · exact recharged

/-- The daily points of an accepted range: one for each observed day, with the sums of that day. -/
theorem daily_points (userId : String) (daily : query.granularity = .daily)
    (covers : range.Covers fromDay toDay)
    (money : ∀ s ∈ tables.meterUsageSample, Cents s.consumedCost ∧ Cents s.rechargePaid)
    (meterCount : ℕ) :
    ∃ point : ℤ → UsagePointDto,
      (fetchBuckets tables userId query range).map
          (fun row => toPoint query row meterCount range.days) =
        (distinctKeys SpreadRow.day (spreadOf tables userId query.meterId range)).map point ∧
      ∀ d, (point d).date = some d ∧ (fromDay ≤ d → d ≤ toDay → ∀ amount : Amount,
        amount.ofPoint (point d) = groupSum UsageSampleRow.closingDay amount.ofSample d
          (tables.inScope userId query.meterId)) := by
  simp only [fetchBuckets, daily, selectFor, List.map_map]
  refine ⟨_, rfl, fun d => ⟨by simp [toPoint, daily], fun hfrom hto amount => ?_⟩⟩
  have sum : groupSum SpreadRow.day amount.ofSpread d
        (spreadOf tables userId query.meterId range) =
      groupSum UsageSampleRow.closingDay amount.ofSample d
        (tables.inScope userId query.meterId) := groupSum_spreadOf covers hfrom hto
  have cents : Cents (groupSum UsageSampleRow.closingDay amount.ofSample d
      (tables.inScope userId query.meterId)) :=
    cents_sum fun s hs => money s (List.mem_of_mem_filter (List.mem_of_mem_filter hs))
  rw [← sum] at cents ⊢
  cases amount <;> exact cents.roundTo_eq

/-- The samples that close in a range of days. -/
def closingIn (fromDay toDay : ℤ) (samples : List UsageSampleRow) : List UsageSampleRow :=
  samples.filter fun s => fromDay ≤ s.closingDay ∧ s.closingDay ≤ toDay

/-- The days of a daily answer partition the samples in scope that close in the range. -/
theorem sum_days (covers : range.Covers fromDay toDay) :
    ((distinctKeys SpreadRow.day (spreadOf tables userId meterId range)).map fun d =>
        groupSum UsageSampleRow.closingDay amount.ofSample d
          (tables.inScope userId meterId)).sum =
      ((closingIn fromDay toDay (tables.inScope userId meterId)).map amount.ofSample).sum := by
  rw [sum_groupSum nodup_distinctKeys, closingIn]
  congr 2
  apply List.filter_congr
  intro s member
  rw [decide_eq_decide]
  constructor
  · intro day
    exact mem_days_spreadOf covers day
  · rintro ⟨hfrom, hto⟩
    exact closingDay_mem_days covers member hfrom hto

/-- An answer bills each of the samples that close in `[fromDay, toDay]` once, to its closing day,
and nothing else. -/
structure DailyConservation (samples : List UsageSampleRow) (fromDay toDay : ℤ)
    (response : UsageAnalyticsDto) : Prop where
  dates_nodup : (response.points.map (·.date)).Nodup
  point_eq : ∀ point ∈ response.points, ∃ d, point.date = some d ∧ fromDay ≤ d ∧ d ≤ toDay ∧
    point.consumedCost = ((samples.filter (·.closingDay = d)).map (·.consumedCost)).sum ∧
    point.rechargedAmount = ((samples.filter (·.closingDay = d)).map (·.rechargePaid)).sum
  covered : ∀ s ∈ closingIn fromDay toDay samples,
    ∃ point ∈ response.points, point.date = some s.closingDay
  total_consumed : response.total.consumedCost =
    ((closingIn fromDay toDay samples).map (·.consumedCost)).sum
  total_recharged : response.total.rechargedAmount =
    ((closingIn fromDay toDay samples).map (·.rechargePaid)).sum

theorem usage_daily_conserves {response : UsageAnalyticsDto}
    (accepted : usage tables userId query = .ok response) (daily : query.granularity = .daily)
    (money : ∀ s ∈ tables.meterUsageSample, Cents s.consumedCost ∧ Cents s.rechargePaid) :
    ∃ fromDay toDay, query.fromDay = some fromDay ∧ query.toDay = some toDay ∧
      DailyConservation (tables.inScope userId query.meterId) fromDay toDay response := by
  obtain ⟨range, hrange, shape⟩ := usage_ok accepted
  obtain ⟨fromDay, toDay, hfrom, hto, covers⟩ := resolveRange_covers hrange
  refine ⟨fromDay, toDay, hfrom, hto, ?_⟩
  rcases shape with ⟨none, rfl⟩ | ⟨hpoints, htotals, -⟩
  · have empty : tables.inScope userId query.meterId = [] :=
      List.eq_nil_iff_forall_not_mem.mpr fun s member => countMeters_pos member none
    rw [empty]
    exact ⟨.nil, nofun, nofun, rfl, rfl⟩
  obtain ⟨point, hpoint, spec⟩ := daily_points userId daily covers money
    (countMeters tables userId query.meterId)
  rw [hpoint] at hpoints
  have inRange : ∀ d ∈ distinctKeys SpreadRow.day (spreadOf tables userId query.meterId range),
      fromDay ≤ d ∧ d ≤ toDay := fun d member => mem_days_spreadOf covers member
  have total : ∀ amount : Amount, amount.ofTotals response.total =
      ((closingIn fromDay toDay (tables.inScope userId query.meterId)).map
        amount.ofSample).sum := by
    intro amount
    have sum : (response.points.map amount.ofPoint).sum =
        ((closingIn fromDay toDay (tables.inScope userId query.meterId)).map
          amount.ofSample).sum := by
      rw [hpoints, List.map_map, ← sum_days covers]
      congr 1
      apply List.map_congr_left
      intro d member
      exact (spec d).2 (inRange d member).1 (inRange d member).2 amount
    rw [htotals, sum]
    exact (cents_sum fun s hs =>
      money s (List.mem_of_mem_filter (List.mem_of_mem_filter hs))).roundTo_eq
  refine ⟨?_, ?_, ?_, total .consumed, total .recharged⟩
  · rw [hpoints, List.map_map]
    apply nodup_distinctKeys.map_on
    intro d _ d' _ same
    simpa [(spec d).1, (spec d').1] using same
  · rw [hpoints]
    intro p member
    obtain ⟨d, hd, rfl⟩ := List.mem_map.mp member
    obtain ⟨low, high⟩ := inRange d hd
    exact ⟨d, (spec d).1, low, high, (spec d).2 low high .consumed, (spec d).2 low high .recharged⟩
  · intro s member
    obtain ⟨scope, closes⟩ := List.mem_filter.mp member
    obtain ⟨low, high⟩ := of_decide_eq_true closes
    rw [hpoints]
    exact ⟨_, List.mem_map_of_mem (closingDay_mem_days covers scope low high), (spec _).1⟩

end

/-- Two users, a window that closes exactly at a midnight, and one that straddles three days. -/
def sampleTables : UsageTables where
  meter := [⟨"m1", "ayesha"⟩, ⟨"m2", "rahim"⟩]
  meterUsageSample := [
    ⟨"m1", 0, dhakaMidnight 1 * 1000, 64.26, 0, by decide⟩,
    ⟨"m1", dhakaMidnight 1 * 1000, dhakaMidnight 3 * 1000 + 1, 20.5, 500, by decide⟩,
    ⟨"m2", 0, dhakaMidnight 1 * 1000, 7, 0, by decide⟩]
  meter_pk := by decide

theorem usage_daily_conserves_sampleTables :
    ∃ fromDay toDay, some 0 = some fromDay ∧ some 3 = some toDay ∧
      DailyConservation (sampleTables.inScope "ayesha" none) fromDay toDay {
        granularity := .daily
        currency := "BDT"
        meterCount := 1
        observedDays := 4
        points := [⟨some 0, none, 64.26, 0, 0.75⟩, ⟨some 1, none, 0, 0, 1⟩,
          ⟨some 2, none, 0, 0, 1⟩, ⟨some 3, none, 20.5, 500, 0⟩]
        total := ⟨84.76, 500⟩ } :=
  @usage_daily_conserves sampleTables "ayesha" ⟨.daily, some 0, some 3, none⟩ _
    (by decide +kernel) rfl (by decide +kernel)

end ElectroSync
