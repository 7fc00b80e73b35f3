import ElectroSync.Alerts.AnomalyMarker
import ElectroSync.Analytics.Conservation

/-!
# The day of an anomaly

The anomaly check reads the daily series of one meter over the fifteen days up to yesterday, and
judges the last day of it. That series holds the days that a stored window touches, so its last day
is yesterday only when the readings have got that far.
-/

namespace ElectroSync
open Throwing Transition Rounding Grouping

namespace PollEvent

/-- The day the text of a notice names. -/
def yesterday (e : PollEvent) : ℤ := dhakaDayBefore (dhakaDay e.input.anomalyNow)

/-- The poll attempted a notice of the finding. -/
def Notifies (e : PollEvent) (finding : AnomalyFinding) : Prop :=
  ∃ push ∈ e.report.attempted, push.anomaly = some finding

end PollEvent

variable {row : MonitoredMeter} {store : MeterStore} {yesterday d : ℤ} {answer : UsageAnalyticsDto}

namespace UsageSample

/-- Some of the window lies in the day. -/
def Touches (s : UsageSample) (d : ℤ) : Prop :=
  s.windowStart < dhakaMidnight (d + 1) ∧ dhakaMidnight d < s.windowEnd

instance (s : UsageSample) (d : ℤ) : Decidable (s.Touches d) :=
  inferInstanceAs (Decidable (_ ∧ _))

/-- The Dhaka day of the last millisecond of the window. -/
def closingDay (s : UsageSample) : ℤ := dhakaDay (s.windowEnd - 1)

end UsageSample

/-- What the windows that close on a day bring to it. -/
def billed (samples : List UsageSample) (d : ℤ) : ℚ :=
  groupSum UsageSample.closingDay UsageSample.consumedCost d samples

/-! ## The series of the check -/

theorem closingDay_tables (windowEnd : ℤ) :
    truncDay (dhakaMicros (windowEnd * 1000 - 1)) = dhakaDay (windowEnd - 1) := by
  simp only [truncDay, dhakaMicros, dhakaDay, microsPerDay, msPerDay, secondsPerDay, dhakaOffsetMs]
  omega

theorem inScope_tables (store : MeterStore) (row : MonitoredMeter) :
    (store.tables row).inScope row.userId (some row.meterId) =
      (store.tables row).meterUsageSample := by
  apply List.filter_eq_self.mpr
  intro s mem
  obtain ⟨s, -, rfl⟩ := List.mem_map.mp mem
  exact decide_eq_true ⟨⟨_, List.mem_singleton_self _, rfl, rfl⟩, by simp [meterFilter]⟩

theorem groupSum_tables (store : MeterStore) (row : MonitoredMeter) (d : ℤ) :
    groupSum UsageSampleRow.closingDay UsageSampleRow.consumedCost d
      (store.tables row).meterUsageSample = billed store.samples d := by
  rw [MeterStore.tables, groupSum_map, billed]
  simp only [UsageSampleRow.closingDay, closingDay_tables]
  rfl

theorem countMeters_tables (store : MeterStore) (row : MonitoredMeter) :
    countMeters (store.tables row) row.userId (some row.meterId) = 1 := by
  simp [countMeters, MeterStore.tables, meterFilter]

theorem exists_touches_tables :
    (∃ s ∈ (store.tables row).meterUsageSample, s.Touches d) ↔
      ∃ s ∈ store.samples, s.Touches d := by
  simp only [MeterStore.tables, List.mem_map, exists_exists_and_eq_and, UsageSampleRow.Touches,
    UsageSample.Touches, mul_lt_mul_iff_of_pos_right (show (0 : ℤ) < 1000 by decide)]

/-- The days of the series: those of the range that a stored window touches. -/
structure SeriesDays (samples : List UsageSample) (yesterday : ℤ) (days : List ℤ) : Prop where
  ascending : days.Pairwise (· < ·)
  mem_iff : ∀ d, d ∈ days ↔
    (yesterday - anomalyBaselineDays ≤ d ∧ d ≤ yesterday) ∧ ∃ s ∈ samples, s.Touches d

def seriesOf (samples : List UsageSample) (days : List ℤ) : List DailyCost :=
  days.map fun d => ⟨d, round (billed samples d)⟩

/-- The series that the check judges. -/
theorem dailyCosts_eq (answered : usage (store.tables row) row.userId
      (anomalyQuery row yesterday) = .ok answer) :
    ∃ days, SeriesDays store.samples yesterday days ∧
      dailyCosts answer = seriesOf store.samples days := by
  obtain ⟨range, hrange, shape⟩ := usage_ok answered
  obtain ⟨fromDay, toDay, hfrom, hto, covers⟩ := resolveRange_covers hrange
  cases hfrom
  cases hto
  obtain ⟨none, -⟩ | ⟨points, -⟩ := shape
  · rw [anomalyQuery, countMeters_tables] at none
    cases none
  refine ⟨distinctKeys SpreadRow.day
    (spreadOf (store.tables row) row.userId (some row.meterId) range), ⟨pairwise_distinctKeys, ?_⟩,
    ?_⟩
  · intro d
    rw [mem_days_iff covers, inScope_tables, exists_touches_tables]
    rfl
  · rw [dailyCosts, points, fetchBuckets, anomalyQuery, selectFor, List.map_map,
      List.filterMap_map, seriesOf, ← List.filterMap_eq_map]
    apply List.filterMap_congr
    intro d mem
    obtain ⟨hfrom, hto⟩ := mem_days_spreadOf covers mem
    have sum : groupSum SpreadRow.day (Amount.ofSpread .consumed) d
        (spreadOf (store.tables row) row.userId (some row.meterId) range) = _ :=
      groupSum_spreadOf covers hfrom hto
    rw [inScope_tables] at sum
    have cost := sum.trans (groupSum_tables store row d)
    exact congrArg (fun c => some (DailyCost.mk d (round c))) cost

/-! ## The day that is reported -/

theorem getLast?_seriesOf {days : List ℤ} {subject : DailyCost} (samples : List UsageSample) :
    (seriesOf samples days).getLast? = some subject ↔
      ∃ d, days.getLast? = some d ∧ subject = ⟨d, round (billed samples d)⟩ := by
  rw [seriesOf, List.getLast?_map, Option.map_eq_some_iff]
  simp only [eq_comm]

theorem SeriesDays.sorted {samples : List UsageSample} {days : List ℤ}
    (series : SeriesDays samples yesterday days) :
    (seriesOf samples days).insertionSort (fun a b => a.day ≤ b.day) = seriesOf samples days := by
  apply List.Pairwise.insertionSort_eq
  apply List.pairwise_map.mpr
  exact series.ascending.imp le_of_lt

/-- The last day of the series is yesterday when a window touches yesterday. -/
theorem SeriesDays.getLast?_eq_yesterday {samples : List UsageSample} {days : List ℤ}
    (series : SeriesDays samples yesterday days) (last : days.getLast? = some d) :
    d = yesterday ↔ ∃ s ∈ samples, s.Touches yesterday := by
  obtain ⟨front, rfl⟩ := List.getLast?_eq_some_iff.mp last
  constructor
  · rintro rfl
    exact ((series.mem_iff d).mp (by simp)).2
  · intro touched
    have mem := (series.mem_iff yesterday).mpr ⟨⟨by simp, le_rfl⟩, touched⟩
    have bound := ((series.mem_iff d).mp (by simp)).1.2
    rcases List.mem_append.mp mem with earlier | same
    · have later := (List.pairwise_append.mp series.ascending).2.2 _ earlier d (by simp)
      omega
    · exact (List.mem_singleton.mp same).symm

/-- A finding is about yesterday when some stored window touches yesterday. -/
theorem found_yesterday_iff (answered : usage (store.tables row) row.userId
      (anomalyQuery row yesterday) = .ok answer)
    (found : evaluateUsageAnomaly (dailyCosts answer) settings lastReportedDay =
      .anomaly finding) :
    finding.day = yesterday ↔ ∃ sample ∈ store.samples, sample.Touches yesterday := by
  obtain ⟨days, series, costs⟩ := dailyCosts_eq answered
  rw [costs] at found
  obtain ⟨subject, last, -, rfl⟩ := (evaluateUsageAnomaly_eq_anomaly_iff series.sorted).mp found
  obtain ⟨d, lastDay, rfl⟩ := (getLast?_seriesOf store.samples).mp last
  exact series.getLast?_eq_yesterday lastDay

/-! ## The notices of a run -/

/-- A notice comes from the series of the samples that the poll left. -/
theorem PollStep.finding {finding : AnomalyFinding}
    (step : PollStep limits meter store e store') (notifies : e.Notifies finding) :
    ∃ answer, usage (store'.tables (store.monitored meter e.input.settings)) meter.userId
        (anomalyQuery (store.monitored meter e.input.settings) e.yesterday) = .ok answer ∧
      evaluateUsageAnomaly (dailyCosts answer) e.input.settings store.lastAnomalyOn =
        .anomaly finding := by
  obtain ⟨push, attempted, about⟩ := notifies
  have alerts (snapshot : NescoSnapshot) :
      push ∉ pushesOf (store.monitored meter e.input.settings) snapshot := by
    intro alert
    obtain ⟨kind, -, rfl⟩ := List.mem_map.mp alert
    cases about
  simp only [PollStep, poll, Prod.mk.injEq] at step
  obtain ⟨report, rfl⟩ := step
  rw [← report] at attempted
  simp only [eval_pollMeter] at attempted ⊢
  rcases pollMeterTry_cases limits (store.monitored meter e.input.settings) e.input store with
    ⟨_, run, -⟩ | ⟨snapshot, -, -, ⟨_, n, run, -⟩ | ⟨sent, s', run, -, anomaly⟩⟩
  · rw [run] at attempted
    rcases write : e.input.failureWrite with _ | _ <;>
      simp only [write, List.not_mem_nil] at attempted
  · rw [run] at attempted
    rcases write : e.input.failureWrite with _ | _ <;> simp only [write] at attempted <;>
      exact absurd (List.mem_of_mem_take attempted) (alerts snapshot)
  · rw [run] at attempted ⊢
    rcases anomaly with rfl | ⟨answer, finding', answered, found, rfl⟩
    · exact absurd attempted (alerts snapshot)
    · rcases List.mem_append.mp attempted with alert | notice
      · exact absurd alert (alerts snapshot)
      · cases List.mem_singleton.mp notice
        cases about
        exact ⟨answer, answered, found⟩

/-- The notices of a run are about yesterday exactly when each is sent over samples of which one
touches the day before. -/
theorem notices_about_yesterday_iff (run : Run (PollStep limits meter) start trace store) :
    (∀ e ∈ trace, ∀ finding, e.Notifies finding → finding.day = e.yesterday) ↔
      ∀ pre e post store finding, trace = pre ++ e :: post →
        Run (PollStep limits meter) start (pre ++ [e]) store → e.Notifies finding →
        ∃ sample ∈ store.samples, sample.Touches e.yesterday := by
  constructor
  · rintro about pre e post after finding rfl upTo notifies
    obtain ⟨before, -, step⟩ := Run.snoc_iff.mp upTo
    obtain ⟨answer, answered, found⟩ := step.finding notifies
    exact (found_yesterday_iff answered found).mp (about e (by simp) finding notifies)
  · intro touched e member finding notifies
    obtain ⟨pre, post, rfl⟩ := List.append_of_mem member
    obtain ⟨before, after, runBefore, step, -⟩ := run.split_at
    obtain ⟨answer, answered, found⟩ := step.finding notifies
    exact (found_yesterday_iff answered found).mpr
      (touched pre e post after finding rfl (runBefore.snoc step) notifies)

/-- Polls an hour into a day, each with the day whose midnight the portal stamped and the balance
it printed. -/
def stampedPolls (readings : List (ℤ × ℤ × ℚ)) : List PollInput :=
  readings.map fun (day, stampedDay, balance) =>
    .untroubled ⟨balance, some (dhakaMidnight stampedDay / 1000), []⟩
      (dhakaMidnight day + msPerHour)

/-- A week of even days, read every midnight, and the midnight after a dear one, read on the given
day. -/
def runDearDay (lastPoll : ℤ) : List PollEvent × MeterStore :=
  runPolls ⟨500, 48⟩ ⟨"m1", "ayesha", "77", none⟩
    (stampedPolls [(20000, 20000, 500), (20001, 20001, 480), (20002, 20002, 460),
      (20003, 20003, 440), (20004, 20004, 420), (20005, 20005, 400), (20006, 20006, 380),
      (20007, 20007, 360), (lastPoll, 20008, 270)]) {}

theorem notices_about_yesterday_iff_dearDay :
    (∀ e ∈ (runDearDay 20008).1, ∀ finding, e.Notifies finding → finding.day = e.yesterday) ↔
      ∀ pre e post store finding, (runDearDay 20008).1 = pre ++ e :: post →
        Run (PollStep ⟨500, 48⟩ ⟨"m1", "ayesha", "77", none⟩) {} (pre ++ [e]) store →
        e.Notifies finding → ∃ sample ∈ store.samples, sample.Touches e.yesterday :=
  notices_about_yesterday_iff (runPolls_run ..)

/-- The portal's last settlement may be of the midnight before: then the text names the wrong
day. -/
theorem notices_about_yesterday_fails :
    ¬ ∀ limits meter trace store, Run (PollStep limits meter) {} trace store →
      ∀ e ∈ trace, ∀ finding, e.Notifies finding → finding.day = e.yesterday := by
  intro about
  have days : ∀ e ∈ (runDearDay 20009).1, ∀ push ∈ e.report.attempted,
      ∀ finding ∈ push.anomaly, finding.day = e.yesterday := by
    intro e member push attempted finding subject
    exact about _ _ _ _ (runPolls_run ..) e member finding ⟨push, attempted, subject⟩
  exact absurd days (by decide +kernel)

end ElectroSync
