import ElectroSync.Alerts.AnomalyDay
import ElectroSync.Alerts.SampleRuns

/-!
# Steady consumption

A meter that consumes at a constant rate is billed in proportion to its windows, but a window is
billed whole to the day it closes on. What the anomaly check makes of such a meter therefore depends
on how its windows fall across the Dhaka midnights.
-/

namespace ElectroSync
open Throwing Transition Rounding Grouping Windows

/-! ## What settles on the days -/

/-- The bill of a window at a constant rate per hour. -/
def steadyCost (rate : ℚ) (w : ℤ × ℤ) : ℚ := round (rate * ((w.2 - w.1 : ℤ) / msPerHour))

/-- Every sample is billed at the rate. -/
def Steady (rate : ℚ) (samples : List UsageSample) : Prop :=
  ∀ s ∈ samples, s.consumedCost = steadyCost rate s.window

/-- What the windows that close on the days of `[fromDay, toDay)` are billed at the rate. -/
def settled (rate : ℚ) (ws : List (ℤ × ℤ)) (fromDay toDay : ℤ) : ℚ :=
  ((ws.filter fun w => fromDay ≤ dhakaDay (w.2 - 1) ∧ dhakaDay (w.2 - 1) < toDay).map
    (steadyCost rate)).sum

variable {row : MonitoredMeter} {input : PollInput} {s : Polling} {samples : List UsageSample}
  {rate : ℚ} {a b yesterday d : ℤ}

theorem cents_billed (steady : Steady rate samples) (d : ℤ) : Cents (billed samples d) := by
  apply Decimal.sum
  intro v hv
  obtain ⟨sample, member, rfl⟩ := List.mem_map.mp hv
  rw [steady sample (List.mem_of_mem_filter member)]
  exact decimal_roundTo ..

theorem round_billed (steady : Steady rate samples) (d : ℤ) :
    round (billed samples d) = billed samples d :=
  (cents_billed steady d).roundTo_eq

theorem sum_billed (steady : Steady rate samples) (fromDay toDay : ℤ) :
    ((generateSeries fromDay (toDay - 1)).map (billed samples)).sum =
      settled rate (windows samples) fromDay toDay := by
  have sum : ((generateSeries fromDay (toDay - 1)).map (billed samples)).sum =
      ((samples.filter fun sample => sample.closingDay ∈ generateSeries fromDay (toDay - 1)).map
        UsageSample.consumedCost).sum :=
    sum_groupSum (generateSeries_nodup fromDay (toDay - 1)) samples
  rw [settled, windows, List.filter_map, List.map_map]
  refine sum.trans (congrArg List.sum ?_)
  have same : (samples.filter fun sample =>
      sample.closingDay ∈ generateSeries fromDay (toDay - 1)) =
      samples.filter ((fun w => decide (fromDay ≤ dhakaDay (w.2 - 1) ∧
        dhakaDay (w.2 - 1) < toDay)) ∘ UsageSample.window) := by
    apply List.filter_congr
    intro sample _
    rw [Function.comp_apply, decide_eq_decide, mem_generateSeries, Int.le_sub_one_iff]
    rfl
  rw [same]
  apply List.map_congr_left
  intro sample member
  exact steady sample (List.mem_of_mem_filter member)

theorem billed_eq (steady : Steady rate samples) (d : ℤ) :
    billed samples d = settled rate (windows samples) d (d + 1) := by
  rw [← sum_billed steady, add_sub_cancel_right, generateSeries]
  simp [List.range_succ]

/-! ## The days of a tiling -/

def firstDay (yesterday a : ℤ) : ℤ := max (yesterday - anomalyBaselineDays) (dhakaDay a)

def lastDay (yesterday b : ℤ) : ℤ := min yesterday (dhakaDay (b - 1))

theorem lt_dhakaMidnight_iff {t : ℤ} : t < dhakaMidnight (d + 1) ↔ dhakaDay t ≤ d := by
  simp only [dhakaMidnight, dhakaDay, msPerDay, secondsPerDay, dhakaOffsetMs]
  omega

theorem dhakaMidnight_lt_iff {t : ℤ} : dhakaMidnight d < t ↔ d ≤ dhakaDay (t - 1) := by
  simp only [dhakaMidnight, dhakaDay, msPerDay, secondsPerDay, dhakaOffsetMs]
  omega

theorem generateSeries_ascending (start stop : ℤ) :
    (generateSeries start stop).Pairwise (· < ·) := by
  apply List.pairwise_map.mpr
  apply List.pairwise_lt_range.imp
  intro i j lt
  omega

theorem generateSeries_snoc {start stop : ℤ} (h : start ≤ stop) :
    generateSeries start stop = generateSeries start (stop - 1) ++ [stop] := by
  have succ : (stop + 1 - start).toNat = (stop - 1 + 1 - start).toNat + 1 := by omega
  have last : start + ((stop - 1 + 1 - start).toNat : ℤ) = stop := by omega
  rw [generateSeries, succ, List.range_succ, List.map_append, List.map_singleton, last]
  rfl

@[simp] theorem length_generateSeries (start stop : ℤ) :
    (generateSeries start stop).length = (stop + 1 - start).toNat := by
  simp [generateSeries]

/-- The windows of a tiling touch consecutive days. -/
theorem SeriesDays.eq_of_tiles {days : List ℤ} (series : SeriesDays samples yesterday days)
    (tiles : Tiles a (windows samples) b) (nonempty : a < b) :
    days = generateSeries (firstDay yesterday a) (lastDay yesterday b) := by
  have touched (d : ℤ) : (∃ sample ∈ samples, sample.Touches d) ↔
      dhakaDay a ≤ d ∧ d ≤ dhakaDay (b - 1) := by
    have later : dhakaMidnight d < dhakaMidnight (d + 1) := by
      simp only [dhakaMidnight, msPerDay, secondsPerDay]
      omega
    rw [← lt_dhakaMidnight_iff, ← dhakaMidnight_lt_iff, ← tiles.exists_meets_iff nonempty later]
    simp only [windows, List.mem_map, exists_exists_and_eq_and]
    rfl
  apply List.Perm.eq_of_pairwise' series.ascending (generateSeries_ascending _ _)
  rw [List.perm_ext_iff_of_nodup series.ascending.nodup (generateSeries_nodup _ _)]
  intro d
  rw [series.mem_iff, touched, mem_generateSeries, firstDay, lastDay]
  omega

/-! ## The check of a steady meter -/

/-- The check reports a meter of constant rate: it is due, and what settles on the last day stands
out against the daily mean of what settles on the days before. -/
structure SettlementSpike (row : MonitoredMeter) (input : PollInput) (rate : ℚ)
    (ws : List (ℤ × ℤ)) (first last : ℤ) : Prop where
  enabled : truthy (overDefaults row.settings).pushEnabled = true ∧
    truthy (overDefaults row.settings).usageAnomalyAlerts = true
  answered : input.usageRead = .ok () ∧ input.anomalyWrite = .ok ()
  unreported : ∀ marker, row.lastAnomalyOn = some marker → marker < last
  history : anomalyMinBaselineDays ≤ last - first
  floor : anomalyMinBaselineCost ≤ settled rate ws first last / (last - first)
  above : toNumber (overDefaults row.settings).usageAnomalyThreshold ≤ roundHalfUp
    ((settled rate ws last (last + 1) / (settled rate ws first last / (last - first)) - 1) * 100)

/-- The check is silent unless it is due and the evaluator finds something. -/
theorem checkUsageAnomaly_silent_iff (row : MonitoredMeter) (input : PollInput) (s : Polling) :
    ((checkUsageAnomaly row input).eval s).2.attempted = s.attempted ↔
      ¬ ((truthy (overDefaults row.settings).pushEnabled = true ∧
            truthy (overDefaults row.settings).usageAnomalyAlerts = true) ∧
          (∀ marker, row.lastAnomalyOn = some marker →
            marker < dhakaDayBefore (dhakaDay input.anomalyNow)) ∧
          (input.usageRead = .ok () ∧ input.anomalyWrite = .ok ()) ∧
          ∃ answer finding, usage (s.store.tables row) row.userId
              (anomalyQuery row (dhakaDayBefore (dhakaDay input.anomalyNow))) = .ok answer ∧
            evaluateUsageAnomaly (dailyCosts answer) row.settings row.lastAnomalyOn =
              .anomaly finding) := by
  simp only [checkUsageAnomaly]
  split
  · next muted =>
    have muted : ¬ (truthy (overDefaults row.settings).pushEnabled = true ∧
        truthy (overDefaults row.settings).usageAnomalyAlerts = true) := by
      rintro ⟨push, alerts⟩
      rw [push, alerts] at muted
      cases muted
    exact iff_of_true rfl fun due => muted due.1
  next enabled =>
  split
  · next old =>
    refine iff_of_true rfl fun due => ?_
    obtain ⟨marker, here, le⟩ := (Option.any_eq_true ..).mp old
    exact absurd (due.2.1 marker here) (not_lt.mpr (of_decide_eq_true le))
  next fresh =>
  have fresh : ∀ marker, row.lastAnomalyOn = some marker →
      marker < dhakaDayBefore (dhakaDay input.anomalyNow) := by
    intro marker here
    rw [here] at fresh
    simpa using fresh
  rcases read : input.usageRead with e | _
  · refine iff_of_true ?_ ?_
    · simp only [eval_bind, eval_ofExcept]
    · rintro ⟨-, -, ⟨reads, -⟩, -⟩
      cases reads
  rcases answered : usage (s.store.tables row) row.userId
    (anomalyQuery row (dhakaDayBefore (dhakaDay input.anomalyNow))) with _ | answer
  · refine iff_of_true ?_ fun due => ?_
    · simp only [eval_bind, eval_ofExcept, eval_read, answered, Except.mapError]
    · obtain ⟨answer, -, none, -⟩ := due.2.2.2
      cases none
  simp only [eval_bind, eval_ofExcept, eval_read, answered, Except.mapError]
  rcases found : evaluateUsageAnomaly (dailyCosts answer) row.settings row.lastAnomalyOn with
    finding | reason
  · rcases written : input.anomalyWrite with e | _
    · refine iff_of_true rfl ?_
      rintro ⟨-, -, ⟨-, writes⟩, -⟩
      cases writes
    · refine iff_of_false ?_ ?_
      · simp only [eval_bind, eval_ofExcept, eval_update, eval_push]
        rcases pushOutcome row input.sendToUser _ with _ | _ <;> simp
      · rw [not_not]
        exact ⟨by simpa using enabled, fresh, ⟨trivial, rfl⟩, answer, finding, rfl, found⟩
  · refine iff_of_true rfl fun due => ?_
    obtain ⟨_, finding, same, anomaly⟩ := due.2.2.2
    cases same
    rw [found] at anomaly
    cases anomaly

/-- The query of the check is always answered. -/
theorem anomalyQuery_answered (store : MeterStore) (row : MonitoredMeter) (yesterday : ℤ) :
    ∃ answer, usage (store.tables row) row.userId (anomalyQuery row yesterday) = .ok answer := by
  have span : roundHalfUp ((dhakaMidnight yesterday -
      dhakaMidnight (dhakaDaysBefore yesterday anomalyBaselineDays) : ℤ) / msPerDay) =
      anomalyBaselineDays := by
    rw [dayCount_eq, dhakaDaysBefore, sub_sub_cancel]
  have forward : ¬ dhakaMidnight yesterday <
      dhakaMidnight (dhakaDaysBefore yesterday anomalyBaselineDays) := by
    simp only [dhakaMidnight, dhakaDaysBefore, anomalyBaselineDays, msPerDay, secondsPerDay]
    omega
  have accepted : ∃ range, resolveRange (anomalyQuery row yesterday) = .ok range := by
    simp only [resolveRange, anomalyQuery, span, if_neg forward]
    exact ⟨_, if_neg (by decide)⟩
  obtain ⟨range, accepted⟩ := accepted
  exact usage_of_range _ row.userId accepted

theorem baselineOf_snoc {front : List DailyCost} (last : DailyCost)
    (short : front.length ≤ anomalyBaselineDays) : baselineOf (front ++ [last]) = front := by
  have start : (front ++ [last]).length - (1 + anomalyBaselineDays) = 0 := by
    rw [List.length_append, List.length_singleton]
    omega
  rw [baselineOf, start, List.drop_zero, List.length_append, List.length_singleton,
    Nat.add_sub_cancel, List.take_left' rfl]

theorem meanCost_seriesOf (steady : Steady rate samples) {first last : ℤ} (h : first ≤ last) :
    meanCost (seriesOf samples (generateSeries first (last - 1))) =
      settled rate (windows samples) first last / (last - first) := by
  have amounts : (seriesOf samples (generateSeries first (last - 1))).map (·.consumedCost) =
      (generateSeries first (last - 1)).map (billed samples) := by
    rw [seriesOf, List.map_map]
    apply List.map_congr_left
    intro d _
    exact round_billed steady d
  have count : ((last - 1 + 1 - first).toNat : ℤ) = last - first := by omega
  rw [meanCost, amounts, sum_billed steady, seriesOf, List.length_map, length_generateSeries,
    ← Int.cast_natCast, count, Int.cast_sub]

theorem seriesOf_snoc (samples : List UsageSample) {first last : ℤ} (h : first ≤ last) :
    seriesOf samples (generateSeries first last) =
      seriesOf samples (generateSeries first (last - 1)) ++
        [⟨last, round (billed samples last)⟩] := by
  rw [generateSeries_snoc h, seriesOf, List.map_append]
  rfl

/-- A meter without samples is not reported. -/
theorem not_settlementSpike_nil {first last : ℤ} :
    ¬ SettlementSpike row input rate [] first last := by
  intro spike
  have floor := spike.floor
  simp only [settled, List.filter_nil, List.map_nil, List.sum_nil, zero_div] at floor
  exact absurd floor (by decide)

theorem not_found_nil (samples : List UsageSample) :
    ¬ ∃ finding, evaluateUsageAnomaly (seriesOf samples []) row.settings row.lastAnomalyOn =
      .anomaly finding := by
  rintro ⟨finding, found⟩
  obtain ⟨subject, last, -⟩ := (evaluateUsageAnomaly_eq_anomaly_iff rfl).mp found
  cases last

/-- No history is long enough on no days. -/
theorem not_settlementSpike_of_lt {billings : List (ℤ × ℤ)} {first last : ℤ} (lt : last < first) :
    ¬ SettlementSpike row input rate billings first last := by
  intro spike
  have history := spike.history
  simp only [anomalyMinBaselineDays] at history
  omega

/-- The evaluator reports a steady meter over some days exactly when the settlement of the last one
stands out. -/
theorem found_iff_of_le (steady : Steady rate samples) {first last : ℤ} (le : first ≤ last)
    (recent : last - first ≤ anomalyBaselineDays)
    (sorted : (seriesOf samples (generateSeries first last)).insertionSort
      (fun a b => a.day ≤ b.day) = seriesOf samples (generateSeries first last)) :
    (∃ finding, evaluateUsageAnomaly (seriesOf samples (generateSeries first last)) row.settings
        row.lastAnomalyOn = .anomaly finding) ∧ input.usageRead = .ok () ∧
          input.anomalyWrite = .ok () ↔
      SettlementSpike row input rate (windows samples) first last := by
  have short : (seriesOf samples (generateSeries first (last - 1))).length ≤
      anomalyBaselineDays := by
    rw [seriesOf, List.length_map, length_generateSeries]
    omega
  have length : anomalyMinBaselineDays ≤
      (seriesOf samples (generateSeries first (last - 1))).length ↔
      anomalyMinBaselineDays ≤ last - first := by
    rw [seriesOf, List.length_map, length_generateSeries]
    omega
  simp only [evaluateUsageAnomaly_eq_anomaly_iff sorted]
  rw [seriesOf_snoc samples le, baselineOf_snoc _ short, List.getLast?_concat,
    round_billed steady]
  constructor
  · rintro ⟨⟨finding, subject, ⟨⟩, anomalous, -⟩, answered⟩
    have floor := anomalous.floor
    have above := anomalous.above
    rw [meanCost_seriesOf steady le] at floor above
    rw [billed_eq steady] at above
    exact ⟨anomalous.enabled, answered, anomalous.unreported, length.mp anomalous.history, floor,
      above⟩
  · intro spike
    refine ⟨⟨_, _, rfl, ⟨spike.enabled, spike.unreported, length.mpr spike.history, ?_, ?_⟩, rfl⟩,
      spike.answered⟩
    · rw [meanCost_seriesOf steady le]
      exact spike.floor
    · rw [meanCost_seriesOf steady le, billed_eq steady]
      exact spike.above

/-- The evaluator reports a steady meter exactly when a settlement stands out. -/
theorem found_iff_of_steady (tiles : Tiles a (windows samples) b) (steady : Steady rate samples)
    {days : List ℤ} (series : SeriesDays samples yesterday days) :
    (∃ finding, evaluateUsageAnomaly (seriesOf samples days) row.settings row.lastAnomalyOn =
        .anomaly finding) ∧ input.usageRead = .ok () ∧ input.anomalyWrite = .ok () ↔
      SettlementSpike row input rate (windows samples) (firstDay yesterday a)
        (lastDay yesterday b) := by
  rcases tiles.le.eq_or_lt with rfl | nonempty
  · have none : samples = [] := List.map_eq_nil_iff.mp tiles.eq_nil
    subst none
    have empty : days = [] := by
      apply List.eq_nil_iff_forall_not_mem.mpr
      intro d member
      obtain ⟨-, sample, member, -⟩ := (series.mem_iff d).mp member
      cases member
    subst empty
    exact iff_of_false (fun found => not_found_nil [] found.1) not_settlementSpike_nil
  obtain rfl := series.eq_of_tiles tiles nonempty
  rcases lt_or_ge (lastDay yesterday b) (firstDay yesterday a) with lt | le
  · have empty : generateSeries (firstDay yesterday a) (lastDay yesterday b) = [] := by
      rw [generateSeries, Int.toNat_of_nonpos (by omega), List.range_zero, List.map_nil]
    rw [empty]
    exact iff_of_false (fun found => not_found_nil samples found.1)
      (not_settlementSpike_of_lt lt)
  · refine found_iff_of_le steady le ?_ series.sorted
    simp only [firstDay, lastDay]
    omega

/-- The check is silent about a meter of constant rate, whatever its windows, exactly when no
settlement stands out. -/
theorem steady_silent_iff (row : MonitoredMeter) (input : PollInput)
    (tiles : Tiles a (windows s.store.samples) b) (steady : Steady rate s.store.samples) :
    ((checkUsageAnomaly row input).eval s).2.attempted = s.attempted ↔
      ¬ SettlementSpike row input rate (windows s.store.samples)
        (firstDay (dhakaDayBefore (dhakaDay input.anomalyNow)) a)
        (lastDay (dhakaDayBefore (dhakaDay input.anomalyNow)) b) := by
  obtain ⟨answer, answered⟩ := anomalyQuery_answered s.store row
    (dhakaDayBefore (dhakaDay input.anomalyNow))
  obtain ⟨days, series, costs⟩ := dailyCosts_eq answered
  rw [checkUsageAnomaly_silent_iff, not_iff_not, ← found_iff_of_steady tiles steady series, ← costs]
  constructor
  · rintro ⟨-, -, faultless, answer', finding, answered', found⟩
    cases answered.symm.trans answered'
    exact ⟨⟨finding, found⟩, faultless⟩
  · rintro ⟨⟨finding, found⟩, faultless⟩
    obtain ⟨subject, last, anomalous, -⟩ := (evaluateUsageAnomaly_eq_anomaly_iff rfl).mp found
    refine ⟨anomalous.enabled, ?_, faultless, answer, finding, answered, found⟩
    intro marker here
    apply (anomalous.unreported marker here).trans_le
    rw [costs, series.sorted] at last
    obtain ⟨d, lastDay, rfl⟩ := (getLast?_seriesOf s.store.samples).mp last
    exact ((series.mem_iff d).mp (List.mem_of_getLast? lastDay)).1.2

/-- A meter that draws one taka an hour and is read every midnight, but not for the last three
days. Only the kernel evaluates it. -/
@[irreducible] def runOutage : List PollEvent × MeterStore :=
  runPolls ⟨500, 48⟩ ⟨"m1", "ayesha", "77", none⟩
    (stampedPolls [(20000, 20000, 500), (20001, 20001, 476), (20002, 20002, 452),
      (20003, 20003, 428), (20004, 20004, 404), (20005, 20005, 380), (20006, 20006, 356),
      (20007, 20007, 332), (20008, 20008, 308), (20011, 20011, 236)]) {}

theorem runOutage_run : Run (PollStep ⟨500, 48⟩ ⟨"m1", "ayesha", "77", none⟩) {} runOutage.1
    runOutage.2 := by
  rw [runOutage]
  exact runPolls_run ..

theorem runOutage_windows : windows runOutage.2.samples =
    [20000, 20001, 20002, 20003, 20004, 20005, 20006, 20007].map (fun d =>
      (dhakaMidnight d, dhakaMidnight (d + 1))) ++
    [(dhakaMidnight 20008, dhakaMidnight 20011)] := by
  decide +kernel

theorem runOutage_tiles :
    Tiles (dhakaMidnight 20000) (windows runOutage.2.samples) (dhakaMidnight 20011) := by
  rw [runOutage_windows]
  simp only [List.map_cons, List.map_nil, List.cons_append, List.nil_append, Tiles]
  decide

theorem runOutage_steady : Steady 1 runOutage.2.samples := by
  unfold Steady
  decide +kernel

/-- The row of the meter on the first sweep after the outage, and the answers of that sweep. -/
def outageCheck : MonitoredMeter × PollInput :=
  (⟨"m1", "ayesha", "77", none, none, none, none, none, none, none⟩,
    .untroubled ⟨236, none, []⟩ (dhakaMidnight 20011))

theorem steady_silent_iff_outage :
    ((checkUsageAnomaly outageCheck.1 outageCheck.2).eval { store := runOutage.2 }).2.attempted =
        [] ↔
      ¬ SettlementSpike outageCheck.1 outageCheck.2 1 (windows runOutage.2.samples)
        (firstDay (dhakaDayBefore (dhakaDay outageCheck.2.anomalyNow)) (dhakaMidnight 20000))
        (lastDay (dhakaDayBefore (dhakaDay outageCheck.2.anomalyNow)) (dhakaMidnight 20011)) :=
  steady_silent_iff outageCheck.1 outageCheck.2 runOutage_tiles runOutage_steady

def AllowedThreshold (settings : Option UserSettings) : Prop :=
  ∃ n : ℤ, (overDefaults settings).usageAnomalyThreshold = some n ∧ 10 ≤ n ∧ n ≤ 500

/-- The window of an outage is billed to the day it closes on, and is reported as unusual. -/
theorem steady_silent_fails :
    ¬ ∀ limits meter trace store rate a b, Run (PollStep limits meter) {} trace store →
      Tiles a (windows store.samples) b → Steady rate store.samples →
      (∀ e ∈ trace, AllowedThreshold e.input.settings) →
      ∀ e ∈ trace, ∀ finding, ¬ e.Notifies finding := by
  intro silent
  have allowed : ∀ e ∈ runOutage.1, AllowedThreshold e.input.settings := by
    have unset : ∀ e ∈ runOutage.1, e.input.settings = none := by decide +kernel
    intro e member
    rw [unset e member]
    exact ⟨40, rfl, by decide⟩
  have notices : ∃ e ∈ runOutage.1, ∃ push ∈ e.report.attempted, push.anomaly.isSome := by
    decide +kernel
  obtain ⟨e, member, push, attempted, subject⟩ := notices
  obtain ⟨finding, subject⟩ := Option.isSome_iff_exists.mp subject
  exact silent _ _ _ _ _ _ _ runOutage_run runOutage_tiles runOutage_steady allowed e member
    finding ⟨push, attempted, subject⟩

end ElectroSync
