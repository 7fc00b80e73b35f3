import ElectroSync.Alerts.UsageAnomaly
import ElectroSync.Library.KeySort
import Mathlib.Algebra.Order.BigOperators.Group.List

/-!
# What the anomaly decision depends on

The evaluator sorts the days, so that their order does not matter, and looks at the newest fifteen
only. A dearer newest day is more of an anomaly, a dearer day before it makes the newest one less of
one. The percentage is rounded before it is compared with the setting, which moves the limit by half
a percent.
-/

namespace ElectroSync
open Rounding KeySort

/-- The days in the order in which the evaluator looks at them. -/
def byDay (days : List DailyCost) : List DailyCost := sortBy DailyCost.day days

/-- The percentage above the baseline from which a user wants to hear of a day. -/
def thresholdOf (settings : Option UserSettings) : ℚ :=
  toNumber (UsageAnomaly.resolve settings).usageAnomalyThreshold

/-- What a day costs that lies `percent` above the mean. -/
def costLimit (mean percent : ℚ) : ℚ := mean * (1 + percent / 100)

def percentAbove (cost mean : ℚ) : ℤ := roundHalfUp ((cost / mean - 1) * 100)

/-- The tests before the threshold. -/
structure Armed (settings : ResolvedSettings) (lastReportedDay : Option ℤ) (subject : DailyCost)
    (baselineDays : List DailyCost) : Prop where
  enabled : truthy settings.pushEnabled = true ∧ truthy settings.usageAnomalyAlerts = true
  unreported : ∀ last, lastReportedDay = some last → last < subject.day
  history : anomalyMinBaselineDays ≤ baselineDays.length
  floor : anomalyMinBaselineCost ≤ meanCost baselineDays

variable {days : List DailyCost} {settings : Option UserSettings} {lastReportedDay : Option ℤ}
  {subject : DailyCost} {finding : AnomalyFinding} {mean percent cost cost' : ℚ}

theorem anomalous_iff {settings : ResolvedSettings} {baselineDays : List DailyCost} :
    Anomalous settings lastReportedDay subject baselineDays ↔
      Armed settings lastReportedDay subject baselineDays ∧
        toNumber settings.usageAnomalyThreshold ≤
          percentAbove subject.consumedCost (meanCost baselineDays) :=
  ⟨fun h => ⟨⟨h.enabled, h.unreported, h.history, h.floor⟩, h.above⟩,
    fun ⟨h, above⟩ => ⟨h.enabled, h.unreported, h.history, h.floor, above⟩⟩

theorem mean_pos (floor : anomalyMinBaselineCost ≤ mean) : 0 < mean :=
  lt_of_lt_of_le (by norm_num [anomalyMinBaselineCost]) floor

/-! ## The threshold -/

theorem costLimit_le_iff (pos : 0 < mean) : costLimit mean percent ≤ cost ↔
    percent ≤ (cost / mean - 1) * 100 := by
  have ratio : costLimit mean percent ≤ cost ↔ 1 + percent / 100 ≤ cost / mean := by
    rw [costLimit, le_div_iff₀ pos, mul_comm]
  rw [ratio]
  constructor
  · intro h
    linarith
  · intro h
    linarith

/-- The rounded percentage reaches the threshold half a percent below the next whole one. -/
theorem le_percentAbove_iff (pos : 0 < mean) : percent ≤ percentAbove cost mean ↔
    costLimit mean (⌈percent⌉ - 1 / 2) ≤ cost := by
  rw [costLimit_le_iff pos, ← Int.ceil_le, percentAbove, le_roundHalfUp_iff, sub_le_iff_le_add]

/-- The newest day is an anomaly exactly when it costs its limit. -/
def ThresholdExact (days : List DailyCost) (settings : Option UserSettings)
    (lastReportedDay : Option ℤ) (subject : DailyCost) : Prop :=
  (∃ finding, evaluateUsageAnomaly days settings lastReportedDay = .anomaly finding) ↔
    costLimit (meanCost (baselineOf (byDay days))) (thresholdOf settings) ≤ subject.consumedCost

/-- The cost lies between the limit of the setting and the limit where the rounded percentage
reaches the setting. -/
def BetweenLimits (mean threshold cost : ℚ) : Prop :=
  min (costLimit mean (⌈threshold⌉ - 1 / 2)) (costLimit mean threshold) ≤ cost ∧
    cost < max (costLimit mean (⌈threshold⌉ - 1 / 2)) (costLimit mean threshold)

theorem evaluate_eq_anomaly_iff :
    evaluateUsageAnomaly days settings lastReportedDay = .anomaly finding ↔
      ∃ subject, (byDay days).getLast? = some subject ∧
        Anomalous (UsageAnomaly.resolve settings) lastReportedDay subject
          (baselineOf (byDay days)) ∧
        finding = findingOf subject (baselineOf (byDay days)) :=
  evaluateUsageAnomaly_eq_anomaly_iff rfl

theorem anomaly_iff (newest : (byDay days).getLast? = some subject)
    (armed : Armed (UsageAnomaly.resolve settings) lastReportedDay subject
      (baselineOf (byDay days))) :
    (∃ finding, evaluateUsageAnomaly days settings lastReportedDay = .anomaly finding) ↔
      thresholdOf settings ≤
        percentAbove subject.consumedCost (meanCost (baselineOf (byDay days))) := by
  simp only [evaluate_eq_anomaly_iff, newest, Option.some.injEq, exists_eq_left', anomalous_iff]
  constructor
  · rintro ⟨_, ⟨-, above⟩, -⟩
    exact above
  · intro above
    exact ⟨_, ⟨armed, above⟩, rfl⟩

/-- The threshold is exact for every cost that is not between the two limits. -/
theorem threshold_exact_iff (newest : (byDay days).getLast? = some subject)
    (armed : Armed (UsageAnomaly.resolve settings) lastReportedDay subject
      (baselineOf (byDay days))) :
    ThresholdExact days settings lastReportedDay subject ↔
      ¬ BetweenLimits (meanCost (baselineOf (byDay days))) (thresholdOf settings)
        subject.consumedCost := by
  rw [ThresholdExact, anomaly_iff newest armed, le_percentAbove_iff (mean_pos armed.floor),
    BetweenLimits, min_le_iff, lt_max_iff, ← not_le, ← not_le]
  tauto

/-- Days of the same cost, and one after them. -/
def flatDays (count : ℕ) (cost last : ℚ) : List DailyCost :=
  (List.range count).map (fun i : ℕ => ⟨i, cost⟩) ++ [⟨count, last⟩]

theorem threshold_exact_iff_flat :
    ThresholdExact (flatDays 14 100 140) none none ⟨14, 140⟩ := by
  refine (threshold_exact_iff (by decide +kernel)
    ⟨by decide, by simp, by decide +kernel, ?_⟩).mpr ?_
  · decide +kernel
  · unfold BetweenLimits
    decide +kernel

/-- A day at 39.5 percent above the baseline is reported at a setting of 40. -/
theorem threshold_exact_fails : ¬ ∀ days settings lastReportedDay subject,
    (∀ e ∈ days, 0 ≤ e.consumedCost) → 10 ≤ thresholdOf settings → thresholdOf settings ≤ 500 →
      (byDay days).getLast? = some subject →
      Armed (UsageAnomaly.resolve settings) lastReportedDay subject (baselineOf (byDay days)) →
      ThresholdExact days settings lastReportedDay subject := by
  intro exact_
  have reported := (exact_ (flatDays 14 100 139.5) none none ⟨14, 139.5⟩ (by decide +kernel)
    (by decide +kernel) (by decide +kernel) (by decide +kernel)
    ⟨by decide, by simp, by decide +kernel, by decide +kernel⟩).mp
    ⟨⟨14, 139.5, 100, 40⟩, by decide +kernel⟩
  revert reported
  decide +kernel

/-! ## The newest fifteen days -/

/-- How many days the evaluator looks at. -/
def observedDays : ℕ := 1 + anomalyBaselineDays

theorem evaluateUsageAnomaly_congr {days' : List DailyCost}
    (last : (byDay days').getLast? = (byDay days).getLast?)
    (baseline : baselineOf (byDay days') = baselineOf (byDay days)) :
    evaluateUsageAnomaly days' settings lastReportedDay =
      evaluateUsageAnomaly days settings lastReportedDay := by
  simp only [byDay, sortBy] at last baseline
  simp only [evaluateUsageAnomaly, last, baseline]

/-- The baseline days are the top but its last. -/
theorem baselineOf_byDay (days : List DailyCost) :
    baselineOf (byDay days) = (top DailyCost.day observedDays days).dropLast := by
  rw [baselineOf, byDay, top, List.dropLast_drop_eq_drop_dropLast, List.dropLast_eq_take,
    length_sortBy]
  rfl

theorem evaluate_of_perm {days' : List DailyCost} (perm : days.Perm days')
    (distinct : (days.map (·.day)).Nodup) :
    evaluateUsageAnomaly days' settings lastReportedDay =
      evaluateUsageAnomaly days settings lastReportedDay := by
  have same : byDay days = byDay days' := sortBy_eq_of_perm perm distinct
  exact evaluateUsageAnomaly_congr (by rw [same]) (by rw [same])

/-- Days older than the newest fifteen do not count. -/
theorem evaluate_of_older {older : List DailyCost}
    (below : ∀ o ∈ older, observedDays ≤ (days.filter (o.day < ·.day)).length) :
    evaluateUsageAnomaly (older ++ days) settings lastReportedDay =
      evaluateUsageAnomaly days settings lastReportedDay := by
  have same := top_append older below
  apply evaluateUsageAnomaly_congr
  · rw [byDay, byDay, ← getLast?_top (show 0 < observedDays by decide), same,
      getLast?_top (by decide)]
  · rw [baselineOf_byDay, baselineOf_byDay, same]

/-! ## Dearer days -/

/-- The entry with another cost, when it is the one of the day. -/
def DailyCost.withCost (day : ℤ) (cost : ℚ) (e : DailyCost) : DailyCost :=
  if e.day = day then ⟨e.day, cost⟩ else e

@[simp] theorem withCost_day (day : ℤ) (cost : ℚ) (e : DailyCost) :
    (e.withCost day cost).day = e.day := by
  unfold DailyCost.withCost
  split <;> rfl

theorem withCost_of_ne {day : ℤ} {e : DailyCost} (ne : e.day ≠ day) : e.withCost day cost = e :=
  if_neg ne

theorem withCost_self (e : DailyCost) : e.withCost e.day cost = ⟨e.day, cost⟩ := if_pos rfl

theorem byDay_withCost (day : ℤ) (cost : ℚ) (days : List DailyCost) :
    byDay (days.map (·.withCost day cost)) = (byDay days).map (·.withCost day cost) :=
  sortBy_map (withCost_day day cost) days

theorem baselineOf_map (f : DailyCost → DailyCost) (ordered : List DailyCost) :
    baselineOf (ordered.map f) = (baselineOf ordered).map f := by
  simp only [baselineOf, List.length_map, List.map_drop, List.map_take]

/-- The newest day is not one of its baseline days. -/
theorem day_ne_of_mem_baselineOf (distinct : (days.map (·.day)).Nodup)
    (newest : (byDay days).getLast? = some subject) (mem : e ∈ baselineOf (byDay days)) :
    e.day ≠ subject.day := by
  have keys : ((byDay days).map (·.day)).Nodup :=
    (((perm_sortBy DailyCost.day days).map (·.day)).nodup_iff).mpr distinct
  obtain ⟨init, split⟩ := List.getLast?_eq_some_iff.mp newest
  rw [split, List.map_append, List.nodup_append] at keys
  have before : e ∈ init := by
    rw [split, baselineOf, List.length_append, List.length_singleton, Nat.add_sub_cancel,
      List.take_left' rfl] at mem
    exact List.mem_of_mem_drop mem
  exact keys.2.2 _ (List.mem_map_of_mem before) _ (by simp)

theorem meanCost_le {baselineDays : List DailyCost} {f : DailyCost → DailyCost}
    (raised : ∀ e ∈ baselineDays, e.consumedCost ≤ (f e).consumedCost) :
    meanCost baselineDays ≤ meanCost (baselineDays.map f) := by
  rw [meanCost, meanCost, List.length_map, List.map_map]
  apply div_le_div_of_nonneg_right _ (by positivity)
  exact List.sum_le_sum raised

theorem percentAbove_mono (pos : 0 < mean) (raised : cost ≤ cost') :
    percentAbove cost mean ≤ percentAbove cost' mean := by
  apply roundHalfUp_mono
  have : cost / mean ≤ cost' / mean := div_le_div_of_nonneg_right raised pos.le
  linarith

theorem percentAbove_anti {mean' : ℚ} (pos : 0 < mean) (nonneg : 0 ≤ cost)
    (raised : mean ≤ mean') : percentAbove cost mean' ≤ percentAbove cost mean := by
  apply roundHalfUp_mono
  have : cost / mean' ≤ cost / mean := div_le_div_of_nonneg_left nonneg pos raised
  linarith

/-- What a day within the threshold passed, and what it did not. -/
theorem below_of_within
    (within : evaluateUsageAnomaly days settings lastReportedDay = .none .withinThreshold) :
    ∃ subject, (byDay days).getLast? = some subject ∧
      anomalyMinBaselineCost ≤ meanCost (baselineOf (byDay days)) ∧
      percentAbove subject.consumedCost (meanCost (baselineOf (byDay days))) <
        thresholdOf settings := by
  simp only [evaluateUsageAnomaly] at within
  split at within
  · cases within
  split at within
  · cases within
  next subject last =>
  split at within
  · cases within
  split at within
  · cases within
  split at within
  · cases within
  next floor =>
  split at within
  · next below => exact ⟨subject, last, not_lt.mp floor, below⟩
  · cases within

/-- What the decision about a list of days depends on. -/
structure DecidedByNewest (days : List DailyCost) (settings : Option UserSettings)
    (lastReportedDay : Option ℤ) : Prop where
  perm : ∀ days', days.Perm days' → evaluateUsageAnomaly days' settings lastReportedDay =
    evaluateUsageAnomaly days settings lastReportedDay
  older : ∀ older larger, larger.Perm (older ++ days) → (larger.map (·.day)).Nodup →
    (∀ o ∈ older, observedDays ≤ (days.filter (o.day < ·.day)).length) →
    evaluateUsageAnomaly larger settings lastReportedDay =
      evaluateUsageAnomaly days settings lastReportedDay
  newest : ∀ newest ∈ days, (∀ e ∈ days, e.day ≤ newest.day) →
    ∀ cost, newest.consumedCost ≤ cost → ∀ finding,
    evaluateUsageAnomaly days settings lastReportedDay = .anomaly finding →
    ∃ finding', evaluateUsageAnomaly (days.map (·.withCost newest.day cost)) settings
        lastReportedDay = .anomaly finding' ∧ finding.percentAbove ≤ finding'.percentAbove
  baseline : ∀ entry ∈ days, (∃ e ∈ days, entry.day < e.day) →
    ∀ cost, entry.consumedCost ≤ cost →
    evaluateUsageAnomaly days settings lastReportedDay = .none .withinThreshold → ∀ finding,
    evaluateUsageAnomaly (days.map (·.withCost entry.day cost)) settings lastReportedDay ≠
      .anomaly finding

theorem anomaly_of_dearer_newest {newest : DailyCost} (distinct : (days.map (·.day)).Nodup)
    (mem : newest ∈ days) (greatest : ∀ e ∈ days, e.day ≤ newest.day)
    (raised : newest.consumedCost ≤ cost)
    (found : evaluateUsageAnomaly days settings lastReportedDay = .anomaly finding) :
    ∃ finding', evaluateUsageAnomaly (days.map (·.withCost newest.day cost)) settings
        lastReportedDay = .anomaly finding' ∧ finding.percentAbove ≤ finding'.percentAbove := by
  have last : (byDay days).getLast? = some newest := getLast?_of_greatest distinct mem greatest
  obtain ⟨subject, last', anomalous, rfl⟩ := evaluate_eq_anomaly_iff.mp found
  cases last.symm.trans last'
  obtain ⟨armed, above⟩ := anomalous_iff.mp anomalous
  have dearer := percentAbove_mono (mean_pos armed.floor) raised
  have baseline : baselineOf (byDay (days.map (·.withCost newest.day cost))) =
      baselineOf (byDay days) := by
    rw [byDay_withCost, baselineOf_map]
    refine (List.map_congr_left fun e member => ?_).trans (List.map_id _)
    exact withCost_of_ne (day_ne_of_mem_baselineOf distinct last member)
  have last : (byDay (days.map (·.withCost newest.day cost))).getLast? =
      some ⟨newest.day, cost⟩ := by
    rw [byDay_withCost, List.getLast?_map, last, Option.map_some, withCost_self]
  refine ⟨findingOf ⟨newest.day, cost⟩ (baselineOf (byDay days)), ?_, dearer⟩
  rw [evaluate_eq_anomaly_iff, baseline]
  refine ⟨_, last, anomalous_iff.mpr ⟨⟨armed.enabled, armed.unreported, armed.history,
    armed.floor⟩, ?_⟩, rfl⟩
  exact above.trans (by exact_mod_cast dearer)

theorem not_anomaly_of_dearer_baseline {entry : DailyCost}
    (distinct : (days.map (·.day)).Nodup) (nonneg : ∀ e ∈ days, 0 ≤ e.consumedCost)
    (mem : entry ∈ days) (later : ∃ e ∈ days, entry.day < e.day)
    (raised : entry.consumedCost ≤ cost)
    (within : evaluateUsageAnomaly days settings lastReportedDay = .none .withinThreshold) :
    evaluateUsageAnomaly (days.map (·.withCost entry.day cost)) settings lastReportedDay ≠
      .anomaly finding := by
  intro found
  obtain ⟨subject, last, floor, below⟩ := below_of_within within
  obtain ⟨subject', last', anomalous, rfl⟩ := evaluate_eq_anomaly_iff.mp found
  have ne : subject.day ≠ entry.day := by
    obtain ⟨e, member, after⟩ := later
    exact (after.trans_le (key_le_last last member)).ne'
  rw [byDay_withCost, List.getLast?_map, last, Option.map_some, withCost_of_ne ne] at last'
  cases last'
  have above := (anomalous_iff.mp anomalous).2
  rw [byDay_withCost, baselineOf_map] at above
  have dearer := @meanCost_le (baselineOf (byDay days)) (·.withCost entry.day cost) <| by
    intro e member
    have memDays : e ∈ days := by
      have : e ∈ byDay days := List.mem_of_mem_take (List.mem_of_mem_drop member)
      exact mem_sortBy.mp this
    by_cases same : e.day = entry.day
    · cases List.inj_on_of_nodup_map distinct memDays mem same
      rw [withCost_self]
      exact raised
    · rw [withCost_of_ne same]
  have cost := nonneg subject (mem_sortBy.mp (List.mem_of_getLast? last))
  have less := percentAbove_anti (mean_pos floor) cost dearer
  have : (thresholdOf settings : ℚ) ≤
      percentAbove subject.consumedCost (meanCost (baselineOf (byDay days))) :=
    above.trans (by exact_mod_cast less)
  exact absurd below (not_lt.mpr this)

/-- The decision looks at the newest fifteen days, whatever their order, and moves with their costs
in one direction. -/
theorem decided_by_newest (settings : Option UserSettings) (lastReportedDay : Option ℤ)
    (distinct : (days.map (·.day)).Nodup) (nonneg : ∀ e ∈ days, 0 ≤ e.consumedCost) :
    DecidedByNewest days settings lastReportedDay where
  perm _ perm := evaluate_of_perm perm distinct
  older older larger perm distinct' below := by
    rw [← evaluate_of_older below]
    exact (evaluate_of_perm perm distinct').symm
  newest _ mem greatest _ raised _ found :=
    anomaly_of_dearer_newest distinct mem greatest raised found
  baseline _ mem later _ raised within _ :=
    not_anomaly_of_dearer_baseline distinct nonneg mem later raised within

theorem decided_by_newest_flat :
    DecidedByNewest (flatDays 20 100 140) (some { usageAnomalyThreshold := .value 60 }) (some 3) :=
  decided_by_newest _ _ (by decide +kernel) (by decide +kernel)

end ElectroSync
