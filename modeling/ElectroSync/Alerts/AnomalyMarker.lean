import ElectroSync.Alerts.Measurements

/-!
# The anomaly marker

`last_anomaly_on` is written before the notice of an anomaly is pushed, and a finding is about a day
after the one that was read. Whatever the clocks, the samples and the faults of the polls, the
marker only moves forward, and every notice is about a later day than the ones before it.
-/

namespace ElectroSync
open Throwing Transition

/-- A poll of a meter whose samples may be any others than the last poll left. -/
def AnomalyPoll (limits : UsageSamplingLimits) (meter : Meter) (store : MeterStore) (e : PollEvent)
    (store' : MeterStore) : Prop :=
  ∃ samples, PollStep limits meter { store with samples } e store'

def MeterStore.lastAnomalyOn (store : MeterStore) : Option ℤ :=
  store.alertState.bind (·.lastAnomalyOn)

/-- The notices of anomalies that the polls attempted. -/
def anomalyPushes (trace : List PollEvent) : List Push :=
  (trace.flatMap (·.report.attempted)).filter (·.kind = .usageAnomaly)

theorem anomalyPushes_snoc (trace : List PollEvent) (e : PollEvent) :
    anomalyPushes (trace ++ [e]) =
      anomalyPushes trace ++ e.report.attempted.filter (·.kind = .usageAnomaly) := by
  simp [anomalyPushes]

variable {limits : UsageSamplingLimits} {meter : Meter} {store store' : MeterStore} {e : PollEvent}

@[simp] theorem recordSuccess_lastAnomalyOn (store : MeterStore) (reading : CommittedReading)
    (now : ℤ) : (store.recordSuccess reading now).lastAnomalyOn = store.lastAnomalyOn := by
  cases h : store.alertState <;> simp [MeterStore.recordSuccess, MeterStore.lastAnomalyOn, h]

@[simp] theorem recordFailure_lastAnomalyOn (store : MeterStore) (now : ℤ) (reason : String) :
    (store.recordFailure now reason).lastAnomalyOn = store.lastAnomalyOn := by
  cases h : store.alertState <;> simp [MeterStore.recordFailure, MeterStore.lastAnomalyOn, h]

/-- `evaluate` knows nothing of anomalies. -/
theorem evaluate_ne_usageAnomaly (previous : PreviousState) (reading : Reading)
    (settings : Option UserSettings) :
    .usageAnomaly ∉ (evaluate previous reading settings).alerts := by
  have recharge (c : Bool) :
      AlertKind.usageAnomaly ∉ (if c = true then [AlertKind.rechargeDetected] else []) := by
    cases c <;> simp
  have other (severity : AlertSeverity) : AlertKind.usageAnomaly ≠ balanceAlert severity :=
    ne_balanceAlert (by decide) severity
  have balance (c : Bool) (severity : AlertSeverity) :
      AlertKind.usageAnomaly ∉ (if c = true then [balanceAlert severity] else []) := by
    cases c <;> simp [other]
  simp only [evaluate]
  split
  · exact List.not_mem_nil
  · simp only [List.mem_append, not_or]
    exact ⟨recharge _, balance _ _⟩

theorem filter_pushesOf (row : MonitoredMeter) (snapshot : NescoSnapshot) (n : ℕ) :
    ((pushesOf row snapshot).take n).filter (·.kind = .usageAnomaly) = [] := by
  apply List.filter_eq_nil_iff.mpr
  intro p member
  obtain ⟨kind, alert, rfl⟩ := List.mem_map.mp (List.mem_of_mem_take member)
  simp only [decide_eq_true_eq]
  rintro rfl
  exact evaluate_ne_usageAnomaly _ _ _ alert

/-- A poll attempts no notice and keeps the marker, or attempts one about the day it moves the
marker to, which is after the day the marker was at. -/
theorem PollStep.anomaly (step : PollStep limits meter store e store') :
    (e.report.attempted.filter (·.kind = .usageAnomaly) = [] ∧
        store'.lastAnomalyOn = store.lastAnomalyOn) ∨
      ∃ finding : AnomalyFinding,
        e.report.attempted.filter (·.kind = .usageAnomaly) =
          [⟨.usageAnomaly, 0, 0, some finding⟩] ∧
        store'.lastAnomalyOn = some finding.day ∧
        ∀ last, store.lastAnomalyOn = some last → last < finding.day := by
  simp only [PollStep, poll, Prod.mk.injEq] at step
  obtain ⟨report, rfl⟩ := step
  rw [← report]
  simp only [eval_pollMeter]
  rcases pollMeterTry_cases limits (store.monitored meter e.input.settings) e.input store with
    ⟨_, run, -⟩ | ⟨snapshot, -, -, ⟨_, n, run, -⟩ | ⟨sent, s', run, -, anomaly⟩⟩
  · rw [run]
    rcases e.input.failureWrite with _ | _ <;> simp
  · rw [run]
    have none := filter_pushesOf (store.monitored meter e.input.settings) snapshot n
    rcases e.input.failureWrite with _ | _
    · exact .inl ⟨none, recordSuccess_lastAnomalyOn ..⟩
    · exact .inl ⟨none, by simp⟩
  · rw [run]
    have none := filter_pushesOf (store.monitored meter e.input.settings) snapshot
      (pushesOf (store.monitored meter e.input.settings) snapshot).length
    rw [List.take_length] at none
    rcases anomaly with rfl | ⟨answer, finding, -, found, rfl⟩
    · exact .inl ⟨none, recordSuccess_lastAnomalyOn ..⟩
    · refine .inr ⟨finding, ?_, rfl, ?_⟩
      · simp only [List.filter_append, none, List.nil_append]
        rfl
      · intro last marked
        have read : (store.monitored meter e.input.settings).lastAnomalyOn = some last := marked
        rw [read] at found
        exact evaluateUsageAnomaly_day_gt found

/-- What the polls of a meter keep true of its marker. -/
structure MarkerKept (start : Option ℤ) (trace : List PollEvent) (marker : Option ℤ) : Prop where
  /-- Every notice has a subject day, and these increase. -/
  increasing : ∃ days : List ℤ, (anomalyPushes trace).map (·.anomaly.map (·.day)) = days.map some ∧
    days.Pairwise (· < ·) ∧ ∀ day ∈ days, ∃ last, marker = some last ∧ day ≤ last
  forward : ∀ first, start = some first → ∃ last, marker = some last ∧ first ≤ last

theorem MarkerKept.step {start : Option ℤ} (kept : MarkerKept start trace store.lastAnomalyOn)
    (step : AnomalyPoll limits meter store e store') :
    MarkerKept start (trace ++ [e]) store'.lastAnomalyOn := by
  obtain ⟨samples, step⟩ := step
  obtain ⟨days, subjects, increasing, marked⟩ := kept.increasing
  rcases step.anomaly with ⟨silent, same⟩ | ⟨finding, notice, moved, later⟩
  · have same : store'.lastAnomalyOn = store.lastAnomalyOn := same
    rw [same]
    exact ⟨⟨days, by rw [anomalyPushes_snoc, silent, List.append_nil, subjects], increasing,
      marked⟩, kept.forward⟩
  · have later : ∀ last, store.lastAnomalyOn = some last → last < finding.day := later
    rw [moved]
    refine ⟨⟨days ++ [finding.day], ?_, ?_, ?_⟩, ?_⟩
    · rw [anomalyPushes_snoc, notice, List.map_append, List.map_append, subjects]
      rfl
    · refine List.pairwise_append.mpr ⟨increasing, List.pairwise_singleton .., ?_⟩
      intro day member last new
      obtain ⟨marker, here, le⟩ := marked day member
      rw [List.mem_singleton.mp new]
      exact le.trans_lt (later marker here)
    · intro day member
      refine ⟨finding.day, rfl, ?_⟩
      rcases List.mem_append.mp member with old | new
      · obtain ⟨marker, here, le⟩ := marked day old
        exact le.trans (later marker here).le
      · exact (List.mem_singleton.mp new).le
    · intro first started
      obtain ⟨marker, here, le⟩ := kept.forward first started
      exact ⟨finding.day, rfl, le.trans (later marker here).le⟩

/-- From whatever the store holds, the subject days of the notices increase and the marker never
moves backwards. -/
theorem anomaly_days_increase (run : Run (AnomalyPoll limits meter) store trace store') :
    MarkerKept store.lastAnomalyOn trace store'.lastAnomalyOn := by
  refine run.invariantTrace
    (P := fun trace store' => MarkerKept store.lastAnomalyOn trace store'.lastAnomalyOn) ?_ ?_
  · exact ⟨⟨[], rfl, .nil, nofun⟩, fun first started => ⟨first, started, le_rfl⟩⟩
  · intro trace store e store' _ kept step
    exact kept.step step

/-- Runs the polls one after the other, each over samples of its own. -/
def pollsOver (limits : UsageSamplingLimits) (meter : Meter) :
    List (PollInput × List UsageSample) → MeterStore → List PollEvent × MeterStore
  | [], store => ([], store)
  | (input, samples) :: inputs, store =>
    let (report, store) := poll limits meter input { store with samples }
    let (trace, store) := pollsOver limits meter inputs store
    (⟨input, report⟩ :: trace, store)

theorem pollsOver_run (limits : UsageSamplingLimits) (meter : Meter)
    (inputs : List (PollInput × List UsageSample)) (store : MeterStore) :
    Run (AnomalyPoll limits meter) store (pollsOver limits meter inputs store).1
      (pollsOver limits meter inputs store).2 := by
  induction inputs generalizing store with
  | nil => exact .nil
  | cons head inputs ih => exact Run.cons_iff.mpr ⟨_, ⟨head.2, rfl⟩, ih _⟩

/-- Samples of one day each, from the given day on. -/
def dailySamples (first : ℤ) (costs : List ℚ) : List UsageSample :=
  costs.zipIdx.map fun (cost, i) => {
    windowStart := dhakaMidnight (first + i)
    windowEnd := dhakaMidnight (first + i + 1)
    openingBalance := cost
    closingBalance := 0
    rechargeCredited := 0
    rechargePaid := 0
    consumedCost := cost
    rawDelta := cost
    anomaly := none
    advances := by simp only [dhakaMidnight, msPerDay, secondsPerDay]; omega }

/-- A dear day, the same day again, and a dear day after it that is read by a clock that was put
back in between. -/
def dearDays : List (PollInput × List UsageSample) :=
  let poll (now : ℤ) : PollInput := .untroubled ⟨500, none, []⟩ now
  [(poll (dhakaMidnight 20008), dailySamples 20000 [20, 20, 20, 20, 20, 20, 20, 90]),
    (poll (dhakaMidnight 20008 + 1), dailySamples 20000 [20, 20, 20, 20, 20, 20, 20, 90]),
    (poll (dhakaMidnight 20007), dailySamples 20000 [20, 20, 20, 20, 20, 20, 90]),
    (poll (dhakaMidnight 20009), dailySamples 20001 [20, 20, 20, 20, 20, 20, 20, 90])]

theorem anomaly_days_increase_dearDays :
    let run := pollsOver ⟨500, 48⟩ ⟨"m1", "ayesha", "77", none⟩ dearDays {}
    MarkerKept none run.1 run.2.lastAnomalyOn ∧
      (anomalyPushes run.1).map (·.anomaly.map (·.day)) = [some 20007, some 20008] :=
  ⟨anomaly_days_increase (pollsOver_run ⟨500, 48⟩ ⟨"m1", "ayesha", "77", none⟩ dearDays {}),
    by decide +kernel⟩

end ElectroSync
