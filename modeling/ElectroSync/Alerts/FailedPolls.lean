import ElectroSync.Alerts.Measurements

/-!
# Failed polls

A poll that fails before its commit writes the columns about the failure and no others, and these
columns have no part in the polls after it. The run without it makes the same pushes and leaves the
same samples and the same alert state.
-/

namespace ElectroSync
open Throwing Transition

/-- What the polls of a meter leave behind, apart from the columns about the last poll. An absent
row counts as one with the defaults. -/
structure Recorded where
  severity : AlertSeverity
  lastBalance : Option ℚ
  lastBalanceAt : Option ℤ
  lastRechargeToken : Option String
  lastAnomalyOn : Option ℤ
  samples : List UsageSample
  deriving DecidableEq

namespace MeterStore

def recorded (store : MeterStore) : Recorded where
  severity := (store.alertState.getD {}).severity
  lastBalance := (store.alertState.getD {}).lastBalance
  lastBalanceAt := (store.alertState.getD {}).lastBalanceAt
  lastRechargeToken := (store.alertState.getD {}).lastRechargeToken
  lastAnomalyOn := (store.alertState.getD {}).lastAnomalyOn
  samples := store.samples

def consecutiveFailures (store : MeterStore) : ℕ :=
  (store.alertState.getD {}).consecutiveFailures

variable {store store' : MeterStore} {meter : Meter} {settings : Option UserSettings}

@[simp] theorem recordFailure_recorded (store : MeterStore) (now : ℤ) (reason : String) :
    (store.recordFailure now reason).recorded = store.recorded := by
  cases h : store.alertState <;> simp [recordFailure, recorded, h]

@[simp] theorem recordFailure_consecutiveFailures (store : MeterStore) (now : ℤ)
    (reason : String) :
    (store.recordFailure now reason).consecutiveFailures = store.consecutiveFailures + 1 := by
  cases h : store.alertState <;> simp [recordFailure, consecutiveFailures, h]

@[simp] theorem recordSuccess_consecutiveFailures (store : MeterStore) (reading : CommittedReading)
    (now : ℤ) : (store.recordSuccess reading now).consecutiveFailures = 0 := rfl

@[simp] theorem markAnomaly_consecutiveFailures (store : MeterStore) (day : ℤ) :
    (store.markAnomaly day).consecutiveFailures = store.consecutiveFailures := by
  cases h : store.alertState <;> simp [markAnomaly, consecutiveFailures, h]

/-- A commit writes every column but one, and that one is kept. -/
theorem recordSuccess_congr (same : store.recorded = store'.recorded) (reading : CommittedReading)
    (now : ℤ) : store.recordSuccess reading now = store'.recordSuccess reading now := by
  have anomaly : (store.alertState.getD {}).lastAnomalyOn =
      (store'.alertState.getD {}).lastAnomalyOn := congrArg Recorded.lastAnomalyOn same
  have samples : store.samples = store'.samples := congrArg Recorded.samples same
  simp only [recordSuccess, anomaly, samples]

theorem monitored_eq (store : MeterStore) (meter : Meter) (settings : Option UserSettings) :
    store.monitored meter settings = {
      meterId := meter.id
      userId := meter.userId
      customerNo := meter.customerNo
      label := meter.label
      settings
      severity := store.alertState.map (·.severity)
      lastRechargeToken := store.recorded.lastRechargeToken
      lastBalance := store.recorded.lastBalance
      lastBalanceAt := store.recorded.lastBalanceAt
      lastAnomalyOn := store.recorded.lastAnomalyOn } := by
  cases h : store.alertState <;> simp [monitored, recorded, h]

theorem monitored_previous_eq (store : MeterStore) (meter : Meter)
    (settings : Option UserSettings) :
    (store.monitored meter settings).previous =
      ⟨store.recorded.severity, store.recorded.lastRechargeToken⟩ := by
  cases h : store.alertState <;>
    simp [monitored, MonitoredMeter.previous, recorded, initialState, h]

end MeterStore

variable {limits : UsageSamplingLimits} {meter : Meter} {input : PollInput}
  {store store' : MeterStore}

/-! ## One poll -/

/-- The severity of a row is read as part of the previous state only. -/
theorem afterCommit_severity {row : MonitoredMeter} {severity : Option AlertSeverity}
    (same : ({ row with severity } : MonitoredMeter).previous = row.previous) (input : PollInput)
    (snapshot : NescoSnapshot) :
    afterCommit { row with severity } input snapshot = afterCommit row input snapshot := by
  simp only [afterCommit, pushesOf, same]
  rfl

theorem readingOf_severity {row : MonitoredMeter} {severity : Option AlertSeverity}
    (same : ({ row with severity } : MonitoredMeter).previous = row.previous)
    (limits : UsageSamplingLimits) (snapshot : NescoSnapshot) (now : ℤ) :
    readingOf limits { row with severity } snapshot now = readingOf limits row snapshot now := by
  simp only [readingOf, same]
  rfl

/-- A poll that commits cannot tell apart stores that record the same. -/
theorem poll_congr (same : store.recorded = store'.recorded)
    (scraped : input.snapshot = .ok snapshot) (written : input.successWrite = .ok ()) :
    poll limits meter input store = poll limits meter input store' := by
  have row : store.monitored meter input.settings = { store'.monitored meter input.settings with
      severity := store.alertState.map (·.severity) } := by
    simp only [MeterStore.monitored_eq, same]
  have previous : ({ store'.monitored meter input.settings with
      severity := store.alertState.map (·.severity) } : MonitoredMeter).previous =
      (store'.monitored meter input.settings).previous := by
    rw [← row, MeterStore.monitored_previous_eq, MeterStore.monitored_previous_eq, same]
  have committed := MeterStore.recordSuccess_congr same
  simp only [poll, eval_pollMeter, eval_pollMeterTry scraped written, committed]
  rw [row, afterCommit_severity previous, readingOf_severity previous]

/-- The scrape throws or the transaction rolls back, and the failure is counted. -/
def PollInput.Fails (input : PollInput) : Prop :=
  (input.snapshot.toOption = none ∨ input.successWrite.toOption = none) ∧
    input.failureWrite = .ok ()

/-- A poll that does not commit attempts no push and changes nothing that later polls read. -/
theorem poll_of_not_committed (limits : UsageSamplingLimits) (meter : Meter) (store : MeterStore)
    (fault : ∀ snapshot, input.snapshot = .ok snapshot → input.successWrite ≠ .ok ()) :
    (poll limits meter input store).1.committed = none ∧
      (poll limits meter input store).1.attempted = [] ∧
      (poll limits meter input store).2.recorded = store.recorded := by
  simp only [poll, eval_pollMeter]
  rcases pollMeterTry_cases limits (store.monitored meter input.settings) input store with
    ⟨e, run, -⟩ | ⟨snapshot, scraped, written, -⟩
  · rw [run]
    rcases input.failureWrite with _ | _ <;> simp
  · exact absurd written (fault snapshot scraped)

theorem PollInput.Fails.fault (fails : input.Fails) (snapshot : NescoSnapshot)
    (scraped : input.snapshot = .ok snapshot) : input.successWrite ≠ .ok () := by
  intro written
  obtain ⟨unscraped | unwritten, -⟩ := fails
  · rw [scraped] at unscraped
    cases unscraped
  · rw [written] at unwritten
    cases unwritten

/-! ## Runs with failed polls inserted -/

/-- `inputs'` is `inputs` with any number of failed polls inserted anywhere. -/
inductive WithFailures : List PollInput → List PollInput → Prop
  | nil : WithFailures [] []
  | poll (input : PollInput) : WithFailures inputs inputs' →
      WithFailures (input :: inputs) (input :: inputs')
  | failed (input : PollInput) : input.Fails → WithFailures inputs inputs' →
      WithFailures inputs (input :: inputs')

/-- What a run records, the pushes it attempts, and the readings it commits. -/
def traces (run : List PollEvent × MeterStore) :
    Recorded × List Push × List CommittedReading :=
  (run.2.recorded, run.1.flatMap (·.report.attempted), committedReadings run.1)

theorem traces_cons (limits : UsageSamplingLimits) (meter : Meter) (input : PollInput)
    (inputs : List PollInput) (store : MeterStore) :
    let report := (poll limits meter input store).1
    let rest := traces (runPolls limits meter inputs (poll limits meter input store).2)
    traces (runPolls limits meter (input :: inputs) store) =
      (rest.1, report.attempted ++ rest.2.1, report.committed.toList ++ rest.2.2) := by
  simp only [traces, runPolls, List.flatMap_cons, committedReadings, List.filterMap_cons]
  cases (poll limits meter input store).1.committed <;> rfl

theorem traces_of_not_committed (limits : UsageSamplingLimits) (meter : Meter)
    (inputs : List PollInput) (store : MeterStore)
    (fault : ∀ snapshot, input.snapshot = .ok snapshot → input.successWrite ≠ .ok ()) :
    traces (runPolls limits meter (input :: inputs) store) =
      traces (runPolls limits meter inputs (poll limits meter input store).2) := by
  obtain ⟨uncommitted, silent, -⟩ := poll_of_not_committed limits meter store fault
  rw [traces_cons, uncommitted, silent]
  rfl

/-- From stores that record the same, inserted failed polls leave no trace. -/
theorem WithFailures.traces_eq (inserted : WithFailures inputs inputs')
    (same : store'.recorded = store.recorded) :
    traces (runPolls limits meter inputs' store') =
      traces (runPolls limits meter inputs store) := by
  induction inserted generalizing store store' with
  | nil => simp only [traces, runPolls, same]
  | @poll inputs inputs' input _ ih =>
    by_cases fault : ∀ snapshot, input.snapshot = .ok snapshot → input.successWrite ≠ .ok ()
    · rw [traces_of_not_committed limits meter inputs' store' fault,
        traces_of_not_committed limits meter inputs store fault]
      apply ih
      obtain ⟨-, -, kept⟩ := poll_of_not_committed limits meter store fault
      obtain ⟨-, -, kept'⟩ := poll_of_not_committed limits meter store' fault
      rw [kept, kept', same]
    · simp only [not_forall, not_not] at fault
      obtain ⟨snapshot, scraped, written⟩ := fault
      rw [traces_cons, traces_cons, poll_congr same scraped written, ih rfl]
  | @failed inputs inputs' input fails _ ih =>
    rw [traces_of_not_committed limits meter inputs' store' fails.fault]
    apply ih
    obtain ⟨-, -, kept⟩ := poll_of_not_committed limits meter store' fails.fault
    rw [kept, same]

/-! ## The count of failures -/

/-- The polls that came back as failed since the last commit. A poll that commits and then fails to
push one of its alerts counts itself. -/
def failuresSinceSuccess (trace : List PollEvent) : ℕ :=
  trace.foldl (fun failures e => (if e.report.committed.isSome then 0 else failures) +
    if e.report.result = .ok none then 1 else 0) 0

theorem failuresSinceSuccess_snoc (trace : List PollEvent) (e : PollEvent) :
    failuresSinceSuccess (trace ++ [e]) =
      (if e.report.committed.isSome then 0 else failuresSinceSuccess trace) +
        if e.report.result = .ok none then 1 else 0 := by
  simp only [failuresSinceSuccess, List.foldl_append, List.foldl_cons, List.foldl_nil]

theorem AnomalyStep.consecutiveFailures {s s' : Polling} {row : MonitoredMeter}
    (step : AnomalyStep row input s s') :
    s'.store.consecutiveFailures = s.store.consecutiveFailures ∧ s'.committed = s.committed := by
  rcases step with rfl | ⟨_, _, -, -, rfl⟩
  · exact ⟨rfl, rfl⟩
  · exact ⟨MeterStore.markAnomaly_consecutiveFailures .., rfl⟩

theorem PollStep.consecutiveFailures (step : PollStep limits meter store e store') :
    store'.consecutiveFailures =
      (if e.report.committed.isSome then 0 else store.consecutiveFailures) +
        if e.report.result = .ok none then 1 else 0 := by
  simp only [PollStep, poll, Prod.mk.injEq] at step
  obtain ⟨report, rfl⟩ := step
  rw [← report]
  simp only [eval_pollMeter]
  rcases pollMeterTry_cases limits (store.monitored meter e.input.settings) e.input store with
    ⟨_, run, -⟩ | ⟨snapshot, -, -, ⟨_, n, run, -⟩ | ⟨sent, s', run, -, anomaly⟩⟩
  · rw [run]
    rcases e.input.failureWrite with _ | _ <;> simp
  · rw [run]
    rcases e.input.failureWrite with _ | _ <;> simp
  · rw [run]
    obtain ⟨failures, committed⟩ := anomaly.consecutiveFailures
    simp [failures, committed]

theorem consecutiveFailures_of_run (run : Run (PollStep limits meter) {} trace store) :
    store.consecutiveFailures = failuresSinceSuccess trace := by
  refine run.invariantTrace (P := fun trace store =>
    store.consecutiveFailures = failuresSinceSuccess trace) rfl ?_
  intro trace store e store' _ same step
  rw [step.consecutiveFailures, failuresSinceSuccess_snoc, same]

/-- Failed polls, wherever they are inserted, leave no trace on what a run records, commits and
pushes; and after any number of polls the count is that of the failures since the last commit. -/
theorem failed_polls_leave_no_trace (inserted : WithFailures inputs inputs')
    (limits : UsageSamplingLimits) (meter : Meter) :
    traces (runPolls limits meter inputs' {}) = traces (runPolls limits meter inputs {}) ∧
      ∀ n, (runPolls limits meter (inputs'.take n) {}).2.consecutiveFailures =
        failuresSinceSuccess (runPolls limits meter (inputs'.take n) {}).1 :=
  ⟨inserted.traces_eq rfl, fun _ => consecutiveFailures_of_run (runPolls_run ..)⟩

/-- A failed scrape before the first success, and a transaction that rolls back after it. -/
theorem failed_polls_leave_no_trace_twoFailures :
    let low : PollInput := .untroubled ⟨50, some 2, []⟩ 2000
    let next : PollInput := .untroubled ⟨40, some 5, []⟩ 5000
    let unreachable : PollInput := { low with snapshot := .error "UNREACHABLE" }
    let rolledBack : PollInput := { next with successWrite := .error "could not serialize access" }
    traces (runPolls ⟨500, 48⟩ ⟨"m1", "ayesha", "77", none⟩ [unreachable, low, rolledBack, next]
        {}) =
        traces (runPolls ⟨500, 48⟩ ⟨"m1", "ayesha", "77", none⟩ [low, next] {}) ∧
      (runPolls ⟨500, 48⟩ ⟨"m1", "ayesha", "77", none⟩ [unreachable, low, rolledBack]
        {}).2.consecutiveFailures = 1 := by
  intro low next unreachable rolledBack
  have inserted : WithFailures [low, next] [unreachable, low, rolledBack, next] :=
    .failed _ ⟨.inl rfl, rfl⟩ (.poll _ (.failed _ ⟨.inr rfl, rfl⟩ (.poll _ .nil)))
  obtain ⟨same, count⟩ :=
    failed_polls_leave_no_trace inserted ⟨500, 48⟩ ⟨"m1", "ayesha", "77", none⟩
  exact ⟨same, (count 3).trans (by decide +kernel)⟩

/-- A poll whose reading was committed is counted as a failure when a push throws. -/
theorem consecutiveFailures_counts_push :
    ¬ ∀ limits meter inputs, (∀ input ∈ inputs, input.failureWrite = .ok ()) →
      (runPolls limits meter inputs {}).2.consecutiveFailures =
        ((runPolls limits meter inputs {}).1.reverse.takeWhile
          (·.report.committed.isNone)).length := by
  intro counted
  have unsent := counted ⟨500, 48⟩ ⟨"m1", "ayesha", "77", none⟩
    [{ PollInput.untroubled ⟨50, some 2, []⟩ 2000 with sendToUser := fun _ => .error "FCM" }]
    (by simp [PollInput.untroubled])
  exact absurd unsent (by decide +kernel)

end ElectroSync
