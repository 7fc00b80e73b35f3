import ElectroSync.Alerts.MeterPoll
import ElectroSync.Library.Run

/-!
# What a poll does to the measurements of a meter

`Measurements` is the part of a meter's rows that the readings determine: the severity and the
recharge token last recorded, the last reading, and the samples. A poll either leaves it alone and
attempts no push, or records one reading (`poll_cases`). Everything about runs of polls follows
from this one statement.
-/

namespace ElectroSync
open Throwing Transition

structure Measurements where
  previous : PreviousState := initialState
  /-- The last balance, and the instant it describes. -/
  lastReading : Option (ℚ × ℤ) := none
  samples : List UsageSample := []

namespace Measurements

def nextSample (m : Measurements) (limits : UsageSamplingLimits) (snapshot : NescoSnapshot)
    (readingAt : ℤ) : Option UsageSample :=
  m.lastReading.bind fun last => buildUsageSample {
    openingBalance := last.1
    closingBalance := snapshot.balance
    windowStart := last.2
    windowEnd := readingAt
    recharges := snapshot.recharges } limits

def evaluate (m : Measurements) (settings : Option UserSettings) (snapshot : NescoSnapshot) :
    Evaluation :=
  ElectroSync.evaluate m.previous ⟨snapshot.balance, snapshot.recharges⟩ settings

/-- What a successful poll commits. -/
def read (m : Measurements) (limits : UsageSamplingLimits) (settings : Option UserSettings)
    (snapshot : NescoSnapshot) (now : ℤ) : CommittedReading where
  severity := (m.evaluate settings snapshot).severity
  lastRechargeToken := (m.evaluate settings snapshot).lastRechargeToken
  balance := snapshot.balance
  readingAt := (resolveReadingInstant snapshot.balanceAsOf now).instant
  sample := m.nextSample limits snapshot (resolveReadingInstant snapshot.balanceAsOf now).instant

def record (m : Measurements) (reading : CommittedReading) : Measurements where
  previous := ⟨reading.severity, reading.lastRechargeToken⟩
  lastReading := some (reading.balance, reading.readingAt)
  samples := insertBuilt m.samples reading.sample

end Measurements

/-! ## The store as measurements -/

namespace MeterStore

def measurements (store : MeterStore) : Measurements where
  previous := match store.alertState with
    | none => initialState
    | some state => ⟨state.severity, state.lastRechargeToken⟩
  lastReading := do
    let state ← store.alertState
    return (← state.lastBalance, ← state.lastBalanceAt)
  samples := store.samples

variable {store : MeterStore}

@[simp] theorem measurements_empty : ({} : MeterStore).measurements = {} := rfl

@[simp] theorem measurements_samples : store.measurements.samples = store.samples := rfl

@[simp] theorem monitored_previous :
    (store.monitored meter settings).previous = store.measurements.previous := by
  cases h : store.alertState <;> simp [monitored, MonitoredMeter.previous, measurements, h]

theorem buildSample_monitored :
    buildSample limits (store.monitored meter settings) snapshot readingAt =
      store.measurements.nextSample limits snapshot readingAt := by
  rcases hstate : store.alertState with _ | state
  · simp [buildSample, monitored, Measurements.nextSample, measurements, hstate]
  rcases hbalance : state.lastBalance with _ | balance
  · simp [buildSample, monitored, Measurements.nextSample, measurements, hstate, hbalance]
  cases hat : state.lastBalanceAt <;>
    simp [buildSample, monitored, Measurements.nextSample, measurements, hstate, hbalance, hat]

@[simp] theorem recordSuccess_measurements :
    (store.recordSuccess reading now).measurements = store.measurements.record reading := rfl

@[simp] theorem recordFailure_measurements :
    (store.recordFailure now reason).measurements = store.measurements := by
  cases h : store.alertState <;> simp [recordFailure, measurements, initialState, h]

@[simp] theorem markAnomaly_measurements :
    (store.markAnomaly day).measurements = store.measurements := by
  cases h : store.alertState <;> simp [markAnomaly, measurements, h]

end MeterStore

/-! ## The pushes of a poll -/

section
variable {row : MonitoredMeter} {input : PollInput} {sendToUser : Push → Except String Unit}
  {limits : UsageSamplingLimits} {s : Polling}

/-- How one call of `push` ends. -/
def pushOutcome (row : MonitoredMeter) (sendToUser : Push → Except String Unit) (p : Push) :
    Except String Unit :=
  match (overDefaults row.settings).language with
  | none => .error s!"Cannot read properties of undefined (reading '{p.kind.text}')"
  | some _ => sendToUser p

@[simp] theorem eval_push (p : Push) : (push row sendToUser p).eval s =
    (pushOutcome row sendToUser p, { s with attempted := s.attempted ++ [p] }) := by
  rw [push, eval_bind_ok (eval_update _ s)]
  cases h : (overDefaults row.settings).language <;> simp [pushOutcome, h]

/-- The loop over the alerts ends when all pushes went out, or stops at the first that throws. -/
theorem pushes_cases (row : MonitoredMeter) (sendToUser : Push → Except String Unit)
    (pushes : List Push) (s : Polling) :
    (∃ e n, (forEach (push row sendToUser) pushes).eval s =
        (.error e, { s with attempted := s.attempted ++ pushes.take n }) ∧
        ¬ ∀ p ∈ pushes, pushOutcome row sendToUser p = .ok ()) ∨
      (forEach (push row sendToUser) pushes).eval s =
        (.ok (), { s with attempted := s.attempted ++ pushes }) ∧
        ∀ p ∈ pushes, pushOutcome row sendToUser p = .ok () := by
  induction pushes generalizing s with
  | nil => exact .inr ⟨by simp [forEach], nofun⟩
  | cons p pushes ih =>
    simp only [forEach, eval_bind, eval_push, List.forall_mem_cons]
    rcases hp : pushOutcome row sendToUser p with e | _
    · exact .inl ⟨e, 1, by simp, by simp⟩
    rcases ih { s with attempted := s.attempted ++ [p] } with ⟨e, n, run, stuck⟩ | ⟨run, sent⟩
    · exact .inl ⟨e, n + 1, by simp [run], fun all => stuck all.2⟩
    · exact .inr ⟨by simp [run], rfl, sent⟩

/-- What the anomaly check may do: nothing, or mark and push one finding about a day after the
last one reported. -/
def AnomalyStep (row : MonitoredMeter) (input : PollInput) (s s' : Polling) : Prop :=
  s' = s ∨ ∃ answer finding,
    usage (s.store.tables row) row.userId
      (anomalyQuery row (dhakaDayBefore (dhakaDay input.anomalyNow))) = .ok answer ∧
    evaluateUsageAnomaly (dailyCosts answer) row.settings row.lastAnomalyOn = .anomaly finding ∧
    s' = {
      store := s.store.markAnomaly finding.day
      committed := s.committed
      attempted := s.attempted ++ [⟨.usageAnomaly, 0, 0, some finding⟩] }

theorem checkUsageAnomaly_state (row : MonitoredMeter) (input : PollInput) (s : Polling) :
    AnomalyStep row input s ((checkUsageAnomaly row input).eval s).2 := by
  simp only [checkUsageAnomaly]
  split
  · exact .inl rfl
  split
  · exact .inl rfl
  rcases input.usageRead with _ | _
  · exact .inl (by simp only [eval_bind, eval_ofExcept])
  rcases answered : usage (s.store.tables row) row.userId
    (anomalyQuery row (dhakaDayBefore (dhakaDay input.anomalyNow))) with _ | answer
  · exact .inl (by simp only [eval_bind, eval_ofExcept, eval_read, answered, Except.mapError])
  simp only [eval_bind, eval_ofExcept, eval_read, answered, Except.mapError]
  rcases found : evaluateUsageAnomaly (dailyCosts answer) row.settings row.lastAnomalyOn with
    finding | _
  · rcases input.anomalyWrite with _ | _
    · exact .inl (by simp only [eval_bind, eval_ofExcept])
    refine .inr ⟨answer, finding, answered, found, ?_⟩
    simp only [eval_bind, eval_ofExcept, eval_update, eval_push]
    rcases pushOutcome row input.sendToUser _ with _ | _ <;> rfl
  · exact .inl rfl

theorem checkUsageAnomaly_caught (row : MonitoredMeter) (input : PollInput) (s : Polling) :
    ∃ count s', (tryCatch (checkUsageAnomaly row input) fun _ => pure 0).eval s =
      (.ok count, s') ∧ AnomalyStep row input s s' := by
  have anomaly := checkUsageAnomaly_state row input s
  rw [eval_tryCatch]
  rcases hcheck : (checkUsageAnomaly row input).eval s with ⟨_ | count, s'⟩
  · exact ⟨0, s', rfl, by rwa [hcheck] at anomaly⟩
  · exact ⟨count, s', rfl, by rwa [hcheck] at anomaly⟩

/-- What the poll of a meter commits, when its transaction does. -/
def readingOf (limits : UsageSamplingLimits) (row : MonitoredMeter) (snapshot : NescoSnapshot)
    (now : ℤ) : CommittedReading where
  severity := (evaluate row.previous ⟨snapshot.balance, snapshot.recharges⟩ row.settings).severity
  lastRechargeToken :=
    (evaluate row.previous ⟨snapshot.balance, snapshot.recharges⟩ row.settings).lastRechargeToken
  balance := snapshot.balance
  readingAt := (resolveReadingInstant snapshot.balanceAsOf now).instant
  sample := buildSample limits row snapshot (resolveReadingInstant snapshot.balanceAsOf now).instant

def pushesOf (row : MonitoredMeter) (snapshot : NescoSnapshot) : List Push :=
  alertPushes (evaluate row.previous ⟨snapshot.balance, snapshot.recharges⟩ row.settings) snapshot

/-- What the `try` block of a poll does after its transaction. -/
def afterCommit (row : MonitoredMeter) (input : PollInput) (snapshot : NescoSnapshot) :
    Throwing Polling String (Option ℕ) := do
  forEach (push row input.sendToUser) (pushesOf row snapshot)
  let anomalies ← tryCatch (checkUsageAnomaly row input) fun _ => pure 0
  return some ((evaluate row.previous ⟨snapshot.balance, snapshot.recharges⟩
    row.settings).alerts.length + anomalies)

theorem eval_pollMeterTry (scraped : input.snapshot = .ok snapshot)
    (written : input.successWrite = .ok ()) (store : MeterStore) :
    (pollMeterTry limits row input).eval { store } =
      (afterCommit row input snapshot).eval {
        store := store.recordSuccess (readingOf limits row snapshot input.now) input.now
        committed := some (readingOf limits row snapshot input.now) } := by
  simp only [pollMeterTry, recordSuccess, afterCommit, eval_bind, eval_ofExcept, eval_update,
    scraped, written]
  rfl

/-- The `try` block of a poll: it stops before the commit, stops at a push, or ends. -/
theorem pollMeterTry_cases (limits : UsageSamplingLimits) (row : MonitoredMeter)
    (input : PollInput) (store : MeterStore) :
    (∃ e, (pollMeterTry limits row input).eval { store } = (.error e, { store }) ∧
      (input.snapshot = .error e ∨ input.successWrite = .error e)) ∨
    ∃ snapshot, input.snapshot = .ok snapshot ∧ input.successWrite = .ok () ∧
      let reading := readingOf limits row snapshot input.now
      let committed : Polling :=
        { store := store.recordSuccess reading input.now, committed := some reading }
      ((∃ e n, (pollMeterTry limits row input).eval { store } =
          (.error e, { committed with attempted := (pushesOf row snapshot).take n }) ∧
          ¬ ∀ p ∈ pushesOf row snapshot, pushOutcome row input.sendToUser p = .ok ()) ∨
        ∃ sent s', (pollMeterTry limits row input).eval { store } = (.ok (some sent), s') ∧
          (∀ p ∈ pushesOf row snapshot, pushOutcome row input.sendToUser p = .ok ()) ∧
          AnomalyStep row input { committed with attempted := pushesOf row snapshot } s') := by
  rcases hsnapshot : input.snapshot with e | snapshot
  · exact .inl ⟨e, by simp only [pollMeterTry, eval_bind, eval_ofExcept, hsnapshot], .inl rfl⟩
  rcases hwrite : input.successWrite with e | _
  · refine .inl ⟨e, ?_, .inr rfl⟩
    simp only [pollMeterTry, recordSuccess, eval_bind, eval_ofExcept, hsnapshot, hwrite]
  refine .inr ⟨snapshot, rfl, rfl, ?_⟩
  intro reading committed
  rw [eval_pollMeterTry hsnapshot hwrite, afterCommit, eval_bind]
  rcases pushes_cases row input.sendToUser (pushesOf row snapshot) committed with
    ⟨e, n, stopped, stuck⟩ | ⟨ended, sent⟩
  · rw [stopped]
    exact .inl ⟨e, n, rfl, stuck⟩
  · rw [ended]
    obtain ⟨count, s', caught, anomaly⟩ := checkUsageAnomaly_caught row input
      { committed with attempted := pushesOf row snapshot }
    exact .inr ⟨_, s', (eval_bind_ok caught).trans rfl, sent, anomaly⟩

/-! ## The poll -/

/-- A throw inside the `try` is counted as a failure, unless counting it throws as well. -/
theorem eval_pollMeter (limits : UsageSamplingLimits) (row : MonitoredMeter) (input : PollInput)
    (s : Polling) :
    (pollMeter limits row input).eval s =
      match (pollMeterTry limits row input).eval s with
      | (.ok sent, s') => (.ok sent, s')
      | (.error reason, s') => match input.failureWrite with
        | .ok _ => (.ok none, { s' with store := s'.store.recordFailure input.failureNow reason })
        | .error e => (.error e, s') := by
  rw [pollMeter, eval_tryCatch]
  rcases (pollMeterTry limits row input).eval s with ⟨_ | _, s'⟩
  · simp only [recordFailure, eval_bind, eval_ofExcept, eval_update]
    rcases input.failureWrite with _ | _ <;> rfl
  · rfl

@[simp] theorem readingOf_monitored :
    readingOf limits (MeterStore.monitored store meter settings) snapshot now =
      store.measurements.read limits settings snapshot now := by
  simp only [readingOf, MeterStore.monitored_previous, MeterStore.buildSample_monitored]
  rfl

@[simp] theorem pushesOf_monitored :
    pushesOf (MeterStore.monitored store meter settings) snapshot =
      alertPushes (store.measurements.evaluate settings snapshot) snapshot := by
  simp only [pushesOf, MeterStore.monitored_previous]
  rfl

/-- A poll whose reading was not committed attempts no push and leaves the measurements alone; any
other records the reading and pushes an initial part of its alerts, then at most one anomaly. -/
theorem poll_cases (h : poll limits meter input store = (report, store')) :
    ((∀ snapshot, input.snapshot = .ok snapshot → input.successWrite ≠ .ok ()) ∧
        report.committed = none ∧ report.attempted = [] ∧
        store'.measurements = store.measurements) ∨
      ∃ snapshot n anomalies, input.snapshot = .ok snapshot ∧ input.successWrite = .ok () ∧
        report.committed =
          some (store.measurements.read limits input.settings snapshot input.now) ∧
        report.attempted = (alertPushes (store.measurements.evaluate input.settings snapshot)
          snapshot).take n ++ anomalies ∧
        (∀ p ∈ anomalies, p.kind = .usageAnomaly) ∧
        store'.measurements = store.measurements.record
          (store.measurements.read limits input.settings snapshot input.now) := by
  simp only [poll, Prod.mk.injEq] at h
  obtain ⟨rfl, rfl⟩ := h
  simp only [eval_pollMeter]
  rcases pollMeterTry_cases limits (store.monitored meter input.settings) input store with
    ⟨e, run, fault⟩ | ⟨snapshot, hsnapshot, hwrite, ⟨e, n, run, -⟩ | ⟨sent, s', run, -, anomaly⟩⟩
  · rw [run]
    refine .inl ⟨?_, ?_⟩
    · intro snapshot hsnapshot hwrite
      rcases fault with fault | fault <;> simp_all
    · rcases input.failureWrite with _ | _ <;> simp
  · rw [run]
    refine .inr ⟨snapshot, n, [], hsnapshot, hwrite, ?_⟩
    rcases input.failureWrite with _ | _ <;> simp
  · rw [run]
    rcases anomaly with rfl | ⟨answer, finding, -, -, rfl⟩
    · refine .inr ⟨snapshot, (alertPushes (store.measurements.evaluate input.settings snapshot)
        snapshot).length, [], hsnapshot, hwrite, ?_⟩
      simp
    · refine .inr ⟨snapshot, (alertPushes (store.measurements.evaluate input.settings snapshot)
        snapshot).length, [⟨.usageAnomaly, 0, 0, some finding⟩], hsnapshot, hwrite, ?_⟩
      simp

/-- What makes a poll fail: the scrape, the transaction, or one of the alert pushes. The anomaly
check has its own error boundary. -/
def PollFails (row : MonitoredMeter) (input : PollInput) : Prop :=
  ¬ ∃ snapshot, input.snapshot = .ok snapshot ∧ input.successWrite = .ok () ∧
    ∀ p ∈ pushesOf row snapshot, pushOutcome row input.sendToUser p = .ok ()

theorem pollMeterTry_result (limits : UsageSamplingLimits) (row : MonitoredMeter)
    (input : PollInput) (store : MeterStore) :
    (¬ PollFails row input ∧ ∃ sent, ((pollMeterTry limits row input).eval { store }).1 =
      .ok (some sent)) ∨
    PollFails row input ∧ ∃ e, ((pollMeterTry limits row input).eval { store }).1 = .error e := by
  rcases pollMeterTry_cases limits row input store with
    ⟨e, run, fault⟩ | ⟨snapshot, hsnapshot, hwrite, ⟨e, n, run, stuck⟩ | ⟨sent, s', run, all, -⟩⟩
  · refine .inr ⟨?_, e, by rw [run]⟩
    rintro ⟨snapshot, hsnapshot, hwrite, -⟩
    rcases fault with fault | fault
    · rw [hsnapshot] at fault
      cases fault
    · rw [hwrite] at fault
      cases fault
  · refine .inr ⟨?_, e, by rw [run]⟩
    rintro ⟨snapshot', hsnapshot', -, all⟩
    rw [hsnapshot] at hsnapshot'
    cases hsnapshot'
    exact stuck all
  · exact .inl ⟨fun fails => fails ⟨snapshot, hsnapshot, hwrite, all⟩, sent, by rw [run]⟩

/-- How a poll settles: with a count, with `null`, or by rejecting when the failure could not be
counted. -/
theorem pollMeter_result (limits : UsageSamplingLimits) (row : MonitoredMeter) (input : PollInput)
    (store : MeterStore) :
    (¬ PollFails row input ∧
      ∃ sent, ((pollMeter limits row input).eval { store }).1 = .ok (some sent)) ∨
    (PollFails row input ∧ input.failureWrite = .ok () ∧
      ((pollMeter limits row input).eval { store }).1 = .ok none) ∨
    (PollFails row input ∧ ∃ e, input.failureWrite = .error e ∧
      ((pollMeter limits row input).eval { store }).1 = .error e) := by
  rw [eval_pollMeter]
  rcases pollMeterTry_result limits row input store with ⟨ends, sent, run⟩ | ⟨fails, e, run⟩
  · refine .inl ⟨ends, sent, ?_⟩
    rcases hrun : (pollMeterTry limits row input).eval { store } with ⟨_, s'⟩
    rw [hrun] at run
    cases run
    rfl
  · rcases hrun : (pollMeterTry limits row input).eval { store } with ⟨_, s'⟩
    rw [hrun] at run
    cases run
    rcases input.failureWrite with e' | _
    · exact .inr (.inr ⟨fails, e', rfl, rfl⟩)
    · exact .inr (.inl ⟨fails, rfl, rfl⟩)

end

/-! ## Runs of polls -/

/-- A poll, with what it was answered and what it did. -/
structure PollEvent where
  input : PollInput
  report : PollReport

def PollStep (limits : UsageSamplingLimits) (meter : Meter) (store : MeterStore) (e : PollEvent)
    (store' : MeterStore) : Prop :=
  poll limits meter e.input store = (e.report, store')

/-- What a poll does to the measurements. -/
inductive MeasurementStep (limits : UsageSamplingLimits) (m : Measurements) (e : PollEvent) :
    Measurements → Prop
  | failed (fault : ∀ snapshot, e.input.snapshot = .ok snapshot → e.input.successWrite ≠ .ok ())
      (uncommitted : e.report.committed = none) (silent : e.report.attempted = []) :
      MeasurementStep limits m e m
  | recorded (snapshot : NescoSnapshot) (sent : ℕ) (anomalies : List Push)
      (scraped : e.input.snapshot = .ok snapshot) (written : e.input.successWrite = .ok ())
      (committed :
        e.report.committed = some (m.read limits e.input.settings snapshot e.input.now))
      (attempted : e.report.attempted =
        (alertPushes (m.evaluate e.input.settings snapshot) snapshot).take sent ++ anomalies)
      (advisory : ∀ p ∈ anomalies, p.kind = .usageAnomaly) :
      MeasurementStep limits m e (m.record (m.read limits e.input.settings snapshot e.input.now))

theorem PollStep.measurements (h : PollStep limits meter store e store') :
    MeasurementStep limits store.measurements e store'.measurements := by
  rcases poll_cases h with ⟨fault, uncommitted, silent, same⟩ |
    ⟨snapshot, n, anomalies, scraped, written, committed, attempted, advisory, same⟩
  · rw [same]
    exact .failed fault uncommitted silent
  · rw [same]
    exact .recorded snapshot n anomalies scraped written committed attempted advisory

/-- Polls refine the measurements: a run of the one is a run of the other. -/
theorem run_measurements (run : Run (PollStep limits meter) store trace store') :
    Run (MeasurementStep limits) store.measurements trace store'.measurements :=
  run.simulate PollStep.measurements

/-- The readings that the polls of a run committed, oldest first. -/
def committedReadings (trace : List PollEvent) : List CommittedReading :=
  trace.filterMap (·.report.committed)

/-- A poll in which nothing fails. -/
def PollInput.untroubled (snapshot : NescoSnapshot) (now : ℤ) : PollInput where
  settings := none
  snapshot := .ok snapshot
  now
  successWrite := .ok ()
  sendToUser := fun _ => .ok ()
  anomalyNow := now
  usageRead := .ok ()
  anomalyWrite := .ok ()
  failureNow := now
  failureWrite := .ok ()

/-- Runs the polls with the given inputs one after the other. -/
def runPolls (limits : UsageSamplingLimits) (meter : Meter) :
    List PollInput → MeterStore → List PollEvent × MeterStore
  | [], store => ([], store)
  | input :: inputs, store =>
    let (report, store) := poll limits meter input store
    let (trace, store) := runPolls limits meter inputs store
    (⟨input, report⟩ :: trace, store)

theorem runPolls_run (limits : UsageSamplingLimits) (meter : Meter) (inputs : List PollInput)
    (store : MeterStore) :
    Run (PollStep limits meter) store (runPolls limits meter inputs store).1
      (runPolls limits meter inputs store).2 := by
  induction inputs generalizing store with
  | nil => exact .nil
  | cons input inputs ih => exact Run.cons_iff.mpr ⟨_, rfl, ih _⟩

end ElectroSync
