import ElectroSync.Alerts.AlertEvaluation
import ElectroSync.Alerts.UsageAnomaly
import ElectroSync.Analytics.Usage
import ElectroSync.Library.Throwing

/-!
# One poll of a meter (`alerts/balance-sweep.service.ts`, `pollMeter`)

A poll reads and writes the rows of its meter and may throw wherever the source awaits something
outside the process; `PollInput` says what each of these answers. The state of a running poll also
records what it committed and which pushes it attempted, which the source does not store.
-/

namespace ElectroSync

/-- A row of `meter_alert_state`; the defaults are those of an insert. -/
structure MeterAlertState where
  severity : AlertSeverity := .ok
  lastBalance : Option ℚ := none
  lastBalanceAt : Option ℤ := none
  lastRechargeToken : Option String := none
  lastAnomalyOn : Option ℤ := none
  lastCheckedAt : Option ℤ := none
  lastFailureReason : Option String := none
  consecutiveFailures : ℕ := 0
  deriving DecidableEq

/-- The rows of one meter in `meter_alert_state` and `meter_usage_sample`. -/
structure MeterStore where
  alertState : Option MeterAlertState := none
  samples : List UsageSample := []
  deriving DecidableEq

structure Meter where
  id : String
  userId : String
  customerNo : String
  label : Option String
  deriving DecidableEq

structure MonitoredMeter where
  meterId : String
  userId : String
  customerNo : String
  label : Option String
  settings : Option UserSettings
  severity : Option AlertSeverity
  lastRechargeToken : Option String
  lastBalance : Option ℚ
  lastBalanceAt : Option ℤ
  lastAnomalyOn : Option ℤ
  deriving DecidableEq

/-- The row `monitoredMeters` selects: the alert state comes in by a left join. -/
def MeterStore.monitored (store : MeterStore) (meter : Meter) (settings : Option UserSettings) :
    MonitoredMeter where
  meterId := meter.id
  userId := meter.userId
  customerNo := meter.customerNo
  label := meter.label
  settings
  severity := store.alertState.map (·.severity)
  lastRechargeToken := store.alertState.bind (·.lastRechargeToken)
  lastBalance := store.alertState.bind (·.lastBalance)
  lastBalanceAt := store.alertState.bind (·.lastBalanceAt)
  lastAnomalyOn := store.alertState.bind (·.lastAnomalyOn)

def MonitoredMeter.previous (row : MonitoredMeter) : PreviousState :=
  match row.severity with
  | some severity => ⟨severity, row.lastRechargeToken⟩
  | none => initialState

/-- The arguments of a call of `push`. -/
structure Push where
  kind : AlertKind
  balance : ℚ
  rechargeAmount : ℚ
  anomaly : Option AnomalyFinding
  deriving DecidableEq

/-- What a `recordSuccess` transaction wrote. -/
structure CommittedReading where
  severity : AlertSeverity
  lastRechargeToken : Option String
  balance : ℚ
  readingAt : ℤ
  sample : Option UsageSample
  deriving DecidableEq

structure Polling where
  store : MeterStore
  committed : Option CommittedReading := none
  attempted : List Push := []

/-- What the world answers during one poll. Each `Except` is the fault, if any, of one `await`. -/
structure PollInput where
  settings : Option UserSettings
  snapshot : Except String NescoSnapshot
  now : ℤ
  successWrite : Except String Unit
  sendToUser : Push → Except String Unit
  anomalyNow : ℤ
  usageRead : Except String Unit
  anomalyWrite : Except String Unit
  failureNow : ℤ
  failureWrite : Except String Unit

/-! ## Writes -/

/-- `ON CONFLICT DO NOTHING` on the key `(meter_id, window_start)`. -/
def insertSample (samples : List UsageSample) (sample : UsageSample) : List UsageSample :=
  if samples.any fun s => s.windowStart = sample.windowStart then samples else samples ++ [sample]

/-- The sample, when there is one, is inserted first. -/
def insertBuilt (samples : List UsageSample) : Option UsageSample → List UsageSample
  | none => samples
  | some sample => insertSample samples sample

namespace MeterStore

/-- The two statements of the transaction of `recordSuccess`. -/
def recordSuccess (store : MeterStore) (reading : CommittedReading) (now : ℤ) : MeterStore where
  samples := insertBuilt store.samples reading.sample
  -- the upsert keeps the column it does not set, `last_anomaly_on`
  alertState := some { store.alertState.getD {} with
    severity := reading.severity
    lastRechargeToken := reading.lastRechargeToken
    lastBalance := some reading.balance
    lastBalanceAt := some reading.readingAt
    lastCheckedAt := some now
    lastFailureReason := none
    consecutiveFailures := 0 }

def recordFailure (store : MeterStore) (now : ℤ) (reason : String) : MeterStore where
  samples := store.samples
  alertState := match store.alertState with
    | none => some {
        lastCheckedAt := some now
        lastFailureReason := some reason
        consecutiveFailures := 1 }
    -- severity and balance are untouched: a failed scrape says nothing about them
    | some state => some { state with
        lastCheckedAt := some now
        lastFailureReason := some reason
        consecutiveFailures := state.consecutiveFailures + 1 }

def markAnomaly (store : MeterStore) (day : ℤ) : MeterStore where
  samples := store.samples
  alertState := store.alertState.map fun state => { state with lastAnomalyOn := some day }

/-- The tables of the analytics query, as far as a query about this one meter can see. -/
def tables (store : MeterStore) (row : MonitoredMeter) : UsageTables where
  meter := [⟨row.meterId, row.userId⟩]
  meterUsageSample := store.samples.map fun s => {
    meterId := row.meterId
    windowStart := s.windowStart * 1000
    windowEnd := s.windowEnd * 1000
    consumedCost := s.consumedCost
    rechargePaid := s.rechargePaid
    advances := by have := s.advances; omega }
  meter_pk := by simp

end MeterStore

/-! ## The poll -/

def buildSample (limits : UsageSamplingLimits) (row : MonitoredMeter) (snapshot : NescoSnapshot)
    (readingAt : ℤ) : Option UsageSample :=
  match row.lastBalance, row.lastBalanceAt with
  | some openingBalance, some windowStart =>
    buildUsageSample {
      openingBalance
      closingBalance := snapshot.balance
      windowStart
      windowEnd := readingAt
      recharges := snapshot.recharges } limits
  | _, _ => none

def recordSuccess (limits : UsageSamplingLimits) (row : MonitoredMeter) (severity : AlertSeverity)
    (lastRechargeToken : Option String) (snapshot : NescoSnapshot) (now : ℤ)
    (write : Except String Unit) : Throwing Polling String Unit := do
  let readingAt := (resolveReadingInstant snapshot.balanceAsOf now).instant
  let reading : CommittedReading := {
    severity
    lastRechargeToken
    balance := snapshot.balance
    readingAt
    sample := buildSample limits row snapshot readingAt }
  -- a transaction that fails leaves nothing behind
  Throwing.ofExcept write
  Throwing.update fun p =>
    { p with store := p.store.recordSuccess reading now, committed := some reading }

def recordFailure (now : ℤ) (reason : String) (write : Except String Unit) :
    Throwing Polling String Unit := do
  Throwing.ofExcept write
  Throwing.update fun p => { p with store := p.store.recordFailure now reason }

/-- The column and payload text of a kind. -/
def AlertKind.text : AlertKind → String
  | .lowBalance => "LOW_BALANCE"
  | .balanceDepleted => "BALANCE_DEPLETED"
  | .rechargeDetected => "RECHARGE_DETECTED"
  | .usageAnomaly => "USAGE_ANOMALY"

def push (row : MonitoredMeter) (sendToUser : Push → Except String Unit) (p : Push) :
    Throwing Polling String Unit := do
  Throwing.update fun s => { s with attempted := s.attempted ++ [p] }
  match (overDefaults row.settings).language with
  -- `COPY[null][kind]`
  | none => throw s!"Cannot read properties of undefined (reading '{p.kind.text}')"
  | some _ => Throwing.ofExcept (sendToUser p)

/-- The completed days of an answer of the analytics. -/
def dailyCosts (usage : UsageAnalyticsDto) : List DailyCost :=
  usage.points.filterMap fun point => point.date.map fun day => ⟨day, point.consumedCost⟩

/-- The query of `checkUsageAnomaly`: the baseline days and yesterday. -/
def anomalyQuery (row : MonitoredMeter) (yesterday : ℤ) : UsageAnalyticsQueryDto where
  granularity := .daily
  fromDay := some (dhakaDaysBefore yesterday anomalyBaselineDays)
  toDay := some yesterday
  meterId := some row.meterId

def checkUsageAnomaly (row : MonitoredMeter) (input : PollInput) : Throwing Polling String ℕ := do
  let settings := overDefaults row.settings
  if !truthy settings.pushEnabled || !truthy settings.usageAnomalyAlerts then return 0
  let yesterday := dhakaDayBefore (dhakaDay input.anomalyNow)
  -- a day already reported is not reported again
  if row.lastAnomalyOn.any (yesterday ≤ ·) then return 0
  Throwing.ofExcept input.usageRead
  let tables ← Throwing.read fun p => p.store.tables row
  let answer ← Throwing.ofExcept <|
    (usage tables row.userId (anomalyQuery row yesterday)).mapError (·.message)
  match evaluateUsageAnomaly (dailyCosts answer) row.settings row.lastAnomalyOn with
  | .none _ => return 0
  | .anomaly finding =>
    Throwing.ofExcept input.anomalyWrite
    Throwing.update fun p => { p with store := p.store.markAnomaly finding.day }
    push row input.sendToUser ⟨.usageAnomaly, 0, 0, some finding⟩
    return 1

/-- The pushes of the alerts of an evaluation, in order. -/
def alertPushes (result : Evaluation) (snapshot : NescoSnapshot) : List Push :=
  result.alerts.map fun kind =>
    ⟨kind, snapshot.balance, (result.newRecharge.map (·.rechargeAmount)).getD 0, none⟩

/-- The `try` block of `pollMeter`. -/
def pollMeterTry (limits : UsageSamplingLimits) (row : MonitoredMeter) (input : PollInput) :
    Throwing Polling String (Option ℕ) := do
  let snapshot ← Throwing.ofExcept input.snapshot
  let result := evaluate row.previous ⟨snapshot.balance, snapshot.recharges⟩ row.settings
  -- persisted before sending: an alert is dropped rather than sent twice
  recordSuccess limits row result.severity result.lastRechargeToken snapshot input.now
    input.successWrite
  Throwing.forEach (push row input.sendToUser) (alertPushes result snapshot)
  let anomalies ← tryCatch (checkUsageAnomaly row input) fun _ => pure 0
  return some (result.alerts.length + anomalies)

/-- Polls one meter. Returns the number of alerts sent, `none` when the poll failed. -/
def pollMeter (limits : UsageSamplingLimits) (row : MonitoredMeter) (input : PollInput) :
    Throwing Polling String (Option ℕ) :=
  tryCatch (pollMeterTry limits row input) fun reason => do
    -- this write is outside the `try`: when it throws, the poll rejects
    recordFailure input.failureNow reason input.failureWrite
    return none

structure PollReport where
  committed : Option CommittedReading
  attempted : List Push
  result : Except String (Option ℕ)

/-- A poll of a meter whose row was read from `store`. -/
def poll (limits : UsageSamplingLimits) (meter : Meter) (input : PollInput) (store : MeterStore) :
    PollReport × MeterStore :=
  let out := (pollMeter limits (store.monitored meter input.settings) input).eval { store }
  (⟨out.2.committed, out.2.attempted, out.1⟩, out.2.store)

end ElectroSync
