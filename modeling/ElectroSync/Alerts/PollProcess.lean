import ElectroSync.Alerts.Measurements
import ElectroSync.Alerts.SweepTables
import ElectroSync.Library.Footprint

/-!
# A poll as a process on the shared tables

What `pollMeter` does at each of its awaits, as one atomic step. `PollProcess.rest` is the program
that a process has still to run on the rows of its own meter, and a step takes the process to what
is left of it (`next_rest`): so the polls of different meters may interleave in any way, and each
does what `pollMeter` does alone.
-/

namespace ElectroSync
open Throwing Interleaving

/-- The answer of the analytics from the results of its two queries. -/
def usageResponse (query : UsageAnalyticsQueryDto) (range : ResolvedRange) (meterCount : ℕ)
    (rows : List BucketRow) : UsageAnalyticsDto :=
  if meterCount = 0 then emptyUsage query 0
  else
    let points := rows.map fun row => toPoint query row meterCount range.days
    { granularity := query.granularity
      currency := "BDT"
      meterCount
      observedDays := (rows.head?.map (·.observedDays)).getD 0
      points
      total := {
        consumedCost := round (points.map (·.consumedCost)).sum
        rechargedAmount := round (points.map (·.rechargedAmount)).sum } }

theorem usage_eq_response (tables : UsageTables) (userId : String)
    (query : UsageAnalyticsQueryDto) :
    usage tables userId query = (resolveRange query).map fun range =>
      usageResponse query range (countMeters tables userId query.meterId)
        (fetchBuckets tables userId query range) := by
  rw [usage]
  cases resolveRange query with
  | error e => rfl
  | ok range =>
    simp only [usageResponse, Except.map, bind, Except.bind]
    split <;> rfl

/-- The await of `pollMeter` that a poll is at. -/
inductive PollPhase
  | scraping
  | committing (snapshot : NescoSnapshot)
  /-- in the loop over the alerts, of which there are `alerts` in all -/
  | pushing (alerts : ℕ) (pushes : List Push)
  /-- in `checkUsageAnomaly`, at the count of the meters -/
  | counting (alerts : ℕ)
  | fetching (alerts : ℕ) (range : ResolvedRange) (meterCount : ℕ)
  | marking (alerts : ℕ) (finding : AnomalyFinding)
  | notifying (alerts : ℕ) (finding : AnomalyFinding)
  /-- in the `catch` -/
  | failing (reason : String)
  | settled (result : Except String (Option ℕ))

structure PollProcess where
  row : MonitoredMeter
  input : PollInput
  phase : PollPhase := .scraping
  committed : Option CommittedReading := none
  attempted : List Push := []

namespace PollProcess

def goto (p : PollProcess) (phase : PollPhase) : PollProcess := { p with phase }

/-- The check of a usage anomaly ends with `count` pushes. -/
def settle (p : PollProcess) (alerts count : ℕ) : PollProcess :=
  p.goto (.settled (.ok (some (alerts + count))))

def yesterday (p : PollProcess) : ℤ := dhakaDayBefore (dhakaDay p.input.anomalyNow)

/-- The exits of `checkUsageAnomaly` before any query. -/
def exempt (p : PollProcess) : Bool :=
  let settings := overDefaults p.row.settings
  (!truthy settings.pushEnabled || !truthy settings.usageAnomalyAlerts) ||
    p.row.lastAnomalyOn.any (p.yesterday ≤ ·)

def anomalyPush (finding : AnomalyFinding) : Push := ⟨.usageAnomaly, 0, 0, some finding⟩

/-- What the analytics answer to the query of `checkUsageAnomaly`. -/
def outcome (p : PollProcess) (range : ResolvedRange) (meterCount : ℕ) (rows : List BucketRow) :
    AnomalyOutcome :=
  evaluateUsageAnomaly
    (dailyCosts (usageResponse (anomalyQuery p.row p.yesterday) range meterCount rows))
    p.row.settings p.row.lastAnomalyOn

/-- One step of a poll. -/
def next (limits : UsageSamplingLimits) (t : SweepTables) (p : PollProcess) (_ : Unit) :
    Option (SweepTables × PollProcess) :=
  match p.phase with
  | .scraping =>
    match p.input.snapshot with
    | .error e => some (t, p.goto (.failing e))
    | .ok snapshot => some (t, p.goto (.committing snapshot))
  | .committing snapshot =>
    let reading := readingOf limits p.row snapshot p.input.now
    let pushes := pushesOf p.row snapshot
    match p.input.successWrite with
    | .error e => some (t, p.goto (.failing e))
    | .ok _ => some (t.recordSuccess p.row.meterId reading p.input.now,
        { p with committed := some reading, phase := .pushing pushes.length pushes })
  | .pushing alerts [] => some (t, p.goto (.counting alerts))
  | .pushing alerts (push :: pushes) =>
    let p := { p with attempted := p.attempted ++ [push] }
    match pushOutcome p.row p.input.sendToUser push with
    | .error e => some (t, p.goto (.failing e))
    | .ok _ => some (t, p.goto (.pushing alerts pushes))
  -- whatever the check throws counts as no push
  | .counting alerts =>
    if p.exempt then some (t, p.settle alerts 0)
    else match p.input.usageRead, resolveRange (anomalyQuery p.row p.yesterday) with
      | .ok _, .ok range => some (t, p.goto (.fetching alerts range
          (countMeters t.usageTables p.row.userId (some p.row.meterId))))
      | _, _ => some (t, p.settle alerts 0)
  | .fetching alerts range meterCount =>
    let rows := fetchBuckets t.usageTables p.row.userId (anomalyQuery p.row p.yesterday) range
    match p.outcome range meterCount rows with
    | .none _ => some (t, p.settle alerts 0)
    | .anomaly finding => some (t, p.goto (.marking alerts finding))
  | .marking alerts finding =>
    match p.input.anomalyWrite with
    | .error _ => some (t, p.settle alerts 0)
    | .ok _ =>
      some (t.markAnomaly p.row.meterId finding.day, p.goto (.notifying alerts finding))
  | .notifying alerts finding =>
    let p := { p with attempted := p.attempted ++ [anomalyPush finding] }
    match pushOutcome p.row p.input.sendToUser (anomalyPush finding) with
    | .error _ => some (t, p.settle alerts 0)
    | .ok _ => some (t, p.settle alerts 1)
  | .failing reason =>
    match p.input.failureWrite with
    | .error e => some (t, p.goto (.settled (.error e)))
    | .ok _ =>
      some (t.recordFailure p.row.meterId p.input.failureNow reason, p.goto (.settled (.ok none)))
  | .settled _ => none

end PollProcess

/-- The polls of the monitored meters, each started with its row and the world's answers to it. -/
def pollProgram (limits : UsageSamplingLimits) :
    Program SweepTables (MonitoredMeter × PollInput) PollProcess Unit where
  init start := { row := start.1, input := start.2 }
  next := PollProcess.next limits

namespace PollProcess

/-! ## What is left of a poll -/

/-- The `catch` of `pollMeter` around the rest of its `try` block. -/
def catching (p : PollProcess) (x : Throwing Polling String (Option ℕ)) :
    Throwing Polling String (Option ℕ) :=
  tryCatch x fun reason => do
    recordFailure p.input.failureNow reason p.input.failureWrite
    return none

/-- The end of the `try` block: the pushes of the anomaly check are counted, and what it throws is
dropped. -/
def counted (p : PollProcess) (alerts : ℕ) (check : Throwing Polling String ℕ) :
    Throwing Polling String (Option ℕ) :=
  p.catching do
    let anomalies ← tryCatch check fun _ => pure 0
    return some (alerts + anomalies)

def notify (p : PollProcess) (finding : AnomalyFinding) : Throwing Polling String ℕ := do
  push p.row p.input.sendToUser (anomalyPush finding)
  return 1

def mark (p : PollProcess) (finding : AnomalyFinding) : Throwing Polling String ℕ := do
  Throwing.ofExcept p.input.anomalyWrite
  Throwing.update fun s => { s with store := s.store.markAnomaly finding.day }
  p.notify finding

def fetch (p : PollProcess) (range : ResolvedRange) (meterCount : ℕ) :
    Throwing Polling String ℕ := do
  let rows ← Throwing.read fun s =>
    fetchBuckets (s.store.tables p.row) p.row.userId (anomalyQuery p.row p.yesterday) range
  match p.outcome range meterCount rows with
  | .none _ => return 0
  | .anomaly finding => p.mark finding

def commit (limits : UsageSamplingLimits) (p : PollProcess) (snapshot : NescoSnapshot) :
    Throwing Polling String (Option ℕ) := do
  recordSuccess limits p.row
    (evaluate p.row.previous ⟨snapshot.balance, snapshot.recharges⟩ p.row.settings).severity
    (evaluate p.row.previous ⟨snapshot.balance, snapshot.recharges⟩
      p.row.settings).lastRechargeToken
    snapshot p.input.now p.input.successWrite
  afterCommit p.row p.input snapshot

def rest (limits : UsageSamplingLimits) (p : PollProcess) :
    Throwing Polling String (Option ℕ) :=
  match p.phase with
  | .scraping => pollMeter limits p.row p.input
  | .committing snapshot => p.catching (p.commit limits snapshot)
  | .pushing alerts pushes => p.catching do
    forEach (push p.row p.input.sendToUser) pushes
    let anomalies ← tryCatch (checkUsageAnomaly p.row p.input) fun _ => pure 0
    return some (alerts + anomalies)
  | .counting alerts => p.counted alerts (checkUsageAnomaly p.row p.input)
  | .fetching alerts range meterCount => p.counted alerts (p.fetch range meterCount)
  | .marking alerts finding => p.counted alerts (p.mark finding)
  | .notifying alerts finding => p.counted alerts (p.notify finding)
  | .failing reason => do
    recordFailure p.input.failureNow reason p.input.failureWrite
    return none
  | .settled result => Throwing.ofExcept result

/-- A running poll on the rows of its meter. -/
def polling (p : PollProcess) (part : SweepTables.MeterPart) : Polling :=
  ⟨part.store, p.committed, p.attempted⟩

section
variable {limits : UsageSamplingLimits} {t t' : SweepTables} {p p' : PollProcess}

/-! ## What a step writes -/

/-- The statements of a poll of one meter. -/
inductive Writes (meterId : String) (t : SweepTables) : SweepTables → Prop
  | none : Writes meterId t t
  | success (reading : CommittedReading) (now : ℤ) :
    Writes meterId t (t.recordSuccess meterId reading now)
  | failure (now : ℤ) (reason : String) : Writes meterId t (t.recordFailure meterId now reason)
  | anomaly (day : ℤ) : Writes meterId t (t.markAnomaly meterId day)

theorem Writes.part_other {meterId k : String} (writes : Writes meterId t t')
    (other : k ≠ meterId) : t'.part k = t.part k := by
  cases writes with
  | none => rfl
  | success => exact SweepTables.part_recordSuccess_other other
  | failure => exact SweepTables.part_recordFailure_other other
  | anomaly => exact SweepTables.part_markAnomaly_other other

theorem Writes.part_meter {meterId : String} (writes : Writes meterId t t') (k : String) :
    (t'.part k).meter = (t.part k).meter := by
  cases writes <;> rfl

/-- A step keeps the row and the answers of its poll. -/
theorem next_writes (h : p.next limits t () = some (t', p')) :
    p'.row = p.row ∧ p'.input = p.input ∧ Writes p.row.meterId t t' := by
  simp only [next] at h
  split at h
  · split at h <;> cases h <;> exact ⟨rfl, rfl, .none⟩
  · split at h <;> cases h
    · exact ⟨rfl, rfl, .none⟩
    · exact ⟨rfl, rfl, .success _ _⟩
  · cases h
    exact ⟨rfl, rfl, .none⟩
  · split at h <;> cases h <;> exact ⟨rfl, rfl, .none⟩
  · split at h
    · cases h
      exact ⟨rfl, rfl, .none⟩
    · split at h <;> cases h <;> exact ⟨rfl, rfl, .none⟩
  · split at h <;> cases h <;> exact ⟨rfl, rfl, .none⟩
  · split at h <;> cases h
    · exact ⟨rfl, rfl, .none⟩
    · exact ⟨rfl, rfl, .anomaly _⟩
  · split at h <;> cases h <;> exact ⟨rfl, rfl, .none⟩
  · split at h <;> cases h
    · exact ⟨rfl, rfl, .none⟩
    · exact ⟨rfl, rfl, .failure _ _⟩
  · cases h

/-! ## A step leaves the rest -/

theorem eval_counted_ok {check : Throwing Polling String ℕ} {count : ℕ} {s s' : Polling}
    (h : check.eval s = (.ok count, s')) (alerts : ℕ) :
    (p.counted alerts check).eval s = (.ok (some (alerts + count)), s') := by
  simp only [counted, catching, eval_tryCatch, eval_bind, h]
  rfl

/-- What the anomaly check throws counts as no push. -/
theorem eval_counted_error {check : Throwing Polling String ℕ} {e : String} {s s' : Polling}
    (h : check.eval s = (.error e, s')) (alerts : ℕ) :
    (p.counted alerts check).eval s = (.ok (some (alerts + 0)), s') := by
  simp only [counted, catching, eval_tryCatch, eval_bind, h]
  rfl

theorem eval_counted_congr {check check' : Throwing Polling String ℕ} {s s' : Polling}
    (h : check.eval s = check'.eval s') (alerts : ℕ) :
    (p.counted alerts check).eval s = (p.counted alerts check').eval s' := by
  rcases h' : check'.eval s' with ⟨e | count, after⟩
  · rw [eval_counted_error (h.trans h'), eval_counted_error h']
  · rw [eval_counted_ok (h.trans h'), eval_counted_ok h']

theorem eval_catching_congr {x y : Throwing Polling String (Option ℕ)} {s s' : Polling}
    (h : x.eval s = y.eval s') : (p.catching x).eval s = (p.catching y).eval s' := by
  rw [catching, catching, eval_tryCatch, eval_tryCatch, h]

theorem eval_catching_error (limits : UsageSamplingLimits)
    {x : Throwing Polling String (Option ℕ)} {s s' : Polling} {reason : String}
    (h : x.eval s = (.error reason, s')) :
    (p.catching x).eval s = ((p.goto (.failing reason)).rest limits).eval s' := by
  rw [catching, eval_tryCatch, h]
  rfl

/-- The exits of the anomaly check before any query. -/
theorem eval_check_exempt (exempt : p.exempt = true) (s : Polling) :
    (checkUsageAnomaly p.row p.input).eval s = (.ok 0, s) := by
  rw [PollProcess.exempt, Bool.or_eq_true] at exempt
  rw [checkUsageAnomaly]
  split
  · rfl
  · next on =>
    rw [yesterday] at exempt
    simp only [exempt.resolve_left on, if_true, eval_pure]

/-- The queries of the anomaly check, and what follows them. -/
theorem eval_check_queries (queries : p.exempt = false) (s : Polling) :
    (checkUsageAnomaly p.row p.input).eval s =
      match p.input.usageRead, resolveRange (anomalyQuery p.row p.yesterday) with
      | .ok _, .ok range => (p.fetch range
          (countMeters (s.store.tables p.row) p.row.userId (some p.row.meterId))).eval s
      | .ok _, .error e => (.error e.message, s)
      | .error e, _ => (.error e, s) := by
  rw [exempt, Bool.or_eq_false_iff] at queries
  obtain ⟨on, fresh⟩ := queries
  rw [yesterday] at fresh
  simp only [checkUsageAnomaly, on, yesterday, Bool.false_eq_true, if_false]
  rw [fresh]
  simp only [Bool.false_eq_true, if_false]
  rcases p.input.usageRead with e | _
  · rfl
  simp only [eval_bind, eval_ofExcept, eval_read, usage_eq_response]
  rcases resolveRange (anomalyQuery p.row (dhakaDayBefore (dhakaDay p.input.anomalyNow))) with
    e | range
  · rfl
  simp only [Except.map, Except.mapError, fetch, eval_bind, eval_read, outcome, yesterday]
  rfl

theorem eval_fetch_none {reason : NoAnomalyReason} {s : Polling}
    (h : p.outcome range meterCount (fetchBuckets (s.store.tables p.row) p.row.userId
      (anomalyQuery p.row p.yesterday) range) = .none reason) :
    (p.fetch range meterCount).eval s = (.ok 0, s) := by
  rw [fetch, eval_bind_ok (eval_read _ _), h]
  rfl

theorem eval_fetch_anomaly {finding : AnomalyFinding} {s : Polling}
    (h : p.outcome range meterCount (fetchBuckets (s.store.tables p.row) p.row.userId
      (anomalyQuery p.row p.yesterday) range) = .anomaly finding) :
    (p.fetch range meterCount).eval s = (p.mark finding).eval s := by
  rw [fetch, eval_bind_ok (eval_read _ _), h]

/-- What `p` has to run on the rows of its meter in `t` is what `p'` has to run on those in `t'`. -/
def Continues (limits : UsageSamplingLimits) (t : SweepTables) (p : PollProcess)
    (t' : SweepTables) (p' : PollProcess) : Prop :=
  (p.rest limits).eval (p.polling (t.part p.row.meterId)) =
    (p'.rest limits).eval (p'.polling (t'.part p.row.meterId))

theorem continues_of_scraping (here : p.phase = .scraping)
    (h : p.next limits t () = some (t', p')) : Continues limits t p t' p' := by
  simp only [next, here] at h
  simp only [Continues, rest, here]
  rcases scraped : p.input.snapshot with e | snapshot <;> rw [scraped] at h <;> cases h
  · refine eval_catching_error limits (x := pollMeterTry limits p.row p.input) ?_
    rw [pollMeterTry, scraped]
    exact eval_bind_error (eval_ofExcept _ _)
  · refine eval_catching_congr (x := pollMeterTry limits p.row p.input) ?_
    rw [pollMeterTry, scraped]
    exact eval_bind_ok (eval_ofExcept _ _)

theorem continues_of_committing (here : p.phase = .committing snapshot)
    (h : p.next limits t () = some (t', p')) : Continues limits t p t' p' := by
  simp only [next, here] at h
  simp only [Continues, rest, here]
  rcases written : p.input.successWrite with e | _ <;> rw [written] at h <;> cases h
  · refine eval_catching_error limits ?_
    rw [commit, recordSuccess, written]
    exact eval_bind_error (eval_bind_error (eval_ofExcept _ _))
  · refine eval_catching_congr ?_
    rw [commit, recordSuccess, written, polling, polling, SweepTables.part_recordSuccess_self]
    refine (eval_bind_ok ((eval_bind_ok (eval_ofExcept _ _)).trans (eval_update _ _))).trans ?_
    rw [afterCommit, pushesOf, alertPushes, List.length_map]
    rfl

theorem continues_of_pushing (here : p.phase = .pushing alerts pushes)
    (h : p.next limits t () = some (t', p')) : Continues limits t p t' p' := by
  cases pushes with
  | nil =>
    simp only [next, here] at h
    cases h
    simp only [Continues, rest, here]
    rfl
  | cons first pushes =>
    simp only [next, here] at h
    simp only [Continues, rest, here]
    rcases sent : pushOutcome p.row p.input.sendToUser first with e | _ <;> rw [sent] at h <;>
      cases h
    · refine eval_catching_error limits (eval_bind_error (eval_bind_error ?_))
      rw [eval_push, sent]
      rfl
    · refine eval_catching_congr ?_
      rw [forEach, eval_bind, eval_bind, eval_bind, eval_push, sent]
      rfl

theorem continues_of_counting (holds : (t.part p.row.meterId).Holds p.row)
    (here : p.phase = .counting alerts) (h : p.next limits t () = some (t', p')) :
    Continues limits t p t' p' := by
  simp only [next, here] at h
  simp only [Continues, rest, here]
  split at h
  · next exempt =>
    cases h
    exact eval_counted_ok (eval_check_exempt exempt _) alerts
  next queries =>
  have check := eval_check_queries (by simpa using queries) (p.polling (t.part p.row.meterId))
  rcases read : p.input.usageRead with e | _
  · rw [read] at h check
    cases h
    exact eval_counted_error check alerts
  rcases accepted : resolveRange (anomalyQuery p.row p.yesterday) with e | range
  · rw [read, accepted] at h check
    cases h
    exact eval_counted_error check alerts
  · rw [read, accepted] at h check
    cases h
    refine eval_counted_congr (check.trans ?_) alerts
    rw [SweepTables.countMeters_part holds]
    rfl

theorem continues_of_fetching (holds : (t.part p.row.meterId).Holds p.row)
    (here : p.phase = .fetching alerts range meterCount)
    (h : p.next limits t () = some (t', p')) : Continues limits t p t' p' := by
  simp only [next, here, SweepTables.fetchBuckets_part holds] at h
  simp only [Continues, rest, here]
  split at h
  · next none_ =>
    cases h
    have fetched := eval_fetch_none (s := p.polling (t.part p.row.meterId)) none_
    exact eval_counted_ok fetched alerts
  · next finding found =>
    cases h
    have fetched := eval_fetch_anomaly (s := p.polling (t.part p.row.meterId)) found
    exact eval_counted_congr fetched alerts

theorem continues_of_marking (here : p.phase = .marking alerts finding)
    (h : p.next limits t () = some (t', p')) : Continues limits t p t' p' := by
  simp only [next, here] at h
  simp only [Continues, rest, here]
  rcases written : p.input.anomalyWrite with e | _ <;> rw [written] at h <;> cases h
  · refine eval_counted_error (e := e) ?_ alerts
    rw [mark, written]
    exact eval_bind_error (eval_ofExcept _ _)
  · refine eval_counted_congr ?_ alerts
    rw [mark, written, polling, polling, SweepTables.part_markAnomaly_self]
    exact (eval_bind_ok (eval_ofExcept _ _)).trans (eval_bind_ok (eval_update _ _))

theorem continues_of_notifying (here : p.phase = .notifying alerts finding)
    (h : p.next limits t () = some (t', p')) : Continues limits t p t' p' := by
  simp only [next, here] at h
  simp only [Continues, rest, here]
  rcases sent : pushOutcome p.row p.input.sendToUser (anomalyPush finding) with e | _ <;>
    rw [sent] at h <;> cases h
  · refine eval_counted_error (e := e) (eval_bind_error ?_) alerts
    rw [eval_push, sent]
    rfl
  · refine eval_counted_ok ?_ alerts
    rw [notify, eval_bind, eval_push, sent]
    rfl

theorem continues_of_failing (here : p.phase = .failing reason)
    (h : p.next limits t () = some (t', p')) : Continues limits t p t' p' := by
  simp only [next, here] at h
  simp only [Continues, rest, here, recordFailure]
  rcases written : p.input.failureWrite with e | _ <;> rw [written] at h <;> cases h
  · exact eval_bind_error (eval_bind_error (eval_ofExcept _ _))
  · rw [polling, polling, SweepTables.part_recordFailure_self]
    exact eval_bind_ok ((eval_bind_ok (eval_ofExcept _ _)).trans (eval_update _ _))

/-- A step takes the poll to what is left of it. -/
theorem next_continues (holds : (t.part p.row.meterId).Holds p.row)
    (h : p.next limits t () = some (t', p')) : Continues limits t p t' p' := by
  cases here : p.phase with
  | scraping => exact continues_of_scraping here h
  | committing => exact continues_of_committing here h
  | pushing => exact continues_of_pushing here h
  | counting => exact continues_of_counting holds here h
  | fetching => exact continues_of_fetching holds here h
  | marking => exact continues_of_marking here h
  | notifying => exact continues_of_notifying here h
  | failing => exact continues_of_failing here h
  | settled =>
    simp only [next, here] at h
    cases h

/-! ## A poll always ends -/

/-- How many steps a poll takes from here at most. -/
def stepsLeft (p : PollProcess) : ℕ :=
  match p.phase with
  | .scraping =>
    match p.input.snapshot with
    | .error _ => 2
    | .ok snapshot => (pushesOf p.row snapshot).length + 8
  | .committing snapshot => (pushesOf p.row snapshot).length + 7
  | .pushing _ pushes => pushes.length + 6
  | .counting _ => 5
  | .fetching _ _ _ => 4
  | .marking _ _ => 3
  | .notifying _ _ => 2
  | .failing _ => 1
  | .settled _ => 0

theorem next_stepsLeft (h : p.next limits t () = some (t', p')) : p'.stepsLeft < p.stepsLeft := by
  cases here : p.phase with
  | scraping =>
    simp only [next, here] at h
    simp only [stepsLeft, here]
    split at h <;> cases h
    · simp [goto]
    · simp [goto]
  | committing =>
    simp only [next, here] at h
    simp only [stepsLeft, here]
    split at h <;> cases h <;> simp [goto]
  | pushing alerts pushes =>
    cases pushes <;> simp only [next, here] at h <;> simp only [stepsLeft, here]
    · cases h
      simp [goto]
    · split at h <;> cases h <;> simp [goto]
  | counting =>
    simp only [next, here] at h
    simp only [stepsLeft, here]
    split at h
    · cases h
      simp [settle, goto]
    · split at h <;> cases h <;> simp [settle, goto]
  | fetching =>
    simp only [next, here] at h
    simp only [stepsLeft, here]
    split at h <;> cases h <;> simp [settle, goto]
  | marking =>
    simp only [next, here] at h
    simp only [stepsLeft, here]
    split at h <;> cases h <;> simp [settle, goto]
  | notifying =>
    simp only [next, here] at h
    simp only [stepsLeft, here]
    split at h <;> cases h <;> simp [settle, goto]
  | failing =>
    simp only [next, here] at h
    simp only [stepsLeft, here]
    split at h <;> cases h <;> simp [goto]
  | settled =>
    simp only [next, here] at h
    cases h

/-- A poll that has not settled can move, whatever the other polls have written. -/
theorem next_of_unsettled (limits : UsageSamplingLimits) (t : SweepTables)
    (unsettled : ∀ result, p.phase ≠ .settled result) : (p.next limits t ()).isSome := by
  cases here : p.phase with
  | pushing alerts pushes =>
    cases pushes <;> simp only [next, here]
    · rfl
    · split <;> rfl
  | counting =>
    simp only [next, here]
    split
    · rfl
    · split <;> rfl
  | settled result => exact absurd here (unsettled result)
  | _ =>
    simp only [next, here]
    split <;> rfl

end

end PollProcess

/-! ## The part of a poll -/

/-- A poll touches the rows of its own meter only. -/
theorem pollProgram_framed (limits : UsageSamplingLimits) :
    Framed (pollProgram limits) (fun p => p.row.meterId) SweepTables.part where
  owner_eq h := by rw [(PollProcess.next_writes h).1]
  view_eq h other := (PollProcess.next_writes h).2.2.part_other other

end ElectroSync
