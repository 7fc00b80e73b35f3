import ElectroSync.Alerts.Measurements
import ElectroSync.Library.Batches

/-!
# The sweep over all meters (`alerts/balance-sweep.service.ts`, `sweep`)

The meters are polled in batches, each joined by `Promise.all`. A poll that resolves, even with
`null`, lets the sweep go on; a poll that rejects ends it. A poll rejects when it fails and the
write that should count the failure throws as well, and this is all that can stop a sweep.
-/

namespace ElectroSync
open Throwing Batches

structure SweepSummary where
  checked : ℕ
  failed : ℕ
  alertsSent : ℕ
  skipped : Bool
  deriving DecidableEq

/-- A running sweep: the rows of the meters, the polls it started, and its two counters. -/
structure Sweeping where
  stores : String → MeterStore
  polled : List MonitoredMeter := []
  failed : ℕ := 0
  alertsSent : ℕ := 0

def defaultSweepConcurrency : ℕ := 3

/-- How a promise settles. -/
abbrev Settled := Except String (Option ℕ)

/-- Polls one meter on its own rows, to the end. -/
def startPoll (limits : UsageSamplingLimits) (inputs : MonitoredMeter → PollInput)
    (row : MonitoredMeter) : Throwing Sweeping String Settled := do
  let out ← Throwing.read fun s =>
    (pollMeter limits row (inputs row)).eval { store := s.stores row.meterId }
  Throwing.update fun s => { s with
    stores := Function.update s.stores row.meterId out.2.store
    polled := s.polled ++ [row] }
  return out.1

/-- `batch.map((row) => this.pollMeter(row))`. The polls of a batch touch the rows of different
meters, so it does not matter how they interleave. -/
def startBatch (limits : UsageSamplingLimits) (inputs : MonitoredMeter → PollInput) :
    List MonitoredMeter → Throwing Sweeping String (List Settled)
  | [] => pure []
  | row :: rows => do
    let settled ← startPoll limits inputs row
    let others ← startBatch limits inputs rows
    return settled :: others

/-- `Promise.all` of promises that have settled: one rejection rejects. -/
def promiseAll : List Settled → Except String (List (Option ℕ))
  | [] => .ok []
  | .error e :: _ => .error e
  | .ok outcome :: rest => (promiseAll rest).map (outcome :: ·)

/-- The body of the loop over the outcomes of a batch. -/
def Sweeping.count (s : Sweeping) (outcome : Option ℕ) : Sweeping :=
  match outcome with
  | none => { s with failed := s.failed + 1 }
  | some sent => { s with alertsSent := s.alertsSent + sent }

def sweepBatch (limits : UsageSamplingLimits) (inputs : MonitoredMeter → PollInput)
    (batch : List MonitoredMeter) : Throwing Sweeping String Unit := do
  let settled ← startBatch limits inputs batch
  let outcomes ← Throwing.ofExcept (promiseAll settled)
  Throwing.update fun s => outcomes.foldl Sweeping.count s

/-- One pass over the monitored meters. -/
def sweep (limits : UsageSamplingLimits) (concurrency : Option ℕ)
    (monitoredMeters : Except String (List MonitoredMeter)) (inputs : MonitoredMeter → PollInput) :
    Throwing Sweeping String SweepSummary := do
  let meters ← Throwing.ofExcept monitoredMeters
  if meters.length = 0 then
    return { checked := 0, failed := 0, alertsSent := 0, skipped := false }
  Throwing.forEach (sweepBatch limits inputs)
    (batches (concurrency.getD defaultSweepConcurrency) meters)
  let s ← Throwing.read id
  return {
    checked := meters.length
    failed := s.failed
    alertsSent := s.alertsSent
    skipped := false }

/-! ## How polls settle -/

instance (row : MonitoredMeter) (input : PollInput) : Decidable (PollFails row input) :=
  match h : input.snapshot with
  | .error e => .isTrue fun ⟨snapshot, scraped, _⟩ => by rw [h] at scraped; cases scraped
  | .ok snapshot =>
    decidable_of_iff (¬ (input.successWrite = .ok () ∧
        ∀ p ∈ pushesOf row snapshot, pushOutcome row input.sendToUser p = .ok ())) <| by
      simp [PollFails, h]

section
variable {limits : UsageSamplingLimits} {inputs : MonitoredMeter → PollInput}
  {row : MonitoredMeter} {rows batch : List MonitoredMeter} {s : Sweeping}

/-- The failure of the poll is counted, or there is none. -/
def Counted (inputs : MonitoredMeter → PollInput) (row : MonitoredMeter) : Prop :=
  PollFails row (inputs row) → (inputs row).failureWrite = .ok ()

def failures (inputs : MonitoredMeter → PollInput) (rows : List MonitoredMeter) : ℕ :=
  rows.countP fun row => PollFails row (inputs row)

theorem failures_cons : failures inputs (row :: rows) =
    failures inputs rows + if PollFails row (inputs row) then 1 else 0 := by
  simp [failures, List.countP_cons]

theorem failures_append (rows rows' : List MonitoredMeter) :
    failures inputs (rows ++ rows') = failures inputs rows + failures inputs rows' :=
  List.countP_append

/-- How a poll settles, as far as its row and its answers tell. -/
inductive Settles (inputs : MonitoredMeter → PollInput) (row : MonitoredMeter) : Settled → Prop
  | ended (ends : ¬ PollFails row (inputs row)) : Settles inputs row (.ok (some sent))
  | counted (fails : PollFails row (inputs row)) (written : (inputs row).failureWrite = .ok ()) :
      Settles inputs row (.ok none)
  | rejected (fails : PollFails row (inputs row)) (lost : (inputs row).failureWrite = .error e) :
      Settles inputs row (.error e)

theorem startPoll_spec (limits : UsageSamplingLimits) (inputs : MonitoredMeter → PollInput)
    (row : MonitoredMeter) (s : Sweeping) :
    ∃ settled stores, (startPoll limits inputs row).eval s =
      (.ok settled, { s with stores, polled := s.polled ++ [row] }) ∧
      Settles inputs row settled := by
  refine ⟨_, _, rfl, ?_⟩
  rcases pollMeter_result limits row (inputs row) (s.stores row.meterId) with
    ⟨ends, sent, result⟩ | ⟨fails, written, result⟩ | ⟨fails, e, lost, result⟩
  · rw [result]
    exact .ended ends
  · rw [result]
    exact .counted fails written
  · rw [result]
    exact .rejected fails lost

/-- Every poll of a batch runs and settles. -/
theorem startBatch_spec (limits : UsageSamplingLimits) (rows : List MonitoredMeter)
    (s : Sweeping) :
    ∃ settled stores, (startBatch limits inputs rows).eval s =
      (.ok settled, { s with stores, polled := s.polled ++ rows }) ∧
      List.Forall₂ (Settles inputs) rows settled := by
  induction rows generalizing s with
  | nil => exact ⟨[], s.stores, by simp [startBatch], .nil⟩
  | cons row rows ih =>
    obtain ⟨first, stores, run, settles⟩ := startPoll_spec limits inputs row s
    obtain ⟨rest, stores', run', settle⟩ := ih { s with stores, polled := s.polled ++ [row] }
    refine ⟨first :: rest, stores', ?_, .cons settles settle⟩
    rw [startBatch, eval_bind_ok run, eval_bind_ok run']
    simp

theorem promiseAll_ok {settled : List Settled} (settle : List.Forall₂ (Settles inputs) rows settled)
    (counted : ∀ row ∈ rows, Counted inputs row) :
    ∃ outcomes, promiseAll settled = .ok outcomes ∧
      outcomes.countP (· = none) = failures inputs rows := by
  induction settle with
  | nil => exact ⟨[], rfl, rfl⟩
  | @cons row _ rows _ settles _ ih =>
    obtain ⟨this, others⟩ := List.forall_mem_cons.mp counted
    obtain ⟨outcomes, all, count⟩ := ih others
    cases settles with
    | ended ends =>
      exact ⟨_, by simp only [promiseAll, all]; rfl, by simp [failures_cons, ends, count]⟩
    | counted fails =>
      exact ⟨_, by simp only [promiseAll, all]; rfl, by simp [failures_cons, fails, count]⟩
    | rejected fails lost =>
      rw [this fails] at lost
      cases lost

theorem promiseAll_error {settled : List Settled}
    (settle : List.Forall₂ (Settles inputs) rows settled) (member : row ∈ rows)
    (uncounted : ¬ Counted inputs row) : ∃ e, promiseAll settled = .error e := by
  induction settle with
  | nil => cases member
  | @cons first _ rows _ settles _ ih =>
    rcases List.mem_cons.mp member with rfl | member
    · cases settles with
      | ended ends => exact absurd (fun fails => absurd fails ends) uncounted
      | counted _ written => exact absurd (fun _ => written) uncounted
      | rejected => exact ⟨_, rfl⟩
    · obtain ⟨e, all⟩ := ih member
      cases settles with
      | ended => exact ⟨e, by simp only [promiseAll, all]; rfl⟩
      | counted => exact ⟨e, by simp only [promiseAll, all]; rfl⟩
      | rejected => exact ⟨_, rfl⟩

theorem foldl_count (outcomes : List (Option ℕ)) (s : Sweeping) :
    (outcomes.foldl Sweeping.count s).failed = s.failed + outcomes.countP (· = none) ∧
      (outcomes.foldl Sweeping.count s).polled = s.polled := by
  induction outcomes generalizing s with
  | nil => exact ⟨rfl, rfl⟩
  | cons outcome outcomes ih =>
    obtain ⟨failed, polled⟩ := ih (s.count outcome)
    rw [List.foldl_cons, failed, polled]
    cases outcome with
    | none => exact ⟨by simp [Sweeping.count]; omega, rfl⟩
    | some sent => exact ⟨by simp [Sweeping.count], rfl⟩

/-! ## The loop over the batches -/

theorem sweepBatch_ok (limits : UsageSamplingLimits)
    (counted : ∀ row ∈ batch, Counted inputs row) (s : Sweeping) :
    ∃ s', (sweepBatch limits inputs batch).eval s = (.ok (), s') ∧
      s'.polled = s.polled ++ batch ∧ s'.failed = s.failed + failures inputs batch := by
  obtain ⟨settled, stores, run, settle⟩ := startBatch_spec limits batch s
  obtain ⟨outcomes, all, count⟩ := promiseAll_ok settle counted
  obtain ⟨failed, polled⟩ :=
    foldl_count outcomes { s with stores, polled := s.polled ++ batch }
  refine ⟨_, ?_, polled, by rw [failed, count]⟩
  rw [sweepBatch, eval_bind_ok run, all]
  rfl

theorem sweepBatch_error (limits : UsageSamplingLimits) (member : row ∈ batch)
    (uncounted : ¬ Counted inputs row) (s : Sweeping) :
    ∃ e s', (sweepBatch limits inputs batch).eval s = (.error e, s') := by
  obtain ⟨settled, stores, run, settle⟩ := startBatch_spec limits batch s
  obtain ⟨e, all⟩ := promiseAll_error settle member uncounted
  exact ⟨e, _, by rw [sweepBatch, eval_bind_ok run, all]; rfl⟩

theorem sweepBatches_ok (limits : UsageSamplingLimits) (bs : List (List MonitoredMeter))
    (counted : ∀ row ∈ bs.flatten, Counted inputs row) (s : Sweeping) :
    ∃ s', (forEach (sweepBatch limits inputs) bs).eval s = (.ok (), s') ∧
      s'.polled = s.polled ++ bs.flatten ∧
      s'.failed = s.failed + failures inputs bs.flatten := by
  induction bs generalizing s with
  | nil => exact ⟨s, rfl, by simp, rfl⟩
  | cons batch bs ih =>
    rw [List.flatten_cons] at counted ⊢
    obtain ⟨this, others⟩ := List.forall_mem_append.mp counted
    obtain ⟨s₁, run, polled, failed⟩ := sweepBatch_ok limits this s
    obtain ⟨s₂, run', polled', failed'⟩ := ih others s₁
    refine ⟨s₂, by rw [forEach, eval_bind_ok run, run'], ?_, ?_⟩
    · rw [polled', polled, List.append_assoc]
    · rw [failed', failed, failures_append]
      omega

theorem sweepBatches_error (limits : UsageSamplingLimits) {bs : List (List MonitoredMeter)}
    (member : row ∈ bs.flatten) (uncounted : ¬ Counted inputs row) (s : Sweeping) :
    ∃ e s', (forEach (sweepBatch limits inputs) bs).eval s = (.error e, s') := by
  induction bs generalizing s with
  | nil => cases member
  | cons batch bs ih =>
    rw [forEach, eval_bind]
    rcases hbatch : (sweepBatch limits inputs batch).eval s with ⟨e | _, s₁⟩
    · exact ⟨e, s₁, rfl⟩
    · rw [List.flatten_cons, List.mem_append] at member
      rcases member with member | member
      · obtain ⟨e, s', run⟩ := sweepBatch_error limits member uncounted s
        rw [hbatch] at run
        cases run
      · exact ih member s₁

/-! ## The whole sweep -/

/-- What a pass owes: every meter of the list polled once, in order, and a summary that counts
them and the failed polls. -/
def Completes (inputs : MonitoredMeter → PollInput) (rows : List MonitoredMeter)
    (out : Except String SweepSummary × Sweeping) : Prop :=
  out.2.polled = rows ∧ ∃ summary, out.1 = .ok summary ∧ summary.checked = rows.length ∧
    summary.failed = failures inputs rows

/-- A sweep completes exactly when the failure of every poll that fails can be counted. -/
theorem sweep_completes_iff (limits : UsageSamplingLimits) (concurrency : Option ℕ)
    (rows : List MonitoredMeter) (inputs : MonitoredMeter → PollInput)
    (stores : String → MeterStore) (positive : ∀ c ∈ concurrency, 0 < c) :
    Completes inputs rows ((sweep limits concurrency (.ok rows) inputs).eval { stores }) ↔
      ∀ row ∈ rows, PollFails row (inputs row) → (inputs row).failureWrite = .ok () := by
  have concurrent : 0 < concurrency.getD defaultSweepConcurrency := by
    cases concurrency with
    | none => decide
    | some c => exact positive c rfl
  have cover := flatten_batches concurrent rows
  rcases rows with _ | ⟨row, rows⟩
  · exact ⟨fun _ _ member => absurd member List.not_mem_nil, fun _ => ⟨rfl, _, rfl, rfl, rfl⟩⟩
  have run : (sweep limits concurrency (.ok (row :: rows)) inputs).eval { stores } =
      (do
        forEach (sweepBatch limits inputs)
          (batches (concurrency.getD defaultSweepConcurrency) (row :: rows))
        let s ← Throwing.read id
        return {
          checked := (row :: rows).length
          failed := s.failed
          alertsSent := s.alertsSent
          skipped := false } : Throwing Sweeping String SweepSummary).eval { stores } := rfl
  rw [run]
  constructor
  · rintro ⟨-, summary, completes, -⟩ row' member
    by_contra uncounted
    rw [← cover] at member
    obtain ⟨e, s', loop⟩ := sweepBatches_error limits member uncounted { stores }
    rw [eval_bind_error loop] at completes
    cases completes
  · intro counted
    rw [← cover] at counted
    obtain ⟨s', loop, polled, failed⟩ := sweepBatches_ok limits _ counted { stores }
    have polled : s'.polled = row :: rows := by simpa [cover] using polled
    have failed : s'.failed = failures inputs (row :: rows) := by simpa [cover] using failed
    rw [eval_bind_ok loop]
    exact ⟨polled, _, rfl, rfl, failed⟩

end

/-- Two meters; the second one's scrape fails. -/
def sweptRows : List MonitoredMeter :=
  [MeterStore.monitored {} ⟨"m1", "ayesha", "77", none⟩ none,
    MeterStore.monitored {} ⟨"m2", "rahim", "78", none⟩ none]

def sweptInputs (row : MonitoredMeter) : PollInput :=
  if row.meterId = "m1" then .untroubled ⟨50, none, []⟩ 1000
  else { PollInput.untroubled ⟨50, none, []⟩ 1000 with snapshot := .error "UNREACHABLE" }

theorem sweep_completes_sweptRows :
    Completes sweptInputs sweptRows
      ((sweep ⟨500, 48⟩ (some 1) (.ok sweptRows) sweptInputs).eval { stores := fun _ => {} }) :=
  (sweep_completes_iff ⟨500, 48⟩ (some 1) sweptRows sweptInputs _ (by decide)).mpr
    (by decide +kernel)

/-- The first meter is deleted while the sweep runs: both of its writes violate the foreign key. -/
def deletedInputs (row : MonitoredMeter) : PollInput :=
  { sweptInputs row with
    successWrite := if row.meterId = "m1" then .error "meter_alert_state_meter_id_fk" else .ok ()
    failureWrite := if row.meterId = "m1" then .error "meter_alert_state_meter_id_fk" else .ok () }

/-- A deleted meter ends the sweep, and the meters after it are not polled at all. -/
theorem sweep_not_completes :
    (¬ ∀ limits concurrency rows inputs stores, 0 < concurrency →
      Completes inputs rows
        ((sweep limits (some concurrency) (.ok rows) inputs).eval { stores })) ∧
    ((sweep ⟨500, 48⟩ (some 1) (.ok sweptRows) deletedInputs).eval
      { stores := fun _ => {} }).2.polled.map (·.meterId) = ["m1"] := by
  refine ⟨fun completes => ?_, by decide +kernel⟩
  have swept := (completes ⟨500, 48⟩ 1 sweptRows deletedInputs (fun _ => {}) (by decide)).1
  exact absurd (congrArg List.length swept) (by decide +kernel)

end ElectroSync
