import ElectroSync.Alerts.SweepOutcome
import ElectroSync.Alerts.PollProcess

/-!
# The sweep with its polls running at the same time

`ConcurrentSweep` is `sweep` as the event loop runs it. The polls of a batch take their steps in any
order; `Promise.all` resolves when all of them have, and rejects as soon as one has, while the
others of its batch run on. `sweep_interleaves` says that when all is over the tables, the polls and
the summary are those of `sweep`, which polls one meter after the other.
-/

namespace ElectroSync
open Throwing Interleaving Transition Batches

inductive SweepStatus
  | running
  | resolved
  | rejected (reason : String)
  deriving DecidableEq

structure ConcurrentSweep where
  /-- the tables, and the polls started so far -/
  system : System SweepTables PollProcess
  /-- how many of the polls were joined -/
  joined : ℕ := 0
  waiting : List (List MonitoredMeter) := []
  failed : ℕ := 0
  alertsSent : ℕ := 0
  status : SweepStatus := .running

inductive SweepMove
  | poll (i : ℕ)
  /-- `Promise.all` of the batch resolves -/
  | join
  /-- it rejects, with what the poll `i` threw -/
  | reject (i : ℕ)
  deriving DecidableEq

namespace PollProcess

def result (p : PollProcess) : Option Settled :=
  match p.phase with
  | .settled result => some result
  | _ => none

theorem phase_of_result {p : PollProcess} {result : Settled} (h : p.result = some result) :
    p.phase = .settled result := by
  simp only [PollProcess.result] at h
  split at h
  · next here =>
    cases h
    exact here
  · cases h

theorem next_of_result {p : PollProcess} {result : Settled} {limits : UsageSamplingLimits}
    {t : SweepTables} {after : SweepTables × PollProcess} (h : p.result = some result) :
    p.next limits t () ≠ some after := by
  simp [PollProcess.next, phase_of_result h]

end PollProcess

/-- What `Promise.all` resolves with, once all polls have resolved. -/
def resolvedWith : List PollProcess → Option (List (Option ℕ))
  | [] => some []
  | p :: polls =>
    match p.result with
    | some (.ok outcome) => (resolvedWith polls).map (outcome :: ·)
    | _ => none

namespace ConcurrentSweep

/-- The body of the loop over the outcomes of a batch. -/
def count (s : ConcurrentSweep) (outcome : Option ℕ) : ConcurrentSweep :=
  match outcome with
  | none => { s with failed := s.failed + 1 }
  | some sent => { s with alertsSent := s.alertsSent + sent }

def startBatch (inputs : MonitoredMeter → PollInput) (batch : List MonitoredMeter)
    (s : ConcurrentSweep) : ConcurrentSweep :=
  { s with system := { s.system with
      procs := s.system.procs ++ batch.map fun row => { row, input := inputs row } } }

/-- The head of the loop over the batches. -/
def nextBatch (inputs : MonitoredMeter → PollInput) (s : ConcurrentSweep) : ConcurrentSweep :=
  match s.waiting with
  | [] => { s with status := .resolved }
  | batch :: waiting => startBatch inputs batch { s with waiting }

def start (inputs : MonitoredMeter → PollInput) (t : SweepTables)
    (bs : List (List MonitoredMeter)) : ConcurrentSweep :=
  nextBatch inputs { system := ⟨t, []⟩, waiting := bs }

def step (limits : UsageSamplingLimits) (inputs : MonitoredMeter → PollInput)
    (s : ConcurrentSweep) : SweepMove → Option ConcurrentSweep
  | .poll i => (Interleaving.step (pollProgram limits) s.system (.advance i ())).map fun system =>
      { s with system }
  | .join =>
    match s.status, resolvedWith (s.system.procs.drop s.joined) with
    | .running, some outcomes => some <|
        nextBatch inputs { outcomes.foldl count s with joined := s.system.procs.length }
    | _, _ => none
  | .reject i =>
    match s.status, (s.system.procs[i]?).bind PollProcess.result with
    | .running, some (.error reason) =>
      if s.joined ≤ i then some { s with status := .rejected reason } else none
    | _, _ => none

/-- All is over: the sweep has settled, and so have all of its polls. -/
def Over (s : ConcurrentSweep) : Prop :=
  s.status ≠ .running ∧ ∀ p ∈ s.system.procs, p.result.isSome

/-! ## What holds while it runs -/

/-- The rows of the meters as a sweep finds them. -/
def storesOf (t : SweepTables) (meterId : String) : MeterStore := (t.part meterId).store

/-- A poll is on the way from what it found to what it comes to. -/
structure OnTheWay (limits : UsageSamplingLimits) (inputs : MonitoredMeter → PollInput)
    (t : SweepTables) (part : SweepTables.MeterPart) (p : PollProcess) : Prop where
  holds : part.Holds p.row
  input_eq : p.input = inputs p.row
  rest_eq : (p.rest limits).eval (p.polling part) = ran limits inputs (storesOf t) p.row

/-- A sweep of the tables `t` has joined the batches `pre` and may have started `batch`. -/
structure Follows (limits : UsageSamplingLimits) (inputs : MonitoredMeter → PollInput)
    (t : SweepTables) (pre : List (List MonitoredMeter)) (batch : List MonitoredMeter)
    (s : ConcurrentSweep) : Prop where
  rows_eq : s.system.procs.map (·.row) = pre.flatten ++ batch
  joined_eq : s.joined = pre.flatten.length
  resolved : ∀ i p, i < s.joined → s.system.procs[i]? = some p →
    ∃ outcome, p.result = some (.ok outcome)
  failed_eq : s.failed = failedPolls limits inputs (storesOf t) pre.flatten
  alertsSent_eq : s.alertsSent = alertsOf limits inputs (storesOf t) pre.flatten
  polls : Locally (·.row.meterId) SweepTables.part (OnTheWay limits inputs t) s.system
  others : ∀ k, k ∉ owners (·.row.meterId) s.system → s.system.shared.part k = t.part k

section
variable {limits : UsageSamplingLimits} {inputs : MonitoredMeter → PollInput}
  {t : SweepTables} {s s' : ConcurrentSweep} {pre : List (List MonitoredMeter)}
  {batch : List MonitoredMeter} {p : PollProcess} {i : ℕ}

theorem OnTheWay.settled {part : SweepTables.MeterPart} {result : Settled}
    (h : OnTheWay limits inputs t part p) (settled : p.result = some result) :
    ran limits inputs (storesOf t) p.row = (result, p.polling part) := by
  rw [← h.rest_eq, PollProcess.rest, PollProcess.phase_of_result settled]
  rfl

theorem Follows.owners_eq (h : Follows limits inputs t pre batch s) :
    owners (·.row.meterId) s.system = (pre.flatten ++ batch).map (·.meterId) := by
  rw [owners, ← h.rows_eq, List.map_map]
  rfl

/-- The batch in flight are the polls that are not joined. -/
theorem Follows.batch_eq (h : Follows limits inputs t pre batch s) :
    batch = (s.system.procs.drop s.joined).map (·.row) := by
  rw [List.map_drop, h.rows_eq, h.joined_eq, List.drop_left]

theorem Follows.ran_of_settled {result : Settled} (h : Follows limits inputs t pre batch s)
    (here : s.system.procs[i]? = some p) (settled : p.result = some result) :
    (ran limits inputs (storesOf t) p.row).1 = result := by
  rw [(h.polls i p here).settled settled]

theorem Follows.poll (h : Follows limits inputs t pre batch s)
    (ids : ((pre.flatten ++ batch).map (·.meterId)).Nodup)
    (moved : step limits inputs s (.poll i) = some s') :
    Follows limits inputs t pre batch s' ∧ s'.waiting = s.waiting ∧ s'.status = s.status := by
  obtain ⟨system, stepped, rfl⟩ := Option.map_eq_some_iff.mp moved
  have framed := pollProgram_framed limits
  have distinct : DistinctOwners (·.row.meterId) s.system := by
    rwa [distinctOwners_iff, h.owners_eq]
  refine ⟨⟨?_, h.joined_eq, ?_, h.failed_eq, h.alertsSent_eq, ?_, ?_⟩, rfl, rfl⟩
  · rw [← h.rows_eq]
    exact map_advance (fun next => (PollProcess.next_writes next).1) stepped
  · intro j q bound here
    obtain ⟨p, shared, p', here', next, rfl⟩ := advance_cases stepped
    -- the poll that moved has not settled
    have other : i ≠ j := by
      rintro rfl
      obtain ⟨outcome, settled⟩ := h.resolved i p bound here'
      exact absurd next (PollProcess.next_of_result settled)
    rw [List.getElem?_set_ne other] at here
    exact h.resolved j q bound here
  · refine framed.locally_step distinct h.polls ?_ stepped
    intro shared q chance shared' q' onTheWay next
    obtain ⟨row, input, writes⟩ := PollProcess.next_writes next
    refine ⟨?_, ?_, ?_⟩
    · obtain ⟨meter, id_ne⟩ := onTheWay.holds
      rw [row]
      exact ⟨by rwa [writes.part_meter], id_ne⟩
    · rw [input, row, onTheWay.input_eq]
    · rw [row, ← onTheWay.rest_eq]
      exact (PollProcess.next_continues onTheWay.holds next).symm
  · intro k unowned
    rw [framed.owners_step stepped] at unowned
    rw [framed.view_step unowned stepped, h.others k unowned]

theorem Follows.startBatch (h : Follows limits inputs t pre [] s)
    (ids : ((pre.flatten ++ batch).map (·.meterId)).Nodup)
    (holds : ∀ row ∈ batch, (t.part row.meterId).Holds row) :
    Follows limits inputs t pre batch (s.startBatch inputs batch) := by
  have started : (s.startBatch inputs batch).system.procs =
      s.system.procs ++ batch.map fun row => { row, input := inputs row } := rfl
  have owned := h.owners_eq
  rw [List.append_nil] at owned
  have length : s.system.procs.length = s.joined := by
    rw [h.joined_eq, ← List.length_map (·.row), h.rows_eq, List.append_nil]
  refine ⟨?_, h.joined_eq, ?_, h.failed_eq, h.alertsSent_eq, ?_, ?_⟩
  · rw [started, List.map_append, h.rows_eq, List.map_map, List.append_nil]
    exact congrArg _ (List.map_id batch)
  · intro i p bound here
    rw [started, List.getElem?_append_left (by rw [length]; exact bound)] at here
    exact h.resolved i p bound here
  · intro i p here
    rw [started, List.getElem?_append] at here
    split at here
    · exact h.polls i p here
    obtain ⟨row, member, rfl⟩ := List.mem_map.mp (List.mem_of_getElem? here)
    have fresh : row.meterId ∉ owners (·.row.meterId) s.system := by
      rw [owned]
      rw [List.map_append] at ids
      exact fun before => List.disjoint_of_nodup_append ids before (List.mem_map_of_mem member)
    have untouched := h.others row.meterId fresh
    refine ⟨?_, rfl, ?_⟩
    · exact untouched ▸ holds row member
    · simp only [ran, storesOf, ← untouched]
      rfl
  · intro k unowned
    refine h.others k fun before => unowned ?_
    rw [owners, started, List.map_append]
    exact List.mem_append_left _ before

theorem foldl_count_eq (outcomes : List (Option ℕ)) (s : ConcurrentSweep) :
    outcomes.foldl count s = { s with
      failed := s.failed + outcomes.countP (· = none)
      alertsSent := s.alertsSent + (outcomes.map fun outcome => sent (.ok outcome)).sum } := by
  induction outcomes generalizing s with
  | nil => rfl
  | cons outcome outcomes ih =>
    rw [List.foldl_cons, ih]
    cases outcome with
    | none =>
      simp only [count, sent, List.countP_cons, List.map_cons, List.sum_cons, Nat.zero_add,
        decide_true, if_true, Nat.add_assoc, Nat.add_comm 1]
    | some alerts => simp [count, sent, Nat.add_assoc]

theorem resolvedWith_eq {polls : List PollProcess} {outcomes : List (Option ℕ)}
    (h : resolvedWith polls = some outcomes) :
    polls.map (·.result) = outcomes.map fun outcome => some (.ok outcome) := by
  induction polls generalizing outcomes with
  | nil =>
    cases h
    rfl
  | cons p polls ih =>
    simp only [resolvedWith] at h
    split at h
    · next outcome here =>
      obtain ⟨rest, resolved, rfl⟩ := Option.map_eq_some_iff.mp h
      rw [List.map_cons, List.map_cons, here, ih resolved]
    · cases h

/-- The batch is joined: its outcomes are those of its polls alone. -/
theorem Follows.join {outcomes : List (Option ℕ)} (h : Follows limits inputs t pre batch s)
    (joined : resolvedWith (s.system.procs.drop s.joined) = some outcomes) :
    Follows limits inputs t (pre ++ [batch]) []
      { outcomes.foldl count s with joined := s.system.procs.length } := by
  have results := resolvedWith_eq joined
  have resolved : ∀ p ∈ s.system.procs.drop s.joined, ∃ outcome, p.result = some (.ok outcome) := by
    intro p member
    have among : p.result ∈ (s.system.procs.drop s.joined).map (·.result) :=
      List.mem_map_of_mem member
    rw [results] at among
    obtain ⟨outcome, -, here⟩ := List.mem_map.mp among
    exact ⟨outcome, here.symm⟩
  have settled : (batch.map fun row => (ran limits inputs (storesOf t) row).1) =
      outcomes.map .ok := by
    apply List.map_injective_iff.mpr (Option.some_injective Settled)
    rw [h.batch_eq, List.map_map, List.map_map, List.map_map]
    refine Eq.trans ?_ results
    apply List.map_congr_left
    intro p member
    obtain ⟨outcome, here⟩ := resolved p member
    obtain ⟨i, at_⟩ := List.getElem?_of_mem (List.mem_of_mem_drop member)
    rw [here, ← h.ran_of_settled at_ here]
    rfl
  have flatten : (pre ++ [batch]).flatten = pre.flatten ++ batch := by simp
  rw [foldl_count_eq]
  refine ⟨?_, ?_, ?_, ?_, ?_, h.polls, h.others⟩
  · rw [flatten, List.append_nil]
    exact h.rows_eq
  · rw [flatten, ← h.rows_eq, List.length_map]
  · intro i p bound here
    by_cases before : i < s.joined
    · exact h.resolved i p before here
    · refine resolved p (List.mem_of_getElem? (i := i - s.joined) ?_)
      rw [List.getElem?_drop, ← here]
      congr 1
      omega
  · simp only [flatten, h.failed_eq, failedPolls_of_settled settled, failedPolls,
      List.countP_append]
  · simp only [flatten, h.alertsSent_eq, alertsOf_of_settled settled, alertsOf, List.map_append,
      List.sum_append]

/-! ## Whole runs -/

/-- How far a sweep of the batches `bs` can be: the status says which batches are joined, and what
ended it. -/
inductive Progress (limits : UsageSamplingLimits) (inputs : MonitoredMeter → PollInput)
    (t : SweepTables) (bs : List (List MonitoredMeter)) (s : ConcurrentSweep) : Prop
  | running (pre : List (List MonitoredMeter)) (batch : List MonitoredMeter)
    (status : s.status = .running) (plan : bs = pre ++ batch :: s.waiting)
    (follows : Follows limits inputs t pre batch s)
  | resolved (status : s.status = .resolved) (follows : Follows limits inputs t bs [] s)
  | rejected (pre : List (List MonitoredMeter)) (batch : List MonitoredMeter) (reason : String)
    (i : ℕ) (p : PollProcess)
    (status : s.status = .rejected reason) (plan : bs = pre ++ batch :: s.waiting)
    (follows : Follows limits inputs t pre batch s) (late : s.joined ≤ i)
    (here : s.system.procs[i]? = some p) (threw : p.result = some (.error reason))

theorem Progress.nextBatch {bs : List (List MonitoredMeter)}
    (follows : Follows limits inputs t pre [] s) (status : s.status = .running)
    (plan : bs = pre ++ s.waiting) (ids : (bs.flatten.map (·.meterId)).Nodup)
    (holds : ∀ row ∈ bs.flatten, (t.part row.meterId).Holds row) :
    Progress limits inputs t bs (s.nextBatch inputs) := by
  rw [ConcurrentSweep.nextBatch]
  split
  · next last =>
    rw [last, List.append_nil] at plan
    subst plan
    exact .resolved rfl ⟨follows.rows_eq, follows.joined_eq, follows.resolved, follows.failed_eq,
      follows.alertsSent_eq, follows.polls, follows.others⟩
  · next batch waiting more =>
    rw [more] at plan
    subst plan
    have parts : (pre ++ batch :: waiting).flatten = (pre.flatten ++ batch) ++ waiting.flatten := by
      simp
    rw [parts] at ids holds
    rw [List.map_append] at ids
    have follows' : Follows limits inputs t pre [] { s with waiting } :=
      ⟨follows.rows_eq, follows.joined_eq, follows.resolved, follows.failed_eq,
        follows.alertsSent_eq, follows.polls, follows.others⟩
    refine .running pre batch status rfl (follows'.startBatch ids.of_append_left ?_)
    exact fun row member => holds row (by simp [member])

theorem Progress.ids {bs : List (List MonitoredMeter)}
    (plan : bs = pre ++ batch :: s.waiting) (ids : (bs.flatten.map (·.meterId)).Nodup) :
    ((pre.flatten ++ batch).map (·.meterId)).Nodup := by
  have parts : bs.flatten = (pre.flatten ++ batch) ++ s.waiting.flatten := by simp [plan]
  rw [parts, List.map_append] at ids
  exact ids.of_append_left

/-- Every move of a sweep keeps the account of it. -/
theorem Progress.step {bs : List (List MonitoredMeter)} {move : SweepMove}
    (h : Progress limits inputs t bs s) (ids : (bs.flatten.map (·.meterId)).Nodup)
    (holds : ∀ row ∈ bs.flatten, (t.part row.meterId).Holds row)
    (moved : ConcurrentSweep.step limits inputs s move = some s') :
    Progress limits inputs t bs s' := by
  cases move with
  | poll i =>
    cases h with
    | running pre batch status plan follows =>
      obtain ⟨follows, waiting, same⟩ := follows.poll (Progress.ids plan ids) moved
      exact .running pre batch (same.trans status) (by rw [waiting, plan]) follows
    | resolved status follows =>
      obtain ⟨follows, -, same⟩ := follows.poll (by rwa [List.append_nil]) moved
      exact .resolved (same.trans status) follows
    | rejected pre batch reason j p status plan follows late here threw =>
      obtain ⟨follows', waiting, same⟩ := follows.poll (Progress.ids plan ids) moved
      obtain ⟨system, stepped, rfl⟩ := Option.map_eq_some_iff.mp moved
      obtain ⟨q, shared, q', here', next, rfl⟩ := advance_cases stepped
      have other : i ≠ j := by
        rintro rfl
        rw [here] at here'
        cases here'
        exact absurd next (PollProcess.next_of_result threw)
      refine .rejected pre batch reason j p status plan follows' late ?_ threw
      rw [List.getElem?_set_ne other, here]
  | join =>
    simp only [ConcurrentSweep.step] at moved
    split at moved
    · next outcomes status joined =>
      cases moved
      cases h with
      | running pre batch _ plan follows =>
        refine Progress.nextBatch (follows.join joined) ?_ ?_ ids holds
        · rw [foldl_count_eq]
          exact status
        · rw [foldl_count_eq]
          simp [plan]
      | resolved other => rw [other] at status; cases status
      | rejected _ _ _ _ _ other => rw [other] at status; cases status
    · cases moved
  | reject i =>
    simp only [ConcurrentSweep.step] at moved
    split at moved
    · next reason status result =>
      obtain ⟨p, here, threw⟩ := Option.bind_eq_some_iff.mp result
      split at moved
      · next late =>
        cases moved
        cases h with
        | running pre batch _ plan follows =>
          have follows' : Follows limits inputs t pre batch { s with status := .rejected reason } :=
            ⟨follows.rows_eq, follows.joined_eq, follows.resolved, follows.failed_eq,
              follows.alertsSent_eq, follows.polls, follows.others⟩
          exact .rejected pre batch reason i p rfl plan follows' late here threw
        | resolved other => rw [other] at status; cases status
        | rejected _ _ _ _ _ other => rw [other] at status; cases status
      · cases moved
    · cases moved

theorem Progress.start (t : SweepTables) {bs : List (List MonitoredMeter)}
    (ids : (bs.flatten.map (·.meterId)).Nodup)
    (holds : ∀ row ∈ bs.flatten, (t.part row.meterId).Holds row) :
    Progress limits inputs t bs (ConcurrentSweep.start inputs t bs) := by
  have follows : Follows limits inputs t [] [] { system := ⟨t, []⟩, waiting := bs } := {
    rows_eq := rfl
    joined_eq := rfl
    resolved := fun _ _ bound => absurd bound (Nat.not_lt_zero _)
    failed_eq := List.countP_nil.symm
    alertsSent_eq := rfl
    polls := Everywhere.nil
    others := fun _ _ => rfl }
  exact Progress.nextBatch follows rfl rfl ids holds

theorem Progress.run {bs : List (List MonitoredMeter)} {moves : List SweepMove}
    (ids : (bs.flatten.map (·.meterId)).Nodup)
    (holds : ∀ row ∈ bs.flatten, (t.part row.meterId).Holds row)
    (run : exec (ConcurrentSweep.step limits inputs) (ConcurrentSweep.start inputs t bs) moves =
      some s) : Progress limits inputs t bs s :=
  (exec_run run).invariant (Progress.start t ids holds) fun h moved => h.step ids holds moved

theorem Progress.follows {bs : List (List MonitoredMeter)} (h : Progress limits inputs t bs s) :
    ∃ pre batch rest, bs.flatten = (pre.flatten ++ batch) ++ rest ∧
      Follows limits inputs t pre batch s := by
  cases h with
  | running pre batch _ plan follows =>
    exact ⟨pre, batch, s.waiting.flatten, by simp [plan], follows⟩
  | resolved _ follows => exact ⟨bs, [], [], by simp, follows⟩
  | rejected pre batch _ _ _ _ plan follows =>
    exact ⟨pre, batch, s.waiting.flatten, by simp [plan], follows⟩

/-! ## When all is over -/

theorem Follows.settled (h : Follows limits inputs t pre batch s) (finished : s.Over)
    (here : s.system.procs[i]? = some p) : ∃ result, p.result = some result ∧
      ran limits inputs (storesOf t) p.row =
        (result, p.polling (s.system.shared.part p.row.meterId)) := by
  obtain ⟨result, settled⟩ := Option.isSome_iff_exists.mp (finished.2 p (List.mem_of_getElem? here))
  exact ⟨result, settled, (h.polls i p here).settled settled⟩

theorem Follows.stores_eq (h : Follows limits inputs t pre batch s) (finished : s.Over)
    (ids : ((pre.flatten ++ batch).map (·.meterId)).Nodup) (k : String) :
    (s.system.shared.part k).store =
      storesAfter limits inputs (storesOf t) (pre.flatten ++ batch) k := by
  by_cases owned : k ∈ owners (·.row.meterId) s.system
  · obtain ⟨p, member, rfl⟩ := List.mem_map.mp owned
    obtain ⟨i, here⟩ := List.getElem?_of_mem member
    obtain ⟨result, -, ended⟩ := h.settled finished here
    have row : p.row ∈ pre.flatten ++ batch := by
      rw [← h.rows_eq]
      exact List.mem_map_of_mem member
    rw [storesAfter_of_mem ids row, ended]
    rfl
  · rw [h.others k owned]
    rw [h.owners_eq] at owned
    rw [storesAfter_of_not_mem owned]
    rfl

/-- The polls of the joined batches succeed, alone as well. -/
theorem Follows.succeeds (h : Follows limits inputs t pre batch s) :
    ∀ row ∈ pre.flatten, Succeeds (ran limits inputs (storesOf t) row).1 := by
  intro row member
  obtain ⟨i, bound, rfl⟩ := List.getElem_of_mem member
  have rows := h.rows_eq
  have bound' : i < s.system.procs.length := by
    rw [← List.length_map (·.row), rows, List.length_append]
    omega
  have here : s.system.procs[i]? = some s.system.procs[i] := List.getElem?_eq_getElem bound'
  obtain ⟨outcome, settled⟩ := h.resolved i _ (by rwa [h.joined_eq]) here
  have same : s.system.procs[i].row = pre.flatten[i] := by
    have both : (s.system.procs.map (·.row))[i]? = (pre.flatten ++ batch)[i]? := by rw [rows]
    rw [List.getElem?_append_left bound, List.getElem?_eq_getElem bound, List.getElem?_map,
      here] at both
    exact Option.some.inj both
  exact ⟨outcome, same ▸ h.ran_of_settled here settled⟩

/-- What a sweep that is over owes: the rows, the polls and the summary of `out`. -/
structure Agrees (limits : UsageSamplingLimits) (inputs : MonitoredMeter → PollInput)
    (t : SweepTables) (s : ConcurrentSweep) (out : Except String SweepSummary × Sweeping) :
    Prop where
  stores : ∀ meterId, (s.system.shared.part meterId).store = out.2.stores meterId
  polled : s.system.procs.map (·.row) = out.2.polled
  summary : ∀ summary, out.1 = .ok summary ↔ s.status = .resolved ∧
    summary = ⟨t.monitoredMeters.length, s.failed, s.alertsSent, false⟩
  polls : ∀ p ∈ s.system.procs, ∃ result, p.result = some result ∧
    (pollMeter limits p.row (inputs p.row)).eval { store := (t.part p.row.meterId).store } =
      (result, ⟨(s.system.shared.part p.row.meterId).store, p.committed, p.attempted⟩)

end

/-- However the polls of a sweep interleave, it ends as the sweep that polls one meter after the
other. -/
theorem sweep_interleaves (limits : UsageSamplingLimits) (concurrency : Option ℕ)
    (inputs : MonitoredMeter → PollInput) (t : SweepTables) (moves : List SweepMove)
    (s : ConcurrentSweep) (positive : ∀ c ∈ concurrency, 0 < c)
    (run : exec (step limits inputs) (start inputs t
      (batches (concurrency.getD defaultSweepConcurrency) t.monitoredMeters)) moves = some s)
    (finished : s.Over) :
    Agrees limits inputs t s ((sweep limits concurrency (.ok t.monitoredMeters) inputs).eval
      { stores := storesOf t }) := by
  have concurrent : 0 < concurrency.getD defaultSweepConcurrency := by
    cases concurrency with
    | none => decide
    | some c => exact positive c rfl
  have cover := flatten_batches concurrent t.monitoredMeters
  have ids := t.monitoredMeters_nodup
  have settled {pre batch} (follows : Follows limits inputs t pre batch s) :
      ∀ p ∈ s.system.procs, ∃ result, p.result = some result ∧
        (pollMeter limits p.row (inputs p.row)).eval { store := (t.part p.row.meterId).store } =
          (result, ⟨(s.system.shared.part p.row.meterId).store, p.committed, p.attempted⟩) := by
    intro p member
    obtain ⟨i, here⟩ := List.getElem?_of_mem member
    exact follows.settled finished here
  have progress := Progress.run (by rwa [cover]) (by
    rw [cover]
    exact fun row => SweepTables.holds_of_monitored) run
  cases progress with
  | running _ _ status => exact absurd status finished.1
  | resolved status follows =>
    have all := follows.succeeds
    have stores := follows.stores_eq finished (by rwa [List.append_nil, cover])
    have rows := follows.rows_eq
    rw [cover] at all stores rows
    obtain ⟨after, eval, joined⟩ := sweep_eval_ok cover ids all
    rw [eval]
    refine ⟨?_, ?_, ?_, settled follows⟩
    · intro k
      rw [stores, joined.stores_eq, List.append_nil]
    · rw [rows, joined.polled_eq, List.append_nil]
    · intro summary
      rw [follows.failed_eq, follows.alertsSent_eq, cover, status]
      simp [eq_comm]
  | rejected pre batch reason i p status plan follows late here threw =>
    have parts := Progress.ids plan (by rwa [cover])
    have row : p.row ∈ batch := by
      have at_ : (s.system.procs.drop s.joined)[i - s.joined]? = some p := by
        rw [List.getElem?_drop, ← here]
        congr 1
        omega
      rw [follows.batch_eq]
      exact List.mem_map_of_mem (List.mem_of_getElem? at_)
    obtain ⟨e, after, eval, stores, polled⟩ :=
      sweep_eval_error cover plan parts follows.succeeds row (follows.ran_of_settled here threw)
    rw [eval]
    refine ⟨?_, ?_, ?_, settled follows⟩
    · intro k
      rw [stores, follows.stores_eq finished parts]
    · rw [polled, follows.rows_eq]
    · intro summary
      simp [status]

/-- Two meters of two users. -/
def sweptTables : SweepTables where
  user := [⟨"ayesha", none⟩, ⟨"rahim", none⟩]
  meter := [
    { id := "m1", userId := "ayesha", customerNo := "77", label := none, provider := .nesco },
    { id := "m2", userId := "rahim", customerNo := "78", label := none, provider := .nesco }]
  user_pk := by decide
  meter_pk := by decide
  id_ne := by decide

instance (s : ConcurrentSweep) : Decidable s.Over :=
  inferInstanceAs (Decidable (_ ∧ _))

/-- The second meter's scrape fails between two steps of the first meter's poll. -/
def sweptMoves : List SweepMove :=
  [.poll 0, .poll 1, .poll 0, .poll 1, .poll 0, .poll 0, .poll 0, .poll 0, .join]

theorem sweep_interleaves_sweptMoves :
    ∃ s, exec (step ⟨500, 48⟩ sweptInputs) (start sweptInputs sweptTables
        (batches 2 sweptTables.monitoredMeters)) sweptMoves = some s ∧ s.Over ∧
      Agrees ⟨500, 48⟩ sweptInputs sweptTables s ((sweep ⟨500, 48⟩ (some 2)
        (.ok sweptTables.monitoredMeters) sweptInputs).eval
          { stores := storesOf sweptTables }) := by
  have ends : (exec (step ⟨500, 48⟩ sweptInputs) (start sweptInputs sweptTables
      (batches 2 sweptTables.monitoredMeters)) sweptMoves).any (fun s => decide s.Over) := by
    decide +kernel
  obtain ⟨s, run, finished⟩ := (Option.any_eq_true _ _).mp ends
  exact ⟨s, run, of_decide_eq_true finished,
    sweep_interleaves ⟨500, 48⟩ (some 2) sweptInputs sweptTables sweptMoves s (by decide) run
      (of_decide_eq_true finished)⟩

/-! ## What a sweep never writes -/

theorem nextBatch_shared (inputs : MonitoredMeter → PollInput) (s : ConcurrentSweep) :
    (s.nextBatch inputs).system.shared = s.system.shared := by
  rw [nextBatch]
  split <;> rfl

theorem step_meter {limits : UsageSamplingLimits} {inputs : MonitoredMeter → PollInput}
    {s s' : ConcurrentSweep} {move : SweepMove} (moved : step limits inputs s move = some s') :
    s'.system.shared.meter = s.system.shared.meter ∧
      s'.system.shared.user = s.system.shared.user := by
  cases move with
  | poll i =>
    obtain ⟨system, stepped, rfl⟩ := Option.map_eq_some_iff.mp moved
    obtain ⟨p, shared, p', -, next, rfl⟩ := advance_cases stepped
    cases (PollProcess.next_writes next).2.2 <;> exact ⟨rfl, rfl⟩
  | join =>
    simp only [step] at moved
    split at moved
    · cases moved
      rw [nextBatch_shared, foldl_count_eq]
      exact ⟨rfl, rfl⟩
    · cases moved
  | reject i =>
    simp only [step] at moved
    split at moved
    · split at moved <;> cases moved
      exact ⟨rfl, rfl⟩
    · cases moved

theorem run_meter {limits : UsageSamplingLimits} {inputs : MonitoredMeter → PollInput}
    {t : SweepTables} {s : ConcurrentSweep} {bs : List (List MonitoredMeter)}
    {moves : List SweepMove} (run : exec (step limits inputs) (start inputs t bs) moves = some s) :
    s.system.shared.meter = t.meter ∧ s.system.shared.user = t.user := by
  have begins : (start inputs t bs).system.shared = t := nextBatch_shared _ _
  refine (exec_run run).invariant
    (P := fun s => s.system.shared.meter = t.meter ∧ s.system.shared.user = t.user)
    (by rw [begins]; exact ⟨rfl, rfl⟩) ?_
  intro s move s' same moved
  obtain ⟨meter, user⟩ := step_meter moved
  exact ⟨meter.trans same.1, user.trans same.2⟩

/-! ## It always ends -/

section
variable {limits : UsageSamplingLimits} {inputs : MonitoredMeter → PollInput}
  {s s' : ConcurrentSweep} {move : SweepMove}

/-- The steps of a poll that has not started. -/
def stepsOf (inputs : MonitoredMeter → PollInput) (rows : List MonitoredMeter) : ℕ :=
  (rows.map fun row => PollProcess.stepsLeft { row, input := inputs row }).sum

/-- How many moves a sweep makes from here at most. -/
def movesLeft (inputs : MonitoredMeter → PollInput) (s : ConcurrentSweep) : ℕ :=
  left PollProcess.stepsLeft s.system + stepsOf inputs s.waiting.flatten + s.waiting.length +
    if s.status = .running then 1 else 0

theorem movesLeft_nextBatch (running : s.status = .running) :
    (s.nextBatch inputs).movesLeft inputs < s.movesLeft inputs := by
  rw [nextBatch]
  split
  · next last => simp [movesLeft, running, last]
  · next batch waiting more =>
    simp only [movesLeft, startBatch, left, stepsOf, more, running, List.map_append, List.map_map,
      List.sum_append, List.flatten_cons, List.length_cons, Function.comp_def]
    omega

theorem step_movesLeft (moved : step limits inputs s move = some s') :
    s'.movesLeft inputs < s.movesLeft inputs := by
  cases move with
  | poll i =>
    obtain ⟨system, stepped, rfl⟩ := Option.map_eq_some_iff.mp moved
    have less : left PollProcess.stepsLeft system < left PollProcess.stepsLeft s.system :=
      left_advance (fun next => PollProcess.next_stepsLeft next) stepped
    simp only [movesLeft]
    omega
  | join =>
    simp only [step] at moved
    split at moved
    · next outcomes running _ =>
      cases moved
      refine lt_of_lt_of_eq (movesLeft_nextBatch ?_) ?_
      · rw [foldl_count_eq]
        exact running
      · rw [foldl_count_eq]
        rfl
    · cases moved
  | reject i =>
    simp only [step] at moved
    split at moved
    · next running _ =>
      split at moved
      · cases moved
        simp [movesLeft, running]
      · cases moved
    · cases moved

theorem exists_error_of_resolvedWith {polls : List PollProcess} (h : resolvedWith polls = none)
    (settled : ∀ p ∈ polls, p.result.isSome) :
    ∃ (i : ℕ) (p : PollProcess) (reason : String),
      polls[i]? = some p ∧ p.result = some (.error reason) := by
  induction polls with
  | nil => cases h
  | cons p polls ih =>
    obtain ⟨first, others⟩ := List.forall_mem_cons.mp settled
    obtain ⟨result, here⟩ := Option.isSome_iff_exists.mp first
    cases result with
    | error reason => exact ⟨0, p, reason, rfl, here⟩
    | ok outcome =>
      simp only [resolvedWith, here, Option.map_eq_none_iff] at h
      obtain ⟨i, q, reason, at_, threw⟩ := ih h others
      exact ⟨i + 1, q, reason, at_, threw⟩

/-- As long as a sweep is not over, something can happen. -/
theorem exists_move (limits : UsageSamplingLimits) (inputs : MonitoredMeter → PollInput)
    (going : ¬ s.Over) : ∃ move, (step limits inputs s move).isSome := by
  by_cases settled : ∀ p ∈ s.system.procs, p.result.isSome
  · have running : s.status = .running := by
      by_contra ended
      exact going ⟨ended, settled⟩
    cases joined : resolvedWith (s.system.procs.drop s.joined) with
    | some outcomes => exact ⟨.join, by simp [step, running, joined]⟩
    | none =>
      obtain ⟨i, p, reason, here, threw⟩ := exists_error_of_resolvedWith joined
        fun p member => settled p (List.mem_of_mem_drop member)
      rw [List.getElem?_drop] at here
      exact ⟨.reject (s.joined + i), by simp [step, running, here, threw]⟩
  · simp only [not_forall] at settled
    obtain ⟨p, member, unsettled⟩ := settled
    obtain ⟨i, here⟩ := List.getElem?_of_mem member
    have next := PollProcess.next_of_unsettled limits s.system.shared (p := p) (by
      intro result here
      exact unsettled (by simp [PollProcess.result, here]))
    obtain ⟨⟨shared, p'⟩, next⟩ := Option.isSome_iff_exists.mp next
    have stepped : Interleaving.step (pollProgram limits) s.system (.advance i ()) =
        some ⟨shared, s.system.procs.set i p'⟩ := step_advance here next
    refine ⟨.poll i, ?_⟩
    rw [step, stepped]
    rfl

/-- However its polls interleave, a sweep cannot go on for ever, and it cannot get stuck before it
is over. -/
theorem sweep_ends (limits : UsageSamplingLimits) (inputs : MonitoredMeter → PollInput)
    (t : SweepTables) (bs : List (List MonitoredMeter)) (moves : List SweepMove)
    (s : ConcurrentSweep) (run : exec (step limits inputs) (start inputs t bs) moves = some s) :
    moves.length + s.movesLeft inputs ≤ (start inputs t bs).movesLeft inputs ∧
      (¬ s.Over → ∃ move, (step limits inputs s move).isSome) := by
  refine ⟨?_, exists_move limits inputs⟩
  generalize start inputs t bs = s₀ at run ⊢
  induction moves generalizing s₀ with
  | nil =>
    cases run
    simp
  | cons move moves ih =>
    obtain ⟨s₁, moved, run⟩ := Option.bind_eq_some_iff.mp run
    have less := step_movesLeft moved
    have rest := ih s₁ run
    simp only [List.length_cons]
    omega

theorem sweep_ends_sweptMoves :
    ∃ s, exec (step ⟨500, 48⟩ sweptInputs) (start sweptInputs sweptTables
        (batches 2 sweptTables.monitoredMeters)) sweptMoves = some s ∧
      sweptMoves.length + s.movesLeft sweptInputs ≤ (start sweptInputs sweptTables
        (batches 2 sweptTables.monitoredMeters)).movesLeft sweptInputs ∧
      (¬ s.Over → ∃ move, (step ⟨500, 48⟩ sweptInputs s move).isSome) := by
  have runs : (exec (step ⟨500, 48⟩ sweptInputs) (start sweptInputs sweptTables
      (batches 2 sweptTables.monitoredMeters)) sweptMoves).isSome := by
    decide +kernel
  obtain ⟨s, run⟩ := Option.isSome_iff_exists.mp runs
  exact ⟨s, run, sweep_ends ⟨500, 48⟩ sweptInputs sweptTables _ sweptMoves s run⟩

end

end ConcurrentSweep

end ElectroSync
