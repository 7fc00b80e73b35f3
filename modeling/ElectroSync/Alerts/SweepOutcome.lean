import ElectroSync.Alerts.BalanceSweep

/-!
# What a sweep comes to

`ran` is the poll of one meter from the rows that the sweep found, and each meter is polled once: so
the rows after a sweep, its summary, and whether it rejects at all can be said of the meters one by
one, without the order in which they were polled.
-/

namespace ElectroSync
open Throwing Batches

section
variable {limits : UsageSamplingLimits} {inputs : MonitoredMeter → PollInput}
  {stores : String → MeterStore} {rows rows' : List MonitoredMeter} {row : MonitoredMeter}
  {bs : List (List MonitoredMeter)}

/-! ## What the polls of a sweep come to -/

/-- The poll of a row, alone. -/
def ran (limits : UsageSamplingLimits) (inputs : MonitoredMeter → PollInput)
    (stores : String → MeterStore) (row : MonitoredMeter) : Settled × Polling :=
  (pollMeter limits row (inputs row)).eval { store := stores row.meterId }

/-- The rows of the meters after the polls of `rows`, one for each meter. -/
def storesAfter (limits : UsageSamplingLimits) (inputs : MonitoredMeter → PollInput)
    (stores : String → MeterStore) (rows : List MonitoredMeter) (meterId : String) : MeterStore :=
  match rows.find? fun row => row.meterId = meterId with
  | some row => (ran limits inputs stores row).2.store
  | none => stores meterId

def Succeeds (settled : Settled) : Prop := ∃ outcome, settled = .ok outcome

/-- The alerts that a settled poll counts for. -/
def sent : Settled → ℕ
  | .ok (some alerts) => alerts
  | _ => 0

def failedPolls (limits : UsageSamplingLimits) (inputs : MonitoredMeter → PollInput)
    (stores : String → MeterStore) (rows : List MonitoredMeter) : ℕ :=
  rows.countP fun row => (ran limits inputs stores row).1 = .ok none

def alertsOf (limits : UsageSamplingLimits) (inputs : MonitoredMeter → PollInput)
    (stores : String → MeterStore) (rows : List MonitoredMeter) : ℕ :=
  (rows.map fun row => sent (ran limits inputs stores row).1).sum

theorem storesAfter_nil (limits : UsageSamplingLimits) (inputs : MonitoredMeter → PollInput)
    (stores : String → MeterStore) : storesAfter limits inputs stores [] = stores := rfl

theorem storesAfter_singleton (limits : UsageSamplingLimits) (inputs : MonitoredMeter → PollInput)
    (stores : String → MeterStore) (row : MonitoredMeter) :
    storesAfter limits inputs stores [row] =
      Function.update stores row.meterId (ran limits inputs stores row).2.store := by
  funext k
  rw [storesAfter, Function.update_apply, List.find?_singleton]
  by_cases here : k = row.meterId
  · simp [here]
  · simp [here, Ne.symm here]

theorem storesAfter_of_not_mem {k : String} (other : k ∉ rows.map (·.meterId)) :
    storesAfter limits inputs stores rows k = stores k := by
  have none_ : (rows.find? fun row => row.meterId = k) = none := by
    rw [List.find?_eq_none]
    intro row member here
    exact other (List.mem_map.mpr ⟨row, member, of_decide_eq_true here⟩)
  rw [storesAfter, none_]

theorem storesAfter_of_mem (ids : (rows.map (·.meterId)).Nodup) (member : row ∈ rows) :
    storesAfter limits inputs stores rows row.meterId = (ran limits inputs stores row).2.store := by
  rw [storesAfter]
  cases found : rows.find? fun other => other.meterId = row.meterId with
  | none => exact absurd (decide_eq_true rfl) (List.find?_eq_none.mp found row member)
  | some other =>
    have here : other.meterId = row.meterId := by simpa using List.find?_some found
    rw [List.inj_on_of_nodup_map ids (List.mem_of_find?_eq_some found) member here]

theorem ran_storesAfter (other : row.meterId ∉ rows.map (·.meterId)) :
    ran limits inputs (storesAfter limits inputs stores rows) row =
      ran limits inputs stores row := by
  rw [ran, ran, storesAfter_of_not_mem other]

theorem map_ran_storesAfter (limits : UsageSamplingLimits) (inputs : MonitoredMeter → PollInput)
    (stores : String → MeterStore) (ids : ((rows ++ rows').map (·.meterId)).Nodup)
    (f : Settled × Polling → τ) :
    (rows'.map fun row => f (ran limits inputs (storesAfter limits inputs stores rows) row)) =
      rows'.map fun row => f (ran limits inputs stores row) := by
  rw [List.map_append] at ids
  apply List.map_congr_left
  intro row member
  rw [ran_storesAfter fun first =>
    List.disjoint_of_nodup_append ids first (List.mem_map_of_mem member)]

theorem storesAfter_append (limits : UsageSamplingLimits) (inputs : MonitoredMeter → PollInput)
    (stores : String → MeterStore) (ids : ((rows ++ rows').map (·.meterId)).Nodup) :
    storesAfter limits inputs (storesAfter limits inputs stores rows) rows' =
      storesAfter limits inputs stores (rows ++ rows') := by
  have parts := ids
  rw [List.map_append] at parts
  have apart := List.disjoint_of_nodup_append parts
  funext k
  by_cases second : k ∈ rows'.map (·.meterId)
  · have other := fun first => apart first second
    obtain ⟨row, member, rfl⟩ := List.mem_map.mp second
    rw [storesAfter_of_mem parts.of_append_right member, ran_storesAfter other,
      storesAfter_of_mem ids (List.mem_append_right _ member)]
  rw [storesAfter_of_not_mem second]
  by_cases first : k ∈ rows.map (·.meterId)
  · obtain ⟨row, member, rfl⟩ := List.mem_map.mp first
    rw [storesAfter_of_mem parts.of_append_left member,
      storesAfter_of_mem ids (List.mem_append_left _ member)]
  · rw [storesAfter_of_not_mem first, storesAfter_of_not_mem]
    rw [List.map_append, List.mem_append]
    tauto

/-! ## The sweep, one meter after the other -/

theorem startBatch_eval (ids : (rows.map (·.meterId)).Nodup) (s : Sweeping) :
    (startBatch limits inputs rows).eval s =
      (.ok (rows.map fun row => (ran limits inputs s.stores row).1), { s with
        stores := storesAfter limits inputs s.stores rows
        polled := s.polled ++ rows }) := by
  induction rows generalizing s with
  | nil => simp [startBatch, storesAfter_nil]
  | cons row rows ih =>
    obtain ⟨-, ids'⟩ := List.nodup_cons.mp ids
    have first : (startPoll limits inputs row).eval s =
        (.ok (ran limits inputs s.stores row).1, { s with
          stores := storesAfter limits inputs s.stores [row]
          polled := s.polled ++ [row] }) := by
      rw [storesAfter_singleton]
      rfl
    rw [← List.singleton_append] at ids
    rw [startBatch, eval_bind_ok first, eval_bind_ok (ih ids' _), eval_pure]
    simp only [map_ran_storesAfter limits inputs s.stores ids, List.map_cons,
      storesAfter_append limits inputs s.stores ids, List.append_assoc, List.singleton_append]

theorem promiseAll_map_ok (outcomes : List (Option ℕ)) :
    promiseAll (outcomes.map .ok) = .ok outcomes := by
  induction outcomes with
  | nil => rfl
  | cons outcome outcomes ih => simp only [List.map_cons, promiseAll, ih, Except.map]

theorem promiseAll_of_error {settled : List Settled} {e : String} (member : .error e ∈ settled) :
    ∃ e', promiseAll settled = .error e' := by
  induction settled with
  | nil => cases member
  | cons first settled ih =>
    rcases first with e' | outcome
    · exact ⟨e', rfl⟩
    · obtain ⟨e', rest⟩ := ih (by simpa using member)
      exact ⟨e', by simp only [promiseAll, rest, Except.map]⟩

theorem foldl_count_eq (outcomes : List (Option ℕ)) (s : Sweeping) :
    outcomes.foldl Sweeping.count s = { s with
      failed := s.failed + outcomes.countP (· = none)
      alertsSent := s.alertsSent + (outcomes.map fun outcome => sent (.ok outcome)).sum } := by
  induction outcomes generalizing s with
  | nil => rfl
  | cons outcome outcomes ih =>
    rw [List.foldl_cons, ih]
    cases outcome with
    | none =>
      simp only [Sweeping.count, sent, List.countP_cons, List.map_cons, List.sum_cons, Nat.zero_add,
        decide_true, if_true, Nat.add_assoc, Nat.add_comm 1]
    | some alerts => simp [Sweeping.count, sent, Nat.add_assoc]

theorem failedPolls_of_settled {outcomes : List (Option ℕ)}
    (settled : (rows.map fun row => (ran limits inputs stores row).1) = outcomes.map .ok) :
    outcomes.countP (· = none) = failedPolls limits inputs stores rows := by
  have counts := congrArg (List.countP (· = (.ok none : Settled))) settled
  simpa [failedPolls, List.countP_map, Function.comp_def] using counts.symm

theorem alertsOf_of_settled {outcomes : List (Option ℕ)}
    (settled : (rows.map fun row => (ran limits inputs stores row).1) = outcomes.map .ok) :
    (outcomes.map fun outcome => sent (.ok outcome)).sum = alertsOf limits inputs stores rows := by
  have sums := congrArg (fun l => (l.map sent).sum) settled
  simpa [alertsOf, Function.comp_def] using sums.symm

/-- A sweep has polled `rows`, all of them with success, and joined them. -/
structure Joined (limits : UsageSamplingLimits) (inputs : MonitoredMeter → PollInput)
    (stores : String → MeterStore) (rows : List MonitoredMeter) (s : Sweeping) : Prop where
  stores_eq : s.stores = storesAfter limits inputs stores rows
  polled_eq : s.polled = rows
  failed_eq : s.failed = failedPolls limits inputs stores rows
  alertsSent_eq : s.alertsSent = alertsOf limits inputs stores rows

/-- The polls of a batch, when the batches before it have polled `rows`. -/
theorem Joined.startBatch {batch : List MonitoredMeter} {s : Sweeping}
    (h : Joined limits inputs stores rows s) (ids : ((rows ++ batch).map (·.meterId)).Nodup) :
    (startBatch limits inputs batch).eval s =
      (.ok (batch.map fun row => (ran limits inputs stores row).1), { s with
        stores := storesAfter limits inputs stores (rows ++ batch)
        polled := rows ++ batch }) := by
  have own : (batch.map (·.meterId)).Nodup := by
    rw [List.map_append] at ids
    exact ids.of_append_right
  rw [startBatch_eval own, h.stores_eq, map_ran_storesAfter limits inputs stores ids Prod.fst,
    storesAfter_append limits inputs stores ids, h.polled_eq]

theorem Joined.sweepBatch {batch : List MonitoredMeter} {s : Sweeping}
    (h : Joined limits inputs stores rows s) (ids : ((rows ++ batch).map (·.meterId)).Nodup)
    (all : ∀ row ∈ batch, Succeeds (ran limits inputs stores row).1) :
    ∃ s', (sweepBatch limits inputs batch).eval s = (.ok (), s') ∧
      Joined limits inputs stores (rows ++ batch) s' := by
  obtain ⟨outcomes, settled⟩ : ∃ outcomes : List (Option ℕ),
      (batch.map fun row => (ran limits inputs stores row).1) = outcomes.map .ok := by
    refine ⟨batch.map fun row => (ran limits inputs stores row).1.toOption.getD none, ?_⟩
    rw [List.map_map]
    apply List.map_congr_left
    intro row member
    obtain ⟨outcome, ok⟩ := all row member
    simp [ok, Except.toOption]
  refine ⟨outcomes.foldl Sweeping.count { s with
    stores := storesAfter limits inputs stores (rows ++ batch)
    polled := rows ++ batch }, ?_, ?_⟩
  · rw [ElectroSync.sweepBatch, eval_bind_ok (h.startBatch ids), settled, promiseAll_map_ok,
      eval_bind_ok (eval_ofExcept _ _), eval_update]
  · rw [foldl_count_eq]
    refine ⟨rfl, rfl, ?_, ?_⟩
    · simp only [h.failed_eq, failedPolls_of_settled settled, failedPolls, List.countP_append]
    · simp only [h.alertsSent_eq, alertsOf_of_settled settled, alertsOf, List.map_append,
        List.sum_append]

/-- A batch with a poll that rejects. -/
theorem Joined.sweepBatch_error {batch : List MonitoredMeter} {s : Sweeping} {e : String}
    (h : Joined limits inputs stores rows s) (ids : ((rows ++ batch).map (·.meterId)).Nodup)
    (member : row ∈ batch) (rejects : (ran limits inputs stores row).1 = .error e) :
    ∃ e' s', (ElectroSync.sweepBatch limits inputs batch).eval s = (.error e', s') ∧
      s'.stores = storesAfter limits inputs stores (rows ++ batch) ∧
      s'.polled = rows ++ batch := by
  have among : (.error e : Settled) ∈ batch.map fun row => (ran limits inputs stores row).1 :=
    List.mem_map.mpr ⟨row, member, rejects⟩
  obtain ⟨e', rejected⟩ := promiseAll_of_error among
  refine ⟨e', { s with
    stores := storesAfter limits inputs stores (rows ++ batch)
    polled := rows ++ batch }, ?_, rfl, rfl⟩
  rw [ElectroSync.sweepBatch, eval_bind_ok (h.startBatch ids), rejected]
  exact eval_bind_error (eval_ofExcept _ _)

theorem sweepBatches_joined (ids : (bs.flatten.map (·.meterId)).Nodup)
    (all : ∀ row ∈ bs.flatten, Succeeds (ran limits inputs stores row).1) :
    ∃ s, (forEach (sweepBatch limits inputs) bs).eval { stores } = (.ok (), s) ∧
      Joined limits inputs stores bs.flatten s := by
  induction bs using List.reverseRecOn with
  | nil => exact ⟨{ stores }, rfl, rfl, rfl, rfl, rfl⟩
  | append_singleton bs batch ih =>
    rw [List.flatten_append, List.flatten_singleton] at ids all ⊢
    have parts := ids
    rw [List.map_append] at parts
    obtain ⟨before, last⟩ := List.forall_mem_append.mp all
    obtain ⟨s, run, joined⟩ := ih parts.of_append_left before
    obtain ⟨s', run', joined'⟩ := joined.sweepBatch ids last
    refine ⟨s', ?_, joined'⟩
    rw [eval_forEach_append, eval_bind_ok run, forEach, eval_bind_ok run']
    rfl

theorem sweep_eval (nonempty : rows ≠ []) (concurrency : Option ℕ) :
    (sweep limits concurrency (.ok rows) inputs).eval { stores } =
      match (forEach (sweepBatch limits inputs)
        (batches (concurrency.getD defaultSweepConcurrency) rows)).eval { stores } with
      | (.ok _, s) => (.ok {
          checked := rows.length
          failed := s.failed
          alertsSent := s.alertsSent
          skipped := false }, s)
      | (.error e, s) => (.error e, s) := by
  have some_ : ¬ rows.length = 0 := by simpa using nonempty
  rw [sweep, eval_bind_ok (eval_ofExcept _ _), if_neg some_, eval_bind]
  rcases (forEach (sweepBatch limits inputs)
    (batches (concurrency.getD defaultSweepConcurrency) rows)).eval { stores } with ⟨_ | _, s⟩ <;>
    rfl

theorem sweep_eval_ok {concurrency : Option ℕ}
    (cover : (batches (concurrency.getD defaultSweepConcurrency) rows).flatten = rows)
    (ids : (rows.map (·.meterId)).Nodup)
    (all : ∀ row ∈ rows, Succeeds (ran limits inputs stores row).1) :
    ∃ s, (sweep limits concurrency (.ok rows) inputs).eval { stores } = (.ok {
        checked := rows.length
        failed := failedPolls limits inputs stores rows
        alertsSent := alertsOf limits inputs stores rows
        skipped := false }, s) ∧ Joined limits inputs stores rows s := by
  rcases eq_or_ne rows [] with rfl | nonempty
  · exact ⟨{ stores }, rfl, rfl, rfl, rfl, rfl⟩
  rw [← cover] at ids all
  obtain ⟨s, run, joined⟩ := sweepBatches_joined ids all
  rw [cover] at joined
  refine ⟨s, ?_, joined⟩
  rw [sweep_eval nonempty, run, ← joined.failed_eq, ← joined.alertsSent_eq]

/-- The sweep ends at the first batch with a poll that rejects. -/
theorem sweep_eval_error {concurrency : Option ℕ} {pre waiting : List (List MonitoredMeter)}
    {batch : List MonitoredMeter} {e : String}
    (cover : (batches (concurrency.getD defaultSweepConcurrency) rows).flatten = rows)
    (plan : batches (concurrency.getD defaultSweepConcurrency) rows = pre ++ batch :: waiting)
    (ids : ((pre.flatten ++ batch).map (·.meterId)).Nodup)
    (all : ∀ row ∈ pre.flatten, Succeeds (ran limits inputs stores row).1)
    (member : row ∈ batch) (rejects : (ran limits inputs stores row).1 = .error e) :
    ∃ e' s, (sweep limits concurrency (.ok rows) inputs).eval { stores } = (.error e', s) ∧
      s.stores = storesAfter limits inputs stores (pre.flatten ++ batch) ∧
      s.polled = pre.flatten ++ batch := by
  have nonempty : rows ≠ [] := by
    rintro rfl
    simp [batches_nil] at plan
  have parts := ids
  rw [List.map_append] at parts
  obtain ⟨s, run, joined⟩ := sweepBatches_joined parts.of_append_left all
  obtain ⟨e', s', stopped, stores', polled⟩ := joined.sweepBatch_error ids member rejects
  refine ⟨e', s', ?_, stores', polled⟩
  have loop : (forEach (sweepBatch limits inputs) (pre ++ batch :: waiting)).eval { stores } =
      (.error e', s') := by
    rw [eval_forEach_append, eval_bind_ok run, forEach]
    exact eval_bind_error stopped
  rw [sweep_eval nonempty, plan, loop]

end

end ElectroSync
