import ElectroSync.Alerts.SampleRuns

/-!
# Which sample a recharge is credited in

A poll credits the recharges that its snapshot lists as successful and that fall into the window it
closes. Windows do not overlap, so a recharge has one chance to be credited: the first poll whose
reading is not before it.
-/

namespace ElectroSync
open Transition

/-- One recharge in two snapshots: its place in the report and its status may have changed. -/
def SameRecharge (recharge entry : NescoRechargeDto) : Prop :=
  { recharge with sn := entry.sn, rechargeStatus := entry.rechargeStatus } = entry

instance (recharge entry : NescoRechargeDto) : Decidable (SameRecharge recharge entry) :=
  inferInstanceAs (Decidable (_ = _))

theorem SameRecharge.instant {recharge entry : NescoRechargeDto}
    (same : SameRecharge recharge entry) : entry.instant = recharge.instant := by
  rw [← same]
  rfl

/-- The recharges whose amounts `buildUsageSample` adds up for a window. -/
def creditedRecharges (recharges : List NescoRechargeDto) (windowStart windowEnd : ℤ) :
    List NescoRechargeDto :=
  (successful recharges).filter fun r => windowStart < r.instant ∧ r.instant ≤ windowEnd

theorem rechargeCredited_eq (built : buildUsageSample input limits = some sample) :
    sample.rechargeCredited = round ((creditedRecharges input.recharges sample.windowStart
      sample.windowEnd).map (·.usableAmount)).sum := by
  obtain ⟨starts, ends, credited, -⟩ := buildUsageSample_spec built
  rw [credited, starts, ends]
  rfl

/-- The sample of a committed poll credits the sum of these recharges of its snapshot. -/
theorem MeasurementStep.rechargeCredited {m m' : Measurements} {e : PollEvent}
    (step : MeasurementStep limits m e m') (committed : e.report.committed = some reading)
    (built : reading.sample = some s) :
    ∃ snapshot, e.input.snapshot = .ok snapshot ∧
      s.rechargeCredited = round ((creditedRecharges snapshot.recharges s.windowStart
        s.windowEnd).map (·.usableAmount)).sum := by
  cases step with
  | failed _ uncommitted =>
    rw [uncommitted] at committed
    cases committed
  | recorded snapshot _ _ scraped _ committed' =>
    rw [committed', Option.some.injEq] at committed
    rw [← committed] at built
    obtain ⟨last, -, built⟩ := Option.bind_eq_some_iff.mp built
    have credited := rechargeCredited_eq built
    exact ⟨snapshot, scraped, credited⟩

/-- The usable amount of the recharge is a part of what the poll's sample `s` credits. -/
def PollEvent.Credits (e : PollEvent) (recharge : NescoRechargeDto) (s : UsageSample) : Prop :=
  ∃ snapshot reading, e.input.snapshot = .ok snapshot ∧ e.report.committed = some reading ∧
    reading.sample = some s ∧
    ∃ entry ∈ creditedRecharges snapshot.recharges s.windowStart s.windowEnd,
      SameRecharge recharge entry

/-- The snapshot of the poll lists the recharge as successful. -/
def PollEvent.ListsSuccess (e : PollEvent) (recharge : NescoRechargeDto) : Prop :=
  ∃ snapshot, e.input.snapshot = .ok snapshot ∧
    ∃ entry ∈ successful snapshot.recharges, SameRecharge recharge entry

instance (e : PollEvent) (recharge : NescoRechargeDto) : Decidable (e.ListsSuccess recharge) :=
  decidable_of_iff (∃ snapshot ∈ e.input.snapshot.toOption,
      ∃ entry ∈ successful snapshot.recharges, SameRecharge recharge entry) <| by
    cases h : e.input.snapshot <;> simp [PollEvent.ListsSuccess, Except.toOption, h]

/-- The first poll whose committed reading is not before the recharge. -/
def closingPoll (trace : List PollEvent) (recharge : NescoRechargeDto) : Option PollEvent :=
  trace.find? fun e => e.report.committed.any (recharge.instant ≤ ·.readingAt)

/-- The readings of a run do not go back in time. -/
def ReadingsInOrder (trace : List PollEvent) : Prop :=
  (committedReadings trace).Pairwise (·.readingAt ≤ ·.readingAt)

variable {limits : UsageSamplingLimits} {meter : Meter} {m m' : Measurements} {e : PollEvent}
  {trace : List PollEvent} {recharge : NescoRechargeDto} {s : UsageSample}

theorem committedReadings_split (pre : List PollEvent) (e : PollEvent) (post : List PollEvent) :
    committedReadings (pre ++ e :: post) =
      committedReadings pre ++ e.report.committed.toList ++ committedReadings post := by
  rw [← List.singleton_append, ← List.append_assoc]
  simp only [committedReadings, List.filterMap_append, List.filterMap_cons]
  cases e.report.committed <;> rfl

theorem mem_committedReadings {reading : CommittedReading} :
    reading ∈ committedReadings trace ↔ ∃ e ∈ trace, e.report.committed = some reading :=
  List.mem_filterMap

/-- The last reading of a meter is the last one that was committed. -/
theorem lastReading_of_run (run : Run (MeasurementStep limits) {} trace m) :
    m.lastReading = (committedReadings trace).getLast?.map fun reading =>
      (reading.balance, reading.readingAt) := by
  refine run.invariantTrace (P := fun trace m => m.lastReading =
    (committedReadings trace).getLast?.map fun reading =>
      (reading.balance, reading.readingAt)) rfl ?_
  intro trace m e m' _ same step
  rw [committedReadings_split]
  cases step with
  | failed _ uncommitted =>
    rw [uncommitted]
    simpa [committedReadings] using same
  | recorded snapshot _ _ _ _ committed =>
    rw [committed]
    simp [committedReadings, Measurements.record]

/-- What a poll commits, when it does. -/
theorem MeasurementStep.eq_read (step : MeasurementStep limits m e m')
    (committed : e.report.committed = some reading) :
    ∃ snapshot, e.input.snapshot = .ok snapshot ∧ e.input.successWrite = .ok () ∧
      reading = m.read limits e.input.settings snapshot e.input.now := by
  cases step with
  | failed _ uncommitted =>
    rw [uncommitted] at committed
    cases committed
  | recorded snapshot _ _ scraped written committed' =>
    rw [committed'] at committed
    exact ⟨snapshot, scraped, written, (Option.some.inj committed).symm⟩

theorem MeasurementStep.committed_of_written (step : MeasurementStep limits m e m')
    (scraped : e.input.snapshot = .ok snapshot) (written : e.input.successWrite = .ok ()) :
    e.report.committed = some (m.read limits e.input.settings snapshot e.input.now) := by
  cases step with
  | failed fault => exact absurd written (fault snapshot scraped)
  | recorded snapshot' _ _ scraped' _ committed =>
    cases scraped.symm.trans scraped'
    exact committed

theorem ReadingsInOrder.le (ordered : ReadingsInOrder (pre ++ e :: post))
    (earlier : earlierReading ∈ committedReadings pre)
    (committed : e.report.committed = some reading) :
    earlierReading.readingAt ≤ reading.readingAt := by
  rw [ReadingsInOrder, committedReadings_split, committed, List.append_assoc,
    List.pairwise_append] at ordered
  exact ordered.2.2 _ earlier reading (by simp)

/-- Readings in order do not go back before a stored window. -/
theorem inOrder_of_readings (run : Run (PollStep limits meter) {} trace store)
    (ordered : ReadingsInOrder trace) :
    Run (Guarded (PollStep limits meter) InOrder) {} trace store := by
  apply run.guard
  rintro pre e post store store' rfl before step snapshot scraped written s member
  obtain ⟨d, mem, reading, committed, -, ends, -⟩ :=
    sample_origin (run_measurements before) s member
  rw [ends]
  exact ordered.le (mem_committedReadings.mpr ⟨d, mem, committed⟩)
    (step.measurements.committed_of_written scraped written)

/-! ## The one chance of a recharge -/

theorem mem_creditedRecharges {recharges : List NescoRechargeDto} {windowStart windowEnd : ℤ}
    {entry : NescoRechargeDto} :
    entry ∈ creditedRecharges recharges windowStart windowEnd ↔
      entry ∈ successful recharges ∧ windowStart < entry.instant ∧ entry.instant ≤ windowEnd := by
  simp only [creditedRecharges, List.mem_filter, decide_eq_true_eq]

theorem closingPoll_eq_some : closingPoll trace recharge = some e ↔
    (∃ reading, e.report.committed = some reading ∧ recharge.instant ≤ reading.readingAt) ∧
      ∃ pre post, trace = pre ++ e :: post ∧
        ∀ earlier ∈ committedReadings pre, earlier.readingAt < recharge.instant := by
  have committed (d : PollEvent) :
      d.report.committed.any (fun reading => decide (recharge.instant ≤ reading.readingAt)) = true ↔
        ∃ reading, d.report.committed = some reading ∧ recharge.instant ≤ reading.readingAt := by
    simp [Option.any_eq_true]
  rw [closingPoll, List.find?_eq_some_iff_append, committed]
  apply and_congr_right
  intro _
  apply exists_congr
  intro pre
  apply exists_congr
  intro post
  apply and_congr_right
  intro _
  constructor
  · intro before reading member
    obtain ⟨d, mem, here⟩ := mem_committedReadings.mp member
    have := before d mem
    by_contra later
    rw [(committed d).mpr ⟨reading, here, not_lt.mp later⟩] at this
    cases this
  · intro before d mem
    rw [Bool.not_eq_true']
    by_contra later
    rw [Bool.not_eq_false, committed] at later
    obtain ⟨reading, here, le⟩ := later
    exact absurd (before reading (mem_committedReadings.mpr ⟨d, mem, here⟩)) (not_lt.mpr le)

/-- In a run in order no committed reading is after the last one. -/
theorem le_lastReading (run : Run (MeasurementStep limits) {} trace m)
    (ordered : ReadingsInOrder trace) (last : m.lastReading = some (balance, lastAt))
    (earlier : reading ∈ committedReadings trace) : reading.readingAt ≤ lastAt := by
  rw [lastReading_of_run run, Option.map_eq_some_iff] at last
  obtain ⟨lastReading, last, same⟩ := last
  cases same
  obtain ⟨before, split⟩ := List.getLast?_eq_some_iff.mp last
  rw [ReadingsInOrder, split, List.pairwise_append] at ordered
  rw [split, List.mem_append, List.mem_singleton] at earlier
  rcases earlier with earlier | rfl
  · exact ordered.2.2 _ earlier _ (List.mem_singleton_self _)
  · exact le_rfl

theorem ReadingsInOrder.init (ordered : ReadingsInOrder (pre ++ e :: post)) :
    ReadingsInOrder pre := by
  rw [ReadingsInOrder, committedReadings_split, List.append_assoc, List.pairwise_append] at ordered
  exact ordered.1

/-- The poll that credits a recharge is the first one whose reading is not before it. -/
theorem closing_of_credits (run : Run (MeasurementStep limits) {} trace m)
    (ordered : ReadingsInOrder trace) (member : e ∈ trace) (credits : e.Credits recharge s) :
    closingPoll trace recharge = some e ∧ e.ListsSuccess recharge := by
  obtain ⟨snapshot, reading, scraped, committed, built, entry, counted, same⟩ := credits
  obtain ⟨listed, starts, ends⟩ := mem_creditedRecharges.mp counted
  rw [same.instant] at starts ends
  obtain ⟨pre, post, rfl⟩ := List.append_of_mem member
  obtain ⟨m₁, m₂, before, step, -⟩ := run.split_at
  obtain ⟨snapshot', -, -, rfl⟩ := step.eq_read committed
  obtain ⟨balance, last, ended⟩ := nextSample_window built
  refine ⟨closingPoll_eq_some.mpr ⟨⟨_, committed, ends.trans_eq ended⟩, pre, post, rfl, ?_⟩,
    snapshot, scraped, entry, listed, same⟩
  intro earlier mem
  exact (le_lastReading before ordered.init last mem).trans_lt starts

/-- The first poll whose reading is not before a recharge closes a window around it, and credits it
there when it lists it as successful. -/
theorem credits_of_closing (run : Run (MeasurementStep limits) {} trace m)
    (after : ∀ first ∈ (committedReadings trace).head?, first.readingAt < recharge.instant)
    (closing : closingPoll trace recharge = some e) (lists : e.ListsSuccess recharge) :
    e ∈ trace ∧ ∃ s, e.Credits recharge s := by
  obtain ⟨⟨reading, committed, notBefore⟩, pre, post, rfl, earlier⟩ :=
    closingPoll_eq_some.mp closing
  obtain ⟨snapshot, scraped, entry, listed, same⟩ := lists
  refine ⟨by simp, ?_⟩
  obtain ⟨m₁, m₂, before, step, -⟩ := run.split_at
  obtain ⟨snapshot', scraped', -, rfl⟩ := step.eq_read committed
  cases scraped.symm.trans scraped'
  rcases last : (committedReadings pre).getLast? with _ | lastReading
  · have first := after (m₁.read limits e.input.settings snapshot e.input.now) (by
      rw [committedReadings_split, List.getLast?_eq_none_iff.mp last, committed]
      rfl)
    exact absurd first (not_lt.mpr notBefore)
  · have lastAt := lastReading_of_run before
    rw [last, Option.map_some] at lastAt
    have starts := earlier lastReading (List.mem_of_getLast? last)
    rcases built : m₁.nextSample limits snapshot
      (resolveReadingInstant snapshot.balanceAsOf e.input.now).instant with _ | s
    · rw [Measurements.nextSample, lastAt] at built
      have := buildUsageSample_eq_none_iff.mp built
      exact absurd (starts.trans_le notBefore) (not_lt.mpr this)
    · obtain ⟨balance, last', ended⟩ := nextSample_window built
      rw [lastAt, Option.some.injEq, Prod.mk.injEq] at last'
      refine ⟨s, snapshot, _, scraped, committed, built, entry, mem_creditedRecharges.mpr ?_, same⟩
      rw [same.instant]
      exact ⟨listed, last'.2 ▸ starts, notBefore.trans_eq ended.symm⟩

theorem stored_of_credits (run : Run (PollStep limits meter) {} trace store)
    (ordered : ReadingsInOrder trace) (member : e ∈ trace) (credits : e.Credits recharge s) :
    s ∈ store.samples := by
  obtain ⟨-, reading, -, committed, built, -⟩ := credits
  apply (windowsKept_of_inOrder (inOrder_of_readings run ordered)).stored
  exact List.mem_filterMap.mpr ⟨reading, mem_committedReadings.mpr ⟨e, member, committed⟩, built⟩

/-- A recharge after the first reading is credited in exactly one stored sample, when the first poll
whose reading is not before it lists it as successful, and otherwise in none. -/
theorem credited_once_iff (run : Run (PollStep limits meter) {} trace store)
    (ordered : ReadingsInOrder trace)
    (after : ∀ first ∈ (committedReadings trace).head?, first.readingAt < recharge.instant) :
    (∃! s, s ∈ store.samples ∧ ∃ e ∈ trace, e.Credits recharge s) ↔
      ∃ e, closingPoll trace recharge = some e ∧ e.ListsSuccess recharge := by
  have run' := run_measurements run
  constructor
  · rintro ⟨s, ⟨-, e, member, credits⟩, -⟩
    exact ⟨e, closing_of_credits run' ordered member credits⟩
  · rintro ⟨e, closing, lists⟩
    obtain ⟨member, s, credits⟩ := credits_of_closing run' after closing lists
    refine ⟨s, ⟨stored_of_credits run ordered member credits, e, member, credits⟩, ?_⟩
    rintro s' ⟨-, e', member', credits'⟩
    have same := (closing_of_credits run' ordered member' credits').1
    rw [closing] at same
    cases same
    obtain ⟨-, reading, -, committed, built, -⟩ := credits
    obtain ⟨-, reading', -, committed', built', -⟩ := credits'
    rw [committed] at committed'
    cases committed'
    rw [built] at built'
    exact (Option.some.inj built').symm

/-! ## Stamps in order -/

/-- The settlement stamp of the snapshot that a poll scraped. -/
def PollEvent.stamp (e : PollEvent) : Option ℤ := e.input.snapshot.toOption.bind (·.balanceAsOf)

/-- Every committed snapshot carries a stamp, and stamps never decrease. -/
structure StampsInOrder (trace : List PollEvent) : Prop where
  stamped : ∀ e ∈ trace, e.report.committed.isSome → e.stamp.isSome
  ordered : trace.Pairwise fun e e' => ∀ stamp ∈ e.stamp, ∀ stamp' ∈ e'.stamp, stamp ≤ stamp'

theorem readingAt_of_stamp (run : Run (MeasurementStep limits) {} trace m)
    (stamped : ∀ e ∈ trace, e.report.committed.isSome → e.stamp.isSome) (member : e ∈ trace)
    (committed : e.report.committed = some reading) :
    ∃ stamp, e.stamp = some stamp ∧ reading.readingAt = min (stamp * 1000) e.input.now := by
  obtain ⟨stamp, here⟩ := Option.isSome_iff_exists.mp (stamped e member (by rw [committed]; rfl))
  obtain ⟨pre, post, rfl⟩ := List.append_of_mem member
  obtain ⟨m₁, m₂, -, step, -⟩ := run.split_at
  obtain ⟨snapshot, scraped, -, rfl⟩ := step.eq_read committed
  have asOf : snapshot.balanceAsOf = some stamp := by
    rwa [PollEvent.stamp, scraped] at here
  refine ⟨stamp, here, ?_⟩
  rw [← resolveReadingInstant_eq_min, ← asOf]
  rfl

/-- Stamps that never decrease, read by a clock that does not go back, keep the readings in order:
a stamp that is rejected as later than its poll gives way to the time of the poll. -/
theorem readingsInOrder_of_stamps (run : Run (MeasurementStep limits) {} trace m)
    (stamps : StampsInOrder trace) (clock : trace.Pairwise (·.input.now ≤ ·.input.now)) :
    ReadingsInOrder trace := by
  apply List.pairwise_filterMap.mpr
  apply (stamps.ordered.and clock).imp_of_mem
  rintro e e' member member' ⟨stampLe, nowLe⟩ reading committed reading' committed'
  obtain ⟨stamp, here, at_⟩ := readingAt_of_stamp run stamps.stamped member committed
  obtain ⟨stamp', here', at_'⟩ := readingAt_of_stamp run stamps.stamped member' committed'
  have le := stampLe stamp here stamp' here'
  rw [at_, at_']
  exact min_le_min (by omega) nowLe

/-! ## Hourly settlements -/

/-- A recharge half an hour after the first settlement. -/
def topUp (status : String) : NescoRechargeDto :=
  ⟨1, "1111", 40, 42, 20, 0, 500, 398, "bKash", 5400, status⟩

/-- A poll a minute after each of the hourly settlements, with the recharges that it lists. -/
def settle (histories : List (List NescoRechargeDto)) : List PollEvent × MeterStore :=
  runPolls ⟨500, 48⟩ ⟨"m1", "ayesha", "77", none⟩ (histories.zipIdx.map fun (recharges, i) =>
    .untroubled ⟨900, some ((i + 1) * secondsPerHour), recharges⟩ ((i + 1) * msPerHour + 60000)) {}

theorem settle_run (histories : List (List NescoRechargeDto)) :
    Run (PollStep ⟨500, 48⟩ ⟨"m1", "ayesha", "77", none⟩) {} (settle histories).1
      (settle histories).2 := runPolls_run ..

theorem credited_once_iff_settled :
    ∃! s, s ∈ (settle [[], [topUp "success"], [topUp "success"]]).2.samples ∧
      ∃ e ∈ (settle [[], [topUp "success"], [topUp "success"]]).1,
        e.Credits (topUp "success") s := by
  have run := settle_run [[], [topUp "success"], [topUp "success"]]
  apply (credited_once_iff run ?_ (by decide +kernel)).mpr
  · have credited : (closingPoll (settle [[], [topUp "success"], [topUp "success"]]).1
        (topUp "success")).any (·.ListsSuccess (topUp "success")) = true := by decide +kernel
    obtain ⟨e, closing, lists⟩ := (Option.any_eq_true ..).mp credited
    exact ⟨e, closing, of_decide_eq_true lists⟩
  · exact readingsInOrder_of_stamps (run_measurements run)
      ⟨by decide +kernel, by decide +kernel⟩ (by decide +kernel)

/-- A recharge that is pending when its window is closed and succeeds later is credited nowhere. -/
theorem credited_once_fails :
    ¬ ∀ limits meter trace store recharge, Run (PollStep limits meter) {} trace store →
      (∀ e ∈ trace, e.report.committed.isSome) → StampsInOrder trace →
      (∃ e ∈ trace.getLast?, e.ListsSuccess recharge) →
      (∀ e ∈ trace.head?, ∀ stamp ∈ e.stamp, stamp < recharge.rechargedDate) →
      (∀ e ∈ trace.getLast?, ∀ stamp ∈ e.stamp, recharge.rechargedDate ≤ stamp) →
      ∃! s, s ∈ store.samples ∧ ∃ e ∈ trace, e.Credits recharge s := by
  intro once
  have run := settle_run [[], [topUp "pending"], [topUp "success"]]
  have stamps : StampsInOrder (settle [[], [topUp "pending"], [topUp "success"]]).1 :=
    ⟨by decide +kernel, by decide +kernel⟩
  obtain ⟨s, ⟨-, e, member, credits⟩, -⟩ := once _ _ _ _ (topUp "success") run
    (by decide +kernel) stamps (by decide +kernel) (by decide +kernel) (by decide +kernel)
  obtain ⟨closing, lists⟩ := closing_of_credits (run_measurements run)
    (readingsInOrder_of_stamps (run_measurements run) stamps (by decide +kernel)) member credits
  have missed : (closingPoll (settle [[], [topUp "pending"], [topUp "success"]]).1
      (topUp "success")).any (·.ListsSuccess (topUp "success")) = false := by decide +kernel
  rw [closing] at missed
  exact of_decide_eq_false missed lists

end ElectroSync
