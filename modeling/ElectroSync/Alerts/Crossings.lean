import ElectroSync.Alerts.Measurements

/-!
# Balance alerts fire only on committed worsenings

The severity a poll starts from is the one the last committed reading recorded, whatever failed in
between. A balance push needs a reading that ranks above it, so between two pushes of one kind the
balance must have recovered in some committed reading.
-/

namespace ElectroSync
open Transition

/-- The severity recorded by the last committed reading, `ok` when there is none. -/
def lastSeverity (trace : List PollEvent) : AlertSeverity :=
  ((committedReadings trace).getLast?.map (·.severity)).getD .ok

/-- The balance pushes of a run follow its committed worsenings. -/
structure WorseningsOnly (trace : List PollEvent) : Prop where
  /-- A balance push belongs to a commit that ranks above the one before, and names it. -/
  worsens : ∀ pre e post, trace = pre ++ e :: post → ∀ p ∈ e.report.attempted, p.kind.IsBalance →
    ∃ reading, e.report.committed = some reading ∧
      severityRank (lastSeverity pre) < severityRank reading.severity ∧
      p.kind = balanceAlert reading.severity
  once : ∀ e ∈ trace, (e.report.attempted.filter (·.kind.IsBalance)).length ≤ 1
  /-- Between two pushes of one kind some committed reading ranks below them. -/
  rearmed : ∀ pre e mid e' post, trace = pre ++ e :: mid ++ e' :: post →
    ∀ p ∈ e.report.attempted, ∀ p' ∈ e'.report.attempted, p.kind.IsBalance → p'.kind = p.kind →
    ∃ reading, e.report.committed = some reading ∧ p.kind = balanceAlert reading.severity ∧
      ∃ m ∈ mid, ∃ lower, m.report.committed = some lower ∧
        severityRank lower.severity < severityRank reading.severity

variable {limits : UsageSamplingLimits} {m m' : Measurements} {e : PollEvent}

@[simp] theorem committedReadings_append (tr tr' : List PollEvent) :
    committedReadings (tr ++ tr') = committedReadings tr ++ committedReadings tr' :=
  List.filterMap_append

theorem lastSeverity_snoc (trace : List PollEvent) (e : PollEvent) :
    lastSeverity (trace ++ [e]) =
      match e.report.committed with
      | none => lastSeverity trace
      | some reading => reading.severity := by
  cases h : e.report.committed <;> simp [lastSeverity, committedReadings, h]

/-- The severity a poll starts from. -/
theorem severity_eq_last (run : Run (MeasurementStep limits) {} trace m) :
    m.previous.severity = lastSeverity trace := by
  refine run.invariantTrace (P := fun trace m => m.previous.severity = lastSeverity trace) rfl ?_
  intro tr m e m' _ ih step
  rw [lastSeverity_snoc]
  cases step with
  | failed _ uncommitted => rw [uncommitted, ih]
  | recorded snapshot sent anomalies scraped written committed => rw [committed]; rfl

/-- Over more polls the severity stays, or is that of a reading committed in one of them. -/
theorem lastSeverity_append (tr mid : List PollEvent) :
    lastSeverity (tr ++ mid) = lastSeverity tr ∨
      ∃ m ∈ mid, ∃ reading, m.report.committed = some reading ∧
        reading.severity = lastSeverity (tr ++ mid) := by
  simp only [lastSeverity, committedReadings_append, List.getLast?_append]
  rcases last : (committedReadings mid).getLast? with _ | reading
  · exact .inl rfl
  · obtain ⟨m, member, committed⟩ := List.mem_filterMap.mp (List.mem_of_getLast? last)
    exact .inr ⟨m, member, reading, committed, rfl⟩

theorem not_isBalance_usageAnomaly : ¬ AlertKind.usageAnomaly.IsBalance := by decide

/-- A balance push of a poll belongs to a commit that worsens the severity. -/
theorem MeasurementStep.worsens (step : MeasurementStep limits m e m')
    (member : p ∈ e.report.attempted) (balance : p.kind.IsBalance) :
    ∃ reading, e.report.committed = some reading ∧
      severityRank m.previous.severity < severityRank reading.severity ∧
      p.kind = balanceAlert reading.severity := by
  cases step with
  | failed _ _ silent =>
    rw [silent] at member
    cases member
  | recorded snapshot sent anomalies _ _ committed attempted advisory =>
    rw [attempted, List.mem_append] at member
    rcases member with member | member
    · obtain ⟨kind, alert, rfl⟩ := List.mem_map.mp (List.mem_of_mem_take member)
      have mem : kind ∈ (m.evaluate e.input.settings snapshot).alerts.filter (·.IsBalance) :=
        List.mem_filter.mpr ⟨alert, decide_eq_true balance⟩
      rcases evaluate_balanceAlerts m.previous ⟨snapshot.balance, snapshot.recharges⟩
        e.input.settings with none | ⟨one, worse⟩
      · have := none ▸ mem
        cases this
      · have := one ▸ mem
        exact ⟨_, committed, worse, List.mem_singleton.mp this⟩
    · rw [advisory p member] at balance
      exact absurd balance not_isBalance_usageAnomaly

theorem MeasurementStep.once (step : MeasurementStep limits m e m') :
    (e.report.attempted.filter (·.kind.IsBalance)).length ≤ 1 := by
  cases step with
  | failed _ _ silent => simp [silent]
  | recorded snapshot sent anomalies _ _ committed attempted advisory =>
    have advisories : anomalies.filter (·.kind.IsBalance) = [] :=
      List.filter_eq_nil_iff.mpr fun p member => by
        simpa [advisory p member] using not_isBalance_usageAnomaly
    rw [attempted, List.filter_append, advisories, List.append_nil]
    refine ((List.take_sublist sent _).filter _).length_le.trans ?_
    have kinds : (alertPushes (m.evaluate e.input.settings snapshot) snapshot).filter
        (·.kind.IsBalance) = alertPushes { m.evaluate e.input.settings snapshot with
          alerts := (m.evaluate e.input.settings snapshot).alerts.filter (·.IsBalance) }
          snapshot := by
      simp only [alertPushes, List.filter_map]
      rfl
    rw [kinds, alertPushes, List.length_map]
    rcases evaluate_balanceAlerts m.previous ⟨snapshot.balance, snapshot.recharges⟩
      e.input.settings with none | ⟨one, -⟩
    · exact (congrArg List.length none).trans_le (Nat.zero_le 1)
    · exact (congrArg List.length one).le

/-- The balance push of a poll worsens what the readings before it recorded. -/
theorem worsens_of_run (run : Run (MeasurementStep limits) {} (pre ++ e :: post) m)
    (member : p ∈ e.report.attempted) (balance : p.kind.IsBalance) :
    ∃ reading, e.report.committed = some reading ∧
      severityRank (lastSeverity pre) < severityRank reading.severity ∧
      p.kind = balanceAlert reading.severity := by
  obtain ⟨s, s', before, step, -⟩ := run.split_at
  rw [← severity_eq_last before]
  exact step.worsens member balance

theorem balance_pushes_worsen (run : Run (PollStep limits meter) {} trace store) :
    WorseningsOnly trace := by
  have run := run_measurements run
  refine ⟨?_, ?_, ?_⟩
  · rintro pre e post rfl p member balance
    exact worsens_of_run run member balance
  · intro e member
    obtain ⟨pre, post, rfl⟩ := List.append_of_mem member
    obtain ⟨s, s', -, step, -⟩ := run.split_at
    exact step.once
  · rintro pre e mid e' post rfl p member p' member' balance same
    have run' : Run (MeasurementStep limits) {} (pre ++ e :: (mid ++ e' :: post))
        store.measurements := by
      simpa using run
    obtain ⟨reading, committed, worse, kind⟩ := worsens_of_run run' member balance
    obtain ⟨reading', -, worse', kind'⟩ := worsens_of_run run member' (same ▸ balance)
    have severity : reading'.severity = reading.severity := by
      refine balanceAlert_inj ?_ ?_ (by rw [← kind', ← kind, same])
      · intro ok
        simp [ok, severityRank] at worse'
      · intro ok
        simp [ok, severityRank] at worse
    refine ⟨reading, committed, kind, ?_⟩
    have last : lastSeverity (pre ++ [e]) = reading.severity := by
      rw [lastSeverity_snoc, committed]
    rw [severity] at worse'
    have split : pre ++ e :: mid = (pre ++ [e]) ++ mid := by simp
    rw [split] at worse'
    rcases lastSeverity_append (pre ++ [e]) mid with stays | ⟨m, hm, lower, commit, isLast⟩
    · rw [stays, last] at worse'
      exact absurd worse' (lt_irrefl _)
    · exact ⟨m, hm, lower, commit, isLast ▸ worse'⟩

/-- A failed scrape, a low balance, a recovery, and a second crossing whose push fails. -/
def crossingPolls : List PollInput :=
  [{ PollInput.untroubled ⟨50, some 1, []⟩ 1000 with snapshot := .error "UNREACHABLE" },
    .untroubled ⟨50, some 2, []⟩ 2000, .untroubled ⟨500, some 3, []⟩ 3000,
    { PollInput.untroubled ⟨50, some 4, []⟩ 4000 with sendToUser := fun _ => .error "FCM" }]

theorem balance_pushes_worsen_crossingPolls :
    WorseningsOnly (runPolls ⟨500, 48⟩ ⟨"m1", "ayesha", "77", none⟩ crossingPolls {}).1 ∧
      (runPolls ⟨500, 48⟩ ⟨"m1", "ayesha", "77", none⟩ crossingPolls {}).1.map
          (fun e => e.report.attempted.map (·.kind)) = [[], [.lowBalance], [], [.lowBalance]] :=
  ⟨balance_pushes_worsen (runPolls_run _ _ _ _), by decide +kernel⟩

end ElectroSync
