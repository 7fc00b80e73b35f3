import ElectroSync.Alerts.RechargeCredits

/-!
# What a suppressed reading costs

A sample whose reading makes no sense bills nothing, but the reading is stored and opens the next
window. After an unbelievable fall the next window lies inside the drop from the reading before, and
bills no more than that. After an unexplained rise it starts too high, and what it falls again is
billed.
-/

namespace ElectroSync
open Rounding Transition

/-- The sample of the reading was built, and bills nothing because the reading cannot be right. -/
def CommittedReading.Suppressed (reading : CommittedReading) : Prop :=
  ∃ s, reading.sample = some s ∧
    (s.anomaly = some .negativeDelta ∨ s.anomaly = some .implausibleRate)

/-- What the sample of a reading bills. -/
def CommittedReading.billed (reading : CommittedReading) : ℚ :=
  (reading.sample.map (·.consumedCost)).getD 0

/-- The polls of a run that committed three readings one after the other, at increasing instants
and with no recharge in between. -/
structure Successive (trace : List PollEvent) (first suspect next : PollEvent)
    (a g c : CommittedReading) : Prop where
  split : ∃ pre mid mid' post,
    trace = pre ++ first :: (mid ++ suspect :: (mid' ++ next :: post)) ∧
    committedReadings mid = [] ∧ committedReadings mid' = []
  committed : first.report.committed = some a ∧ suspect.report.committed = some g ∧
    next.report.committed = some c
  ascending : a.readingAt < g.readingAt ∧ g.readingAt < c.readingAt
  unrecharged : ∀ e ∈ [suspect, next], ∀ snapshot, e.input.snapshot = .ok snapshot →
    ∀ r ∈ successful snapshot.recharges, ¬ (a.readingAt < r.instant ∧ r.instant ≤ c.readingAt)

/-- The two samples around the middle reading bill no more than the fall between the outer two. -/
def NothingInvented (a g c : CommittedReading) : Prop :=
  g.billed + c.billed ≤ max 0 (a.balance - c.balance)

/-- The length of the window between two readings. -/
def hoursBetween (a g : CommittedReading) : ℚ := (g.readingAt - a.readingAt : ℤ) / msPerHour

/-- The balance rose to the middle reading, and fell again at a rate that is believed. -/
def FallsBack (limits : UsageSamplingLimits) (a g c : CommittedReading) : Prop :=
  round (a.balance - g.balance) < -epsilon ∧ 0 < round (g.balance - c.balance) ∧
    round (g.balance - c.balance) / hoursBetween g c ≤ limits.maxCostPerHour

variable {limits : UsageSamplingLimits} {meter : Meter} {store : MeterStore}
  {trace : List PollEvent} {first suspect next : PollEvent} {a g c : CommittedReading}

/-! ## The sample between two readings -/

/-- The sample of a committed reading starts from the reading committed before it. -/
theorem sample_of_last (run : Run (PollStep limits meter) {} (pre ++ e :: post) store)
    (last : (committedReadings pre).getLast? = some a) (committed : e.report.committed = some g) :
    ∃ snapshot, e.input.snapshot = .ok snapshot ∧ g.sample = buildUsageSample {
      openingBalance := a.balance
      closingBalance := g.balance
      windowStart := a.readingAt
      windowEnd := g.readingAt
      recharges := snapshot.recharges } limits := by
  obtain ⟨s, s', before, step, -⟩ := run.split_at
  have reading := lastReading_of_run (run_measurements before)
  rw [last] at reading
  obtain ⟨snapshot, scraped, -, rfl⟩ := step.measurements.eq_read committed
  refine ⟨snapshot, scraped, ?_⟩
  rw [read_sample, Measurements.nextSample, reading]
  rfl

/-- A poll whose transaction commits records its reading. -/
theorem MeasurementStep.recorded_of_written {m m' : Measurements} {e : PollEvent}
    (step : MeasurementStep limits m e m') (scraped : e.input.snapshot = .ok snapshot)
    (written : e.input.successWrite = .ok ()) :
    m' = m.record (m.read limits e.input.settings snapshot e.input.now) := by
  cases step with
  | failed fault => exact absurd written (fault snapshot scraped)
  | recorded snapshot' _ _ scraped' =>
    cases scraped.symm.trans scraped'
    rfl

theorem successfulWithin_of_unrecharged {recharges : List NescoRechargeDto}
    {windowStart windowEnd : ℤ} (amount : NescoRechargeDto → ℚ)
    (none : ∀ r ∈ successful recharges, ¬ (windowStart < r.instant ∧ r.instant ≤ windowEnd)) :
    successfulWithin amount recharges windowStart windowEnd = 0 := by
  have empty : ((successful recharges).filter fun r =>
      windowStart < r.instant ∧ r.instant ≤ windowEnd) = [] := by
    rw [List.filter_eq_nil_iff]
    intro r member
    simpa using none r member
  rw [successfulWithin, Windows.sumWithin, empty]
  rfl

/-- Without recharges a sample judges the fall of the balance. -/
theorem sample_of_unrecharged {recharges : List NescoRechargeDto} {openingBalance : ℚ}
    {closingBalance : ℚ} {windowStart windowEnd : ℤ} (later : windowStart < windowEnd)
    (none : ∀ r ∈ successful recharges, ¬ (windowStart < r.instant ∧ r.instant ≤ windowEnd)) :
    ∃ s, buildUsageSample
        ⟨openingBalance, closingBalance, windowStart, windowEnd, recharges⟩ limits = some s ∧
      s.consumedCost = (judge limits ((windowEnd - windowStart : ℤ) / msPerHour)
        (round (openingBalance - closingBalance))).1 ∧
      s.anomaly = (judge limits ((windowEnd - windowStart : ℤ) / msPerHour)
        (round (openingBalance - closingBalance))).2 := by
  have credited := successfulWithin_of_unrecharged (·.usableAmount) none
  simp only [buildUsageSample, rechargesWithin_eq, credited]
  rw [dif_neg (by omega)]
  have zero : round 0 = 0 := Decimal.zero.roundTo_eq
  simp only [zero, add_zero]
  exact ⟨_, rfl, rfl, rfl⟩

/-- What the sample of a reading bills, from the reading before and without recharges. -/
theorem billed_of_last (run : Run (PollStep limits meter) {} (pre ++ e :: post) store)
    (last : (committedReadings pre).getLast? = some a) (committed : e.report.committed = some g)
    (later : a.readingAt < g.readingAt)
    (none : ∀ snapshot, e.input.snapshot = .ok snapshot → ∀ r ∈ successful snapshot.recharges,
      ¬ (a.readingAt < r.instant ∧ r.instant ≤ g.readingAt)) :
    ∃ s, g.sample = some s ∧
      s.consumedCost = (judge limits (hoursBetween a g) (round (a.balance - g.balance))).1 ∧
      s.anomaly = (judge limits (hoursBetween a g) (round (a.balance - g.balance))).2 := by
  obtain ⟨snapshot, scraped, built⟩ := sample_of_last run last committed
  obtain ⟨s, sample, judged⟩ := @sample_of_unrecharged limits _ a.balance g.balance _ _ later
    (none snapshot scraped)
  exact ⟨s, built.trans sample, judged⟩

/-! ## The two samples together -/

/-- A fall that rounds to less than nothing is a rise by more than the tolerance. -/
theorem rise_of_round_lt (h : round v < -epsilon) : v < -(3 / 200) := by
  have tolerance : Cents (-epsilon) := ⟨-1, by norm_num [epsilon]⟩
  have below := (decimal_roundTo 2 v).add_le_of_lt tolerance h
  have nearest := lt_roundTo 2 v
  norm_num [epsilon] at below nearest ⊢
  linarith

theorem fall_of_round_pos (h : 0 < round v) : 1 / 200 ≤ v := by
  have above := Decimal.zero.add_le_of_lt (decimal_roundTo 2 v) h
  have nearest := roundTo_le 2 v
  norm_num at above nearest ⊢
  linarith

theorem judge_cost (limits : UsageSamplingLimits) (windowHours rawDelta : ℚ) :
    (judge limits windowHours rawDelta).1 =
      if rawDelta / windowHours ≤ limits.maxCostPerHour then max rawDelta 0 else 0 := by
  have idle (negative : rawDelta < -epsilon) : max rawDelta 0 = 0 := by
    apply max_eq_right
    norm_num [epsilon] at negative
    linarith
  unfold judge
  split
  · next negative => simp only [idle negative, ite_self]
  · split
    · next doubted => rw [if_neg (not_le.mpr doubted)]
    · next believed =>
      rw [if_pos (not_lt.mp believed)]
      split <;> rfl

theorem judge_suppressed {windowHours rawDelta : ℚ}
    (h : (judge limits windowHours rawDelta).2 = some .negativeDelta ∨
      (judge limits windowHours rawDelta).2 = some .implausibleRate) :
    (judge limits windowHours rawDelta).1 = 0 ∧
      (rawDelta < -epsilon ∨ limits.maxCostPerHour < rawDelta / windowHours) := by
  unfold judge at h ⊢
  split_ifs at h ⊢ <;> simp_all

theorem hoursBetween_pos (h : a.readingAt < g.readingAt) : 0 < hoursBetween a g := by
  have later : (0 : ℚ) < (g.readingAt - a.readingAt : ℤ) := by exact_mod_cast Int.sub_pos.mpr h
  exact div_pos later (by norm_num [msPerHour, secondsPerHour])

/-- After a fall at a doubted rate, a believed fall stays inside the drop. -/
theorem billed_le_of_doubted (hours : 0 < hoursBetween a g) (hours' : 0 < hoursBetween g c)
    (doubted : limits.maxCostPerHour < round (a.balance - g.balance) / hoursBetween a g)
    (believed : round (g.balance - c.balance) / hoursBetween g c ≤ limits.maxCostPerHour)
    (fall : 0 < round (g.balance - c.balance)) :
    round (g.balance - c.balance) ≤ a.balance - c.balance := by
  have rate : 0 < round (g.balance - c.balance) / hoursBetween g c := div_pos fall hours'
  have drop : 0 < round (a.balance - g.balance) :=
    (div_pos_iff_of_pos_right hours).mp (rate.trans (believed.trans_lt doubted))
  have least := fall_of_round_pos drop
  have nearest := roundTo_le 2 (g.balance - c.balance)
  rw [round]
  norm_num at nearest ⊢
  linarith

theorem billed_gt_of_fallsBack (falls : FallsBack limits a g c) :
    max 0 (a.balance - c.balance) < round (g.balance - c.balance) := by
  obtain ⟨rise, fall, -⟩ := falls
  apply max_lt fall
  have least := rise_of_round_lt rise
  have nearest := lt_roundTo 2 (g.balance - c.balance)
  rw [round]
  norm_num at nearest ⊢
  linarith

/-- A suppressed reading invents no consumption, unless the balance rose to it and falls again. -/
theorem nothing_invented_iff (run : Run (PollStep limits meter) {} trace store)
    (successive : Successive trace first suspect next a g c) (suppressed : g.Suppressed) :
    NothingInvented a g c ↔ ¬ FallsBack limits a g c := by
  obtain ⟨⟨pre, mid, mid', post, rfl, quiet, quiet'⟩, ⟨ha, hg, hc⟩, ⟨later, later'⟩, none⟩ :=
    successive
  obtain ⟨s, sample, suspected⟩ := suppressed
  -- the two samples, from the two readings before them
  obtain ⟨_, built, cost, anomaly⟩ := @billed_of_last limits meter store a g (pre ++ first :: mid)
    suspect (mid' ++ next :: post) (by simpa using run)
    (by rw [committedReadings_split, ha, quiet]; simp) hg later
    fun snapshot scraped r member within =>
      none suspect (by simp) snapshot scraped r member ⟨within.1, within.2.trans later'.le⟩
  obtain ⟨s', built', cost', -⟩ := @billed_of_last limits meter store g c
    (pre ++ first :: mid ++ suspect :: mid') next post (by simpa using run)
    (by rw [committedReadings_split, hg, quiet']; simp) hc later'
    fun snapshot scraped r member within =>
      none next (by simp) snapshot scraped r member ⟨later.trans within.1, within.2⟩
  cases sample.symm.trans built
  rw [anomaly] at suspected
  obtain ⟨nothing, bad⟩ := judge_suppressed suspected
  have billed : g.billed = 0 := by simp [CommittedReading.billed, built, cost, nothing]
  have billed' : c.billed =
      (judge limits (hoursBetween g c) (round (g.balance - c.balance))).1 := by
    simp [CommittedReading.billed, built', cost']
  rw [NothingInvented, billed, billed', zero_add, judge_cost]
  constructor
  · intro bounded falls
    rw [if_pos falls.2.2, max_eq_left falls.2.1.le] at bounded
    exact absurd (billed_gt_of_fallsBack falls) (not_lt.mpr bounded)
  · intro stays
    split
    · next believed =>
      rcases le_or_gt (round (g.balance - c.balance)) 0 with idle | fall
      · rw [max_eq_right idle]
        exact le_max_left ..
      · rw [max_eq_left fall.le]
        have doubted := bad.resolve_left fun rise => stays ⟨rise, fall, believed⟩
        exact (billed_le_of_doubted (hoursBetween_pos later) (hoursBetween_pos later')
          doubted believed fall).trans (le_max_right ..)
    · exact le_max_left ..

/-- Three polls, six hours apart, that read these balances. -/
def threePolls (b₁ b₂ b₃ : ℚ) : List PollEvent × MeterStore :=
  runPolls ⟨500, 48⟩ ⟨"m1", "ayesha", "77", none⟩ [
    .untroubled ⟨b₁, none, []⟩ 0,
    .untroubled ⟨b₂, none, []⟩ (6 * msPerHour),
    .untroubled ⟨b₃, none, []⟩ (12 * msPerHour)] {}

/-- What the three polls commit. -/
def threeReadings (b₁ b₂ b₃ : ℚ) : CommittedReading × CommittedReading × CommittedReading :=
  let a := Measurements.read {} ⟨500, 48⟩ none ⟨b₁, none, []⟩ 0
  let m := Measurements.record {} a
  let g := m.read ⟨500, 48⟩ none ⟨b₂, none, []⟩ (6 * msPerHour)
  (a, g, (m.record g).read ⟨500, 48⟩ none ⟨b₃, none, []⟩ (12 * msPerHour))

theorem threePolls_successive (b₁ b₂ b₃ : ℚ) : ∃ first suspect next,
    Successive (threePolls b₁ b₂ b₃).1 first suspect next (threeReadings b₁ b₂ b₃).1
      (threeReadings b₁ b₂ b₃).2.1 (threeReadings b₁ b₂ b₃).2.2 := by
  have run := runPolls_run ⟨500, 48⟩ ⟨"m1", "ayesha", "77", none⟩ [
    .untroubled ⟨b₁, none, []⟩ 0, .untroubled ⟨b₂, none, []⟩ (6 * msPerHour),
    .untroubled ⟨b₃, none, []⟩ (12 * msPerHour)] {}
  obtain ⟨s₁, first, run⟩ := Run.cons_iff.mp run
  obtain ⟨s₂, second, run⟩ := Run.cons_iff.mp run
  obtain ⟨s₃, third, -⟩ := Run.cons_iff.mp run
  have step := first.measurements
  have step' := second.measurements
  have step'' := third.measurements
  have committed := step.committed_of_written rfl rfl
  rw [step.recorded_of_written rfl rfl] at step'
  have committed' := step'.committed_of_written rfl rfl
  rw [step'.recorded_of_written rfl rfl] at step''
  refine ⟨_, _, _, ⟨[], [], [], [], rfl, rfl, rfl⟩,
    ⟨committed, committed', step''.committed_of_written rfl rfl⟩, ?_, ?_⟩
  · exact ⟨show 0 < 6 * msPerHour by decide, show 6 * msPerHour < 12 * msPerHour by decide⟩
  · intro e member snapshot scraped r listed
    rcases List.mem_pair.mp member with rfl | rfl <;> cases scraped <;> cases listed

/-- The balance read as 0 falls at 1500 taka an hour; the next reading stays there. -/
theorem nothing_invented_iff_misread :
    NothingInvented (threeReadings 9000 0 0).1 (threeReadings 9000 0 0).2.1
      (threeReadings 9000 0 0).2.2 := by
  obtain ⟨first, suspect, next, successive⟩ := threePolls_successive 9000 0 0
  refine (nothing_invented_iff (runPolls_run ..) successive ⟨_, rfl, .inr ?_⟩).mpr ?_
  · decide +kernel
  · unfold FallsBack
    decide +kernel

/-- A stale page shows 150 taka between 100 and 90: 60 taka are billed where 10 were used. -/
theorem nothing_invented_fails : ¬ ∀ limits meter trace store first suspect next a g c,
    Run (PollStep limits meter) {} trace store → Successive trace first suspect next a g c →
      g.Suppressed → NothingInvented a g c := by
  intro holds
  obtain ⟨first, suspect, next, successive⟩ := threePolls_successive 100 150 90
  have bounded := holds _ _ _ _ _ _ _ _ _ _ (runPolls_run ..) successive ⟨_, rfl, .inl ?_⟩
  · unfold NothingInvented at bounded
    revert bounded
    decide +kernel
  · decide +kernel

end ElectroSync
