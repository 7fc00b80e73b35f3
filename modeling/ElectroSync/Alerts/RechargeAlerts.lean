import ElectroSync.Alerts.Evaluations

/-!
# Which recharges are announced

Of all the recharges a meter ever listed, only the token of the newest one at the last reading that
had any is remembered. A recharge is announced when the newest of a reading has another token: as
long as the newest recharge is the remembered one or a later one, that is never a recharge seen
before, and a later one is announced whenever something is remembered.
-/

namespace ElectroSync
open Transition

/-! ## The newest recharge -/

/-- A successful recharge of the list that none of them is later than. -/
structure NewestSuccess (recharges : List NescoRechargeDto) (recharge : NescoRechargeDto) :
    Prop where
  mem : recharge ∈ successful recharges
  latest : ∀ other ∈ successful recharges, other.rechargedDate ≤ recharge.rechargedDate

theorem mem_successful_snoc : other ∈ successful (recharges ++ [recharge]) ↔
    other ∈ successful recharges ∨ other = recharge ∧ recharge.rechargeStatus = "success" := by
  simp only [successful, List.filter_append, List.mem_append, List.mem_filter,
    List.mem_singleton, decide_eq_true_eq]
  constructor
  · rintro (member | ⟨rfl, success⟩)
    · exact .inl member
    · exact .inr ⟨rfl, success⟩
  · rintro (member | ⟨rfl, success⟩)
    · exact .inl member
    · exact .inr ⟨rfl, success⟩

namespace NewestSuccess

theorem snoc (newest : NewestSuccess recharges best)
    (notLater : recharge.rechargeStatus = "success" →
      recharge.rechargedDate ≤ best.rechargedDate) :
    NewestSuccess (recharges ++ [recharge]) best := by
  refine ⟨mem_successful_snoc.mpr (.inl newest.mem), fun other member => ?_⟩
  rcases mem_successful_snoc.mp member with earlier | ⟨rfl, success⟩
  · exact newest.latest other earlier
  · exact notLater success

theorem snoc_self (success : recharge.rechargeStatus = "success")
    (later : ∀ other ∈ successful recharges, other.rechargedDate ≤ recharge.rechargedDate) :
    NewestSuccess (recharges ++ [recharge]) recharge := by
  refine ⟨mem_successful_snoc.mpr (.inr ⟨rfl, success⟩), fun other member => ?_⟩
  rcases mem_successful_snoc.mp member with earlier | ⟨rfl, -⟩
  · exact later other earlier
  · exact le_rfl

end NewestSuccess

theorem latestRecharge_snoc (recharges : List NescoRechargeDto) (recharge : NescoRechargeDto) :
    latestRecharge (recharges ++ [recharge]) =
      newerRecharge (latestRecharge recharges) recharge := by
  simp only [latestRecharge, List.foldl_append, List.foldl_cons, List.foldl_nil]

/-- The loop of `latestRecharge` finds nothing among no successful recharges, and the newest one
otherwise. -/
theorem latestRecharge_cases (recharges : List NescoRechargeDto) :
    (latestRecharge recharges = none ∧ successful recharges = []) ∨
      ∃ newest, latestRecharge recharges = some newest ∧ NewestSuccess recharges newest := by
  induction recharges using List.reverseRecOn with
  | nil => exact .inl ⟨rfl, rfl⟩
  | append_singleton recharges recharge ih =>
    rw [latestRecharge_snoc]
    by_cases success : recharge.rechargeStatus = "success"
    · rcases ih with ⟨none, empty⟩ | ⟨best, found, newest⟩
      · refine .inr ⟨recharge, by simp [none, newerRecharge, success], .snoc_self success ?_⟩
        simp [empty]
      · by_cases later : recharge.rechargedDate > best.rechargedDate
        · refine .inr ⟨recharge, by simp [found, newerRecharge, success, later],
            .snoc_self success ?_⟩
          intro other member
          exact (newest.latest other member).trans later.le
        · exact .inr ⟨best, by simp [found, newerRecharge, success, later],
            newest.snoc fun _ => not_lt.mp later⟩
    · rcases ih with ⟨none, empty⟩ | ⟨best, found, newest⟩
      · refine .inl ⟨by simp [none, newerRecharge, success], ?_⟩
        apply List.eq_nil_iff_forall_not_mem.mpr
        intro other member
        rcases mem_successful_snoc.mp member with earlier | ⟨rfl, succeeded⟩
        · rw [empty] at earlier
          cases earlier
        · exact success succeeded
      · exact .inr ⟨best, by simp [found, newerRecharge, success],
          newest.snoc fun succeeded => absurd succeeded success⟩

theorem newest_of_latestRecharge (found : latestRecharge recharges = some newest) :
    NewestSuccess recharges newest := by
  rcases latestRecharge_cases recharges with ⟨none, -⟩ | ⟨other, same, newest⟩
  · rw [none] at found
    cases found
  · rw [same] at found
    cases found
    exact newest

theorem latestRecharge_eq_none : latestRecharge recharges = none ↔ successful recharges = [] := by
  rcases latestRecharge_cases recharges with ⟨none, empty⟩ | ⟨newest, found, mem, -⟩
  · simp only [none, empty]
  · simp [found, List.ne_nil_of_mem mem]

/-! ## What is remembered -/

/-- The newest recharge of the last reading that had a successful one. -/
def lastNewest (steps : List EvaluationStep) : Option NescoRechargeDto :=
  steps.foldl (fun last step => (latestRecharge step.reading.recharges).or last) none

@[simp] theorem lastNewest_snoc (steps : List EvaluationStep) (step : EvaluationStep) :
    lastNewest (steps ++ [step]) =
      (latestRecharge step.reading.recharges).or (lastNewest steps) := by
  simp only [lastNewest, List.foldl_append, List.foldl_cons, List.foldl_nil]

theorem recordedAfter_token (steps : List EvaluationStep) :
    (recordedAfter steps).lastRechargeToken = (lastNewest steps).map (·.token) := by
  induction steps using List.reverseRecOn with
  | nil => rfl
  | append_singleton steps step ih =>
    rw [recordedAfter_snoc, evaluate_recorded, lastNewest_snoc, ih]
    cases latestRecharge step.reading.recharges <;> rfl

/-- A recharge is listed as successful by one of the readings. -/
def Seen (steps : List EvaluationStep) (recharge : NescoRechargeDto) : Prop :=
  ∃ step ∈ steps, recharge ∈ successful step.reading.recharges

theorem seen_snoc : Seen (steps ++ [step]) recharge ↔
    Seen steps recharge ∨ recharge ∈ successful step.reading.recharges := by
  simp only [Seen, List.mem_append, List.mem_singleton, or_and_right, exists_or,
    exists_eq_left]

theorem lastNewest_eq_none : lastNewest steps = none ↔ ∀ recharge, ¬ Seen steps recharge := by
  induction steps using List.reverseRecOn with
  | nil => simp [lastNewest, Seen]
  | append_singleton steps step ih =>
    rw [lastNewest_snoc, Option.or_eq_none_iff, latestRecharge_eq_none, ih,
      List.eq_nil_iff_forall_not_mem, ← forall_and]
    apply forall_congr'
    intro recharge
    rw [seen_snoc, not_or, and_comm]

theorem seen_of_lastNewest (remembered : lastNewest steps = some last) : Seen steps last := by
  induction steps using List.reverseRecOn with
  | nil => cases remembered
  | append_singleton steps step ih =>
    rw [lastNewest_snoc, Option.or_eq_some_iff] at remembered
    rw [seen_snoc]
    rcases remembered with found | ⟨-, earlier⟩
    · exact .inr (newest_of_latestRecharge found).mem
    · exact .inl (ih earlier)

/-! ## What is announced -/

/-- A recharge is announced when alerts about recharges go out and the newest one has another
token than the remembered one. -/
theorem evaluate_announces (previous : PreviousState) (reading : Reading)
    (settings : Option UserSettings) :
    .rechargeDetected ∈ (evaluate previous reading settings).alerts ↔
      sends settings .rechargeDetected = true ∧ ∃ newest token,
        latestRecharge reading.recharges = some newest ∧
        previous.lastRechargeToken = some token ∧ newest.token ≠ token := by
  have balance (severity : AlertSeverity) : AlertKind.rechargeDetected ≠ balanceAlert severity :=
    ne_balanceAlert (by decide) severity
  simp only [evaluate, sends]
  cases truthy (AlertEvaluation.resolve settings).pushEnabled with
  | false => simp
  | true =>
    simp only [Bool.not_true, Bool.false_eq_true, if_false, List.mem_append, Bool.true_and]
    have other (c : Bool) (severity : AlertSeverity) :
        ¬ .rechargeDetected ∈ (if c = true then [balanceAlert severity] else []) := by
      cases c <;> simp [balance]
    simp only [other, or_false]
    rcases latestRecharge reading.recharges with _ | newest
    · simp
    rcases previous.lastRechargeToken with _ | token
    · simp
    simp [and_comm]

theorem newRecharge_of_announced
    (announced : .rechargeDetected ∈ (evaluate previous reading settings).alerts) :
    (evaluate previous reading settings).newRecharge = latestRecharge reading.recharges := by
  obtain ⟨sent, newest, token, found, remembered, differs⟩ :=
    (evaluate_announces ..).mp announced
  simp only [sends, Bool.and_eq_true] at sent
  simp [evaluate, found, remembered, differs, sent.1, sent.2]

/-! ## Recharges that advance -/

/-- A recharge keeps its date from one reading to the next. -/
def KeepDates (steps : List EvaluationStep) : Prop :=
  ∀ recharge other, Seen steps recharge → Seen steps other → recharge.token = other.token →
    recharge.rechargedDate = other.rechargedDate

/-- No two successful recharges have one token. -/
def TokensDistinct (steps : List EvaluationStep) : Prop :=
  ∀ recharge other, Seen steps recharge → Seen steps other → recharge.token = other.token →
    recharge = other

theorem TokensDistinct.keepDates (distinct : TokensDistinct steps) : KeepDates steps :=
  fun recharge other seen seen' same =>
    congrArg _ (distinct recharge other seen seen' same)

/-- Tokens are distinct when they are on the list of all successful recharges. -/
theorem TokensDistinct.of_list
    (distinct : ∀ recharge ∈ steps.flatMap (successful ·.reading.recharges),
      ∀ other ∈ steps.flatMap (successful ·.reading.recharges),
        recharge.token = other.token → recharge = other) : TokensDistinct steps :=
  fun recharge other seen seen' =>
    distinct recharge (List.mem_flatMap.mpr seen) other (List.mem_flatMap.mpr seen')

/-- The newest recharge of each reading is the remembered one, or dated after it. -/
structure RechargesAdvance (steps : List EvaluationStep) : Prop where
  dates : KeepDates steps
  advances : ∀ earlier step later, steps = earlier ++ step :: later → ∀ newest last,
    latestRecharge step.reading.recharges = some newest → lastNewest earlier = some last →
    newest.token = last.token ∨ last.rechargedDate < newest.rechargedDate

theorem KeepDates.init (dates : KeepDates (steps ++ [step])) : KeepDates steps :=
  fun recharge other seen seen' =>
    dates recharge other (seen_snoc.mpr (.inl seen)) (seen_snoc.mpr (.inl seen'))

theorem RechargesAdvance.init (advance : RechargesAdvance (steps ++ [step])) :
    RechargesAdvance steps := by
  refine ⟨advance.dates.init, ?_⟩
  intro earlier other later split
  exact advance.advances earlier other (later ++ [step]) (by simp [split])

/-- Then no recharge seen so far is dated after the remembered one. -/
theorem RechargesAdvance.le_last (advance : RechargesAdvance steps) (seen : Seen steps recharge)
    (remembered : lastNewest steps = some last) :
    recharge.rechargedDate ≤ last.rechargedDate := by
  induction steps using List.reverseRecOn generalizing last with
  | nil => cases remembered
  | append_singleton steps step ih =>
    rw [lastNewest_snoc] at remembered
    rcases latestRecharge_cases step.reading.recharges with ⟨none, empty⟩ | ⟨newest, found, best⟩
    · rw [none, Option.none_or] at remembered
      rcases seen_snoc.mp seen with earlier | here
      · exact ih advance.init earlier remembered
      · rw [empty] at here
        cases here
    · rw [found, Option.some_or, Option.some.injEq] at remembered
      subst remembered
      rcases seen_snoc.mp seen with earlier | here
      · rcases remembered : lastNewest steps with _ | last
        · exact absurd earlier (lastNewest_eq_none.mp remembered recharge)
        refine (ih advance.init earlier remembered).trans ?_
        rcases advance.advances steps step [] rfl newest last found remembered with same | later
        · refine (advance.dates last newest ?_ ?_ same.symm).le
          · exact seen_snoc.mpr (.inl (seen_of_lastNewest remembered))
          · exact seen_snoc.mpr (.inr best.mem)
        · exact later.le
      · exact best.latest recharge here

/-- The recharge that an evaluation announces was in no reading before. -/
theorem RechargesAdvance.announced_unseen (advance : RechargesAdvance (steps ++ [step]))
    (announced : .rechargeDetected ∈ (step.evaluate (recordedAfter steps)).alerts) :
    ∃ recharge, (step.evaluate (recordedAfter steps)).newRecharge = some recharge ∧
      recharge ∈ successful step.reading.recharges ∧
      ∀ other, Seen steps other → other.token ≠ recharge.token := by
  obtain ⟨-, newest, token, found, remembered, differs⟩ := (evaluate_announces ..).mp announced
  rw [recordedAfter_token, Option.map_eq_some_iff] at remembered
  obtain ⟨last, remembered, rfl⟩ := remembered
  have best := newest_of_latestRecharge found
  refine ⟨newest, (newRecharge_of_announced announced).trans found, best.mem, ?_⟩
  intro other seen same
  have later : last.rechargedDate < newest.rechargedDate :=
    (advance.advances steps step [] rfl newest last found remembered).resolve_left differs
  have notLater := advance.init.le_last seen remembered
  have dates := advance.dates other newest (seen_snoc.mpr (.inl seen))
    (seen_snoc.mpr (.inr best.mem)) same
  omega

/-! ## The polls of a meter -/

variable {limits : UsageSamplingLimits} {meter : Meter} {store store' : MeterStore}
  {trace : List PollEvent} {e : PollEvent}

/-- What `pollMeter` evaluates, for a meter whose row is read from `store`. -/
def PollEvent.evaluation (e : PollEvent) (meter : Meter) (store : MeterStore)
    (snapshot : NescoSnapshot) : Evaluation :=
  evaluate (store.monitored meter e.input.settings).previous
    ⟨snapshot.balance, snapshot.recharges⟩ e.input.settings

/-- A poll evaluates its snapshot from what the polls before it recorded. -/
theorem evaluation_of_run (run : Run (PollStep limits meter) {} trace store) (e : PollEvent)
    (snapshot : NescoSnapshot) :
    e.evaluation meter store snapshot =
      (EvaluationStep.mk ⟨snapshot.balance, snapshot.recharges⟩ e.input.settings).evaluate
        (recordedAfter (evaluationSteps trace)) := by
  rw [PollEvent.evaluation, MeterStore.monitored_previous,
    previous_of_run (run_measurements run)]
  rfl

/-- The readings up to a poll whose transaction commits. -/
theorem evaluationSteps_of_written (step : PollStep limits meter store e store')
    (scraped : e.input.snapshot = .ok snapshot) (written : e.input.successWrite = .ok ()) :
    evaluationSteps (trace ++ [e]) =
      evaluationSteps trace ++ [⟨⟨snapshot.balance, snapshot.recharges⟩, e.input.settings⟩] := by
  have step := step.measurements
  rw [evaluationSteps_snoc]
  generalize store'.measurements = m' at step
  cases step with
  | failed fault => exact absurd written (fault snapshot scraped)
  | recorded snapshot' _ _ scraped' _ committed =>
    cases scraped.symm.trans scraped'
    rw [evaluationStep_of_committed scraped committed]
    rfl

/-- While recharges advance, no recharge that a poll announces was listed as successful by an
earlier committed snapshot. -/
theorem recharge_announced_once (run : Run (PollStep limits meter) {} trace store)
    (step : PollStep limits meter store e store') (scraped : e.input.snapshot = .ok snapshot)
    (written : e.input.successWrite = .ok ())
    (advance : RechargesAdvance (evaluationSteps (trace ++ [e])))
    (announced : .rechargeDetected ∈ (e.evaluation meter store snapshot).alerts) :
    ∃ recharge, (e.evaluation meter store snapshot).newRecharge = some recharge ∧
      recharge ∈ successful snapshot.recharges ∧
      ∀ other, Seen (evaluationSteps trace) other → other.token ≠ recharge.token := by
  rw [evaluationSteps_of_written step scraped written] at advance
  rw [evaluation_of_run run] at announced ⊢
  exact advance.announced_unseen announced

/-! Two polls that find nothing wrong, an hour apart. -/

def listed (token : String) (date : ℤ) (status : String) : NescoRechargeDto :=
  ⟨1, token, 40, 42, 20, 0, 500, 398, "bKash", date, status⟩

def firstPoll (recharges : List NescoRechargeDto) : PollInput :=
  .untroubled ⟨900, some 1000, recharges⟩ 2000000

def secondPoll (recharges : List NescoRechargeDto) : PollInput :=
  .untroubled ⟨900, some 4600, recharges⟩ 5600000

/-- The first poll, from an empty store. -/
def afterFirst (recharges : List NescoRechargeDto) : List PollEvent × MeterStore :=
  runPolls ⟨500, 48⟩ ⟨"m1", "ayesha", "77", none⟩ [firstPoll recharges] {}

/-- The second poll after it. -/
def secondEvent (before after : List NescoRechargeDto) : PollEvent :=
  ⟨secondPoll after, (poll ⟨500, 48⟩ ⟨"m1", "ayesha", "77", none⟩ (secondPoll after)
    (afterFirst before).2).1⟩

theorem afterFirst_run (before : List NescoRechargeDto) :
    Run (PollStep ⟨500, 48⟩ ⟨"m1", "ayesha", "77", none⟩) {} (afterFirst before).1
      (afterFirst before).2 := runPolls_run ..

theorem secondEvent_step (before after : List NescoRechargeDto) :
    PollStep ⟨500, 48⟩ ⟨"m1", "ayesha", "77", none⟩ (afterFirst before).2
      (secondEvent before after) (poll ⟨500, 48⟩ ⟨"m1", "ayesha", "77", none⟩ (secondPoll after)
        (afterFirst before).2).2 := rfl

theorem afterFirst_steps (before : List NescoRechargeDto) :
    evaluationSteps (afterFirst before).1 = [⟨⟨900, before⟩, none⟩] := by
  obtain ⟨store, step, -⟩ := Run.cons_iff.mp (afterFirst_run before)
  have nil : evaluationSteps ([] ++ [_]) = _ := evaluationSteps_of_written step rfl rfl
  exact nil

theorem seen_afterFirst (before : List NescoRechargeDto) :
    Seen (evaluationSteps (afterFirst before).1) recharge ↔ recharge ∈ successful before := by
  simp [afterFirst_steps, Seen]

theorem secondEvent_steps (before after : List NescoRechargeDto) :
    evaluationSteps ((afterFirst before).1 ++ [secondEvent before after]) =
      [⟨⟨900, before⟩, none⟩, ⟨⟨900, after⟩, none⟩] := by
  rw [evaluationSteps_of_written (secondEvent_step before after) rfl rfl, afterFirst_steps]
  rfl

/-- A recharge that follows the remembered one. -/
theorem recharge_announced_once_topUp :
    ∃ recharge, ((secondEvent [listed "old" 100 "success"] [listed "old" 100 "success",
        listed "fresh" 3000 "success"]).evaluation ⟨"m1", "ayesha", "77", none⟩
        (afterFirst [listed "old" 100 "success"]).2
        ⟨900, some 4600, [listed "old" 100 "success", listed "fresh" 3000 "success"]⟩).newRecharge =
        some recharge ∧
      recharge ∈ successful [listed "old" 100 "success", listed "fresh" 3000 "success"] ∧
      ∀ other, Seen (evaluationSteps (afterFirst [listed "old" 100 "success"]).1) other →
        other.token ≠ recharge.token := by
  refine recharge_announced_once (afterFirst_run _) (secondEvent_step _ _) rfl rfl ?_
    (by decide +kernel)
  rw [secondEvent_steps]
  constructor
  · exact (TokensDistinct.of_list (by decide +kernel)).keepDates
  · intro earlier step later split newest last found remembered
    rcases earlier with _ | ⟨first, _ | ⟨second, earlier⟩⟩
    · cases remembered
    · cases split
      cases found
      cases remembered
      exact .inr (by decide)
    · simp at split

/-- The newest recharge fails after all, and the one before it is announced although it was the
remembered one once. -/
theorem recharge_announced_again :
    ¬ ∀ limits meter trace store e store' snapshot, Run (PollStep limits meter) {} trace store →
      PollStep limits meter store e store' → e.input.snapshot = .ok snapshot →
      e.input.successWrite = .ok () →
      .rechargeDetected ∈ (e.evaluation meter store snapshot).alerts →
      ∃ recharge, (e.evaluation meter store snapshot).newRecharge = some recharge ∧
        ∀ other, Seen (evaluationSteps trace) other → other.token ≠ recharge.token := by
  intro once
  obtain ⟨recharge, announced, unseen⟩ := once _ _ _ _ _ _ _
    (afterFirst_run [listed "old" 100 "success", listed "late" 200 "success"])
    (secondEvent_step _ [listed "old" 100 "success", listed "late" 200 "failed"]) rfl rfl
    (by decide +kernel)
  have old : some recharge = some (listed "old" 100 "success") :=
    announced.symm.trans (by decide +kernel)
  cases old
  exact unseen (listed "old" 100 "success") ((seen_afterFirst _).mpr (by decide +kernel)) rfl

/-- A recharge dated after all the earlier ones is announced exactly when there were any. -/
theorem newest_recharge_announced_iff (run : Run (PollStep limits meter) {} trace store)
    (step : PollStep limits meter store e store') (scraped : e.input.snapshot = .ok snapshot)
    (written : e.input.successWrite = .ok ())
    (sent : sends e.input.settings .rechargeDetected = true)
    (dates : KeepDates (evaluationSteps (trace ++ [e])))
    (found : latestRecharge snapshot.recharges = some newest)
    (later : ∀ other, Seen (evaluationSteps trace) other →
      other.rechargedDate < newest.rechargedDate) :
    (.rechargeDetected ∈ (e.evaluation meter store snapshot).alerts ∧
        (e.evaluation meter store snapshot).newRecharge = some newest) ↔
      ∃ other, Seen (evaluationSteps trace) other := by
  rw [evaluationSteps_of_written step scraped written] at dates
  rw [evaluation_of_run run]
  have token := recordedAfter_token (evaluationSteps trace)
  constructor
  · rintro ⟨announced, -⟩
    obtain ⟨-, _, _, -, remembered, -⟩ := (evaluate_announces ..).mp announced
    rw [token, Option.map_eq_some_iff] at remembered
    obtain ⟨last, remembered, -⟩ := remembered
    exact ⟨last, seen_of_lastNewest remembered⟩
  · rintro ⟨other, seen⟩
    rcases remembered : lastNewest (evaluationSteps trace) with _ | last
    · exact absurd seen (lastNewest_eq_none.mp remembered other)
    have seenLast := seen_of_lastNewest remembered
    have differs : newest.token ≠ last.token := by
      intro same
      have := dates newest last
        (seen_snoc.mpr (.inr (newest_of_latestRecharge found).mem))
        (seen_snoc.mpr (.inl seenLast)) same
      have := later last seenLast
      omega
    have announced := (evaluate_announces (recordedAfter (evaluationSteps trace))
      ⟨snapshot.balance, snapshot.recharges⟩ e.input.settings).mpr
      ⟨sent, newest, last.token, found, by rw [token, remembered]; rfl, differs⟩
    exact ⟨announced, (newRecharge_of_announced announced).trans found⟩

/-- A recharge that follows the remembered one. -/
theorem newest_recharge_announced_iff_topUp :
    .rechargeDetected ∈ ((secondEvent [listed "old" 100 "success"]
        [listed "fresh" 3000 "success"]).evaluation ⟨"m1", "ayesha", "77", none⟩
        (afterFirst [listed "old" 100 "success"]).2
        ⟨900, some 4600, [listed "fresh" 3000 "success"]⟩).alerts := by
  have found : latestRecharge [listed "fresh" 3000 "success"] =
      some (listed "fresh" 3000 "success") := by decide +kernel
  refine ((newest_recharge_announced_iff (afterFirst_run _) (secondEvent_step _ _) rfl rfl
    (by decide +kernel) ?_ found ?_).mpr
    ⟨listed "old" 100 "success", (seen_afterFirst _).mpr (by decide +kernel)⟩).1
  · rw [secondEvent_steps]
    exact (TokensDistinct.of_list (by decide +kernel)).keepDates
  · intro other seen
    rw [seen_afterFirst] at seen
    revert other
    decide +kernel

/-- The first recharge of a meter that was polled before it had any is missed. -/
theorem newest_recharge_missed :
    ¬ ∀ limits meter trace store e store' snapshot newest,
      Run (PollStep limits meter) {} trace store → PollStep limits meter store e store' →
      e.input.snapshot = .ok snapshot → e.input.successWrite = .ok () →
      sends e.input.settings .rechargeDetected = true →
      TokensDistinct (evaluationSteps (trace ++ [e])) → evaluationSteps trace ≠ [] →
      latestRecharge snapshot.recharges = some newest →
      (∀ other, Seen (evaluationSteps trace) other →
        other.rechargedDate < newest.rechargedDate) →
      .rechargeDetected ∈ (e.evaluation meter store snapshot).alerts ∧
        (e.evaluation meter store snapshot).newRecharge = some newest := by
  intro complete
  have missed : .rechargeDetected ∉ ((secondEvent [] [listed "fresh" 3000 "success"]).evaluation
      ⟨"m1", "ayesha", "77", none⟩ (afterFirst []).2
      ⟨900, some 4600, [listed "fresh" 3000 "success"]⟩).alerts := by
    decide +kernel
  refine missed (complete _ _ _ _ _ _ _ (listed "fresh" 3000 "success") (afterFirst_run [])
    (secondEvent_step _ _) rfl rfl (by decide +kernel) ?_ ?_ (by decide +kernel) ?_).1
  · rw [secondEvent_steps]
    exact .of_list (by decide +kernel)
  · simp [afterFirst_steps]
  · intro other seen
    simp [seen_afterFirst, successful] at seen

end ElectroSync
