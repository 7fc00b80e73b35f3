import ElectroSync.Alerts.Measurements

/-!
# Evaluation step by step

The committed polls of a meter evaluate its readings one after the other, each from what the one
before recorded. The settings of a step decide which of its alerts go out; of them only the
threshold has a part in what is recorded.
-/

namespace ElectroSync
open Transition

/-- What a call of `evaluate` is given beside the state before it. -/
structure EvaluationStep where
  reading : Reading
  settings : Option UserSettings

/-- The state that the next evaluation starts from. -/
def Evaluation.recorded (result : Evaluation) : PreviousState :=
  ⟨result.severity, result.lastRechargeToken⟩

def EvaluationStep.evaluate (step : EvaluationStep) (previous : PreviousState) : Evaluation :=
  ElectroSync.evaluate previous step.reading step.settings

def evaluations : PreviousState → List EvaluationStep → List Evaluation
  | _, [] => []
  | previous, step :: steps =>
    step.evaluate previous :: evaluations (step.evaluate previous).recorded steps

/-- What is recorded after the steps. -/
def recordedAfter (steps : List EvaluationStep) : PreviousState :=
  steps.foldl (fun previous step => (step.evaluate previous).recorded) initialState

@[simp] theorem recordedAfter_snoc (steps : List EvaluationStep) (step : EvaluationStep) :
    recordedAfter (steps ++ [step]) = (step.evaluate (recordedAfter steps)).recorded := by
  simp only [recordedAfter, List.foldl_append, List.foldl_cons, List.foldl_nil]

theorem evaluations_append (previous : PreviousState) (steps steps' : List EvaluationStep) :
    evaluations previous (steps ++ steps') = evaluations previous steps ++
      evaluations (steps.foldl (fun previous step => (step.evaluate previous).recorded) previous)
        steps' := by
  induction steps generalizing previous with
  | nil => rfl
  | cons step steps ih => simp only [List.cons_append, evaluations, ih, List.foldl_cons]

theorem evaluations_snoc (steps : List EvaluationStep) (step : EvaluationStep) :
    evaluations initialState (steps ++ [step]) =
      evaluations initialState steps ++ [step.evaluate (recordedAfter steps)] :=
  evaluations_append ..

/-! ## The polls of a meter -/

/-- The evaluation that a poll committed. -/
def PollEvent.evaluationStep (e : PollEvent) : Option EvaluationStep :=
  match e.input.snapshot, e.report.committed with
  | .ok snapshot, some _ => some ⟨⟨snapshot.balance, snapshot.recharges⟩, e.input.settings⟩
  | _, _ => none

def evaluationSteps (trace : List PollEvent) : List EvaluationStep :=
  trace.filterMap (·.evaluationStep)

theorem evaluationSteps_snoc (trace : List PollEvent) (e : PollEvent) :
    evaluationSteps (trace ++ [e]) = evaluationSteps trace ++ e.evaluationStep.toList := by
  cases h : e.evaluationStep <;> simp [evaluationSteps, h]

theorem evaluationStep_of_uncommitted {e : PollEvent} (uncommitted : e.report.committed = none) :
    e.evaluationStep = none := by
  rw [PollEvent.evaluationStep, uncommitted]
  cases e.input.snapshot <;> rfl

theorem evaluationStep_of_committed {e : PollEvent} {reading : CommittedReading}
    (scraped : e.input.snapshot = .ok snapshot) (committed : e.report.committed = some reading) :
    e.evaluationStep = some ⟨⟨snapshot.balance, snapshot.recharges⟩, e.input.settings⟩ := by
  rw [PollEvent.evaluationStep, scraped, committed]

variable {limits : UsageSamplingLimits} {meter : Meter} {m : Measurements}

/-- A poll evaluates from what the polls before it recorded, and the polls that failed have no
part in it. -/
theorem previous_of_run (run : Run (MeasurementStep limits) {} trace m) :
    m.previous = recordedAfter (evaluationSteps trace) := by
  refine run.invariantTrace
    (P := fun trace m => m.previous = recordedAfter (evaluationSteps trace)) rfl ?_
  intro trace m e m' _ same step
  rw [evaluationSteps_snoc]
  cases step with
  | failed _ uncommitted =>
    rw [evaluationStep_of_uncommitted uncommitted]
    simpa using same
  | recorded snapshot _ _ scraped _ committed =>
    rw [evaluationStep_of_committed scraped committed, Option.toList_some, recordedAfter_snoc,
      ← same]
    rfl

/-- What the commits of a run recorded is what evaluation step by step records. -/
theorem recorded_of_run (run : Run (MeasurementStep limits) {} trace m) :
    (committedReadings trace).map (fun reading =>
        PreviousState.mk reading.severity reading.lastRechargeToken) =
      (evaluations initialState (evaluationSteps trace)).map (·.recorded) := by
  refine run.invariantTrace (P := fun trace _ => (committedReadings trace).map (fun reading =>
    PreviousState.mk reading.severity reading.lastRechargeToken) =
      (evaluations initialState (evaluationSteps trace)).map (·.recorded)) rfl ?_
  intro trace m e m' run same step
  have previous := previous_of_run run
  rw [evaluationSteps_snoc, committedReadings, List.filterMap_append, List.map_append,
    ← committedReadings, same]
  cases step with
  | failed _ uncommitted =>
    rw [evaluationStep_of_uncommitted uncommitted]
    simp [uncommitted]
  | recorded snapshot _ _ scraped _ committed =>
    rw [evaluationStep_of_committed scraped committed, Option.toList_some, evaluations_snoc,
      ← previous]
    simp only [List.filterMap_cons, committed, List.map_append]
    rfl

/-! ## Muting -/

/-- The toggles of a step let this kind of alert out. -/
def sends (settings : Option UserSettings) (kind : AlertKind) : Bool :=
  let settings := AlertEvaluation.resolve settings
  truthy settings.pushEnabled && match kind with
    | .lowBalance | .balanceDepleted => truthy settings.lowBalanceAlerts
    | .rechargeDetected => truthy settings.rechargeAlerts
    | .usageAnomaly => truthy settings.usageAnomalyAlerts

/-- The same settings with every toggle on. -/
def unmuted (settings : Option UserSettings) : Option UserSettings :=
  some { settings.getD {} with
    pushEnabled := .value true
    lowBalanceAlerts := .value true
    rechargeAlerts := .value true }

theorem resolve_unmuted (settings : Option UserSettings) :
    AlertEvaluation.resolve (unmuted settings) = { AlertEvaluation.resolve settings with
      pushEnabled := some true
      lowBalanceAlerts := some true
      rechargeAlerts := some true } := rfl

def EvaluationStep.unmuted (step : EvaluationStep) : EvaluationStep :=
  { step with settings := ElectroSync.unmuted step.settings }

def EvaluationStep.threshold (step : EvaluationStep) : Option ℚ :=
  (AlertEvaluation.resolve step.settings).lowBalanceThreshold

/-- Steps that may differ in their toggles only. -/
structure SameReading (step step' : EvaluationStep) : Prop where
  reading : step.reading = step'.reading
  threshold : step.threshold = step'.threshold

theorem sameReading_unmuted (step : EvaluationStep) : SameReading step step.unmuted :=
  ⟨rfl, by rw [EvaluationStep.threshold, EvaluationStep.threshold, EvaluationStep.unmuted,
    resolve_unmuted]⟩

variable {previous : PreviousState} {step step' : EvaluationStep}

theorem evaluate_recorded (previous : PreviousState) (step : EvaluationStep) :
    (step.evaluate previous).recorded =
      ⟨severityFor step.reading.balance (toNumber step.threshold),
        ((latestRecharge step.reading.recharges).map (·.token)).or
          previous.lastRechargeToken⟩ := by
  simp only [EvaluationStep.evaluate, evaluate, Evaluation.recorded]
  split <;> rfl

theorem SameReading.recorded (same : SameReading step step') (previous : PreviousState) :
    (step.evaluate previous).recorded = (step'.evaluate previous).recorded := by
  rw [evaluate_recorded, evaluate_recorded, same.reading, same.threshold]

theorem sends_balanceAlert (settings : Option UserSettings) (severity : AlertSeverity) :
    sends settings (balanceAlert severity) =
      (truthy (AlertEvaluation.resolve settings).pushEnabled &&
        truthy (AlertEvaluation.resolve settings).lowBalanceAlerts) := by
  unfold balanceAlert
  split <;> rfl

theorem filter_alert (p : AlertKind → Bool) (raised : Bool) (kind : AlertKind) :
    (if raised then [kind] else []).filter p =
      if (raised && p kind) = true then [kind] else [] := by
  cases raised <;> cases h : p kind <;> simp [h]

/-- From one state, the alerts of a step are those it has with every toggle on, filtered by its
own toggles. -/
theorem evaluate_alerts_filter (previous : PreviousState) (step : EvaluationStep) :
    (step.evaluate previous).alerts =
      (step.unmuted.evaluate previous).alerts.filter (sends step.settings) := by
  have recharge : sends step.settings .rechargeDetected =
      (truthy (AlertEvaluation.resolve step.settings).pushEnabled &&
        truthy (AlertEvaluation.resolve step.settings).rechargeAlerts) := rfl
  have balance := sends_balanceAlert step.settings
  have on : truthy (some true) = true := rfl
  simp only [EvaluationStep.evaluate, EvaluationStep.unmuted, evaluate, resolve_unmuted, on,
    Bool.not_true, Bool.false_eq_true, if_false, List.filter_append, filter_alert, recharge,
    balance, Bool.and_true]
  cases truthy (AlertEvaluation.resolve step.settings).pushEnabled with
  | false =>
    simp only [Bool.not_false, if_true, Bool.false_and, Bool.and_false, Bool.false_eq_true,
      if_false, List.append_nil]
  | true =>
    simp only [Bool.not_true, Bool.false_eq_true, if_false, Bool.true_and]
    rfl

/-- Over steps that differ in their toggles only the same is recorded, and the alerts of a step are
those of the run with every toggle on, filtered by its own toggles. -/
theorem muting_changes_alerts_only (same : List.Forall₂ SameReading steps steps') :
    (evaluations initialState steps).map (·.recorded) =
        (evaluations initialState steps').map (·.recorded) ∧
      (evaluations initialState steps).map (·.alerts) =
        List.zipWith (fun step result => result.alerts.filter (sends step.settings)) steps
          (evaluations initialState (steps.map (·.unmuted))) := by
  generalize initialState = previous
  constructor
  · induction same generalizing previous with
    | nil => rfl
    | cons head _ ih => simp only [evaluations, List.map_cons, head.recorded previous, ih]
  · clear same
    induction steps generalizing previous with
    | nil => rfl
    | cons step steps ih =>
      have recorded := (sameReading_unmuted step).recorded previous
      simp only [evaluations, List.map_cons, List.zipWith_cons_cons, ih, recorded,
        ← evaluate_alerts_filter]

/-- A crossing while low balance alerts are muted, and the next reading. -/
def mutedCrossing (lowBalanceAlerts : Bool) : List EvaluationStep :=
  [⟨⟨10, []⟩, some { lowBalanceAlerts := .value lowBalanceAlerts }⟩, ⟨⟨9, []⟩, none⟩]

theorem muting_changes_alerts_only_mutedCrossing :
    (evaluations initialState (mutedCrossing false)).map (·.recorded) =
        (evaluations initialState (mutedCrossing true)).map (·.recorded) ∧
      (evaluations initialState (mutedCrossing false)).map (·.alerts) = [[], []] ∧
      (evaluations initialState (mutedCrossing true)).map (·.alerts) = [[.lowBalance], []] := by
  have same : List.Forall₂ SameReading (mutedCrossing false) (mutedCrossing true) :=
    .cons ⟨rfl, rfl⟩ (.cons ⟨rfl, rfl⟩ .nil)
  exact ⟨(muting_changes_alerts_only same).1, by decide +kernel, by decide +kernel⟩

end ElectroSync
