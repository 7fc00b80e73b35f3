import ElectroSync.Nesco.Response

/-!
# Alert evaluation (`alerts/alert-evaluation.ts`)

What to persist and what to send after one reading of a meter. An alert goes out when the severity
worsens, and the severity is recorded whether or not anything was sent.
-/

namespace ElectroSync

/-- What the sweep knew about a meter before a poll. -/
structure PreviousState where
  severity : AlertSeverity
  lastRechargeToken : Option String
  deriving DecidableEq

structure Reading where
  balance : ℚ
  recharges : List NescoRechargeDto

structure Evaluation where
  severity : AlertSeverity
  lastRechargeToken : Option String
  alerts : List AlertKind
  newRecharge : Option NescoRechargeDto
  deriving DecidableEq

def initialState : PreviousState := ⟨.ok, none⟩

def severityFor (balance threshold : ℚ) : AlertSeverity :=
  if balance ≤ 0 then .depleted
  else if balance < threshold then .low
  else .ok

/-- The body of the loop in `latestRecharge`. -/
def newerRecharge (newest : Option NescoRechargeDto) (recharge : NescoRechargeDto) :
    Option NescoRechargeDto :=
  if recharge.rechargeStatus ≠ "success" then newest
  else match newest with
    | none => some recharge
    | some best => if recharge.rechargedDate > best.rechargedDate then some recharge else newest

/-- The most recent successful recharge. -/
def latestRecharge (recharges : List NescoRechargeDto) : Option NescoRechargeDto :=
  recharges.foldl newerRecharge none

def AlertEvaluation.resolve (settings : Option UserSettings) : ResolvedSettings :=
  overDefaults settings

/-- The kind of alert a worsening to `severity` calls for. -/
def balanceAlert (severity : AlertSeverity) : AlertKind :=
  if severity = .depleted then .balanceDepleted else .lowBalance

def evaluate (previous : PreviousState) (reading : Reading) (rawSettings : Option UserSettings) :
    Evaluation :=
  let settings := AlertEvaluation.resolve rawSettings
  let severity := severityFor reading.balance (toNumber settings.lowBalanceThreshold)
  let newest := latestRecharge reading.recharges
  let lastRechargeToken := (newest.map (·.token)).or previous.lastRechargeToken
  -- a first sight of a meter is not a recharge event
  let isNewRecharge := match newest, previous.lastRechargeToken with
    | some recharge, some token => recharge.token != token
    | _, _ => false
  let newRecharge := if isNewRecharge then newest else none
  if !truthy settings.pushEnabled then
    { severity, lastRechargeToken, alerts := [], newRecharge := none }
  else
    let rechargeAlert : List AlertKind :=
      if isNewRecharge && truthy settings.rechargeAlerts then [.rechargeDetected] else []
    let worsened := decide (severityRank severity > severityRank previous.severity) &&
      truthy settings.lowBalanceAlerts
    let alerts := rechargeAlert ++ if worsened then [balanceAlert severity] else []
    { severity, lastRechargeToken, alerts
      newRecharge := if alerts.contains .rechargeDetected then newRecharge else none }

/-- The two kinds of alert about the balance itself. -/
def AlertKind.IsBalance (kind : AlertKind) : Prop := kind = .lowBalance ∨ kind = .balanceDepleted

instance (kind : AlertKind) : Decidable kind.IsBalance :=
  inferInstanceAs (Decidable (_ ∨ _))

theorem balanceAlert_isBalance (severity : AlertSeverity) : (balanceAlert severity).IsBalance := by
  unfold balanceAlert
  split
  · exact .inr rfl
  · exact .inl rfl

theorem ne_balanceAlert {kind : AlertKind} (other : ¬ kind.IsBalance) (severity : AlertSeverity) :
    kind ≠ balanceAlert severity := by
  rintro rfl
  exact other (balanceAlert_isBalance severity)

/-- Among the severities that can be worsened to, the alert names the severity. -/
theorem balanceAlert_inj {s t : AlertSeverity} (hs : s ≠ .ok) (ht : t ≠ .ok)
    (h : balanceAlert s = balanceAlert t) : s = t := by
  cases s <;> cases t <;> simp_all [balanceAlert]

/-- The recorded severity does not depend on what is muted. -/
theorem evaluate_severity (previous : PreviousState) (reading : Reading)
    (settings : Option UserSettings) :
    (evaluate previous reading settings).severity =
      severityFor reading.balance
        (toNumber (AlertEvaluation.resolve settings).lowBalanceThreshold) := by
  simp only [evaluate]
  split <;> rfl

/-- The balance alerts of one evaluation: at most one, on a worsening only, named by the new
severity. -/
theorem evaluate_balanceAlerts (previous : PreviousState) (reading : Reading)
    (settings : Option UserSettings) :
    ((evaluate previous reading settings).alerts.filter (·.IsBalance) = []) ∨
      (evaluate previous reading settings).alerts.filter (·.IsBalance) =
          [balanceAlert (evaluate previous reading settings).severity] ∧
        severityRank previous.severity <
          severityRank (evaluate previous reading settings).severity := by
  rw [evaluate_severity]
  simp only [evaluate]
  split
  · exact .inl rfl
  · have hrecharge : ∀ b : Bool, (if b = true then [AlertKind.rechargeDetected] else []).filter
        (·.IsBalance) = [] := by
      intro b
      cases b <;> decide
    simp only [List.filter_append, hrecharge, List.nil_append]
    split
    · next h =>
      refine .inr ⟨?_, ?_⟩
      · simp [balanceAlert_isBalance]
      · simp only [Bool.and_eq_true, decide_eq_true_eq] at h
        exact h.1
    · exact .inl rfl

end ElectroSync
