import ElectroSync.Alerts.UsageSampling
import Mathlib.Data.List.Sort

/-!
# Usage anomalies (`alerts/usage-anomaly.ts`)

Whether the most recent completed day is worth telling the user about: it is compared with the mean
of up to `anomalyBaselineDays` days before it.
-/

namespace ElectroSync
open Rounding

def anomalyBaselineDays : ℕ := 14
def anomalyMinBaselineDays : ℕ := 7
def anomalyMinBaselineCost : ℚ := 15

/-- One completed Asia/Dhaka day of consumption for a single meter. -/
structure DailyCost where
  day : ℤ
  consumedCost : ℚ
  deriving DecidableEq

structure AnomalyFinding where
  day : ℤ
  cost : ℚ
  baseline : ℚ
  percentAbove : ℤ
  deriving DecidableEq

inductive NoAnomalyReason
  | disabled
  | insufficientHistory
  | baselineTooSmall
  | withinThreshold
  | alreadyReported
  deriving DecidableEq

inductive AnomalyOutcome
  | anomaly (finding : AnomalyFinding)
  | none (reason : NoAnomalyReason)
  deriving DecidableEq

def UsageAnomaly.resolve (settings : Option UserSettings) : ResolvedSettings :=
  overDefaults settings

/-- `ordered.slice(-1 - ANOMALY_BASELINE_DAYS, -1)`: up to `anomalyBaselineDays` entries before the
last one. -/
def baselineOf (ordered : List DailyCost) : List DailyCost :=
  (ordered.take (ordered.length - 1)).drop (ordered.length - (1 + anomalyBaselineDays))

def evaluateUsageAnomaly (days : List DailyCost) (rawSettings : Option UserSettings)
    (lastReportedDay : Option ℤ) : AnomalyOutcome :=
  let settings := UsageAnomaly.resolve rawSettings
  if !truthy settings.pushEnabled || !truthy settings.usageAnomalyAlerts then .none .disabled
  else
    let ordered := days.insertionSort fun a b => a.day ≤ b.day
    match ordered.getLast? with
    | none => .none .insufficientHistory
    | some subject =>
      if lastReportedDay.any (subject.day ≤ ·) then .none .alreadyReported
      else
        let baselineDays := baselineOf ordered
        if baselineDays.length < anomalyMinBaselineDays then .none .insufficientHistory
        else
          let baseline := (baselineDays.map (·.consumedCost)).sum / baselineDays.length
          if baseline < anomalyMinBaselineCost then .none .baselineTooSmall
          else
            let ratio := subject.consumedCost / baseline
            let percentAbove := roundHalfUp ((ratio - 1) * 100)
            if percentAbove < toNumber settings.usageAnomalyThreshold then .none .withinThreshold
            else .anomaly {
              day := subject.day
              cost := round subject.consumedCost
              baseline := round baseline
              percentAbove }

/-- The mean of the baseline days. -/
def meanCost (baselineDays : List DailyCost) : ℚ :=
  (baselineDays.map (·.consumedCost)).sum / baselineDays.length

/-- The tests that a day must pass to be an anomaly above its baseline. -/
structure Anomalous (settings : ResolvedSettings) (lastReportedDay : Option ℤ)
    (subject : DailyCost) (baselineDays : List DailyCost) : Prop where
  enabled : truthy settings.pushEnabled = true ∧ truthy settings.usageAnomalyAlerts = true
  unreported : ∀ last, lastReportedDay = some last → last < subject.day
  history : anomalyMinBaselineDays ≤ baselineDays.length
  floor : anomalyMinBaselineCost ≤ meanCost baselineDays
  above : toNumber settings.usageAnomalyThreshold ≤
    roundHalfUp ((subject.consumedCost / meanCost baselineDays - 1) * 100)

def findingOf (subject : DailyCost) (baselineDays : List DailyCost) : AnomalyFinding where
  day := subject.day
  cost := round subject.consumedCost
  baseline := round (meanCost baselineDays)
  percentAbove := roundHalfUp ((subject.consumedCost / meanCost baselineDays - 1) * 100)

/-- The evaluator reports the last day when it passes the tests, and no other day. -/
theorem evaluateUsageAnomaly_eq_anomaly_iff {days ordered : List DailyCost}
    (sorted : days.insertionSort (fun a b => a.day ≤ b.day) = ordered) :
    evaluateUsageAnomaly days settings lastReportedDay = .anomaly finding ↔
      ∃ subject, ordered.getLast? = some subject ∧
        Anomalous (UsageAnomaly.resolve settings) lastReportedDay subject (baselineOf ordered) ∧
        finding = findingOf subject (baselineOf ordered) := by
  have reported (subject : DailyCost) : (lastReportedDay.any (subject.day ≤ ·)) = false ↔
      ∀ last, lastReportedDay = some last → last < subject.day := by
    cases lastReportedDay <;> simp
  simp only [evaluateUsageAnomaly, sorted]
  split
  · next disabled =>
    simp only [reduceCtorEq, false_iff, not_exists, not_and]
    rintro subject - ⟨⟨push, alerts⟩, -⟩
    rw [push, alerts] at disabled
    cases disabled
  next enabled =>
  split
  · next empty => simp [empty]
  next subject last =>
  simp only [last, Option.some.injEq, exists_eq_left']
  have enabled : truthy (UsageAnomaly.resolve settings).pushEnabled = true ∧
      truthy (UsageAnomaly.resolve settings).usageAnomalyAlerts = true := by simpa using enabled
  split
  · next old =>
    simp only [reduceCtorEq, false_iff, not_and]
    intro anomalous
    rw [(reported subject).mpr anomalous.unreported] at old
    cases old
  next fresh =>
  split
  · next short =>
    simp only [reduceCtorEq, false_iff, not_and]
    exact fun anomalous => absurd anomalous.history (not_le.mpr short)
  next history =>
  split
  · next small =>
    simp only [reduceCtorEq, false_iff, not_and]
    exact fun anomalous => absurd anomalous.floor (not_le.mpr small)
  next floor =>
  split
  · next within =>
    simp only [reduceCtorEq, false_iff, not_and]
    exact fun anomalous => absurd anomalous.above (not_le.mpr within)
  next above =>
  constructor
  · intro same
    cases same
    exact ⟨⟨enabled, (reported subject).mp (by simpa using fresh), not_lt.mp history,
      not_lt.mp floor, not_lt.mp above⟩, rfl⟩
  · rintro ⟨-, rfl⟩
    rfl

/-- A finding is never about a day already reported. -/
theorem evaluateUsageAnomaly_day_gt
    (h : evaluateUsageAnomaly days settings (some last) = .anomaly finding) :
    last < finding.day := by
  obtain ⟨subject, -, anomalous, rfl⟩ := (evaluateUsageAnomaly_eq_anomaly_iff rfl).mp h
  exact anomalous.unreported last rfl

end ElectroSync
