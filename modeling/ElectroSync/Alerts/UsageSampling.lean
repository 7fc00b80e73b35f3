import ElectroSync.Nesco.Response
import ElectroSync.Library.Rounding
import ElectroSync.Library.Windows

/-!
# Usage sampling (`alerts/usage-sampling.ts`)

What a meter consumed between two balance readings: `cost = opening - closing + credited`, over the
half-open window between the instants the two readings describe.
-/

namespace ElectroSync
open Rounding Windows

def epsilon : ℚ := 1 / 100
def secondsPerHour : ℤ := 3600
def msPerHour : ℤ := secondsPerHour * 1000

/-- The `round` of the money modules: `Math.round(value * 100) / 100`. -/
def round (value : ℚ) : ℚ := roundTo 2 value

/-- An amount in whole paisa. -/
abbrev Cents (v : ℚ) : Prop := Decimal 2 v

structure UsageSamplingLimits where
  maxCostPerHour : ℚ
  maxWindowHours : ℚ

/-- The instant a balance reading describes; `estimated` when poll time stood in for the stamp. -/
structure ReadingInstant where
  instant : ℤ
  estimated : Bool
  deriving DecidableEq

def resolveReadingInstant (balanceAsOf : Option ℤ) (polledAt : ℤ) : ReadingInstant :=
  match balanceAsOf with
  | none => ⟨polledAt, true⟩
  | some asOf =>
    let stamped := asOf * 1000
    -- a stamp dated after the poll is rejected
    if stamped > polledAt then ⟨polledAt, true⟩ else ⟨stamped, false⟩

structure UsageSampleInput where
  openingBalance : ℚ
  closingBalance : ℚ
  windowStart : ℤ
  windowEnd : ℤ
  recharges : List NescoRechargeDto

/-- A sample of usage. Its window is never empty. -/
structure UsageSample where
  windowStart : ℤ
  windowEnd : ℤ
  openingBalance : ℚ
  closingBalance : ℚ
  rechargeCredited : ℚ
  rechargePaid : ℚ
  consumedCost : ℚ
  rawDelta : ℚ
  anomaly : Option UsageAnomaly
  advances : windowStart < windowEnd
  deriving DecidableEq

def UsageSample.window (s : UsageSample) : ℤ × ℤ := (s.windowStart, s.windowEnd)

/-- The body of the loop in `rechargesWithin`. -/
def addWithin (windowStart windowEnd : ℤ) (sums : ℚ × ℚ) (recharge : NescoRechargeDto) : ℚ × ℚ :=
  let startSeconds : ℚ := windowStart / 1000
  let endSeconds : ℚ := windowEnd / 1000
  if recharge.rechargeStatus ≠ "success" then sums
  else if recharge.rechargedDate ≤ startSeconds then sums
  else if recharge.rechargedDate > endSeconds then sums
  else (sums.1 + recharge.usableAmount, sums.2 + recharge.rechargeAmount)

/-- What was credited, and what was paid, in `(windowStart, windowEnd]`. -/
def rechargesWithin (recharges : List NescoRechargeDto) (windowStart windowEnd : ℤ) : ℚ × ℚ :=
  let (credited, paid) := recharges.foldl (addWithin windowStart windowEnd) (0, 0)
  (round credited, round paid)

/-- What to bill for a window, and why it is not to be trusted. -/
def judge (limits : UsageSamplingLimits) (windowHours : ℚ) (rawDelta : ℚ) :
    ℚ × Option UsageAnomaly :=
  -- a balance that rose on its own does not describe consumption
  if rawDelta < -epsilon then (0, some .negativeDelta)
  -- checked as a rate, so that a long window after an outage passes
  else if rawDelta / windowHours > limits.maxCostPerHour then (0, some .implausibleRate)
  else if windowHours > limits.maxWindowHours then (max rawDelta 0, some .staleWindow)
  else (max rawDelta 0, none)

def buildUsageSample (input : UsageSampleInput) (limits : UsageSamplingLimits) :
    Option UsageSample :=
  let elapsedMs := input.windowEnd - input.windowStart
  if h : elapsedMs ≤ 0 then none
  else
    let windowHours : ℚ := elapsedMs / msPerHour
    let (credited, paid) := rechargesWithin input.recharges input.windowStart input.windowEnd
    let rawDelta := round (input.openingBalance - input.closingBalance + credited)
    let (consumedCost, anomaly) := judge limits windowHours rawDelta
    some {
      windowStart := input.windowStart
      windowEnd := input.windowEnd
      openingBalance := input.openingBalance
      closingBalance := input.closingBalance
      rechargeCredited := credited
      rechargePaid := paid
      rawDelta
      consumedCost
      anomaly
      advances := by omega }

/-! ## Reading instants -/

theorem resolveReadingInstant_le (asOf : Option ℤ) (polledAt : ℤ) :
    (resolveReadingInstant asOf polledAt).instant ≤ polledAt := by
  cases asOf with
  | none => exact le_rfl
  | some asOf =>
    simp only [resolveReadingInstant]
    split
    · exact le_rfl
    · exact not_lt.mp ‹_›

theorem resolveReadingInstant_stamped (h : asOf * 1000 ≤ polledAt) :
    resolveReadingInstant (some asOf) polledAt = ⟨asOf * 1000, false⟩ := by
  simp only [resolveReadingInstant]
  exact if_neg (not_lt.mpr h)

theorem resolveReadingInstant_eq_min (asOf polledAt : ℤ) :
    (resolveReadingInstant (some asOf) polledAt).instant = min (asOf * 1000) polledAt := by
  simp only [resolveReadingInstant]
  split
  · next later => exact (min_eq_right (le_of_lt later)).symm
  · next accepted => exact (min_eq_left (not_lt.mp accepted)).symm

/-! ## Recharges in a window -/

/-- The recharges that moved the balance. -/
def successful (recharges : List NescoRechargeDto) : List NescoRechargeDto :=
  recharges.filter fun recharge => recharge.rechargeStatus = "success"

/-- The instant of a recharge, on the clock of the windows. -/
def NescoRechargeDto.instant (recharge : NescoRechargeDto) : ℤ :=
  recharge.rechargedDate * 1000

/-- The sum of `amount` over the successful recharges in `(windowStart, windowEnd]`. -/
def successfulWithin (amount : NescoRechargeDto → ℚ) (recharges : List NescoRechargeDto)
    (windowStart windowEnd : ℤ) : ℚ :=
  sumWithin NescoRechargeDto.instant amount (successful recharges) windowStart windowEnd

theorem seconds_le_iff (date ms : ℤ) : (date : ℚ) ≤ (ms : ℚ) / 1000 ↔ date * 1000 ≤ ms := by
  rw [le_div_iff₀ (by norm_num)]
  exact_mod_cast Iff.rfl

theorem addWithin_eq (windowStart windowEnd : ℤ) (sums : ℚ × ℚ) (recharge : NescoRechargeDto) :
    addWithin windowStart windowEnd sums recharge =
      (sums.1 + successfulWithin (·.usableAmount) [recharge] windowStart windowEnd,
        sums.2 + successfulWithin (·.rechargeAmount) [recharge] windowStart windowEnd) := by
  have hkey : recharge.instant = recharge.rechargedDate * 1000 := rfl
  simp only [addWithin, gt_iff_lt, ← not_le, seconds_le_iff, ← hkey]
  by_cases hs : recharge.rechargeStatus = "success"
  · by_cases h1 : recharge.instant ≤ windowStart
    · simp [successfulWithin, successful, sumWithin, hs, h1, not_lt.mpr h1]
    · by_cases h2 : recharge.instant ≤ windowEnd
      · simp [successfulWithin, successful, sumWithin, hs, h1, h2, not_le.mp h1]
      · simp [successfulWithin, successful, sumWithin, hs, h2]
  · simp [successfulWithin, successful, sumWithin, hs]

theorem successfulWithin_cons (amount : NescoRechargeDto → ℚ) (recharge : NescoRechargeDto)
    (recharges : List NescoRechargeDto) (windowStart windowEnd : ℤ) :
    successfulWithin amount (recharge :: recharges) windowStart windowEnd =
      successfulWithin amount [recharge] windowStart windowEnd +
        successfulWithin amount recharges windowStart windowEnd := by
  have hcons : recharge :: recharges = [recharge] ++ recharges := rfl
  rw [hcons]
  simp only [successfulWithin, successful, sumWithin, List.filter_append, List.map_append,
    List.sum_append]

private theorem foldl_addWithin (recharges : List NescoRechargeDto) (windowStart windowEnd : ℤ)
    (sums : ℚ × ℚ) :
    recharges.foldl (addWithin windowStart windowEnd) sums =
      (sums.1 + successfulWithin (·.usableAmount) recharges windowStart windowEnd,
        sums.2 + successfulWithin (·.rechargeAmount) recharges windowStart windowEnd) := by
  induction recharges generalizing sums with
  | nil => simp [successfulWithin, successful, sumWithin]
  | cons recharge recharges ih =>
    rw [List.foldl_cons, ih, addWithin_eq, successfulWithin_cons (·.usableAmount) _ recharges,
      successfulWithin_cons (·.rechargeAmount) _ recharges]
    simp only [add_assoc]

/-- The loop of `rechargesWithin` adds up the successful recharges of the window. -/
theorem rechargesWithin_eq (recharges : List NescoRechargeDto) (windowStart windowEnd : ℤ) :
    rechargesWithin recharges windowStart windowEnd =
      (round (successfulWithin (·.usableAmount) recharges windowStart windowEnd),
        round (successfulWithin (·.rechargeAmount) recharges windowStart windowEnd)) := by
  simp only [rechargesWithin, foldl_addWithin, zero_add]

theorem cents_successfulWithin {amount : NescoRechargeDto → ℚ} (windowStart windowEnd : ℤ)
    (h : ∀ recharge ∈ recharges, Cents (amount recharge)) :
    Cents (successfulWithin amount recharges windowStart windowEnd) := by
  apply Decimal.sum
  intro v hv
  obtain ⟨recharge, hr, rfl⟩ := List.mem_map.mp hv
  exact h _ (List.mem_of_mem_filter (List.mem_of_mem_filter hr))

/-! ## Samples -/

theorem judge_nonneg (limits : UsageSamplingLimits) (windowHours : ℚ) (rawDelta : ℚ) :
    0 ≤ (judge limits windowHours rawDelta).1 := by
  unfold judge
  split_ifs <;> simp

theorem buildUsageSample_eq_none_iff :
    buildUsageSample input limits = none ↔ input.windowEnd ≤ input.windowStart := by
  simp only [buildUsageSample]
  split
  · simp; omega
  · simp; omega

/-- What a sample records, whatever the limits make of it. -/
theorem buildUsageSample_spec (h : buildUsageSample input limits = some sample) :
    sample.windowStart = input.windowStart ∧ sample.windowEnd = input.windowEnd ∧
      sample.rechargeCredited = round (successfulWithin (·.usableAmount) input.recharges
        input.windowStart input.windowEnd) ∧
      sample.rechargePaid = round (successfulWithin (·.rechargeAmount) input.recharges
        input.windowStart input.windowEnd) ∧
      sample.rawDelta =
        round (input.openingBalance - input.closingBalance + sample.rechargeCredited) ∧
      0 ≤ sample.consumedCost := by
  simp only [buildUsageSample, rechargesWithin_eq] at h
  split at h
  · cases h
  · cases h
    exact ⟨rfl, rfl, rfl, rfl, rfl, judge_nonneg ..⟩

/-- In exact arithmetic the stored amounts are not rounded at all. -/
theorem buildUsageSample_exact (h : buildUsageSample input limits = some sample)
    (hopen : Cents input.openingBalance) (hclose : Cents input.closingBalance)
    (hrecharges : ∀ recharge ∈ input.recharges,
      Cents recharge.usableAmount ∧ Cents recharge.rechargeAmount) :
    sample.rechargePaid = successfulWithin (·.rechargeAmount) input.recharges
        input.windowStart input.windowEnd ∧
      sample.rawDelta = input.openingBalance - input.closingBalance +
        successfulWithin (·.usableAmount) input.recharges input.windowStart input.windowEnd := by
  obtain ⟨-, -, hcredited, hpaid, hraw, -⟩ := buildUsageSample_spec h
  have hcreditedCents := cents_successfulWithin input.windowStart input.windowEnd
    fun r hr => (hrecharges r hr).1
  have hpaidCents := cents_successfulWithin input.windowStart input.windowEnd
    fun r hr => (hrecharges r hr).2
  rw [round, hcreditedCents.roundTo_eq] at hcredited
  rw [round, hpaidCents.roundTo_eq] at hpaid
  rw [hcredited, round, ((hopen.sub hclose).add hcreditedCents).roundTo_eq] at hraw
  exact ⟨hpaid, hraw⟩

end ElectroSync
