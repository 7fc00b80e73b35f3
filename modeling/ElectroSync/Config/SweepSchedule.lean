import Mathlib.Algebra.Order.Field.Rat
import Mathlib.Data.Rat.Floor
import Mathlib.Logic.Function.Iterate
import Mathlib.Tactic.Linarith

/-!
# The schedule of the sweep (`config/env.validation.ts`)

A cron expression is judged by the gaps between its next six firings. The verdict is one on the
whole schedule, and the same at every boot, exactly for the expressions whose gaps are all sane and
those with an insane gap in every five.
-/

namespace ElectroSync

/-- What the scheduler makes of an expression: the first firing after an instant, in
milliseconds. -/
structure CronTime where
  next : ℤ → ℤ
  later : ∀ t, t < next t
  first : ∀ t u, t ≤ u → u < next t → next u = next t

/-- The next firings after an instant. -/
def CronTime.sendAt (schedule : CronTime) (now : ℤ) : ℕ → List ℤ
  | 0 => []
  | count + 1 => schedule.next now :: schedule.sendAt (schedule.next now) count

structure IsSweepSchedule where
  failure : String := "is not a usable schedule"
  deriving DecidableEq

namespace IsSweepSchedule

def minSweepGapMinutes : ℚ := 5
def maxSweepGapMinutes : ℚ := 24 * 60
def sweepGapSamples : ℕ := 6

/-- The minutes from one firing to the next. -/
def gapMinutes (firings : List ℤ) : List ℚ :=
  firings.tail.zipWith (fun firing previous : ℤ => ((firing - previous : ℤ) : ℚ) / 60000) firings

/-- The verdict, and the constraint with the failure that its message will give. `cron` is
`new CronTime`, `print` a number in a template, and `none` a value that is not a string. -/
def validate (constraint : IsSweepSchedule) (cron : String → Except String CronTime)
    (print : ℚ → String) (now : ℤ) (value : Option String) : Bool × IsSweepSchedule :=
  match value with
  | none => (false, ⟨"must be a string"⟩)
  | some value =>
    match cron value with
    | .error message => (false, ⟨"is not a valid cron expression (" ++ message ++ ")"⟩)
    | .ok schedule =>
      let gaps := gapMinutes (schedule.sendAt now sweepGapSamples)
      match gaps.min?.filter (· < minSweepGapMinutes) with
      | some tightest =>
        (false, ⟨"fires every " ++ print tightest ++ " minute(s), which would hammer the portal"⟩)
      | none =>
        match gaps.max?.filter (maxSweepGapMinutes < ·) with
        | some widest =>
          (false, ⟨"leaves a " ++ print ⌊widest / 60 + 1 / 2⌋ ++ " hour gap between sweeps"⟩)
        | none => (true, constraint)

def defaultMessage (constraint : IsSweepSchedule) : String :=
  "ALERTS_CRON " ++ constraint.failure ++
    ". Expected something like \"0 */6 * * *\" (every six hours)."

/-- The verdict of a fresh constraint. -/
def accepts (cron : String → Except String CronTime) (print : ℚ → String) (boot : ℤ)
    (expression : String) : Prop :=
  (validate {} cron print boot (some expression)).1 = true

end IsSweepSchedule

namespace CronTime

/-- The firing that follows the instant comes within the bounds. -/
def Sane (schedule : CronTime) (firing : ℤ) : Prop :=
  IsSweepSchedule.minSweepGapMinutes ≤ ((schedule.next firing - firing : ℤ) : ℚ) / 60000 ∧
    ((schedule.next firing - firing : ℤ) : ℚ) / 60000 ≤ IsSweepSchedule.maxSweepGapMinutes

instance (schedule : CronTime) (firing : ℤ) : Decidable (schedule.Sane firing) :=
  inferInstanceAs (Decidable (_ ∧ _))

/-- The firing after an instant with this number of firings between. -/
def firing (schedule : CronTime) (boot : ℤ) (n : ℕ) : ℤ := schedule.next^[n + 1] boot

variable (schedule : CronTime)

theorem sendAt_eq (boot : ℤ) (count : ℕ) :
    schedule.sendAt boot count = (List.range count).map (schedule.firing boot) := by
  induction count generalizing boot with
  | zero => rfl
  | succ count ih =>
    rw [sendAt, ih, List.range_succ_eq_map, List.map_cons, List.map_map]
    rfl

theorem firing_succ (boot : ℤ) (n : ℕ) :
    schedule.firing boot (n + 1) = schedule.next (schedule.firing boot n) :=
  Function.iterate_succ_apply' _ _ _

/-! ## The gaps that repeat -/

variable {boot later : ℤ}

/-- What is after a later instant is, from some firing on, what is after an earlier one. -/
theorem exists_firing_eq (h : boot ≤ later) :
    ∃ skipped, ∀ n, schedule.firing later n = schedule.firing boot (skipped + n) := by
  obtain ⟨span, rfl⟩ := Int.le.dest h
  induction span using Nat.strong_induction_on generalizing boot with
  | _ span ih =>
    have step := schedule.later boot
    rcases lt_or_ge (boot + span) (schedule.next boot) with inside | past
    · refine ⟨0, fun n => ?_⟩
      rw [Nat.zero_add, firing, firing, Function.iterate_succ_apply, Function.iterate_succ_apply,
        schedule.first boot _ h inside]
    · have onward : schedule.next boot ≤
          schedule.next boot + ((boot + span - schedule.next boot).toNat : ℕ) := by omega
      obtain ⟨skipped, same⟩ := ih _ (by omega) onward
      refine ⟨skipped + 1, fun n => ?_⟩
      rw [Int.toNat_of_nonneg (by omega), add_sub_cancel] at same
      rw [same n, firing, firing, ← Function.iterate_succ_apply schedule.next]
      congr 1
      omega

end CronTime

namespace IsSweepSchedule
open CronTime

variable {schedule : CronTime} {boot : ℤ}

/-! ## The verdict -/

theorem gapMinutes_sendAt (schedule : CronTime) (boot : ℤ) (count : ℕ) :
    gapMinutes (schedule.sendAt boot (count + 1)) = (List.range count).map fun i =>
      ((schedule.next (schedule.firing boot i) - schedule.firing boot i : ℤ) : ℚ) / 60000 := by
  rw [sendAt_eq, gapMinutes]
  apply List.ext_getElem
  · simp
  · intro i _ _
    simp [firing_succ]

theorem tightest_iff {gaps : List ℚ} :
    gaps.min?.filter (· < minSweepGapMinutes) = none ↔ ∀ gap ∈ gaps, minSweepGapMinutes ≤ gap := by
  cases h : gaps.min? with
  | none =>
    rw [List.min?_eq_none_iff] at h
    simp [h]
  | some tightest =>
    rw [← List.le_min?_iff h, Option.filter_some]
    simp

theorem widest_iff {gaps : List ℚ} :
    gaps.max?.filter (maxSweepGapMinutes < ·) = none ↔ ∀ gap ∈ gaps, gap ≤ maxSweepGapMinutes := by
  cases h : gaps.max? with
  | none =>
    rw [List.max?_eq_none_iff] at h
    simp [h]
  | some widest =>
    rw [← List.max?_le_iff h, Option.filter_some]
    simp

variable {cron : String → Except String CronTime} {print : ℚ → String} {expression : String}

theorem accepts_iff (parsed : cron expression = .ok schedule) :
    accepts cron print boot expression ↔ ∀ i < 5, schedule.Sane (schedule.firing boot i) := by
  have sampled := gapMinutes_sendAt schedule boot 5
  have verdict : accepts cron print boot expression ↔
      (gapMinutes (schedule.sendAt boot sweepGapSamples)).min?.filter (· < minSweepGapMinutes) =
          none ∧
        (gapMinutes (schedule.sendAt boot sweepGapSamples)).max?.filter (maxSweepGapMinutes < ·) =
          none := by
    simp only [accepts, validate, parsed]
    split
    · next tight => simp [tight]
    · next loose =>
      split
      · next wide => simp [wide]
      · next narrow => simp [loose, narrow]
  rw [verdict, tightest_iff, widest_iff, sweepGapSamples, sampled]
  simp only [List.forall_mem_map, List.mem_range, Sane]
  exact ⟨fun ⟨wide, narrow⟩ i h => ⟨wide i h, narrow i h⟩,
    fun sane => ⟨fun i h => (sane i h).1, fun i h => (sane i h).2⟩⟩

theorem not_accepts {message : String} (refused : cron expression = .error message) :
    ¬ accepts cron print boot expression := by
  simp [accepts, validate, refused]

/-! ## The verdict on a whole schedule -/

/-- An accepted expression is sane from the boot on, and every boot accepts the same. -/
structure JudgesForever (cron : String → Except String CronTime) (print : ℚ → String)
    (expression : String) : Prop where
  forever : ∀ boot schedule, cron expression = .ok schedule →
    accepts cron print boot expression → ∀ n, schedule.Sane (schedule.firing boot n)
  verdict : ∀ boot boot', accepts cron print boot expression ↔ accepts cron print boot' expression

/-- All gaps are sane, or every five successive gaps have one that is not. -/
def Uniform (schedule : CronTime) : Prop :=
  (∀ boot n, schedule.Sane (schedule.firing boot n)) ∨
    ∀ boot, ∃ i < 5, ¬ schedule.Sane (schedule.firing boot i)

theorem judgesForever_iff (cron : String → Except String CronTime) (print : ℚ → String)
    (expression : String) :
    JudgesForever cron print expression ↔
      ∀ schedule, cron expression = .ok schedule → Uniform schedule := by
  constructor
  · intro judges schedule parsed
    by_cases accepted : ∃ boot, accepts cron print boot expression
    · obtain ⟨boot, accepted⟩ := accepted
      exact .inl fun boot' => judges.forever boot' schedule parsed
        ((judges.verdict boot boot').mp accepted)
    · refine .inr fun boot => ?_
      by_contra sane
      push Not at sane
      exact accepted ⟨boot, (accepts_iff parsed).mpr sane⟩
  · intro uniform
    refine ⟨fun boot schedule parsed accepted => ?_, fun boot boot' => ?_⟩
    · rcases uniform schedule parsed with sane | insane
      · exact sane boot
      · obtain ⟨i, h, wrong⟩ := insane boot
        exact absurd ((accepts_iff parsed).mp accepted i h) wrong
    · cases parsed : cron expression with
      | error message => exact iff_of_false (not_accepts parsed) (not_accepts parsed)
      | ok schedule =>
        rw [accepts_iff parsed, accepts_iff parsed]
        rcases uniform schedule parsed with sane | insane
        · exact iff_of_true (fun i _ => sane boot i) fun i _ => sane boot' i
        · obtain ⟨i, h, wrong⟩ := insane boot
          obtain ⟨j, h', wrong'⟩ := insane boot'
          exact iff_of_false (fun sane => wrong (sane i h)) fun sane => wrong' (sane j h')

/-- Five gaps show the whole of a schedule whose gaps repeat after at most five. -/
theorem uniform_of_repeats {period : ℕ} (positive : 0 < period) (few : period ≤ 5)
    (repeats : ∀ boot n, schedule.Sane (schedule.firing boot (n + period)) ↔
      schedule.Sane (schedule.firing boot n)) : Uniform schedule := by
  have rounds : ∀ boot n rounds, schedule.Sane (schedule.firing boot (n + rounds * period)) ↔
      schedule.Sane (schedule.firing boot n) := by
    intro boot n rounds
    induction rounds with
    | zero => rw [Nat.zero_mul, Nat.add_zero]
    | succ rounds ih => rw [Nat.succ_mul, ← Nat.add_assoc, repeats, ih]
  by_cases sane : ∀ boot n, schedule.Sane (schedule.firing boot n)
  · exact .inl sane
  push Not at sane
  obtain ⟨start, place, wrong⟩ := sane
  refine .inr fun boot => ?_
  have seen : ∃ n, ¬ schedule.Sane (schedule.firing boot n) := by
    rcases le_total boot start with before | after
    · obtain ⟨skipped, same⟩ := exists_firing_eq schedule before
      exact ⟨skipped + place, same place ▸ wrong⟩
    · obtain ⟨skipped, same⟩ := exists_firing_eq schedule after
      -- the same gap so many periods later that it is past the boot
      refine ⟨place + skipped * period - skipped, ?_⟩
      have past : skipped ≤ skipped * period := Nat.le_mul_of_pos_right _ positive
      have there : skipped + (place + skipped * period - skipped) = place + skipped * period := by
        omega
      rw [same, there, rounds]
      exact wrong
  obtain ⟨n, wrong⟩ := seen
  refine ⟨n % period, (Nat.mod_lt n positive).trans_le few, fun sane => wrong ?_⟩
  rw [← Nat.mod_add_div' n period]
  exact (rounds _ _ _).mpr sane

/-! ## Six-hourly on weekdays -/

/-- The quarter day is one of Monday to Friday, or the first of the next Monday. -/
def workQuarter (quarter : ℤ) : ℤ :=
  if (quarter / 4 + 4) % 7 = 6 then (quarter / 4 + 2) * 4
  else if (quarter / 4 + 4) % 7 = 0 then (quarter / 4 + 1) * 4
  else quarter

/-- `0 */6 * * 1-5` in UTC: every six hours from Monday to Friday. -/
def weekdays : CronTime where
  next t := workQuarter (t / 21600000 + 1) * 21600000
  later t := by
    simp only [workQuarter]
    split_ifs <;> omega
  first t u h before := by
    simp only [workQuarter] at before ⊢
    split_ifs at before ⊢ <;> omega

/-- The parser, as far as this expression. -/
def weekdayCron (expression : String) : Except String CronTime :=
  if expression = "0 */6 * * 1-5" then .ok weekdays else .error "Too few fields"

/-- On Mondays the expression is accepted, and the gap that starts on Friday evening is 54 hours. -/
theorem weekdays_not_judged :
    ¬ ∃ print, JudgesForever weekdayCron print "0 */6 * * 1-5" := by
  rintro ⟨print, judges⟩
  have parsed : weekdayCron "0 */6 * * 1-5" = .ok weekdays := rfl
  have accepted : accepts weekdayCron print 345600000 "0 */6 * * 1-5" := by
    rw [accepts_iff parsed]
    decide +kernel
  exact absurd (judges.forever _ _ parsed accepted 18) (by decide +kernel)

end IsSweepSchedule
end ElectroSync
