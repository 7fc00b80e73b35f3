import Mathlib.Data.Int.Basic
import Mathlib.Tactic.Linarith
import Mathlib.Tactic.Ring

/-!
# The Asia/Dhaka clock

Bangladesh is UTC+6 all year. The sweep turns instants into Dhaka days by shifting the clock
(`dhakaDay`), the analytics turn days into instants with a `+06:00` literal (`dhakaMidnight`), and
the SQL buckets by `AT TIME ZONE` on timestamps of microseconds (`dhakaMicros`).
-/

namespace ElectroSync

def secondsPerDay : ℤ := 86_400
def msPerDay : ℤ := secondsPerDay * 1000
def dhakaOffsetMs : ℤ := 6 * 60 * 60 * 1000
def microsPerDay : ℤ := msPerDay * 1000

/-- The Dhaka day of an instant. -/
def dhakaDay (instant : ℤ) : ℤ := (instant + dhakaOffsetMs) / msPerDay

def dhakaDaysBefore (day : ℤ) (count : ℕ) : ℤ := day - count

def dhakaDayBefore (day : ℤ) : ℤ := dhakaDaysBefore day 1

/-- The instant of `${day}T00:00:00+06:00`. -/
def dhakaMidnight (day : ℤ) : ℤ := day * msPerDay - dhakaOffsetMs

def addDays (date : ℤ) (days : ℕ) : ℤ := date + days

/-- A `timestamptz` of microseconds as Dhaka wall-clock time. -/
def dhakaMicros (t : ℤ) : ℤ := t + dhakaOffsetMs * 1000

/-- `date_trunc('day', …)` of a wall-clock time, as a day. -/
def truncDay (local' : ℤ) : ℤ := local' / microsPerDay

theorem truncDay_le_iff : d ≤ truncDay t ↔ d * microsPerDay ≤ t :=
  Int.le_ediv_iff_mul_le (by decide)

theorem truncDay_lt_iff : truncDay t < d ↔ t < d * microsPerDay :=
  Int.ediv_lt_iff_lt_mul (by decide)

theorem truncDay_mono (h : s ≤ t) : truncDay s ≤ truncDay t :=
  Int.ediv_le_ediv (by decide) h

/-- The wall clock of a Dhaka midnight, in microseconds. -/
theorem dhakaMicros_midnight (day : ℤ) :
    dhakaMicros (dhakaMidnight day * 1000) = day * microsPerDay := by
  simp only [dhakaMicros, dhakaMidnight, microsPerDay]
  ring

end ElectroSync
