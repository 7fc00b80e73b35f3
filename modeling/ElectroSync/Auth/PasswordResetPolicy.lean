import ElectroSync.Database.Types
import Mathlib.Data.Rat.Floor

/-!
# The rules of a reset code (`auth/password-reset.policy.ts`)

When a code can be redeemed, and when another one may be sent.
-/

namespace ElectroSync

def codeLength : ℕ := 6
def codeTtlMinutes : ℤ := 15
def maxAttempts : ℕ := 5
def resendCooldownSeconds : ℚ := 60
def maxRequestsPerWindow : ℕ := 5
def requestWindowMinutes : ℤ := 60

/-- What the rules read of a row of `verification`. -/
structure ResetCodeRecord where
  expiresAt : ℤ
  consumedAt : Option ℤ
  attempts : ℕ
  deriving DecidableEq

structure IssuedRequest where
  createdAt : ℤ
  deriving DecidableEq

inductive CodeRejection
  | missing
  | expired
  | consumed
  | attemptsExhausted
  deriving DecidableEq

inductive ThrottleReason
  | cooldown
  | quota
  deriving DecidableEq

structure Throttle where
  reason : ThrottleReason
  retryAfterSeconds : ℤ
  deriving DecidableEq

/-- `draw` is the result of `randomInt(0, 10 ** CODE_LENGTH)`. -/
def generateCode (draw : Fin (10 ^ codeLength)) : String :=
  String.ofList ((toString draw.val).toList.leftpad codeLength '0')

def codeExpiryFrom (now : ℤ) : ℤ := now + codeTtlMinutes * 60000

/-- Start of the rate-limit window ending at `now`. -/
def requestWindowStart (now : ℤ) : ℤ := now - requestWindowMinutes * 60000

def rejectionFor (record : Option ResetCodeRecord) (now : ℤ) : Option CodeRejection :=
  match record with
  | none => some .missing
  | some record =>
    if record.consumedAt.isSome then some .consumed
    else if record.expiresAt ≤ now then some .expired
    else if maxAttempts ≤ record.attempts then some .attemptsExhausted
    else none

/-- Rounds up, and never to 0. -/
def secondsUntil (seconds : ℚ) : ℤ := max 1 ⌈seconds⌉

/-- `recent` is newest first. The cooldown comes before the quota. -/
def throttleFor (recent : List IssuedRequest) (now : ℤ) : Option Throttle :=
  let inWindow := recent.filter (·.createdAt > requestWindowStart now)
  let quota := if maxRequestsPerWindow ≤ inWindow.length then
      inWindow.getLast?.map fun oldest =>
        let freesAt := oldest.createdAt + requestWindowMinutes * 60000
        Throttle.mk .quota (secondsUntil ((freesAt - now) / 1000))
    else none
  match recent.head? with
  | none => quota
  | some newest =>
    let elapsed : ℚ := (now - newest.createdAt) / 1000
    if elapsed < resendCooldownSeconds then
      some ⟨.cooldown, secondsUntil (resendCooldownSeconds - elapsed)⟩
    else quota

/-- A code can be redeemed while it is not consumed, before it expires, and short of the ceiling. -/
theorem rejectionFor_eq_none {record : Option ResetCodeRecord} :
    rejectionFor record now = none ↔ ∃ r, record = some r ∧ r.consumedAt = none ∧
      now < r.expiresAt ∧ r.attempts < maxAttempts := by
  cases record with
  | none => simp [rejectionFor]
  | some r =>
    simp only [rejectionFor, Option.some.injEq, exists_eq_left']
    cases r.consumedAt with
    | some at_ => simp
    | none =>
      split
      · next consumed => cases consumed
      split
      · next expired => simp [expired]
      split
      · next exhausted => simp [exhausted]
      · next early few => simp [not_le.mp early, not_le.mp few]

/-- A code is sent only when the cooldown since the newest request has passed. -/
theorem cooldown_of_throttleFor (allowed : throttleFor (newest :: rest) now = none) :
    newest.createdAt + 60000 ≤ now := by
  simp only [throttleFor, List.head?_cons] at allowed
  split at allowed
  · cases allowed
  · next passed =>
    simp only [resendCooldownSeconds, not_lt] at passed
    have elapsed : (60000 : ℚ) ≤ (now - newest.createdAt : ℤ) := by
      push_cast
      linarith
    have : (60000 : ℤ) ≤ now - newest.createdAt := by exact_mod_cast elapsed
    omega

/-- A code is sent only when fewer than the quota lie in the window. -/
theorem quota_of_throttleFor (allowed : throttleFor recent now = none) :
    (recent.filter (·.createdAt > requestWindowStart now)).length < maxRequestsPerWindow := by
  by_contra full
  rw [not_lt] at full
  have nonempty : recent.filter (·.createdAt > requestWindowStart now) ≠ [] := by
    intro empty
    rw [empty] at full
    cases full
  simp only [throttleFor, if_pos full, List.getLast?_eq_some_getLast nonempty,
    Option.map_some] at allowed
  split at allowed
  · cases allowed
  · split at allowed <;> cases allowed

end ElectroSync
