import ElectroSync.Auth.PasswordResetPolicy
import Mathlib.Tactic.FieldSimp
import Mathlib.Tactic.Linarith

/-!
# The wait that a throttle advertises

The wait of a throttle ends at a deadline: the end of the cooldown of the newest request, or the
moment the oldest request leaves the window. Whole seconds before the deadline are refused. At the
deadline of the quota a request is sent; at the deadline of the cooldown it may still meet a full
window.
-/

namespace ElectroSync

/-- The requests that count against the quota. -/
def requestsWithin (recent : List IssuedRequest) (now : ℤ) : List IssuedRequest :=
  recent.filter (·.createdAt > requestWindowStart now)

/-- When the cooldown of a request ends. -/
def cooldownEnd (newest : IssuedRequest) : ℤ := newest.createdAt + 60000

/-- When a request leaves the window. -/
def windowEnd (oldest : IssuedRequest) : ℤ := oldest.createdAt + requestWindowMinutes * 60000

variable {recent : List IssuedRequest} {newest oldest : IssuedRequest} {now later : ℤ}
  {throttle : Throttle}

/-- The whole seconds up to a deadline are those that do not reach it. -/
theorem lt_secondsUntil_iff {deadline k : ℤ} (ahead : now < deadline) :
    k < secondsUntil ((deadline - now) / 1000) ↔ now + k * 1000 < deadline := by
  have positive : (0 : ℚ) < (deadline - now) / 1000 := by
    have : (now : ℚ) < deadline := by exact_mod_cast ahead
    exact div_pos (by linarith) (by norm_num)
  have atLeast : 1 ≤ ⌈((deadline : ℚ) - now) / 1000⌉ := Int.one_le_ceil_iff.mpr positive
  rw [secondsUntil, max_eq_right atLeast, Int.lt_ceil, lt_div_iff₀ (by norm_num)]
  constructor
  · intro early
    have : (k * 1000 : ℤ) < deadline - now := by exact_mod_cast early
    omega
  · intro early
    have : (k * 1000 : ℤ) < deadline - now := by omega
    exact_mod_cast this

theorem elapsed_lt_iff : ((now - newest.createdAt : ℚ) / 1000 < resendCooldownSeconds) ↔
    now < cooldownEnd newest := by
  rw [resendCooldownSeconds, div_lt_iff₀ (by norm_num)]
  constructor
  · intro early
    have : now - newest.createdAt < 60 * 1000 := by exact_mod_cast early
    simp only [cooldownEnd]
    omega
  · intro early
    have : now - newest.createdAt < 60 * 1000 := by
      simp only [cooldownEnd] at early
      omega
    exact_mod_cast this

theorem mem_requestsWithin_iff {request : IssuedRequest} :
    request ∈ requestsWithin recent now ↔ request ∈ recent ∧ now < windowEnd request := by
  simp only [requestsWithin, requestWindowStart, windowEnd, List.mem_filter]
  exact and_congr_right fun _ => decide_eq_true_iff.trans sub_lt_iff_lt_add

/-! ## What a throttle says -/

/-- A throttle waits for the cooldown of the newest request, or for the oldest in a full window. -/
inductive Waits (recent : List IssuedRequest) (now : ℤ) (throttle : Throttle) : Prop
  | cooldown (newest : IssuedRequest) (reason : throttle.reason = .cooldown)
      (first : recent.head? = some newest)
      (ends : ∀ k : ℤ, k < throttle.retryAfterSeconds ↔ now + k * 1000 < cooldownEnd newest)
  | quota (oldest : IssuedRequest) (reason : throttle.reason = .quota)
      (passed : ∀ newest, recent.head? = some newest → cooldownEnd newest ≤ now)
      (full : maxRequestsPerWindow ≤ (requestsWithin recent now).length)
      (last : (requestsWithin recent now).getLast? = some oldest)
      (ends : ∀ k : ℤ, k < throttle.retryAfterSeconds ↔ now + k * 1000 < windowEnd oldest)

/-- The throttle of the quota. -/
def quotaThrottle (recent : List IssuedRequest) (now : ℤ) : Option Throttle :=
  if maxRequestsPerWindow ≤ (requestsWithin recent now).length then
    (requestsWithin recent now).getLast?.map fun oldest =>
      ⟨.quota, secondsUntil (((windowEnd oldest : ℤ) - now) / 1000)⟩
  else none

theorem throttleFor_of_cooldown (first : recent.head? = some newest)
    (early : now < cooldownEnd newest) : throttleFor recent now =
      some ⟨.cooldown, secondsUntil (((cooldownEnd newest : ℤ) - now) / 1000)⟩ := by
  have rest : resendCooldownSeconds - ((now : ℚ) - newest.createdAt) / 1000 =
      ((cooldownEnd newest : ℤ) - now) / 1000 := by
    simp only [resendCooldownSeconds, cooldownEnd]
    push_cast
    ring
  simp only [throttleFor, first]
  rw [if_pos (elapsed_lt_iff.mpr early), rest]

theorem throttleFor_of_passed
    (passed : ∀ newest, recent.head? = some newest → cooldownEnd newest ≤ now) :
    throttleFor recent now = quotaThrottle recent now := by
  simp only [throttleFor]
  cases first : recent.head? with
  | none => rfl
  | some newest => exact if_neg (mt elapsed_lt_iff.mp (not_lt.mpr (passed newest first)))

theorem throttleFor_cases (recent : List IssuedRequest) (now : ℤ) :
    (∃ newest, recent.head? = some newest ∧ now < cooldownEnd newest) ∨
      ∀ newest, recent.head? = some newest → cooldownEnd newest ≤ now := by
  cases first : recent.head? with
  | none => exact .inr nofun
  | some newest =>
    rcases lt_or_ge now (cooldownEnd newest) with early | passed
    · exact .inl ⟨newest, rfl, early⟩
    · refine .inr fun newest' same => ?_
      cases same
      exact passed

/-- A request is let through after the cooldown of the newest one, when the window is not full. -/
theorem throttleFor_eq_none_iff : throttleFor recent now = none ↔
    (∀ newest, recent.head? = some newest → cooldownEnd newest ≤ now) ∧
      (requestsWithin recent now).length < maxRequestsPerWindow := by
  constructor
  · intro allowed
    refine ⟨fun newest first => ?_, quota_of_throttleFor allowed⟩
    obtain ⟨rest, rfl⟩ := List.head?_eq_some_iff.mp first
    exact cooldown_of_throttleFor allowed
  · rintro ⟨passed, room⟩
    rw [throttleFor_of_passed passed]
    exact if_neg (not_le.mpr room)

theorem throttleFor_waits (throttled : throttleFor recent now = some throttle) :
    Waits recent now throttle := by
  rcases throttleFor_cases recent now with ⟨newest, first, early⟩ | passed
  · rw [throttleFor_of_cooldown first early] at throttled
    cases throttled
    exact .cooldown newest rfl first fun k => lt_secondsUntil_iff early
  · rw [throttleFor_of_passed passed] at throttled
    obtain ⟨full, waits⟩ := Option.ite_none_right_eq_some.mp throttled
    obtain ⟨oldest, last, rfl⟩ := Option.map_eq_some_iff.mp waits
    have ahead := (mem_requestsWithin_iff.mp (List.mem_of_getLast? last)).2
    exact .quota oldest rfl passed full last fun k => lt_secondsUntil_iff ahead

/-- The wait is always at least a second. -/
theorem retryAfterSeconds_pos (throttled : throttleFor recent now = some throttle) :
    1 ≤ throttle.retryAfterSeconds := by
  rcases throttleFor_cases recent now with ⟨newest, first, early⟩ | passed
  · rw [throttleFor_of_cooldown first early] at throttled
    cases throttled
    exact le_max_left ..
  · rw [throttleFor_of_passed passed] at throttled
    obtain ⟨-, waits⟩ := Option.ite_none_right_eq_some.mp throttled
    obtain ⟨oldest, -, rfl⟩ := Option.map_eq_some_iff.mp waits
    exact le_max_left ..

/-! ## Waiting -/

/-- After the wait no cooldown is left. -/
theorem passed_of_waited (throttled : throttleFor recent now = some throttle)
    (first : recent.head? = some newest) :
    cooldownEnd newest ≤ now + throttle.retryAfterSeconds * 1000 := by
  have positive := retryAfterSeconds_pos throttled
  cases throttleFor_waits throttled with
  | cooldown newest' _ first' ends =>
    cases first.symm.trans first'
    exact not_lt.mp (mt (ends _).mpr (lt_irrefl _))
  | quota _ _ passed =>
    have := passed newest first
    omega

theorem requestsWithin_of_inside
    (inside : ∀ request ∈ recent, requestWindowStart now < request.createdAt) :
    requestsWithin recent now = recent :=
  List.filter_eq_self.mpr fun request member => decide_eq_true (inside request member)

/-- Requests that are still in the window when the oldest is stay in it, newest first. -/
theorem requestsWithin_eq_of_last
    (newestFirst : recent.Pairwise fun r r' => r'.createdAt ≤ r.createdAt)
    (last : recent.getLast? = some oldest) (inside : later < windowEnd oldest) :
    requestsWithin recent later = recent := by
  rw [requestsWithin, List.filter_eq_self]
  intro request member
  obtain ⟨init, rfl⟩ := List.getLast?_eq_some_iff.mp last
  have newer : oldest.createdAt ≤ request.createdAt := by
    rcases List.mem_append.mp member with before | same
    · exact (List.pairwise_append.mp newestFirst).2.2 request before oldest (by simp)
    · rw [List.mem_singleton.mp same]
  simp only [windowEnd, requestWindowStart, gt_iff_lt, decide_eq_true_eq] at inside ⊢
  exact (sub_lt_iff_lt_add.mpr inside).trans_le newer

/-- Once the oldest of a window of the quota has left, the window is not full. -/
theorem requestsWithin_length_lt (few : recent.length ≤ maxRequestsPerWindow)
    (last : recent.getLast? = some oldest) (left : windowEnd oldest ≤ later) :
    (requestsWithin recent later).length < maxRequestsPerWindow := by
  refine lt_of_lt_of_le (List.length_filter_lt_length_iff_exists.mpr ⟨oldest, ?_, ?_⟩) few
  · exact List.mem_of_getLast? last
  · simp only [windowEnd, requestWindowStart, gt_iff_lt, decide_eq_true_eq, not_lt] at left ⊢
    exact le_sub_iff_add_le.mpr left

/-- Until the advertised wait is over every request is refused. After it one is let through, unless
the wait was a cooldown and the window is still full; then the quota is advertised. -/
theorem retryAfter_exact
    (newestFirst : recent.Pairwise fun r r' => r'.createdAt ≤ r.createdAt)
    (few : recent.length ≤ maxRequestsPerWindow)
    (inside : ∀ request ∈ recent, requestWindowStart now < request.createdAt)
    (throttled : throttleFor recent now = some throttle) :
    (∀ k : ℤ, k < throttle.retryAfterSeconds → throttleFor recent (now + k * 1000) ≠ none) ∧
      (throttleFor recent (now + throttle.retryAfterSeconds * 1000) = none ↔
        ¬ (throttle.reason = .cooldown ∧ maxRequestsPerWindow ≤
          (requestsWithin recent (now + throttle.retryAfterSeconds * 1000)).length)) ∧
      ∀ next, throttleFor recent (now + throttle.retryAfterSeconds * 1000) = some next →
        next.reason = .quota := by
  have passed newest := @passed_of_waited recent newest now throttle throttled
  refine ⟨?_, ?_, fun next again => ?_⟩
  · cases throttleFor_waits throttled with
    | cooldown newest _ first ends =>
      intro k early allowed
      have spaced := (throttleFor_eq_none_iff.mp allowed).1 newest first
      exact absurd ((ends k).mp early) (not_lt.mpr spaced)
    | quota oldest _ _ full last ends =>
      rw [requestsWithin_of_inside inside] at full last
      intro k early allowed
      have room := (throttleFor_eq_none_iff.mp allowed).2
      rw [requestsWithin_eq_of_last newestFirst last ((ends k).mp early)] at room
      exact absurd full (not_le.mpr room)
  · rw [throttleFor_eq_none_iff, not_and, not_le]
    cases throttleFor_waits throttled with
    | cooldown _ reason =>
      simp only [reason, forall_true_left]
      exact and_iff_right passed
    | quota oldest reason _ _ last ends =>
      rw [requestsWithin_of_inside inside] at last
      have spaced := not_lt.mp (mt (ends _).mpr (lt_irrefl _))
      simp only [reason, reduceCtorEq, false_imp_iff, iff_true]
      exact ⟨passed, requestsWithin_length_lt few last spaced⟩
  · cases throttleFor_waits again with
    | cooldown newest _ first ends =>
      have := (ends 0).mp (retryAfterSeconds_pos again)
      have := passed newest first
      omega
    | quota _ reason => exact reason

/-- Requests, given as milliseconds. -/
def issuedRequests (times : List ℤ) : List IssuedRequest := times.map (⟨·⟩)

/-- The window is full; the oldest request leaves it ten minutes from now. -/
theorem retryAfter_exact_fullHour :
    (∀ k : ℤ, k < 600 → throttleFor (issuedRequests [3480000, 3000000, 2400000, 1800000, 600000])
        (3600000 + k * 1000) ≠ none) ∧
      throttleFor (issuedRequests [3480000, 3000000, 2400000, 1800000, 600000]) 4200000 = none := by
  obtain ⟨early, free, -⟩ := @retryAfter_exact
    (issuedRequests [3480000, 3000000, 2400000, 1800000, 600000]) 3600000 ⟨.quota, 600⟩ (by decide)
    (by decide) (by decide) (by decide +kernel)
  exact ⟨early, free.mpr fun cooldown => ThrottleReason.noConfusion cooldown.1⟩

/-- Five requests within the hour, the newest five seconds ago: the advertised 55 seconds are not
enough. -/
theorem retryAfter_exact_fails : ¬ ∀ recent now throttle,
    recent.Pairwise (fun r r' : IssuedRequest => r'.createdAt ≤ r.createdAt) →
      recent.length ≤ maxRequestsPerWindow →
      (∀ request ∈ recent, requestWindowStart now < request.createdAt) →
      (∀ request ∈ recent, request.createdAt ≤ now) →
      throttleFor recent now = some throttle →
      throttleFor recent (now + throttle.retryAfterSeconds * 1000) = none := by
  intro enough
  have free := enough (issuedRequests [3595000, 3000000, 2400000, 1800000, 600000]) 3600000
    ⟨.cooldown, 55⟩ (by decide) (by decide) (by decide) (by decide) (by decide +kernel)
  revert free
  decide +kernel

end ElectroSync
