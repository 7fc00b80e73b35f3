import ElectroSync.Library.Run
import Mathlib.Logic.Function.Basic
import Mathlib.Data.List.Basic

/-!
# At most one sweep in flight (`runSweep`, `database/advisory-lock.service.ts`)

Instances of the application call `runSweep` at any time. A call takes the `running` flag of its
instance, checks a session out of the connection pool, and tries the advisory lock, which belongs to
the session and is counted. A sweep joins the polls of a batch with `Promise.all`, which settles at
the first rejection: then the lock and the flag go while the other polls of the batch still run.
-/

namespace ElectroSync
open Transition

/-- Where a call of `runSweep` is; the number is its session. -/
inductive SweepPhase
  | idle
  /-- awaits `pool.connect()` -/
  | connecting
  /-- awaits `pg_try_advisory_lock` -/
  | locking (session : ℕ)
  /-- inside `sweep`, between batches -/
  | working (session : ℕ)
  /-- inside `sweep`, awaits the `Promise.all` of a batch -/
  | joining (session : ℕ)
  /-- in the inner `finally`, awaits `pg_advisory_unlock` -/
  | unlocking (session : ℕ)
  /-- in the outer `finally`, before `client.release()` -/
  | releasing (session : ℕ)
  /-- in the `finally` of `runSweep`, before `this.running = false` -/
  | leaving
  | returned
  deriving DecidableEq

namespace SweepPhase

/-- The session a call has checked out. -/
def session : SweepPhase → Option ℕ
  | locking σ | working σ | joining σ | unlocking σ | releasing σ => some σ
  | _ => none

/-- The session whose lock a call has taken and not yet tried to give back. -/
def guarded : SweepPhase → Option ℕ
  | working σ | joining σ | unlocking σ => some σ
  | _ => none

/-- The call has got the lock, or has given up on it. -/
def started : SweepPhase → Bool
  | idle | connecting | locking _ => false
  | _ => true

end SweepPhase

inductive PollStatus
  | running
  | resolved
  | rejected
  deriving DecidableEq

/-- An execution of `pollMeter`, and the call whose sweep started it. -/
structure SweepPoll where
  id : ℕ
  owner : ℕ
  status : PollStatus
  deriving DecidableEq

structure Cluster where
  /-- The flag of each instance. -/
  running : ℕ → Bool := fun _ => false
  /-- The instance a call runs on. -/
  host : ℕ → ℕ := fun _ => 0
  phase : ℕ → SweepPhase := fun _ => .idle
  /-- The call that has a session checked out of its pool. -/
  user : ℕ → Option ℕ := fun _ => none
  /-- The session that holds the advisory lock, and how many times. -/
  lock : Option (ℕ × ℕ) := none
  polls : List SweepPoll := []

inductive ClusterAction
  | invoke (call host : ℕ)
  | connect (call session : ℕ)
  | connectFails (call : ℕ)
  | tryLock (call : ℕ)
  | tryLockFails (call : ℕ)
  | startBatch (call : ℕ) (ids : List ℕ)
  | resolve (id : ℕ)
  | reject (id : ℕ)
  | batchResolves (call : ℕ)
  | batchRejects (call : ℕ)
  | endSweep (call : ℕ)
  | unlock (call : ℕ)
  | unlockFails (call : ℕ) (alive : Bool)
  | release (call : ℕ)
  | leave (call : ℕ)
  | endSession (session : ℕ)
  deriving DecidableEq

namespace Cluster
open SweepPhase

def move (s : Cluster) (call : ℕ) (phase : SweepPhase) : Cluster :=
  { s with phase := Function.update s.phase call phase }

def setLock (s : Cluster) (lock : Option (ℕ × ℕ)) : Cluster := { s with lock }

def settle (s : Cluster) (id : ℕ) (status : PollStatus) : Cluster :=
  { s with polls := s.polls.map fun p =>
      if p.id = id ∧ p.status = .running then { p with status } else p }

/-- What `pg_try_advisory_lock` of a session leaves, `none` when another session holds the lock. -/
def tryAcquire (lock : Option (ℕ × ℕ)) (session : ℕ) : Option (ℕ × ℕ) :=
  match lock with
  | none => some (session, 1)
  | some (holder, depth) => if holder = session then some (session, depth + 1) else none

def unlocked (lock : Option (ℕ × ℕ)) : Option (ℕ × ℕ) :=
  match lock with
  | some (holder, depth + 2) => some (holder, depth + 1)
  | _ => none

def step (s : Cluster) : ClusterAction → Option Cluster
  | .invoke call host =>
    if s.phase call ≠ idle then none
    -- "Skipping sweep: the previous one is still running"
    else if s.running host then some (s.move call returned)
    else some { s.move call connecting with
      running := Function.update s.running host true
      host := Function.update s.host call host }
  | .connect call session =>
    if s.phase call = connecting ∧ s.user session = none then
      some { s.move call (locking session) with
        user := Function.update s.user session (some call) }
    else none
  | .connectFails call =>
    if s.phase call = connecting then some (s.move call leaving) else none
  | .tryLock call =>
    match s.phase call with
    | locking session =>
      match tryAcquire s.lock session with
      | some lock => some ((s.setLock (some lock)).move call (working session))
      | none => some (s.move call (releasing session))
    | _ => none
  | .tryLockFails call =>
    match s.phase call with
    | locking session => some (s.move call (releasing session))
    | _ => none
  | .startBatch call ids =>
    match s.phase call with
    | working session =>
      if ids.Nodup ∧ ∀ id ∈ ids, ∀ p ∈ s.polls, p.id ≠ id then
        some { s.move call (joining session) with
          polls := s.polls ++ ids.map fun id => ⟨id, call, .running⟩ }
      else none
    | _ => none
  | .resolve id =>
    if ∃ p ∈ s.polls, p.id = id ∧ p.status = .running then some (s.settle id .resolved) else none
  | .reject id =>
    if ∃ p ∈ s.polls, p.id = id ∧ p.status = .running then some (s.settle id .rejected) else none
  | .batchResolves call =>
    match s.phase call with
    | joining session =>
      if ∀ p ∈ s.polls, p.owner = call → p.status = .resolved then
        some (s.move call (working session))
      else none
    | _ => none
  | .batchRejects call =>
    match s.phase call with
    | joining session =>
      if ∃ p ∈ s.polls, p.owner = call ∧ p.status = .rejected then
        some (s.move call (unlocking session))
      else none
    | _ => none
  | .endSweep call =>
    match s.phase call with
    | working session => some (s.move call (unlocking session))
    | _ => none
  | .unlock call =>
    match s.phase call with
    | unlocking session => some ((s.move call (releasing session)).setLock (unlocked s.lock))
    | _ => none
  | .unlockFails call alive =>
    match s.phase call with
    -- a session that died took its lock along
    | unlocking session =>
      some ((s.move call (releasing session)).setLock (if alive then s.lock else none))
    | _ => none
  | .release call =>
    match s.phase call with
    | releasing session =>
      some { s.move call leaving with user := Function.update s.user session none }
    | _ => none
  | .leave call =>
    if s.phase call = leaving then
      some { s.move call returned with running := Function.update s.running (s.host call) false }
    else none
  -- a pooled connection closes; it does not while a call uses it
  | .endSession session =>
    if s.user session = none then
      some (s.setLock (s.lock.filter fun held => held.1 ≠ session))
    else none

end Cluster

/-! ## What exclusion means -/

/-- When a batch starts, no poll of another sweep is running. -/
def StartsAlone (s : Cluster) : ClusterAction → Prop
  | .startBatch call _ => ∀ p ∈ s.polls, p.status = .running → p.owner = call
  | _ => True

/-- When a call gives back the lock or the flag, its polls have settled. -/
def ReleasesSettled (s : Cluster) : ClusterAction → Prop
  | .unlock call | .unlockFails call _ | .leave call =>
    ∀ p ∈ s.polls, p.owner = call → p.status ≠ .running
  | _ => True

/-- A poll rejects only when the other polls of its sweep have settled. -/
def RejectsLast (s : Cluster) : ClusterAction → Prop
  | .reject id => ∀ p ∈ s.polls, p.id = id → p.status = .running →
      ∀ q ∈ s.polls, q.owner = p.owner → q.id ≠ id → q.status ≠ .running
  | _ => True

instance (s : Cluster) (a : ClusterAction) : Decidable (RejectsLast s a) := by
  unfold RejectsLast
  split <;> infer_instance

/-! ## The invariant -/

/-- What the lock and the joins keep true while polls reject last. -/
structure Cluster.Inv (s : Cluster) : Prop where
  owns : ∀ c σ, (s.phase c).session = some σ → s.user σ = some c
  holds : ∀ c σ, (s.phase c).guarded = some σ → ∃ depth, s.lock = some (σ, depth)
  joined : ∀ p ∈ s.polls, p.status = .running → ∃ σ, s.phase p.owner = .joining σ
  last : ∀ p ∈ s.polls, p.status = .rejected → ∀ q ∈ s.polls, q.owner = p.owner →
    q.status ≠ .running
  ended : ∀ p ∈ s.polls, p.status = .rejected → ∀ σ, s.phase p.owner ≠ .working σ
  known : ∀ p ∈ s.polls, (s.phase p.owner).started

namespace Cluster
variable {s s' : Cluster} {c c' σ τ : ℕ} {φ : SweepPhase}

@[simp] theorem move_phase_self : (s.move c φ).phase c = φ := Function.update_self ..

theorem move_phase (c' : ℕ) : (s.move c φ).phase c' = if c' = c then φ else s.phase c' :=
  Function.update_apply ..

theorem session_of_guarded (h : φ.guarded = some σ) : φ.session = some σ := by
  cases φ <;> simp_all [SweepPhase.guarded, SweepPhase.session]

/-- Two calls that hold the lock are one call. -/
theorem Inv.exclusive (inv : s.Inv) (h : (s.phase c).guarded = some σ)
    (h' : (s.phase c').guarded = some τ) : c' = c := by
  obtain ⟨d, lock⟩ := inv.holds c σ h
  obtain ⟨d', lock'⟩ := inv.holds c' τ h'
  obtain rfl : σ = τ := by
    rw [lock] at lock'
    cases lock'
    rfl
  have user := inv.owns c σ (session_of_guarded h)
  have user' := inv.owns c' σ (session_of_guarded h')
  exact Option.some.inj (user'.symm.trans user)

/-- A call may move when its new phase keeps what the invariant says about it. -/
theorem Inv.move (inv : s.Inv) (owns : ∀ σ, φ.session = some σ → s.user σ = some c)
    (holds : ∀ σ, φ.guarded = some σ → ∃ depth, s.lock = some (σ, depth))
    (joined : ∀ p ∈ s.polls, p.owner = c → p.status = .running → ∃ σ, φ = .joining σ)
    (ended : ∀ p ∈ s.polls, p.owner = c → p.status = .rejected → ∀ σ, φ ≠ .working σ)
    (known : ∀ p ∈ s.polls, p.owner = c → φ.started) : (s.move c φ).Inv where
  owns c' σ h := by
    rw [move_phase] at h
    split at h
    · next same => exact same ▸ owns σ h
    · exact inv.owns c' σ h
  holds c' σ h := by
    rw [move_phase] at h
    split at h
    · exact holds σ h
    · exact inv.holds c' σ h
  joined p hp running := by
    rw [move_phase]
    split
    · next same => exact joined p hp same running
    · exact inv.joined p hp running
  last := inv.last
  ended p hp rejected σ := by
    rw [move_phase]
    split
    · next same => exact ended p hp same rejected σ
    · exact inv.ended p hp rejected σ
  known p hp := by
    rw [move_phase]
    split
    · next same => exact known p hp same
    · exact inv.known p hp

theorem Inv.setLock (inv : s.Inv) {lock : Option (ℕ × ℕ)}
    (holds : ∀ c σ, (s.phase c).guarded = some σ → ∃ depth, lock = some (σ, depth)) :
    (s.setLock lock).Inv :=
  ⟨inv.owns, holds, inv.joined, inv.last, inv.ended, inv.known⟩

theorem Inv.setUser (inv : s.Inv) {user : ℕ → Option ℕ}
    (owns : ∀ c σ, (s.phase c).session = some σ → user σ = some c) : { s with user }.Inv :=
  ⟨owns, inv.holds, inv.joined, inv.last, inv.ended, inv.known⟩

/-- A call that is not joining has no running poll. -/
theorem Inv.not_running (inv : s.Inv) (phase : ∀ σ, s.phase c ≠ .joining σ) :
    ∀ p ∈ s.polls, p.owner = c → p.status ≠ .running := by
  rintro p hp rfl running
  obtain ⟨σ, joining⟩ := inv.joined p hp running
  exact phase σ joining

/-- A call that is not joining may move on to a phase that is not `working`. -/
theorem Inv.moveOn (inv : s.Inv) (phase : ∀ σ, s.phase c ≠ .joining σ)
    (working : ∀ σ, φ ≠ .working σ) (known : (s.phase c).started → φ.started)
    (owns : ∀ σ, φ.session = some σ → s.user σ = some c)
    (holds : ∀ σ, φ.guarded = some σ → ∃ depth, s.lock = some (σ, depth)) : (s.move c φ).Inv :=
  inv.move owns holds (fun p hp owner running => absurd running (inv.not_running phase p hp owner))
    (fun _ _ _ _ => working) fun p hp owner => known (owner ▸ inv.known p hp)

theorem tryAcquire_eq_some {lock : Option (ℕ × ℕ)} (h : tryAcquire lock σ = some held) :
    held.1 = σ ∧ ∀ τ depth, lock = some (τ, depth) → τ = σ := by
  unfold tryAcquire at h
  split at h
  · cases h
    exact ⟨rfl, nofun⟩
  · next holder depth =>
    simp only [Option.ite_none_right_eq_some] at h
    obtain ⟨rfl, ⟨⟩⟩ := h
    exact ⟨rfl, by rintro τ d ⟨⟩; rfl⟩

theorem mem_settle {id : ℕ} {status : PollStatus} {p : SweepPoll} :
    p ∈ (s.settle id status).polls ↔
      (p ∈ s.polls ∧ ¬(p.id = id ∧ p.status = .running)) ∨
        ∃ q ∈ s.polls, q.id = id ∧ q.status = .running ∧ p = { q with status } := by
  simp only [settle, List.mem_map]
  constructor
  · rintro ⟨q, hq, rfl⟩
    split
    · next this => exact .inr ⟨q, hq, this.1, this.2, rfl⟩
    · next this => exact .inl ⟨hq, this⟩
  · rintro (⟨hp, other⟩ | ⟨q, hq, id, running, rfl⟩)
    · exact ⟨p, hp, if_neg other⟩
    · exact ⟨q, hq, if_pos ⟨id, running⟩⟩

/-- A poll may settle; it may reject when its sweep has no other running poll. -/
theorem Inv.settle (inv : s.Inv) {id : ℕ} {status : PollStatus} (settles : status ≠ .running)
    (alone : status = .rejected → RejectsLast s (.reject id)) : (s.settle id status).Inv where
  owns := inv.owns
  holds := inv.holds
  joined p hp running := by
    rcases mem_settle.mp hp with ⟨hp, -⟩ | ⟨q, -, -, -, rfl⟩
    · exact inv.joined p hp running
    · exact absurd running settles
  last p hp rejected q hq owner running := by
    rcases mem_settle.mp hq with ⟨hq, other⟩ | ⟨q', -, -, -, rfl⟩
    · rcases mem_settle.mp hp with ⟨hp, -⟩ | ⟨p', hp', id, run, rfl⟩
      · exact inv.last p hp rejected q hq owner running
      · exact alone rejected p' hp' id run q hq owner (fun same => other ⟨same, running⟩) running
    · exact absurd running settles
  ended p hp rejected σ := by
    rcases mem_settle.mp hp with ⟨hp, -⟩ | ⟨p', hp', -, running, rfl⟩
    · exact inv.ended p hp rejected σ
    · obtain ⟨τ, joining⟩ := inv.joined p' hp' running
      simp [Cluster.settle, joining]
  known p hp := by
    rcases mem_settle.mp hp with ⟨hp, -⟩ | ⟨p', hp', -, -, rfl⟩
    · exact inv.known p hp
    · exact inv.known p' hp'

/-! One lemma for each kind of step. -/

theorem Inv.invoke (inv : s.Inv) (h : s.step (.invoke c i) = some s') : s'.Inv := by
  simp only [Cluster.step] at h
  split at h
  · cases h
  next fresh =>
  have idle : s.phase c = .idle := not_not.mp fresh
  split at h
  · cases h
    exact inv.moveOn (by simp [idle]) nofun (fun _ => rfl) nofun nofun
  · cases h
    have moved : (s.move c .connecting).Inv :=
      inv.moveOn (by simp [idle]) nofun (by simp [idle, SweepPhase.started]) nofun nofun
    exact ⟨moved.owns, moved.holds, moved.joined, moved.last, moved.ended, moved.known⟩

theorem Inv.connect (inv : s.Inv) (h : s.step (.connect c σ) = some s') : s'.Inv := by
  simp only [Cluster.step, Option.ite_none_right_eq_some] at h
  obtain ⟨⟨connecting, free⟩, ⟨⟩⟩ := h
  have checkedOut : { s with user := Function.update s.user σ (some c) }.Inv := by
    apply inv.setUser
    intro c' τ h
    have user := inv.owns c' τ h
    rwa [Function.update_of_ne]
    rintro rfl
    rw [free] at user
    cases user
  refine checkedOut.moveOn (by simp [connecting]) nofun
    (by simp [connecting, SweepPhase.started]) ?_ nofun
  rintro τ ⟨⟩
  exact Function.update_self ..

theorem Inv.connectFails (inv : s.Inv) (h : s.step (.connectFails c) = some s') : s'.Inv := by
  simp only [Cluster.step, Option.ite_none_right_eq_some] at h
  obtain ⟨connecting, ⟨⟩⟩ := h
  exact inv.moveOn (by simp [connecting]) nofun (fun _ => rfl) nofun nofun

theorem Inv.tryLock (inv : s.Inv) (h : s.step (.tryLock c) = some s') : s'.Inv := by
  simp only [Cluster.step] at h
  split at h
  · next session locking =>
    have user : ∀ σ, some session = some σ → s.user σ = some c := by
      rintro σ ⟨⟩
      exact inv.owns c session (by rw [locking]; rfl)
    split at h
    · next held acquired =>
      cases h
      obtain ⟨rfl, same⟩ := tryAcquire_eq_some acquired
      have locked : (s.setLock (some held)).Inv := by
        apply inv.setLock
        intro c' σ guarded
        obtain ⟨depth, lock⟩ := inv.holds c' σ guarded
        exact ⟨held.2, by rw [same σ depth lock]⟩
      have none : ∀ p ∈ s.polls, p.owner ≠ c := fun p hp owner => by
        have known := inv.known p hp
        rw [owner, locking] at known
        cases known
      refine locked.move user ?_ (fun p hp owner => absurd owner (none p hp))
        (fun p hp owner => absurd owner (none p hp)) fun _ _ _ => rfl
      rintro σ ⟨⟩
      exact ⟨held.2, rfl⟩
    · cases h
      exact inv.moveOn (by simp [locking]) nofun (fun _ => rfl) user nofun
  · cases h

theorem Inv.tryLockFails (inv : s.Inv) (h : s.step (.tryLockFails c) = some s') : s'.Inv := by
  simp only [Cluster.step] at h
  split at h
  · next session locking =>
    cases h
    refine inv.moveOn (by simp [locking]) nofun (fun _ => rfl) ?_ nofun
    rintro σ ⟨⟩
    exact inv.owns c session (by rw [locking]; rfl)
  · cases h

theorem Inv.startBatch (inv : s.Inv) (h : s.step (.startBatch c ids) = some s') : s'.Inv := by
  simp only [Cluster.step] at h
  split at h
  · next session working =>
    simp only [Option.ite_none_right_eq_some] at h
    obtain ⟨-, ⟨⟩⟩ := h
    have moved : (s.move c (.joining session)).Inv := by
      refine inv.move ?_ ?_ (fun _ _ _ _ => ⟨session, rfl⟩) (fun _ _ _ _ => nofun)
        fun _ _ _ => rfl
      · exact fun σ h => inv.owns c σ (by rw [working]; exact h)
      · exact fun σ h => inv.holds c σ (by rw [working]; exact h)
    have started : ∀ p ∈ ids.map fun id => (⟨id, c, .running⟩ : SweepPoll),
        p.owner = c ∧ p.status = .running := by
      simp
    refine ⟨moved.owns, moved.holds, ?_, ?_, ?_, ?_⟩
    · intro p hp running
      rcases List.mem_append.mp hp with hp | hp
      · exact moved.joined p hp running
      · exact ⟨session, by rw [(started p hp).1]; exact move_phase_self⟩
    · intro p hp rejected q hq owner
      rcases List.mem_append.mp hp with hp | hp
      · rcases List.mem_append.mp hq with hq | hq
        · exact inv.last p hp rejected q hq owner
        · have ended := inv.ended p hp rejected session
          rw [← owner, (started q hq).1, working] at ended
          exact absurd rfl ended
      · rw [(started p hp).2] at rejected
        cases rejected
    · intro p hp rejected
      rcases List.mem_append.mp hp with hp | hp
      · exact moved.ended p hp rejected
      · rw [(started p hp).2] at rejected
        cases rejected
    · intro p hp
      rcases List.mem_append.mp hp with hp | hp
      · exact moved.known p hp
      · rw [(started p hp).1]
        exact congrArg SweepPhase.started move_phase_self
  · cases h

theorem Inv.resolve (inv : s.Inv) (h : s.step (.resolve k) = some s') : s'.Inv := by
  simp only [Cluster.step, Option.ite_none_right_eq_some] at h
  obtain ⟨-, ⟨⟩⟩ := h
  exact inv.settle nofun nofun

theorem Inv.reject (inv : s.Inv) (h : s.step (.reject k) = some s')
    (guard : RejectsLast s (.reject k)) : s'.Inv := by
  simp only [Cluster.step, Option.ite_none_right_eq_some] at h
  obtain ⟨-, ⟨⟩⟩ := h
  exact inv.settle nofun fun _ => guard

theorem Inv.batchResolves (inv : s.Inv) (h : s.step (.batchResolves c) = some s') : s'.Inv := by
  simp only [Cluster.step] at h
  split at h
  · next session joining =>
    simp only [Option.ite_none_right_eq_some] at h
    obtain ⟨resolved, ⟨⟩⟩ := h
    refine inv.move ?_ ?_ ?_ ?_ fun _ _ _ => rfl
    · exact fun σ h => inv.owns c σ (by rw [joining]; exact h)
    · exact fun σ h => inv.holds c σ (by rw [joining]; exact h)
    · intro p hp owner running
      rw [resolved p hp owner] at running
      cases running
    · intro p hp owner rejected
      rw [resolved p hp owner] at rejected
      cases rejected
  · cases h

theorem Inv.batchRejects (inv : s.Inv) (h : s.step (.batchRejects c) = some s') : s'.Inv := by
  simp only [Cluster.step] at h
  split at h
  · next session joining =>
    simp only [Option.ite_none_right_eq_some] at h
    obtain ⟨⟨p, hp, owner, rejected⟩, ⟨⟩⟩ := h
    refine inv.move ?_ ?_ ?_ (fun _ _ _ _ => nofun) fun _ _ _ => rfl
    · exact fun σ h => inv.owns c σ (by rw [joining]; exact h)
    · exact fun σ h => inv.holds c σ (by rw [joining]; exact h)
    · intro q hq owner' running
      exact absurd running (inv.last p hp rejected q hq (owner'.trans owner.symm))
  · cases h

theorem Inv.endSweep (inv : s.Inv) (h : s.step (.endSweep c) = some s') : s'.Inv := by
  simp only [Cluster.step] at h
  split at h
  · next session working =>
    cases h
    refine inv.moveOn (by simp [working]) nofun (fun _ => rfl) ?_ ?_
    · exact fun σ h => inv.owns c σ (by rw [working]; exact h)
    · exact fun σ h => inv.holds c σ (by rw [working]; exact h)
  · cases h

/-- A call that is about to release the lock is the only one that holds it. -/
theorem Inv.giveBack (inv : s.Inv) (unlocking : s.phase c = .unlocking σ)
    (lock : Option (ℕ × ℕ)) : ((s.move c (.releasing σ)).setLock lock).Inv := by
  have moved : (s.move c (.releasing σ)).Inv := by
    refine inv.moveOn (by simp [unlocking]) nofun (fun _ => rfl) ?_ nofun
    exact fun τ h => inv.owns c τ (by rw [unlocking]; exact h)
  apply moved.setLock
  intro c' τ guarded
  rw [move_phase] at guarded
  split at guarded
  · cases guarded
  · next other => exact absurd (inv.exclusive (by rw [unlocking]; rfl) guarded) other

theorem Inv.unlock (inv : s.Inv) (h : s.step (.unlock c) = some s') : s'.Inv := by
  simp only [Cluster.step] at h
  split at h
  · next session unlocking =>
    cases h
    exact inv.giveBack unlocking _
  · cases h

theorem Inv.unlockFails (inv : s.Inv) (h : s.step (.unlockFails c alive) = some s') : s'.Inv := by
  simp only [Cluster.step] at h
  split at h
  · next session unlocking =>
    cases h
    exact inv.giveBack unlocking _
  · cases h

theorem Inv.release (inv : s.Inv) (h : s.step (.release c) = some s') : s'.Inv := by
  simp only [Cluster.step] at h
  split at h
  · next session releasing =>
    cases h
    have moved : (s.move c .leaving).Inv :=
      inv.moveOn (by simp [releasing]) nofun (fun _ => rfl) nofun nofun
    apply moved.setUser
    intro c' σ held
    have user := moved.owns c' σ held
    rwa [Function.update_of_ne]
    rintro rfl
    have mine := inv.owns c σ (by rw [releasing]; rfl)
    cases mine.symm.trans user
    rw [move_phase_self] at held
    cases held
  · cases h

theorem Inv.leave (inv : s.Inv) (h : s.step (.leave c) = some s') : s'.Inv := by
  simp only [Cluster.step, Option.ite_none_right_eq_some] at h
  obtain ⟨leaving, ⟨⟩⟩ := h
  have moved : (s.move c .returned).Inv :=
    inv.moveOn (by simp [leaving]) nofun (fun _ => rfl) nofun nofun
  exact ⟨moved.owns, moved.holds, moved.joined, moved.last, moved.ended, moved.known⟩

theorem Inv.endSession (inv : s.Inv) (h : s.step (.endSession σ) = some s') : s'.Inv := by
  simp only [Cluster.step, Option.ite_none_right_eq_some] at h
  obtain ⟨free, ⟨⟩⟩ := h
  apply inv.setLock
  intro c τ guarded
  obtain ⟨depth, lock⟩ := inv.holds c τ guarded
  have user := inv.owns c τ (session_of_guarded guarded)
  refine ⟨depth, ?_⟩
  rw [lock, Option.filter_some, if_pos]
  apply decide_eq_true
  rintro rfl
  rw [free] at user
  cases user

theorem Inv.step (inv : s.Inv) (h : s.step a = some s') (guard : RejectsLast s a) : s'.Inv := by
  cases a with
  | invoke => exact inv.invoke h
  | connect => exact inv.connect h
  | connectFails => exact inv.connectFails h
  | tryLock => exact inv.tryLock h
  | tryLockFails => exact inv.tryLockFails h
  | startBatch => exact inv.startBatch h
  | resolve => exact inv.resolve h
  | reject => exact inv.reject h guard
  | batchResolves => exact inv.batchResolves h
  | batchRejects => exact inv.batchRejects h
  | endSweep => exact inv.endSweep h
  | unlock => exact inv.unlock h
  | unlockFails => exact inv.unlockFails h
  | release => exact inv.release h
  | leave => exact inv.leave h
  | endSession => exact inv.endSession h

theorem Inv.initial : ({} : Cluster).Inv :=
  ⟨nofun, nofun, nofun, nofun, nofun, nofun⟩

end Cluster

/-! ## Runs -/

/-- In a run in which polls reject last, sweeps poll alone and release what they hold only after
their polls have settled. -/
theorem sweeps_exclude (run : Run (Guarded (Enabled Cluster.step) RejectsLast) {} tr s)
    (next : s.step a = some s') : StartsAlone s a ∧ ReleasesSettled s a := by
  have inv : s.Inv := run.invariant (P := Cluster.Inv) .initial
    fun inv step => inv.step step.1 step.2
  cases a with
  | startBatch c ids =>
    refine ⟨fun p hp running => ?_, trivial⟩
    simp only [Cluster.step] at next
    split at next
    · next session working =>
      obtain ⟨σ, joining⟩ := inv.joined p hp running
      exact inv.exclusive (by rw [working]; rfl) (by rw [joining]; rfl)
    · cases next
  | unlock c =>
    refine ⟨trivial, inv.not_running fun σ joining => ?_⟩
    simp [Cluster.step, joining] at next
  | unlockFails c alive =>
    refine ⟨trivial, inv.not_running fun σ joining => ?_⟩
    simp [Cluster.step, joining] at next
  | leave c =>
    refine ⟨trivial, inv.not_running fun σ joining => ?_⟩
    simp [Cluster.step, joining] at next
  | _ => exact ⟨trivial, trivial⟩

/-- A sweep on one instance ends with a rejection of its last running poll; another follows. -/
theorem sweeps_exclude_inTurn :
    ∃ s, (s.step (.startBatch 1 [3])).isSome ∧ (∃ p ∈ s.polls, p.status = .rejected) ∧
      StartsAlone s (.startBatch 1 [3]) ∧ ReleasesSettled s (.startBatch 1 [3]) := by
  let swept : List ClusterAction :=
    [.invoke 0 0, .connect 0 7, .tryLock 0, .startBatch 0 [1, 2], .resolve 2, .reject 1,
      .batchRejects 0, .unlock 0, .release 0, .leave 0, .invoke 1 1, .connect 1 8, .tryLock 1]
  have ends : (exec (guardStep Cluster.step RejectsLast) {} swept).any fun s =>
      (s.step (.startBatch 1 [3])).isSome && decide (∃ p ∈ s.polls, p.status = .rejected) := by
    decide
  obtain ⟨s, run, found⟩ := exec_guarded_any ends
  obtain ⟨enabled, rejected⟩ := Bool.and_eq_true_iff.mp found
  obtain ⟨s', next⟩ := Option.isSome_iff_exists.mp enabled
  exact ⟨s, enabled, of_decide_eq_true rejected, sweeps_exclude run next⟩

/-- The condition is needed: after a poll that rejects while another poll of its sweep runs, the
sweep can go on to release the lock with that poll still running. -/
theorem not_releasesSettled_of_early
    (run : Run (Guarded (Enabled Cluster.step) RejectsLast) {} tr s)
    (next : s.step (.reject k) = some s') (early : ¬ RejectsLast s (.reject k)) :
    ∃ c t, s'.step (.batchRejects c) = some t ∧ (t.step (.unlock c)).isSome ∧
      ¬ ReleasesSettled t (.unlock c) := by
  have inv : s.Inv := run.invariant (P := Cluster.Inv) .initial
    fun inv step => inv.step step.1 step.2
  simp only [RejectsLast, not_forall, not_not] at early
  obtain ⟨p, hp, id, running, q, hq, owner, other, still⟩ := early
  obtain ⟨σ, joining⟩ := inv.joined p hp running
  simp only [Cluster.step, Option.ite_none_right_eq_some] at next
  obtain ⟨-, ⟨⟩⟩ := next
  have rejected : ∃ p' ∈ (s.settle k .rejected).polls,
      p'.owner = p.owner ∧ p'.status = .rejected :=
    ⟨{ p with status := .rejected }, Cluster.mem_settle.mpr (.inr ⟨p, hp, id, running, rfl⟩), rfl,
      rfl⟩
  have phase : (s.settle k .rejected).phase p.owner = .joining σ := joining
  refine ⟨p.owner, (s.settle k .rejected).move p.owner (.unlocking σ), ?_, ?_, ?_⟩
  · simp only [Cluster.step, phase]
    exact if_pos rejected
  · simp only [Cluster.step, Cluster.move_phase_self, Option.isSome_some]
  · intro settled
    have kept : q ∈ (s.settle k .rejected).polls :=
      Cluster.mem_settle.mpr (.inl ⟨hq, fun same => other same.1⟩)
    exact settled q kept owner still

/-- One instance, one batch of two polls, in which the first rejects while the second runs; then a
second sweep of the same instance. -/
def overlappingSweeps : List ClusterAction :=
  [.invoke 0 0, .connect 0 7, .tryLock 0, .startBatch 0 [1, 2], .reject 1, .batchRejects 0,
    .unlock 0, .release 0, .leave 0, .invoke 1 0, .connect 1 7, .tryLock 1]

/-- The lock is released, and another sweep starts to poll, while a poll is running. -/
theorem sweeps_overlap :
    (¬ ∀ tr s a s', Run (Enabled Cluster.step) {} tr s → s.step a = some s' → StartsAlone s a) ∧
    ¬ ∀ tr s a s', Run (Enabled Cluster.step) {} tr s → s.step a = some s' →
      ReleasesSettled s a := by
  constructor
  · intro alone
    obtain ⟨s, run, found⟩ := exec_any (P := fun s => (s.step (.startBatch 1 [3])).isSome &&
      s.polls.any fun p => p.status = .running && p.owner ≠ 1)
      (by decide : (exec Cluster.step {} overlappingSweeps).any _)
    obtain ⟨enabled, p, hp, poll⟩ := by simpa using found
    obtain ⟨s', next⟩ := Option.isSome_iff_exists.mp enabled
    exact poll.2 (alone _ _ _ _ run next p hp poll.1)
  · intro settled
    obtain ⟨s, run, found⟩ := exec_any (P := fun s => (s.step (.unlock 0)).isSome &&
      s.polls.any fun p => p.status = .running && p.owner = 0)
      (by decide : (exec Cluster.step {} (overlappingSweeps.take 6)).any _)
    obtain ⟨enabled, p, hp, poll⟩ := by simpa using found
    obtain ⟨s', next⟩ := Option.isSome_iff_exists.mp enabled
    exact settled _ _ _ _ run next p hp poll.2 poll.1

end ElectroSync
