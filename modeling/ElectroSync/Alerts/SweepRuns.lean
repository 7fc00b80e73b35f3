import ElectroSync.Alerts.ConcurrentSweep

/-!
# Runs of the server, one sweep after the other

Sweeps poll every meter over and over, the polls of a sweep at the same time, and each sweep is over
before the next one starts. Between them users and meters come and go and settings change. What the
tables hold of a meter is then always what a run of polls of this meter alone leaves: every fact
about runs of `PollStep` is a fact about such a server.
-/

namespace ElectroSync
open Throwing Interleaving Transition Batches Rows

namespace SweepTables

def addUser (t : SweepTables) (u : SweptUser) (fresh : u.id ∉ t.user.map (·.id)) : SweepTables :=
  { t with
    user := t.user ++ [u]
    user_pk := nodup_map_snoc t.user_pk fun old member same =>
      fresh (List.mem_map.mpr ⟨old, member, same⟩) }

/-- `updateSettings` of the user service, as far as the sweep sees it. -/
def setSettings (t : SweepTables) (userId : String) (settings : Option UserSettings) :
    SweepTables :=
  { t with
    user := updateWhere (fun u => u.id = userId) (fun u => { u with settings }) t.user
    user_pk := by
      rw [map_key_updateWhere fun u => (rfl : SweptUser.id { u with settings } = u.id)]
      exact t.user_pk }

def addMeter (t : SweepTables) (m : SweptMeter) (fresh : m.id ∉ t.meter.map (·.id))
    (id_ne : m.id ≠ "") : SweepTables :=
  { t with
    meter := t.meter ++ [m]
    meter_pk := nodup_map_snoc t.meter_pk fun old member same =>
      fresh (List.mem_map.mpr ⟨old, member, same⟩)
    id_ne := by
      intro other member
      rcases List.mem_append.mp member with member | member
      · exact t.id_ne other member
      · rwa [List.mem_singleton.mp member] }

/-- A deleted meter takes its rows along. -/
def removeMeter (t : SweepTables) (meterId : String) : SweepTables where
  user := t.user
  meter := t.meter.filter fun m => m.id ≠ meterId
  meterAlertState := t.meterAlertState.filter fun row => row.meterId ≠ meterId
  meterUsageSample := t.meterUsageSample.filter fun row => row.meterId ≠ meterId
  user_pk := t.user_pk
  meter_pk := t.meter_pk.sublist (List.filter_sublist.map _)
  meterAlertState_pk := t.meterAlertState_pk.sublist (List.filter_sublist.map _)
  meterUsageSample_pk := t.meterUsageSample_pk.sublist (List.filter_sublist.map _)
  id_ne := fun m member => t.id_ne m (List.mem_filter.mp member).1

variable {t : SweepTables} {k meterId : String} {m : SweptMeter}

theorem part_addMeter (fresh : m.id ∉ t.meter.map (·.id)) (id_ne : m.id ≠ "") (k : String) :
    (t.addMeter m fresh id_ne).part k = { t.part k with
      meter := (t.part k).meter ++ if m.id = k then [m] else [] } := by
  simp only [part, addMeter, stateOf, List.filter_append, List.filter_singleton]
  by_cases here : m.id = k <;> simp [here]

theorem part_removeMeter_self (t : SweepTables) (k : String) :
    (t.removeMeter k).part k = ⟨[], {}⟩ := by
  simp [part, removeMeter, stateOf, samplesOf, List.filter_filter, List.find?_filter]

theorem part_removeMeter_other (other : k ≠ meterId) :
    (t.removeMeter meterId).part k = t.part k := by
  have same (id : String) : (decide (id = k) && decide (id ≠ meterId)) = decide (id = k) := by
    by_cases here : id = k
    · simp [here, other]
    · simp [here]
  have same' (id : String) : decide (decide (id ≠ meterId) = true ∧ decide (id = k) = true) =
      decide (id = k) := by
    rw [Bool.decide_and, Bool.decide_eq_true, Bool.decide_eq_true, Bool.and_comm, same]
  simp only [part, removeMeter, stateOf, samplesOf, List.filter_filter, List.find?_filter, same,
    same']

theorem part_meter_eq_nil : (t.part k).meter = [] ↔ ∀ m ∈ t.meter, m.id ≠ k := by
  simp [part]

end SweepTables

/-! ## The server -/

inductive ServerEvent
  | addUser (u : SweptUser)
  | setSettings (userId : String) (settings : Option UserSettings)
  | addMeter (m : SweptMeter)
  | removeMeter (meterId : String)
  /-- a whole sweep, with the answers its polls get and the order of their steps -/
  | sweep (concurrency : ℕ) (inputs : MonitoredMeter → PollInput) (moves : List SweepMove)

inductive ServerStep (limits : UsageSamplingLimits) (t : SweepTables) :
    ServerEvent → SweepTables → Prop
  | addUser (u : SweptUser) (fresh : u.id ∉ t.user.map (·.id)) :
    ServerStep limits t (.addUser u) (t.addUser u fresh)
  | setSettings (userId : String) (settings : Option UserSettings) :
    ServerStep limits t (.setSettings userId settings) (t.setSettings userId settings)
  | addMeter (m : SweptMeter) (fresh : m.id ∉ t.meter.map (·.id)) (id_ne : m.id ≠ "") :
    ServerStep limits t (.addMeter m) (t.addMeter m fresh id_ne)
  | removeMeter (meterId : String) :
    ServerStep limits t (.removeMeter meterId) (t.removeMeter meterId)
  | sweep (positive : 0 < concurrency)
    (run : exec (ConcurrentSweep.step limits inputs) (ConcurrentSweep.start inputs t
      (batches concurrency t.monitoredMeters)) moves = some s)
    (finished : s.Over) : ServerStep limits t (.sweep concurrency inputs moves) s.system.shared

section
variable {limits : UsageSamplingLimits} {t t' : SweepTables} {e : ServerEvent}
  {inputs : MonitoredMeter → PollInput} {s : ConcurrentSweep} {moves : List SweepMove}
  {concurrency : ℕ} {k : String}

/-- A poll reads the settings from its row. -/
theorem pollMeter_settings (limits : UsageSamplingLimits) (row : MonitoredMeter) (i : PollInput)
    (settings : Option UserSettings) :
    pollMeter limits row { i with settings } = pollMeter limits row i := rfl

theorem pollStep_of_eval {m : Meter} {i : PollInput} {store : MeterStore} {settled : Settled}
    {after : Polling}
    (alone : (pollMeter limits (store.monitored m i.settings) i).eval { store } =
      (settled, after)) :
    PollStep limits m store ⟨i, after.committed, after.attempted, settled⟩ after.store := by
  simp only [PollStep, poll, alone]

/-- A sweep polls a meter once, or leaves its part alone. -/
theorem sweep_pollStep (positive : 0 < concurrency)
    (run : exec (ConcurrentSweep.step limits inputs) (ConcurrentSweep.start inputs t
      (batches concurrency t.monitoredMeters)) moves = some s) (finished : s.Over) (k : String) :
    s.system.shared.part k = t.part k ∨ ∃ m ∈ t.meter, m.id = k ∧
      ∃ e, PollStep limits m.toMeter (t.part k).store e (s.system.shared.part k).store := by
  have cover := flatten_batches positive t.monitoredMeters
  have progress := ConcurrentSweep.Progress.run
    (by rw [cover]; exact t.monitoredMeters_nodup)
    (by rw [cover]; exact fun row => SweepTables.holds_of_monitored) run
  obtain ⟨pre, batch, rest, plan, follows⟩ := progress.follows
  by_cases owned : k ∈ owners (·.row.meterId) s.system
  · obtain ⟨p, polled, rfl⟩ := List.mem_map.mp owned
    obtain ⟨i, here⟩ := List.getElem?_of_mem polled
    obtain ⟨result, -, ended⟩ := follows.settled finished here
    have monitored : p.row ∈ t.monitoredMeters := by
      rw [← cover, plan, ← follows.rows_eq]
      exact List.mem_append_left _ (List.mem_map_of_mem polled)
    obtain ⟨m, member, -, u, -, -, row⟩ := SweepTables.mem_monitoredMeters.mp monitored
    rw [row] at ended ⊢
    refine .inr ⟨m, member, rfl, ?_⟩
    let i := { inputs (t.monitoredRow m u) with settings := u.settings }
    have alone : (pollMeter limits ((t.part m.id).store.monitored m.toMeter i.settings) i).eval
        { store := (t.part m.id).store } = (result, p.polling (s.system.shared.part m.id)) := by
      rw [pollMeter_settings]
      exact ended
    exact ⟨_, pollStep_of_eval alone⟩
  · exact .inl (follows.others k owned)

/-- What the tables hold of each meter is what polls of this meter alone have left, and of a meter
that does not exist they hold nothing. -/
structure Polled (limits : UsageSamplingLimits) (t : SweepTables) : Prop where
  runs : ∀ m ∈ t.meter, ∃ trace, Run (PollStep limits m.toMeter) {} trace (t.part m.id).store
  absent : ∀ k, (t.part k).meter = [] → (t.part k).store = {}

theorem Polled.step (h : Polled limits t) (step : ServerStep limits t e t') :
    Polled limits t' := by
  cases step with
  | addUser => exact ⟨h.runs, h.absent⟩
  | setSettings => exact ⟨h.runs, h.absent⟩
  | addMeter m fresh id_ne =>
    have store (k : String) : ((t.addMeter m fresh id_ne).part k).store = (t.part k).store := by
      rw [SweepTables.part_addMeter]
    refine ⟨?_, ?_⟩
    · intro other member
      rw [store]
      rcases List.mem_append.mp member with member | member
      · exact h.runs other member
      · cases List.mem_singleton.mp member
        have new : (t.part m.id).meter = [] := SweepTables.part_meter_eq_nil.mpr
          fun old member same => fresh (List.mem_map.mpr ⟨old, member, same⟩)
        rw [h.absent m.id new]
        exact ⟨[], .nil⟩
    · intro k none_
      rw [SweepTables.part_addMeter] at none_ ⊢
      exact h.absent k (List.append_eq_nil_iff.mp none_).1
  | removeMeter meterId =>
    refine ⟨?_, ?_⟩
    · intro m member
      obtain ⟨member, kept⟩ := List.mem_filter.mp member
      rw [SweepTables.part_removeMeter_other (by simpa using kept)]
      exact h.runs m member
    · intro k none_
      rcases eq_or_ne k meterId with rfl | other
      · rw [SweepTables.part_removeMeter_self]
      · rw [SweepTables.part_removeMeter_other other] at none_ ⊢
        exact h.absent k none_
  | sweep positive run finished =>
    have meters := (ConcurrentSweep.run_meter run).1
    refine ⟨?_, ?_⟩
    · intro m member
      rw [meters] at member
      obtain ⟨trace, polls⟩ := h.runs m member
      rcases sweep_pollStep positive run finished m.id with same | ⟨m', member', id, e, poll⟩
      · rw [same]
        exact ⟨trace, polls⟩
      · cases List.inj_on_of_nodup_map t.meter_pk member' member id
        exact ⟨trace ++ [e], polls.snoc poll⟩
    · intro k none_
      rw [SweepTables.part_meter_eq_nil, meters] at none_
      rcases sweep_pollStep positive run finished k with same | ⟨m, member, id, -⟩
      · rw [same]
        exact h.absent k (SweepTables.part_meter_eq_nil.mpr none_)
      · exact absurd id (none_ m member)

/-- In every run of sweeps that do not overlap, with the polls of each sweep in any order, the rows
of a meter are those that a run of polls of this meter alone leaves, one after the other, from the
day it was added. -/
theorem meter_rows_of_polls (run : Run (ServerStep limits) {} trace t) (member : m ∈ t.meter) :
    ∃ polls, Run (PollStep limits m.toMeter) {} polls (t.part m.id).store := by
  have polled : Polled limits t :=
    run.invariant ⟨nofun, fun _ _ => rfl⟩ fun h step => h.step step
  exact polled.runs m member

end

def addedMeter : SweptMeter :=
  { id := "m1", userId := "ayesha", customerNo := "77", label := none, provider := .nesco }

/-- One user, one meter. -/
def addedTables : SweepTables where
  user := [⟨"ayesha", none⟩]
  meter := [addedMeter]
  user_pk := by decide
  meter_pk := by decide
  id_ne := by decide

/-- A sweep of one meter, which pushes a low balance. -/
def oneSweep : List SweepMove := [.poll 0, .poll 0, .poll 0, .poll 0, .poll 0, .poll 0, .join]

theorem meter_rows_of_polls_oneSweep :
    ∃ t, Run (ServerStep ⟨500, 48⟩) {}
        [.addUser ⟨"ayesha", none⟩, .addMeter addedMeter, .sweep 3 sweptInputs oneSweep] t ∧
      (t.part "m1").store ≠ {} ∧
      ∃ polls, Run (PollStep ⟨500, 48⟩ addedMeter.toMeter) {} polls (t.part "m1").store := by
  have ends : (exec (ConcurrentSweep.step ⟨500, 48⟩ sweptInputs) (ConcurrentSweep.start sweptInputs
      addedTables (batches 3 addedTables.monitoredMeters)) oneSweep).any
      (fun s => decide (s.Over ∧ (s.system.shared.part "m1").store ≠ {})) := by
    decide +kernel
  obtain ⟨s, run, finished⟩ := (Option.any_eq_true _ _).mp ends
  obtain ⟨finished, wrote⟩ := of_decide_eq_true finished
  have server : Run (ServerStep ⟨500, 48⟩) {} _ s.system.shared :=
    ((Run.nil.snoc (.addUser ⟨"ayesha", none⟩ (by decide))).snoc
      (.addMeter addedMeter (by decide) (by decide))).snoc (.sweep (by decide) run finished)
  have member : addedMeter ∈ s.system.shared.meter := by
    rw [(ConcurrentSweep.run_meter run).1]
    exact List.mem_singleton_self _
  exact ⟨_, server, wrote, meter_rows_of_polls server member⟩

end ElectroSync
