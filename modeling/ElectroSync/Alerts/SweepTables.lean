import ElectroSync.Alerts.MeterPoll
import ElectroSync.Analytics.Conservation
import ElectroSync.Library.Rows

/-!
# The tables of the sweep (`alerts/balance-sweep.service.ts`)

The rows of all users and meters, the query `monitoredMeters`, and the statements of a poll as they
run against the shared tables. `SweepTables.part` is what the tables hold of one meter; the
statements of a poll are those of its `MeterStore` on this part, and leave the other parts alone.
-/

namespace ElectroSync
open Rows

/-- A row of `user`, as far as the sweep reads it. -/
structure SweptUser where
  id : String
  settings : Option UserSettings
  deriving DecidableEq

/-- A row of `meter`, as far as the sweep reads it. -/
structure SweptMeter extends Meter where
  provider : MeterProvider
  deriving DecidableEq

structure AlertStateRow where
  meterId : String
  state : MeterAlertState
  deriving DecidableEq

structure SampleRow where
  meterId : String
  sample : UsageSample
  deriving DecidableEq

/-! ## Statements -/

def AlertStateRow.set (change : MeterAlertState → MeterAlertState) (row : AlertStateRow) :
    AlertStateRow :=
  { row with state := change row.state }

theorem AlertStateRow.set_meterId (change : MeterAlertState → MeterAlertState)
    (row : AlertStateRow) : (row.set change).meterId = row.meterId := rfl

/-- `INSERT … ON CONFLICT (meter_id) DO UPDATE` of `meter_alert_state`. -/
def upsertState (rows : List AlertStateRow) (meterId : String) (inserted : MeterAlertState)
    (set : MeterAlertState → MeterAlertState) : List AlertStateRow :=
  if rows.any fun row => row.meterId = meterId then
    updateWhere (fun row => row.meterId = meterId) (·.set set) rows
  else rows ++ [⟨meterId, inserted⟩]

/-- `INSERT … ON CONFLICT DO NOTHING` on the key `(meter_id, window_start)`. -/
def insertSampleRow (rows : List SampleRow) (meterId : String) (sample : UsageSample) :
    List SampleRow :=
  if rows.any fun row => row.meterId = meterId ∧ row.sample.windowStart = sample.windowStart then
    rows
  else rows ++ [⟨meterId, sample⟩]

def insertBuiltRow (rows : List SampleRow) (meterId : String) : Option UsageSample → List SampleRow
  | none => rows
  | some sample => insertSampleRow rows meterId sample

/-- The columns that `recordSuccess` sets. -/
def readState (reading : CommittedReading) (now : ℤ) (state : MeterAlertState) :
    MeterAlertState :=
  { state with
    severity := reading.severity
    lastRechargeToken := reading.lastRechargeToken
    lastBalance := some reading.balance
    lastBalanceAt := some reading.readingAt
    lastCheckedAt := some now
    lastFailureReason := none
    consecutiveFailures := 0 }

/-- The samples of a meter, in the order of their rows. -/
def samplesOf (rows : List SampleRow) (meterId : String) : List UsageSample :=
  (rows.filter fun row => row.meterId = meterId).map (·.sample)

def SampleRow.key (row : SampleRow) : String × ℤ := (row.meterId, row.sample.windowStart)

theorem upsertState_nodup {rows : List AlertStateRow} (keys : (rows.map (·.meterId)).Nodup)
    (meterId : String) (inserted : MeterAlertState) (set : MeterAlertState → MeterAlertState) :
    ((upsertState rows meterId inserted set).map (·.meterId)).Nodup := by
  rw [upsertState]
  split
  · rwa [map_key_updateWhere (AlertStateRow.set_meterId _)]
  · next fresh => exact nodup_map_snoc keys (by simpa using fresh)

theorem insertBuiltRow_nodup {rows : List SampleRow} (keys : (rows.map (·.key)).Nodup)
    (meterId : String) (sample : Option UsageSample) :
    ((insertBuiltRow rows meterId sample).map (·.key)).Nodup := by
  cases sample with
  | none => exact keys
  | some sample =>
    rw [insertBuiltRow, insertSampleRow]
    split
    · exact keys
    · next fresh => exact nodup_map_snoc keys (by simpa [SampleRow.key] using fresh)

theorem noSamples_nodup : (([] : List SampleRow).map (·.key)).Nodup := List.nodup_nil

theorem noMeters_named : ∀ m ∈ ([] : List SweptMeter), m.id ≠ "" := List.forall_mem_nil _

/-- The tables, with their primary keys. Ids are generated and never the empty text. -/
structure SweepTables where
  user : List SweptUser := []
  meter : List SweptMeter := []
  meterAlertState : List AlertStateRow := []
  meterUsageSample : List SampleRow := []
  user_pk : (user.map (·.id)).Nodup := by exact List.nodup_nil
  meter_pk : (meter.map (·.id)).Nodup := by exact List.nodup_nil
  meterAlertState_pk : (meterAlertState.map (·.meterId)).Nodup := by exact List.nodup_nil
  meterUsageSample_pk : (meterUsageSample.map (·.key)).Nodup := by exact noSamples_nodup
  id_ne : ∀ m ∈ meter, m.id ≠ "" := by exact noMeters_named

namespace SweepTables

/-- The transaction of `recordSuccess`. -/
def recordSuccess (t : SweepTables) (meterId : String) (reading : CommittedReading) (now : ℤ) :
    SweepTables :=
  { t with
    meterUsageSample := insertBuiltRow t.meterUsageSample meterId reading.sample
    meterUsageSample_pk := insertBuiltRow_nodup t.meterUsageSample_pk _ _
    meterAlertState := upsertState t.meterAlertState meterId (readState reading now {})
      (readState reading now)
    meterAlertState_pk := upsertState_nodup t.meterAlertState_pk _ _ _ }

def recordFailure (t : SweepTables) (meterId : String) (now : ℤ) (reason : String) : SweepTables :=
  { t with
    meterAlertState := upsertState t.meterAlertState meterId
      { lastCheckedAt := some now, lastFailureReason := some reason, consecutiveFailures := 1 }
      fun state => { state with
        lastCheckedAt := some now
        lastFailureReason := some reason
        consecutiveFailures := state.consecutiveFailures + 1 }
    meterAlertState_pk := upsertState_nodup t.meterAlertState_pk _ _ _ }

/-- The update of `checkUsageAnomaly`. -/
def markAnomaly (t : SweepTables) (meterId : String) (day : ℤ) : SweepTables :=
  { t with
    meterAlertState := updateWhere (fun row => row.meterId = meterId)
      (·.set fun state => { state with lastAnomalyOn := some day })
      t.meterAlertState
    meterAlertState_pk := by
      rw [map_key_updateWhere (AlertStateRow.set_meterId _)]
      exact t.meterAlertState_pk }

/-- The two tables that the analytics read. -/
def usageTables (t : SweepTables) : UsageTables where
  meter := t.meter.map fun m => ⟨m.id, m.userId⟩
  meterUsageSample := t.meterUsageSample.map fun row => {
    meterId := row.meterId
    windowStart := row.sample.windowStart * 1000
    windowEnd := row.sample.windowEnd * 1000
    consumedCost := row.sample.consumedCost
    rechargePaid := row.sample.rechargePaid
    advances := by have := row.sample.advances; omega }
  meter_pk := by rw [List.map_map]; exact t.meter_pk

/-- The alert state that the left join finds. -/
def stateOf (t : SweepTables) (meterId : String) : Option MeterAlertState :=
  (t.meterAlertState.find? fun row => row.meterId = meterId).map (·.state)

/-- `innerJoin(user, eq(user.id, meter.userId))`: the users of a meter. -/
def usersOf (t : SweepTables) (m : SweptMeter) : List SweptUser :=
  t.user.filter fun u => u.id = m.userId

/-- A row of `monitoredMeters`. -/
def monitoredRow (t : SweepTables) (m : SweptMeter) (u : SweptUser) : MonitoredMeter where
  meterId := m.id
  userId := m.userId
  customerNo := m.customerNo
  label := m.label
  settings := u.settings
  severity := (t.stateOf m.id).map (·.severity)
  lastRechargeToken := (t.stateOf m.id).bind (·.lastRechargeToken)
  lastBalance := (t.stateOf m.id).bind (·.lastBalance)
  lastBalanceAt := (t.stateOf m.id).bind (·.lastBalanceAt)
  lastAnomalyOn := (t.stateOf m.id).bind (·.lastAnomalyOn)

/-- NESCO is the only provider with a portal client. -/
def monitoredMeters (t : SweepTables) : List MonitoredMeter :=
  (t.meter.filter fun m => m.provider = .nesco).flatMap fun m =>
    (t.usersOf m).map (t.monitoredRow m)

/-! ## One meter's part -/

/-- What the tables hold of one meter. -/
structure MeterPart where
  meter : List SweptMeter
  store : MeterStore
  deriving DecidableEq

def part (t : SweepTables) (meterId : String) : MeterPart where
  meter := t.meter.filter fun m => m.id = meterId
  store := {
    alertState := t.stateOf meterId
    samples := samplesOf t.meterUsageSample meterId }

end SweepTables

section
variable {rows : List AlertStateRow} {samples : List SampleRow} {k k' : String}
  {inserted : MeterAlertState} {set : MeterAlertState → MeterAlertState}

theorem find?_upsertState_self (rows : List AlertStateRow) (k : String)
    (inserted : MeterAlertState) (set : MeterAlertState → MeterAlertState) :
    ((upsertState rows k inserted set).find? fun row => row.meterId = k).map (·.state) =
      match (rows.find? fun row => row.meterId = k).map (·.state) with
      | none => some inserted
      | some state => some (set state) := by
  rw [upsertState]
  split
  · next taken =>
    rw [find?_updateWhere_self (AlertStateRow.set_meterId _)]
    cases found : rows.find? fun row => row.meterId = k with
    | none =>
      simp only [List.find?_eq_none, decide_eq_true_eq] at found
      simp only [List.any_eq_true, decide_eq_true_eq] at taken
      obtain ⟨row, member, here⟩ := taken
      exact absurd here (found row member)
    | some row => rfl
  · next fresh =>
    have none_ : (rows.find? fun row => row.meterId = k) = none := by
      simpa [List.find?_eq_none] using fresh
    rw [List.find?_append, none_]
    simp

theorem find?_upsertState_other (other : k' ≠ k) (rows : List AlertStateRow)
    (inserted : MeterAlertState) (set : MeterAlertState → MeterAlertState) :
    (upsertState rows k inserted set).find? (fun row => row.meterId = k') =
      rows.find? fun row => row.meterId = k' := by
  rw [upsertState]
  split
  · exact find?_updateWhere_other (AlertStateRow.set_meterId _) other rows
  · rw [List.find?_append]
    simp [other.symm]

theorem samplesOf_insertBuiltRow_self (rows : List SampleRow) (k : String)
    (sample : Option UsageSample) :
    samplesOf (insertBuiltRow rows k sample) k = insertBuilt (samplesOf rows k) sample := by
  cases sample with
  | none => rfl
  | some sample =>
    have same :
        (rows.any fun row => row.meterId = k ∧ row.sample.windowStart = sample.windowStart) =
          (samplesOf rows k).any fun s => s.windowStart = sample.windowStart := by
      simp [samplesOf, List.any_map, List.any_filter, Function.comp_def]
    rw [insertBuiltRow, insertSampleRow, insertBuilt, insertSample, ← same]
    split
    · rfl
    · simp [samplesOf]

theorem samplesOf_insertBuiltRow_other (other : k' ≠ k) (rows : List SampleRow)
    (sample : Option UsageSample) :
    samplesOf (insertBuiltRow rows k sample) k' = samplesOf rows k' := by
  cases sample with
  | none => rfl
  | some sample =>
    rw [insertBuiltRow, insertSampleRow]
    split
    · rfl
    · simp [samplesOf, other.symm]

end

namespace SweepTables
variable {t : SweepTables} {k k' : String} {reading : CommittedReading} {now day : ℤ}
  {reason : String}

/-- The statements of a poll, on the part of its meter. -/
theorem part_recordSuccess_self (t : SweepTables) (k : String) (reading : CommittedReading)
    (now : ℤ) : (t.recordSuccess k reading now).part k =
      { t.part k with store := (t.part k).store.recordSuccess reading now } := by
  have state : (t.recordSuccess k reading now).stateOf k =
      some (readState reading now ((t.stateOf k).getD {})) := by
    rw [stateOf, recordSuccess, find?_upsertState_self]
    cases h : t.stateOf k <;> rw [stateOf] at h <;> rw [h] <;> rfl
  simp only [part, state, MeterStore.recordSuccess, readState]
  congr 2
  exact samplesOf_insertBuiltRow_self _ _ _

theorem part_recordFailure_self (t : SweepTables) (k : String) (now : ℤ) (reason : String) :
    (t.recordFailure k now reason).part k =
      { t.part k with store := (t.part k).store.recordFailure now reason } := by
  cases found : t.meterAlertState.find? fun row => row.meterId = k <;>
    simp [part, stateOf, recordFailure, find?_upsertState_self, MeterStore.recordFailure, found]

theorem part_markAnomaly_self (t : SweepTables) (k : String) (day : ℤ) :
    (t.markAnomaly k day).part k =
      { t.part k with store := (t.part k).store.markAnomaly day } := by
  simp only [part, stateOf, markAnomaly, find?_updateWhere_self (AlertStateRow.set_meterId _),
    MeterStore.markAnomaly, Option.map_map]
  rfl

/-- … and on the part of any other. -/
theorem part_recordSuccess_other (other : k' ≠ k) :
    (t.recordSuccess k reading now).part k' = t.part k' := by
  simp only [part, stateOf, recordSuccess, find?_upsertState_other other,
    samplesOf_insertBuiltRow_other other]

theorem part_recordFailure_other (other : k' ≠ k) :
    (t.recordFailure k now reason).part k' = t.part k' := by
  simp only [part, stateOf, recordFailure, find?_upsertState_other other]

theorem part_markAnomaly_other (other : k' ≠ k) : (t.markAnomaly k day).part k' = t.part k' := by
  simp only [part, stateOf, markAnomaly,
    find?_updateWhere_other (AlertStateRow.set_meterId _) other]

/-! ## The analytics of one meter -/

/-- The meter of a row is there, once, and belongs to the user of the row. -/
structure MeterPart.Holds (part : MeterPart) (row : MonitoredMeter) : Prop where
  meter : ∃ m, part.meter = [m] ∧ m.userId = row.userId
  id_ne : row.meterId ≠ ""

variable {row : MonitoredMeter} {m : SweptMeter}

section
variable (holds : (t.part row.meterId).Holds row)
include holds

theorem owns_usageTables : t.usageTables.owns row.userId row.meterId := by
  obtain ⟨m, only, user⟩ := holds.meter
  have member : m ∈ t.meter.filter fun m => m.id = row.meterId := by
    rw [show t.meter.filter (fun m => m.id = row.meterId) = [m] from only]
    exact List.mem_singleton_self m
  obtain ⟨member, here⟩ := List.mem_filter.mp member
  exact ⟨⟨m.id, m.userId⟩, List.mem_map.mpr ⟨m, member, rfl⟩, of_decide_eq_true here, user⟩

/-- A count over all meters sees one meter, the one that the query names. -/
theorem countMeters_part :
    countMeters t.usageTables row.userId (some row.meterId) =
      countMeters ((t.part row.meterId).store.tables row) row.userId (some row.meterId) := by
  obtain ⟨m, only, user⟩ := holds.meter
  have scope (id : String) : meterFilter (some row.meterId) id = (id = row.meterId : Bool) := by
    simp [meterFilter, holds.id_ne, eq_comm]
  have only : t.meter.filter (fun m => m.id = row.meterId) = [m] := only
  simp only [countMeters, scope, usageTables, MeterStore.tables, List.filter_map, List.length_map,
    Function.comp_def, ← List.filter_filter, only]
  simp [user]

/-- The samples in the scope of a query about one meter. -/
theorem inScope_part :
    t.usageTables.inScope row.userId (some row.meterId) =
      ((t.part row.meterId).store.tables row).inScope row.userId (some row.meterId) := by
  have scope (id : String) : meterFilter (some row.meterId) id = (id = row.meterId : Bool) := by
    simp [meterFilter, holds.id_ne, eq_comm]
  have owned := owns_usageTables holds
  have owned' : ((t.part row.meterId).store.tables row).owns row.userId row.meterId :=
    ⟨_, List.mem_singleton_self _, rfl, rfl⟩
  have keep (tables : UsageTables) (owns : tables.owns row.userId row.meterId) :
      tables.inScope row.userId (some row.meterId) =
        tables.meterUsageSample.filter fun s => s.meterId = row.meterId := by
    apply List.filter_congr
    intro s _
    rw [scope, decide_eq_decide, decide_eq_true_eq]
    constructor
    · exact And.right
    · rintro here
      exact ⟨here ▸ owns, here⟩
  rw [keep _ owned, keep _ owned']
  simp only [usageTables, MeterStore.tables, part, samplesOf, List.filter_map, List.map_map,
    Function.comp_def]
  simp only [decide_true, List.filter_true]
  apply List.map_congr_left
  intro s member
  have here : s.meterId = row.meterId := of_decide_eq_true (List.mem_filter.mp member).2
  simp only [here]

theorem fetchBuckets_part (yesterday : ℤ) (range : ResolvedRange) :
    fetchBuckets t.usageTables row.userId (anomalyQuery row yesterday) range =
      fetchBuckets ((t.part row.meterId).store.tables row) row.userId (anomalyQuery row yesterday)
        range := by
  simp only [fetchBuckets, spreadOf, boundsOf_eq, anomalyQuery, inScope_part holds]

end

/-! ## The query -/

theorem usersOf_length (t : SweepTables) (m : SweptMeter) : (t.usersOf m).length ≤ 1 := by
  by_cases found : ∃ u ∈ t.user, u.id = m.userId
  · obtain ⟨u, member, here⟩ := found
    rw [usersOf, filter_eq_singleton t.user_pk member (by simpa using here)]
    · rfl
    intro other member' here'
    exact List.inj_on_of_nodup_map t.user_pk member' member
      ((of_decide_eq_true here').trans here.symm)
  · rw [usersOf, List.filter_eq_nil_iff.mpr]
    · exact Nat.zero_le _
    intro u member here
    exact found ⟨u, member, of_decide_eq_true here⟩

/-- The join lists a meter at most once. -/
theorem monitoredMeters_nodup (t : SweepTables) :
    (t.monitoredMeters.map (·.meterId)).Nodup := by
  have sublist (meters : List SweptMeter) :
      List.Sublist (((meters.filter fun m => m.provider = .nesco).flatMap fun m =>
        (t.usersOf m).map (t.monitoredRow m)).map (·.meterId)) (meters.map (·.id)) := by
    induction meters with
    | nil => exact .slnil
    | cons m meters ih =>
      rw [List.filter_cons]
      split
      · rw [List.flatMap_cons, List.map_append, List.map_cons]
        have few := t.usersOf_length m
        rcases users : t.usersOf m with _ | ⟨u, _ | ⟨_, _⟩⟩
        · exact ih.cons _
        · exact ih.cons_cons _
        · rw [users] at few
          simp at few
      · exact ih.cons _
  exact t.meter_pk.sublist (sublist t.meter)

theorem mem_monitoredMeters : row ∈ t.monitoredMeters ↔
    ∃ m ∈ t.meter, m.provider = .nesco ∧ ∃ u ∈ t.user, u.id = m.userId ∧
      row = t.monitoredRow m u := by
  simp only [monitoredMeters, usersOf, List.mem_flatMap, List.mem_filter, List.mem_map,
    decide_eq_true_eq]
  constructor
  · rintro ⟨m, ⟨member, nesco⟩, u, ⟨member', here⟩, rfl⟩
    exact ⟨m, member, nesco, u, member', here, rfl⟩
  · rintro ⟨m, member, nesco, u, member', here, rfl⟩
    exact ⟨m, ⟨member, nesco⟩, u, ⟨member', here⟩, rfl⟩

theorem part_meter (member : m ∈ t.meter) : (t.part m.id).meter = [m] := by
  refine filter_eq_singleton t.meter_pk member (decide_eq_true rfl) ?_
  intro other member' here
  exact List.inj_on_of_nodup_map t.meter_pk member' member (of_decide_eq_true here)

theorem holds_of_monitored (monitored : row ∈ t.monitoredMeters) :
    (t.part row.meterId).Holds row := by
  obtain ⟨m, member, -, u, -, -, rfl⟩ := mem_monitoredMeters.mp monitored
  exact ⟨⟨m, part_meter member, rfl⟩, t.id_ne m member⟩

end SweepTables

end ElectroSync
