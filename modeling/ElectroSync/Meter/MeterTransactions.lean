import ElectroSync.Library.Interleaving
import ElectroSync.Meter.PrimaryMeter

/-!
# Concurrent meter calls

The transactions of the calls, statement by statement, under `READ COMMITTED`. A statement sees what
is committed when it starts and the writes of its own transaction. A row that a transaction has
written is locked until the transaction ends: a statement that is to write it waits, and then looks
at the row again. The `UPDATE` that demotes looks for its rows before it locks the first of them.
-/

namespace ElectroSync.MeterService
open Rows Transition Interleaving

/-- The next statement of a transaction. -/
inductive MeterPhase
  /-- the query of `add` for any meter of the user -/
  | lookingForAny
  /-- the `INSERT` -/
  | inserting (isPrimary : Bool)
  /-- the query of `update` for the meter -/
  | lookingForOwned
  /-- the demoting `UPDATE`, which looks for its rows -/
  | lookingForIncumbents
  /-- the demoting `UPDATE`, with the rows that it has found and not yet locked -/
  | demoting (found : List String)
  /-- the `UPDATE` of the meter -/
  | setting
  /-- the `DELETE` -/
  | deleting
  /-- the query of `remove` for the oldest meter -/
  | lookingForOldest
  /-- the `UPDATE` of that meter -/
  | promoting (next : String)
  /-- the commit -/
  | committing (columns : Option MeterColumns)
  | returned (answer : Except HttpException (Option MeterColumns))
  deriving DecidableEq

/-- An uncommitted write. -/
inductive MeterWrite
  | insert (row : MeterRow)
  | demote (id : String) (now : ℤ)
  | set (id : String) (dto : UpdateMeterDto) (now : ℤ)
  | delete (userId id : String)
  | promote (id : String) (now : ℤ)
  deriving DecidableEq

namespace MeterWrite

def apply (rows : List MeterRow) : MeterWrite → List MeterRow
  | insert row => rows ++ [row]
  | demote id now => updateWhere (·.id = id) (MeterService.demote now) rows
  | set id dto now => updateWhere (·.id = id) (setMeter dto now) rows
  | delete userId id => survivors rows userId id
  | promote id now => updateWhere (·.id = id) (MeterService.promote now) rows

/-- Whether the write locks the row. -/
def locks (id : String) : MeterWrite → Bool
  | insert _ => false
  | demote written _ | set written _ _ | delete _ written | promote written _ => written = id

end MeterWrite

/-- What a transaction sees of the table. -/
def view (rows : List MeterRow) (writes : List MeterWrite) : List MeterRow :=
  writes.foldl MeterWrite.apply rows

structure MeterTransaction where
  call : MeterCall
  chance : MeterChance
  phase : MeterPhase
  writes : List MeterWrite := []
  deriving DecidableEq

/-- The committed table, and the calls that have committed, oldest first. -/
structure MeterState where
  rows : List MeterRow
  committed : List (MeterCall × MeterChance) := []

/-- The first statement of a call. -/
def MeterCall.start : MeterCall → MeterPhase
  | add _ _ => .lookingForAny
  | update _ _ dto =>
    if dto.isPrimary = .value false then .returned (.error cannotUnset) else .lookingForOwned
  | remove _ _ => .deleting

/-! The next statement of a transaction after each of its statements, and its writes. -/

section Statements
variable (rows : List MeterRow) (userId id : String) (chance : MeterChance)
  (writes : List MeterWrite)

def addNext (dto : AddMeterDto) : MeterPhase → Option (MeterPhase × List MeterWrite)
  | .lookingForAny => some (.inserting (!(view rows writes).any (isOf userId)), writes)
  | .inserting isPrimary =>
    let row := newMeter userId dto isPrimary chance
    if (view rows writes).any (duplicates row) then some (.returned (.error alreadyAdded), [])
    else some (.committing (some row.columns), writes ++ [.insert row])
  | _ => none

def updateNext (dto : UpdateMeterDto) : MeterPhase → Option (MeterPhase × List MeterWrite)
  | .lookingForOwned =>
    if !(view rows writes).any (isOwned userId id) then
      some (.returned (.error noSuchMeter), [])
    else if dto.isPrimary = .value true then some (.lookingForIncumbents, writes)
    else some (.setting, writes)
  | .lookingForIncumbents =>
    some (.demoting (((view rows writes).filter (isIncumbent userId id)).map (·.id)), writes)
  | .demoting [] => some (.setting, writes)
  | .demoting (incumbent :: found) =>
    -- the predicate is checked again on the locked row
    if (view rows writes).any fun row => row.id = incumbent && isIncumbent userId id row then
      some (.demoting found, writes ++ [.demote incumbent chance.demotedAt])
    else some (.demoting found, writes)
  | .setting =>
    match (view rows writes).find? (·.id = id) with
    | none => some (.committing none, writes)
    | some row =>
      -- the column is `NOT NULL`
      if dto.isPrimary = .null then some (.returned (.error internalError), [])
      else
        some (.committing (some (setMeter dto chance.updatedAt row).columns),
          writes ++ [.set id dto chance.updatedAt])
  | _ => none

def removeNext : MeterPhase → Option (MeterPhase × List MeterWrite)
  | .deleting =>
    match (view rows writes).find? (isOwned userId id) with
    | none => some (.returned (.error noSuchMeter), [])
    | some removed =>
      some (if removed.isPrimary then .lookingForOldest else .committing none,
        writes ++ [.delete userId id])
  | .lookingForOldest =>
    match oldestMeter (view rows writes) userId chance.tie with
    | none => some (.committing none, writes)
    | some next => some (.promoting next.id, writes)
  | .promoting next =>
    if (view rows writes).any (·.id = next) then
      some (.committing none, writes ++ [.promote next chance.updatedAt])
    else some (.committing none, writes)
  | _ => none

end Statements

def statementNext (rows : List MeterRow) (t : MeterTransaction) :
    Option (MeterPhase × List MeterWrite) :=
  match t.call with
  | .add userId dto => addNext rows userId t.chance t.writes dto t.phase
  | .update userId id dto => updateNext rows userId id t.chance t.writes dto t.phase
  | .remove userId id => removeNext rows userId id t.chance t.writes t.phase

/-- `fails`: the database fails the statement, and the transaction rolls back. -/
def meterNext (s : MeterState) (t : MeterTransaction) (fails : Bool) :
    Option (MeterState × MeterTransaction) :=
  match t.phase with
  | .returned _ => none
  | phase =>
    if fails then some (s, { t with phase := .returned (.error internalError), writes := [] })
    else
      match phase with
      | .committing columns =>
        some (⟨view s.rows t.writes, s.committed ++ [(t.call, t.chance)]⟩,
          { t with phase := .returned (.ok columns), writes := [] })
      | _ => (statementNext s.rows t).map fun after =>
        (s, { t with phase := after.1, writes := after.2 })

def meterServer : Program MeterState (MeterCall × MeterChance) MeterTransaction Bool where
  init input := { call := input.1, chance := input.2, phase := input.1.start }
  next := meterNext

abbrev MeterSystem := System MeterState MeterTransaction

abbrev MeterMove := Move (MeterCall × MeterChance) Bool

/-- Whether the next statement of a transaction has to wait for a write of another one. An `INSERT`
waits for what may be a duplicate, and for what may no longer be one. -/
def waitsFor (rows : List MeterRow) (t : MeterTransaction) (write : MeterWrite) : Bool :=
  match t.call, t.phase, write with
  | .add userId dto, .inserting isPrimary, .insert row =>
    duplicates (newMeter userId dto isPrimary t.chance) row
  | .add userId dto, .inserting isPrimary, .delete owner id =>
    rows.any fun row => isOwned owner id row &&
      duplicates (newMeter userId dto isPrimary t.chance) row
  | .update _ _ _, .demoting (incumbent :: _), write => write.locks incumbent
  | .update _ id _, .setting, write => write.locks id
  | .remove _ id, .deleting, write => write.locks id
  | .remove _ _, .promoting next, write => write.locks next
  | _, _, _ => false

/-- A statement waits for the other transactions, unless the database fails it. -/
def Unblocked (s : MeterSystem) : MeterMove → Prop
  | .advance i false => ∀ t ∈ s.procs[i]?, ∀ j : Fin s.procs.length, j.val ≠ i →
      ∀ write ∈ s.procs[j].writes, waitsFor s.shared.rows t write = false
  | _ => True

instance (s : MeterSystem) (move : MeterMove) : Decidable (Unblocked s move) := by
  unfold Unblocked
  split <;> infer_instance

def meterStep : MeterSystem → MeterMove → Option MeterSystem :=
  guardStep (step meterServer) Unblocked

/-! ## What a transaction sees -/

variable {rows : List MeterRow} {row : MeterRow} {userId id : String}

theorem view_append (rows : List MeterRow) (writes writes' : List MeterWrite) :
    view rows (writes ++ writes') = view (view rows writes) writes' := List.foldl_append

/-- The demotions of a transaction, as one. -/
theorem view_demotes (rows : List MeterRow) (found : List String) (now : ℤ) :
    view rows (found.map (.demote · now)) =
      updateWhere (fun row => found.contains row.id) (demote now) rows := by
  induction found generalizing rows with
  | nil => exact (updateWhere_of_none fun _ _ => rfl).symm
  | cons incumbent found ih =>
    rw [List.map_cons, view, List.foldl_cons, ← view, ih]
    simp only [MeterWrite.apply, updateWhere, List.map_map]
    apply List.map_congr_left
    intro row _
    by_cases here : row.id = incumbent
    · subst here
      by_cases again : row.id ∈ found <;> simp [again, demote]
    · simp [here]

theorem mem_view_demotes {found : List String} {now : ℤ}
    (mem : row ∈ view rows (found.map (.demote · now))) :
    ∃ old ∈ rows, row.id = old.id ∧ row.userId = old.userId ∧
      (row.isPrimary = true → old.isPrimary = true) := by
  rw [view_demotes, mem_updateWhere] at mem
  obtain ⟨old, mem, rfl⟩ := mem
  refine ⟨old, mem, ?_⟩
  split
  · exact ⟨rfl, rfl, nofun⟩
  · exact ⟨rfl, rfl, id⟩

/-- The rows are incumbents of a promotion of `id`. -/
def Incumbents (rows : List MeterRow) (userId id : String) (found : List String) : Prop :=
  ∀ incumbent ∈ found, ∃ row ∈ rows, row.id = incumbent ∧ isIncumbent userId id row

theorem Incumbents.nil : Incumbents rows userId id [] := nofun

/-- The rows that a promotion demotes are the ones that it would find at its commit. -/
theorem view_incumbents {found : List String} (keyed : Keyed rows)
    (incumbents : Incumbents rows userId id found)
    (all : ∀ row ∈ rows, isIncumbent userId id row → row.id ∈ found) (now : ℤ) :
    view rows (found.map (.demote · now)) =
      updateWhere (isIncumbent userId id) (demote now) rows := by
  rw [view_demotes]
  apply updateWhere_congr
  intro row mem
  rw [Bool.eq_iff_iff, List.contains_iff_mem]
  constructor
  · intro there
    obtain ⟨other, mem', same, still⟩ := incumbents row.id there
    rwa [← keyed.eq mem' mem same]
  · exact all row mem

/-! ## A call alone -/

section Alone
variable {s s' : MeterState} {t t' : MeterTransaction} {dto : UpdateMeterDto} {chance : MeterChance}

/-- The transaction runs from `t` to `t'` when no other runs and the database fails no statement. -/
def RunsTo (s : MeterState) (t : MeterTransaction) (s' : MeterState) (t' : MeterTransaction) :
    Prop :=
  ∃ n, solo meterServer s t (List.replicate n false) = some (s', t')

theorem RunsTo.refl : RunsTo s t s t := ⟨0, rfl⟩

theorem RunsTo.head (next : meterNext s t false = some (s₁, t₁)) (rest : RunsTo s₁ t₁ s' t') :
    RunsTo s t s' t' := by
  obtain ⟨n, alone⟩ := rest
  refine ⟨n + 1, ?_⟩
  rw [List.replicate_succ]
  exact (solo_cons next).trans alone

theorem RunsTo.statement (next : statementNext s.rows t = some (phase, writes))
    (rest : RunsTo s { t with phase := phase, writes := writes } s' t') : RunsTo s t s' t' := by
  refine .head ?_ rest
  obtain ⟨call, chance, before, writes⟩ := t
  cases before with
  | returned => cases call <;> cases next
  | committing => cases call <;> cases next
  | _ =>
    simp only [meterNext, next]
    rfl

theorem RunsTo.commit (s : MeterState) (call : MeterCall) (chance : MeterChance)
    (columns : Option MeterColumns) (writes : List MeterWrite) :
    RunsTo s ⟨call, chance, .committing columns, writes⟩
      ⟨view s.rows writes, s.committed ++ [(call, chance)]⟩
      ⟨call, chance, .returned (.ok columns), []⟩ :=
  .head rfl .refl

/-- Where the call ends when it runs alone, and what it does. -/
def ServedAlone (s : MeterState) (call : MeterCall) (chance : MeterChance) : Prop :=
  ∃ committed, RunsTo s (meterServer.init (call, chance))
    ⟨(serve s.rows call chance).2, committed⟩
    ⟨call, chance, .returned (serve s.rows call chance).1, []⟩

theorem add_alone (s : MeterState) (userId : String) (dto : AddMeterDto)
    (succeeds : chance.fails = false) : ServedAlone s (.add userId dto) chance := by
  let row := newMeter userId dto (!s.rows.any (isOf userId)) chance
  by_cases duplicate : s.rows.any (duplicates row) = true
  · have served : serve s.rows (.add userId dto) chance = (.error alreadyAdded, s.rows) := by
      simp only [serve, add, succeeds, Bool.false_eq_true, if_false]
      rw [if_pos duplicate]
      rfl
    have inserting : statementNext s.rows ⟨.add userId dto, chance,
        .inserting (!s.rows.any (isOf userId)), []⟩ = some (.returned (.error alreadyAdded), []) :=
      if_pos duplicate
    refine ⟨s.committed, ?_⟩
    rw [served]
    exact .statement rfl (.statement inserting .refl)
  · have served : serve s.rows (.add userId dto) chance =
        (.ok (some row.columns), s.rows ++ [row]) := by
      simp only [serve, add, succeeds, Bool.false_eq_true, if_false]
      rw [if_neg duplicate]
      rfl
    have inserting : statementNext s.rows ⟨.add userId dto, chance,
        .inserting (!s.rows.any (isOf userId)), []⟩ =
          some (.committing (some row.columns), [.insert row]) := if_neg duplicate
    refine ⟨s.committed ++ [(.add userId dto, chance)], ?_⟩
    rw [served]
    exact .statement rfl (.statement inserting (.commit ..))

theorem remove_alone (s : MeterState) (userId id : String) (succeeds : chance.fails = false) :
    ServedAlone s (.remove userId id) chance := by
  cases found : s.rows.find? (isOwned userId id) with
  | none =>
    have served : serve s.rows (.remove userId id) chance = (.error noSuchMeter, s.rows) := by
      simp only [serve, remove, succeeds, found, Bool.false_eq_true, if_false]
      rfl
    have deleting : statementNext s.rows ⟨.remove userId id, chance, .deleting, []⟩ =
        some (.returned (.error noSuchMeter), []) := by
      simp only [statementNext, removeNext, view, List.foldl_nil, found]
    refine ⟨s.committed, ?_⟩
    rw [served]
    exact .statement deleting .refl
  | some removed =>
    have deleting : statementNext s.rows ⟨.remove userId id, chance, .deleting, []⟩ =
        some (if removed.isPrimary then .lookingForOldest else .committing none,
          [.delete userId id]) := by
      simp only [statementNext, removeNext, view, List.foldl_nil, found, List.nil_append]
    refine ⟨s.committed ++ [(.remove userId id, chance)], ?_⟩
    cases isPrimary : removed.isPrimary with
    | false =>
      have served : serve s.rows (.remove userId id) chance =
          (.ok none, survivors s.rows userId id) := by
        simp only [serve, remove, succeeds, found, isPrimary, Bool.false_eq_true, if_false]
        rfl
      rw [isPrimary] at deleting
      rw [served]
      exact .statement deleting (.commit ..)
    | true =>
      rw [isPrimary] at deleting
      cases oldest : oldestMeter (survivors s.rows userId id) userId chance.tie with
      | none =>
        have served : serve s.rows (.remove userId id) chance =
            (.ok none, survivors s.rows userId id) := by
          simp only [serve, remove, succeeds, found, isPrimary, oldest, Bool.false_eq_true,
            if_false]
          rfl
        have looking : statementNext s.rows
            ⟨.remove userId id, chance, .lookingForOldest, [.delete userId id]⟩ =
              some (.committing none, [.delete userId id]) := by
          simp only [statementNext, removeNext, view, List.foldl_cons, List.foldl_nil,
            MeterWrite.apply, oldest]
        rw [served]
        exact .statement deleting (.statement looking (.commit ..))
      | some next =>
        have served : serve s.rows (.remove userId id) chance =
            (.ok none, updateWhere (·.id = next.id) (promote chance.updatedAt)
              (survivors s.rows userId id)) := by
          simp only [serve, remove, succeeds, found, isPrimary, oldest, Bool.false_eq_true,
            if_false]
          rfl
        have looking : statementNext s.rows
            ⟨.remove userId id, chance, .lookingForOldest, [.delete userId id]⟩ =
              some (.promoting next.id, [.delete userId id]) := by
          simp only [statementNext, removeNext, view, List.foldl_cons, List.foldl_nil,
            MeterWrite.apply, oldest]
        have there : (survivors s.rows userId id).any (·.id = next.id) = true :=
          List.any_eq_true.mpr ⟨next, (oldestMeter_spec oldest).1, decide_eq_true rfl⟩
        have promoting : statementNext s.rows
            ⟨.remove userId id, chance, .promoting next.id, [.delete userId id]⟩ =
              some (.committing none,
                [.delete userId id, .promote next.id chance.updatedAt]) := if_pos there
        rw [served]
        exact .statement deleting (.statement looking (.statement promoting (.commit ..)))

/-- The demoting `UPDATE`, row by row. -/
theorem demoting_alone (keyed : Keyed s.rows) {found rest : List String}
    (incumbents : found ++ rest = (s.rows.filter (isIncumbent userId id)).map (·.id)) :
    RunsTo s ⟨.update userId id dto, chance, .setting,
        (found ++ rest).map (.demote · chance.demotedAt)⟩ s' t' →
      RunsTo s ⟨.update userId id dto, chance, .demoting rest,
        found.map (.demote · chance.demotedAt)⟩ s' t' := by
  intro setting
  induction rest generalizing found with
  | nil =>
    rw [List.append_nil] at setting
    exact .statement rfl setting
  | cons incumbent rest ih =>
    have joined : (found ++ [incumbent]) ++ rest = found ++ incumbent :: rest := by simp
    have nodup : (found ++ incumbent :: rest).Nodup := by
      rw [incumbents]
      exact keyed.ids.sublist (List.filter_sublist.map _)
    have there : incumbent ∈ (s.rows.filter (isIncumbent userId id)).map (·.id) := by
      rw [← incumbents]
      exact List.mem_append_right _ List.mem_cons_self
    obtain ⟨row, mem, rfl⟩ := List.mem_map.mp there
    obtain ⟨mem, still⟩ := List.mem_filter.mp mem
    -- the row has not been demoted yet
    have notYet : row.id ∉ found := fun earlier =>
      (List.nodup_append.mp nodup).2.2 _ earlier _ List.mem_cons_self rfl
    have seen : row ∈ view s.rows (found.map (.demote · chance.demotedAt)) := by
      rw [view_demotes]
      exact mem_updateWhere.mpr ⟨row, mem, by simp [notYet]⟩
    have demoting : statementNext s.rows ⟨.update userId id dto, chance,
        .demoting (row.id :: rest), found.map (.demote · chance.demotedAt)⟩ =
          some (.demoting rest, (found ++ [row.id]).map (.demote · chance.demotedAt)) := by
      rw [List.map_append]
      exact if_pos (List.any_eq_true.mpr ⟨row, seen, by simpa using still⟩)
    refine .statement demoting (ih ?_ ?_)
    · rw [joined, incumbents]
    · rwa [joined]

theorem find?_edited (rows : List MeterRow) (id : String) (dto : UpdateMeterDto) (now : ℤ) :
    (updateWhere (·.id = id) (setMeter dto now) rows).find? (·.id = id) =
      (rows.find? (·.id = id)).map (setMeter dto now) := by
  have same : (fun row : MeterRow => decide (row.id = id)) ∘
      (fun row => if decide (row.id = id) then setMeter dto now row else row) =
        fun row => decide (row.id = id) := by
    funext row
    simp only [Function.comp_apply]
    split <;> rfl
  rw [updateWhere, List.find?_map, same]
  cases found : rows.find? (·.id = id) with
  | none => rfl
  | some row => exact congrArg some (if_pos (List.find?_some found))

theorem find?_demoted (found : List String) (now : ℤ)
    (owned : rows.any (isOwned userId id) = true) :
    ∃ row, (view rows (found.map (.demote · now))).find? (·.id = id) = some row := by
  obtain ⟨row, mem, owned⟩ := List.any_eq_true.mp owned
  rw [← Option.isSome_iff_exists, List.find?_isSome, view_demotes]
  refine ⟨_, mem_updateWhere.mpr ⟨row, mem, rfl⟩, decide_eq_true ?_⟩
  split <;> exact (isOwned_iff.mp owned).1

/-- An update alone, up to its last `UPDATE`. -/
theorem looking_alone (keyed : Keyed s.rows) (owned : s.rows.any (isOwned userId id) = true)
    (dto : UpdateMeterDto) (chance : MeterChance) :
    ∃ found : List String,
      view s.rows (found.map (.demote · chance.demotedAt)) =
        (if dto.isPrimary = .value true then
          updateWhere (isIncumbent userId id) (demote chance.demotedAt) s.rows
        else s.rows) ∧
      ∀ {s' t'}, RunsTo s ⟨.update userId id dto, chance, .setting,
          found.map (.demote · chance.demotedAt)⟩ s' t' →
        RunsTo s ⟨.update userId id dto, chance, .lookingForOwned, []⟩ s' t' := by
  have looking : statementNext s.rows ⟨.update userId id dto, chance, .lookingForOwned, []⟩ =
      some (if dto.isPrimary = .value true then .lookingForIncumbents else .setting, []) := by
    simp only [statementNext, updateNext, view, List.foldl_nil, owned, Bool.not_true,
      Bool.false_eq_true, if_false]
    split <;> rfl
  by_cases promotes : dto.isPrimary = .value true
  · rw [if_pos promotes] at looking
    refine ⟨(s.rows.filter (isIncumbent userId id)).map (·.id), ?_, fun setting => ?_⟩
    · rw [if_pos promotes]
      apply view_incumbents keyed
      · intro incumbent there
        obtain ⟨row, mem, rfl⟩ := List.mem_map.mp there
        obtain ⟨mem, still⟩ := List.mem_filter.mp mem
        exact ⟨row, mem, rfl, still⟩
      · exact fun row mem still => List.mem_map_of_mem (List.mem_filter.mpr ⟨mem, still⟩)
    · have all : [] ++ (s.rows.filter (isIncumbent userId id)).map (·.id) =
          (s.rows.filter (isIncumbent userId id)).map (·.id) := List.nil_append _
      exact .statement looking (.statement rfl (demoting_alone keyed all setting))
  · rw [if_neg promotes] at looking
    exact ⟨[], (if_neg promotes).symm, fun setting => .statement looking setting⟩

theorem update_alone (keyed : Keyed s.rows) (userId id : String) (dto : UpdateMeterDto)
    (succeeds : chance.fails = false) : ServedAlone s (.update userId id dto) chance := by
  by_cases unsets : dto.isPrimary = .value false
  · have served : serve s.rows (.update userId id dto) chance = (.error cannotUnset, s.rows) := by
      rw [serve, update, if_pos unsets]
    have start : meterServer.init (.update userId id dto, chance) =
        ⟨.update userId id dto, chance, .returned (.error cannotUnset), []⟩ := by
      simp only [meterServer, MeterCall.start, if_pos unsets]
    refine ⟨s.committed, ?_⟩
    rw [served, start]
    exact .refl
  have start : meterServer.init (.update userId id dto, chance) =
      ⟨.update userId id dto, chance, .lookingForOwned, []⟩ := by
    simp only [meterServer, MeterCall.start, if_neg unsets]
  cases owned : s.rows.any (isOwned userId id) with
  | false =>
    have served : serve s.rows (.update userId id dto) chance = (.error noSuchMeter, s.rows) := by
      simp only [serve, update, if_neg unsets, succeeds, owned, Bool.false_eq_true, if_false,
        Bool.not_false, if_true]
    have looking : statementNext s.rows ⟨.update userId id dto, chance, .lookingForOwned, []⟩ =
        some (.returned (.error noSuchMeter), []) := by
      simp only [statementNext, updateNext, view, List.foldl_nil, owned, Bool.not_false, if_true]
    refine ⟨s.committed, ?_⟩
    rw [served, start]
    exact .statement looking .refl
  | true =>
    obtain ⟨found, viewed, toSetting⟩ := looking_alone keyed owned dto chance
    obtain ⟨row, there⟩ := find?_demoted found chance.demotedAt owned
    by_cases null : dto.isPrimary = .null
    · have served : serve s.rows (.update userId id dto) chance =
          (.error internalError, s.rows) := by
        simp only [serve, update, if_neg unsets, succeeds, owned, Bool.false_eq_true, if_false,
          Bool.not_true, if_pos null]
      have setting : statementNext s.rows ⟨.update userId id dto, chance, .setting,
          found.map (.demote · chance.demotedAt)⟩ =
            some (.returned (.error internalError), []) := by
        simp only [statementNext, updateNext, there, if_pos null]
      refine ⟨s.committed, ?_⟩
      rw [served, start]
      exact toSetting (.statement setting .refl)
    · have served : serve s.rows (.update userId id dto) chance =
          (.ok (some (setMeter dto chance.updatedAt row).columns),
            updateWhere (·.id = id) (setMeter dto chance.updatedAt)
              (view s.rows (found.map (.demote · chance.demotedAt)))) := by
        simp only [serve, update, if_neg unsets, succeeds, owned, Bool.false_eq_true, if_false,
          Bool.not_true, if_neg null, ← viewed, find?_edited, there, Option.map_some]
      have setting : statementNext s.rows ⟨.update userId id dto, chance, .setting,
          found.map (.demote · chance.demotedAt)⟩ =
            some (.committing (some (setMeter dto chance.updatedAt row).columns),
              found.map (.demote · chance.demotedAt) ++ [.set id dto chance.updatedAt]) := by
        simp only [statementNext, updateNext, there, if_neg null]
      refine ⟨s.committed ++ [(.update userId id dto, chance)], ?_⟩
      rw [served, start]
      have commit := RunsTo.commit s (.update userId id dto) chance
        (some (setMeter dto chance.updatedAt row).columns)
        (found.map (.demote · chance.demotedAt) ++ [.set id dto chance.updatedAt])
      rw [view_append] at commit
      exact toSetting (.statement setting commit)

/-- A call during which no other runs does what `serve` does. -/
theorem serve_alone (keyed : Keyed s.rows) (call : MeterCall) (succeeds : chance.fails = false) :
    ServedAlone s call chance := by
  cases call with
  | add userId dto => exact add_alone s userId dto succeeds
  | update userId id dto => exact update_alone keyed userId id dto succeeds
  | remove userId id => exact remove_alone s userId id succeeds

end Alone

end ElectroSync.MeterService
