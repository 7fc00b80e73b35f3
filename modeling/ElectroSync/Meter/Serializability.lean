import ElectroSync.Meter.MeterTransactions

/-!
# Serial orders of meter calls

A call decides what to write from what it has read, and nothing but a lock on the rows that it has
written keeps what it has read true. The calls are equivalent to the order of their commits in the
runs in which each commit finds what its call has read still true; without that, two calls leave a
user with two primary meters, or with none.
-/

namespace ElectroSync.MeterService
open Rows Transition Interleaving

/-- The calls that have committed, one after the other. Among meters of one age the database may
choose otherwise. -/
def Serial (rows : List MeterRow) (event : MeterCall × MeterChance) (rows' : List MeterRow) :
    Prop :=
  ∃ tie, serveStep rows (event.1, { event.2 with tie := tie, fails := false }) = some rows'

namespace MeterTransaction

def inserted (t : MeterTransaction) : List MeterRow :=
  t.writes.filterMap fun write => match write with | .insert row => some row | _ => none

def demoted (t : MeterTransaction) : List String :=
  t.writes.filterMap fun write => match write with | .demote id _ => some id | _ => none

def edited (t : MeterTransaction) : List String :=
  t.writes.filterMap fun write => match write with | .set id _ _ => some id | _ => none

def promoted (t : MeterTransaction) : List String :=
  t.writes.filterMap fun write => match write with | .promote id _ => some id | _ => none

def commits (t : MeterTransaction) : Bool := match t.phase with | .committing _ => true | _ => false

end MeterTransaction

/-- What a transaction has read is still true of the committed table: whether the user has a meter,
for an `add`; that the meter is there, and which other meters of the user are primary, for an
`update`; which meter that is left is the oldest, for the `remove` of a primary meter. -/
def ReadsStand (rows : List MeterRow) (t : MeterTransaction) : Prop :=
  match t.call with
  | .add userId _ => ∀ row ∈ t.inserted, row.isPrimary = !rows.any (isOf userId)
  | .update userId id dto =>
    if t.edited = [] then t.demoted = [] ∧ rows.any (isOwned userId id) = false
    else rows.any (isOwned userId id) = true ∧
      (dto.isPrimary = .value true → ∀ row ∈ rows, isIncumbent userId id row → row.id ∈ t.demoted)
  | .remove userId id => ∀ row ∈ rows, isOwned userId id row → row.isPrimary →
    if t.promoted = [] then ∀ other ∈ survivors rows userId id, other.userId ≠ userId
    else ∃ next ∈ survivors rows userId id, next.userId = userId ∧ next.id ∈ t.promoted ∧
      ∀ other ∈ survivors rows userId id, other.userId = userId → next.createdAt ≤ other.createdAt

instance (rows : List MeterRow) (t : MeterTransaction) : Decidable (ReadsStand rows t) := by
  unfold ReadsStand
  split <;> infer_instance

/-- A call commits only while what it has read stands. -/
def CommitsStand (s : MeterSystem) : MeterMove → Prop
  | .start _ => True
  | .advance i fails =>
    fails = false → ∀ t ∈ s.procs[i]?, t.commits → ReadsStand s.shared.rows t

instance (s : MeterSystem) (move : MeterMove) : Decidable (CommitsStand s move) := by
  unfold CommitsStand
  split <;> infer_instance

/-! ## What a transaction knows -/

/-- What holds of a transaction between its statements, by the locks that it has. -/
inductive Sound (rows : List MeterRow) : MeterTransaction → Prop
  | returned : Sound rows ⟨call, chance, .returned answer, []⟩
  | lookingForAny : Sound rows ⟨.add userId dto, chance, .lookingForAny, []⟩
  | inserting : Sound rows ⟨.add userId dto, chance, .inserting isPrimary, []⟩
  | inserted :
      (∀ other ∈ rows, duplicates (newMeter userId dto isPrimary chance) other = false) →
      Sound rows ⟨.add userId dto, chance, .committing columns,
        [.insert (newMeter userId dto isPrimary chance)]⟩
  | lookingForOwned {id : String} : dto.isPrimary ≠ .value false →
      Sound rows ⟨.update userId id dto, chance, .lookingForOwned, []⟩
  | lookingForIncumbents {id : String} : dto.isPrimary = .value true →
      Sound rows ⟨.update userId id dto, chance, .lookingForIncumbents, []⟩
  | demoting {id : String} (found rest : List String) (chance : MeterChance) :
      dto.isPrimary = .value true → Incumbents rows userId id found →
      Sound rows ⟨.update userId id dto, chance, .demoting rest,
        found.map (.demote · chance.demotedAt)⟩
  | setting {id : String} : dto.isPrimary ≠ .value false →
      (dto.isPrimary = .value true ∨ found = []) → Incumbents rows userId id found →
      Sound rows ⟨.update userId id dto, chance, .setting, found.map (.demote · chance.demotedAt)⟩
  | unset {id : String} : Incumbents rows userId id found →
      Sound rows ⟨.update userId id dto, chance, .committing none,
        found.map (.demote · chance.demotedAt)⟩
  | set {id : String} : dto.isPrimary ≠ .value false → dto.isPrimary ≠ .null →
      (dto.isPrimary = .value true ∨ found = []) → Incumbents rows userId id found →
      Sound rows ⟨.update userId id dto, chance, .committing columns,
        found.map (.demote · chance.demotedAt) ++ [.set id dto chance.updatedAt]⟩
  | deleting {id : String} : Sound rows ⟨.remove userId id, chance, .deleting, []⟩
  | lookingForOldest {id : String} : row ∈ rows → isOwned userId id row → row.isPrimary →
      Sound rows ⟨.remove userId id, chance, .lookingForOldest, [.delete userId id]⟩
  | promoting {id : String} : row ∈ rows → isOwned userId id row → row.isPrimary →
      Sound rows ⟨.remove userId id, chance, .promoting next, [.delete userId id]⟩
  | removed {id : String} : row ∈ rows → isOwned userId id row →
      Sound rows ⟨.remove userId id, chance, .committing none, [.delete userId id]⟩
  | replaced {id : String} : row ∈ rows → isOwned userId id row → row.isPrimary →
      Sound rows ⟨.remove userId id, chance, .committing none,
        [.delete userId id, .promote next chance.updatedAt]⟩

variable {rows : List MeterRow} {t u : MeterTransaction} {row : MeterRow} {userId id : String}

/-- A row that is still an incumbent after the demotions is one of the committed table. -/
theorem Incumbents.snoc {found : List String} {incumbent : String} {now : ℤ}
    (incumbents : Incumbents rows userId id found)
    (still : (view rows (found.map (.demote · now))).any
      (fun row => row.id = incumbent && isIncumbent userId id row) = true) :
    Incumbents rows userId id (found ++ [incumbent]) := by
  obtain ⟨row, mem, still⟩ := List.any_eq_true.mp still
  obtain ⟨same, still⟩ := Bool.and_eq_true_iff.mp still
  obtain ⟨own, other, isPrimary⟩ := isIncumbent_iff.mp still
  obtain ⟨old, mem, sameId, sameUser, before⟩ := mem_view_demotes mem
  intro demoted there
  obtain there | there := List.mem_append.mp there
  · exact incumbents demoted there
  · rw [List.mem_singleton.mp there]
    refine ⟨old, mem, sameId.symm.trans (of_decide_eq_true same), isIncumbent_iff.mpr ?_⟩
    exact ⟨sameUser.symm.trans own, sameId ▸ other, before isPrimary⟩

/-- A statement keeps what its transaction knows. -/
theorem Sound.statement (sound : Sound rows t)
    (next : statementNext rows t = some (phase, writes)) :
    Sound rows { t with phase := phase, writes := writes } := by
  cases sound with
  | returned =>
    simp only [statementNext] at next
    split at next <;> cases next
  | lookingForAny =>
    cases next
    exact .inserting
  | inserting =>
    simp only [statementNext, addNext] at next
    split at next
    · cases next
      exact .returned
    · next fresh =>
      cases next
      exact .inserted (by simpa [view] using fresh)
  | inserted => cases next
  | lookingForOwned notFalse =>
    simp only [statementNext, updateNext] at next
    split at next
    · cases next
      exact .returned
    split at next
    · next promotes =>
      cases next
      exact .lookingForIncumbents promotes
    · cases next
      exact .setting notFalse (.inr rfl) .nil
  | lookingForIncumbents promotes =>
    cases next
    exact .demoting [] _ _ promotes .nil
  | demoting found rest chance promotes incumbents =>
    cases rest with
    | nil =>
      cases next
      exact .setting (by simp [promotes]) (.inl promotes) incumbents
    | cons incumbent rest =>
      simp only [statementNext, updateNext] at next
      split at next
      · next still =>
        cases next
        have joined : found.map (MeterWrite.demote · chance.demotedAt) ++
            [.demote incumbent chance.demotedAt] =
              (found ++ [incumbent]).map (MeterWrite.demote · chance.demotedAt) := by simp
        rw [joined]
        exact .demoting _ _ _ promotes (incumbents.snoc still)
      · cases next
        exact .demoting _ _ _ promotes incumbents
  | setting notFalse promotes incumbents =>
    simp only [statementNext, updateNext] at next
    split at next
    · cases next
      exact .unset incumbents
    split at next
    · cases next
      exact .returned
    · next notNull =>
      cases next
      exact .set notFalse notNull promotes incumbents
  | unset => cases next
  | set => cases next
  | deleting =>
    simp only [statementNext, removeNext] at next
    split at next
    · cases next
      exact .returned
    · next removed found =>
      cases next
      have mem := List.mem_of_find?_eq_some found
      have owned := List.find?_some found
      split
      · next isPrimary => exact .lookingForOldest mem owned isPrimary
      · exact .removed mem owned
  | lookingForOldest mem owned isPrimary =>
    simp only [statementNext, removeNext] at next
    split at next
    · cases next
      exact .removed mem owned
    · cases next
      exact .promoting mem owned isPrimary
  | promoting mem owned isPrimary =>
    simp only [statementNext, removeNext] at next
    split at next
    · cases next
      exact .replaced mem owned isPrimary
    · cases next
      exact .removed mem owned
  | removed => cases next
  | replaced => cases next

/-! ## What the locks keep -/

namespace MeterWrite
variable {write other : MeterWrite}

/-- The two writes can both be uncommitted. -/
structure Clear (write other : MeterWrite) : Prop where
  locks : ∀ id, write.locks id = true → other.locks id = false
  inserts : ∀ row row', write = .insert row → other = .insert row' → duplicates row row' = false

theorem Clear.symm (clear : Clear write other) : Clear other write where
  locks := by
    intro id locked
    by_contra both
    rw [Bool.not_eq_false] at both
    rw [clear.locks id both] at locked
    cases locked
  inserts := by
    intro row row' here there
    have apart := clear.inserts row' row there here
    simp only [duplicates, Bool.or_eq_false_iff, Bool.and_eq_false_iff,
      decide_eq_false_iff_not] at apart ⊢
    tauto

/-- A row that a write does not lock stays as it is. -/
theorem mem_apply (mem : row ∈ rows) (free : write.locks row.id = false) :
    row ∈ write.apply rows := by
  have updated (f : MeterRow → MeterRow) (id : String) (other : row.id ≠ id) :
      row ∈ updateWhere (·.id = id) f rows := mem_updateWhere.mpr ⟨row, mem, by simp [other]⟩
  cases write with
  | insert => exact List.mem_append_left _ mem
  | demote id => exact updated _ _ (by simpa [locks, eq_comm] using free)
  | set id => exact updated _ _ (by simpa [locks, eq_comm] using free)
  | promote id => exact updated _ _ (by simpa [locks, eq_comm] using free)
  | delete userId id =>
    have other : row.id ≠ id := by simpa [locks, eq_comm] using free
    exact mem_survivors.mpr ⟨mem, fun _ => other⟩

/-- A write adds no row but the one that it inserts, as far as the keys go. -/
theorem apply_keys (mem : row ∈ write.apply rows) :
    (∃ old ∈ rows, row.id = old.id ∧ row.holding = old.holding) ∨ write = .insert row := by
  have updated (f : MeterRow → MeterRow) (id : String)
      (keeps : ∀ row, (f row).id = row.id ∧ (f row).holding = row.holding)
      (mem : row ∈ updateWhere (·.id = id) f rows) :
      ∃ old ∈ rows, row.id = old.id ∧ row.holding = old.holding := by
    obtain ⟨old, there, rfl⟩ := mem_updateWhere.mp mem
    refine ⟨old, there, ?_⟩
    split
    · exact keeps old
    · exact ⟨rfl, rfl⟩
  cases write with
  | insert new =>
    obtain mem | mem := List.mem_append.mp mem
    · exact .inl ⟨row, mem, rfl, rfl⟩
    · rw [List.mem_singleton.mp mem]
      exact .inr rfl
  | demote id now => exact .inl (updated (MeterService.demote now) id (fun _ => ⟨rfl, rfl⟩) mem)
  | set id dto now => exact .inl (updated (setMeter dto now) id (fun _ => ⟨rfl, rfl⟩) mem)
  | promote id now => exact .inl (updated (MeterService.promote now) id (fun _ => ⟨rfl, rfl⟩) mem)
  | delete userId id => exact .inl ⟨row, (mem_survivors.mp mem).1, rfl, rfl⟩

end MeterWrite

theorem duplicates_iff {row other : MeterRow} :
    duplicates row other = true ↔ row.id = other.id ∨ row.holding = other.holding := by
  simp [duplicates, MeterRow.holding, and_assoc]

theorem Incumbents.apply {write : MeterWrite} {found : List String}
    (incumbents : Incumbents rows userId id found)
    (free : ∀ incumbent ∈ found, write.locks incumbent = false) :
    Incumbents (write.apply rows) userId id found := by
  intro incumbent there
  obtain ⟨row, mem, rfl, still⟩ := incumbents incumbent there
  exact ⟨row, write.mem_apply mem (free row.id there), rfl, still⟩

/-- The commit of a write that is clear of the writes of a transaction. -/
theorem Sound.apply {write : MeterWrite} (sound : Sound rows u)
    (clear : ∀ own ∈ u.writes, write.Clear own) : Sound (write.apply rows) u := by
  have free (own : MeterWrite) (there : own ∈ u.writes) (id : String)
      (locked : own.locks id = true) : write.locks id = false :=
    (clear own there).symm.locks id locked
  cases sound with
  | returned => exact .returned
  | lookingForAny => exact .lookingForAny
  | inserting => exact .inserting
  | inserted fresh =>
    refine .inserted fun other mem => ?_
    obtain ⟨old, mem, sameId, sameHolding⟩ | rfl := write.apply_keys mem
    · have apart := fresh old mem
      rw [Bool.eq_false_iff, ne_eq, duplicates_iff] at apart ⊢
      rwa [sameId, sameHolding]
    · exact (clear _ (List.mem_singleton_self _)).symm.inserts _ _ rfl rfl
  | lookingForOwned notFalse => exact .lookingForOwned notFalse
  | lookingForIncumbents promotes => exact .lookingForIncumbents promotes
  | demoting _ _ _ promotes incumbents =>
    refine .demoting _ _ _ promotes (incumbents.apply fun incumbent there => ?_)
    exact free _ (List.mem_map_of_mem there) _ (decide_eq_true rfl)
  | setting notFalse promotes incumbents =>
    refine .setting notFalse promotes (incumbents.apply fun incumbent there => ?_)
    exact free _ (List.mem_map_of_mem there) _ (decide_eq_true rfl)
  | unset incumbents =>
    refine .unset (incumbents.apply fun incumbent there => ?_)
    exact free _ (List.mem_map_of_mem there) _ (decide_eq_true rfl)
  | set notFalse notNull promotes incumbents =>
    refine .set notFalse notNull promotes (incumbents.apply fun incumbent there => ?_)
    exact free _ (List.mem_append_left _ (List.mem_map_of_mem there)) _ (decide_eq_true rfl)
  | deleting => exact .deleting
  | lookingForOldest mem owned isPrimary =>
    have locked := decide_eq_true (isOwned_iff.mp owned).1.symm
    exact .lookingForOldest (write.mem_apply mem (free _ List.mem_cons_self _ locked)) owned
      isPrimary
  | promoting mem owned isPrimary =>
    have locked := decide_eq_true (isOwned_iff.mp owned).1.symm
    exact .promoting (write.mem_apply mem (free _ List.mem_cons_self _ locked)) owned isPrimary
  | removed mem owned =>
    have locked := decide_eq_true (isOwned_iff.mp owned).1.symm
    exact .removed (write.mem_apply mem (free _ List.mem_cons_self _ locked)) owned
  | replaced mem owned isPrimary =>
    have locked := decide_eq_true (isOwned_iff.mp owned).1.symm
    exact .replaced (write.mem_apply mem (free _ List.mem_cons_self _ locked)) owned isPrimary

/-- The commit of another transaction. -/
theorem Sound.afterCommit {writes : List MeterWrite} (sound : Sound rows u)
    (clear : ∀ write ∈ writes, ∀ own ∈ u.writes, write.Clear own) :
    Sound (view rows writes) u := by
  induction writes generalizing rows with
  | nil => exact sound
  | cons write writes ih =>
    apply ih (sound.apply (clear write List.mem_cons_self))
    intro write there
    exact clear write (List.mem_cons_of_mem _ there)

/-! ## Commits -/

section Commit
variable {dto : UpdateMeterDto} {chance : MeterChance}

theorem serial_of_serve (tie : ℕ)
    (same : (serve rows call { chance with tie := tie, fails := false }).2 = rows') :
    Serial rows (call, chance) rows' := ⟨tie, congrArg some same⟩

theorem serve_update_of_absent (missing : rows.any (isOwned userId id) = false)
    (chance : MeterChance) : (serve rows (.update userId id dto) chance).2 = rows := by
  simp only [serve, update, missing, Bool.not_false, if_true]
  split
  · rfl
  split <;> rfl

theorem serve_update_of_owned (owned : rows.any (isOwned userId id) = true)
    (notFalse : dto.isPrimary ≠ .value false) (notNull : dto.isPrimary ≠ .null)
    (succeeds : chance.fails = false) :
    (serve rows (.update userId id dto) chance).2 =
      updateWhere (·.id = id) (setMeter dto chance.updatedAt)
        (if dto.isPrimary = .value true then
          updateWhere (isIncumbent userId id) (demote chance.demotedAt) rows
        else rows) := by
  simp only [serve, update, if_neg notFalse, if_neg notNull, owned, succeeds, Bool.not_true,
    Bool.false_eq_true, if_false]

theorem serve_remove_of_owned (keyed : Keyed rows) (mem : row ∈ rows)
    (owned : isOwned userId id row) (succeeds : chance.fails = false) :
    (serve rows (.remove userId id) chance).2 =
      if row.isPrimary then
        match oldestMeter (survivors rows userId id) userId chance.tie with
        | none => survivors rows userId id
        | some next =>
          updateWhere (·.id = next.id) (promote chance.updatedAt) (survivors rows userId id)
      else survivors rows userId id := by
  have found : rows.find? (isOwned userId id) = some row := by
    obtain ⟨other, found⟩ := Option.isSome_iff_exists.mp
      (List.find?_isSome.mpr ⟨row, mem, owned⟩)
    have same := (isOwned_iff.mp (List.find?_some found)).1
    rw [found, keyed.eq (List.mem_of_find?_eq_some found) mem
      (same.trans (isOwned_iff.mp owned).1.symm)]
  simp only [serve, remove, succeeds, found, Bool.false_eq_true, if_false]
  cases row.isPrimary with
  | false => rfl
  | true =>
    simp only [Bool.not_true, Bool.false_eq_true, if_false, if_true]
    cases oldestMeter (survivors rows userId id) userId chance.tie <;> rfl

theorem demoted_demotes (found : List String) (now : ℤ) (call : MeterCall) (chance : MeterChance)
    (phase : MeterPhase) (rest : List MeterWrite) :
    MeterTransaction.demoted ⟨call, chance, phase, found.map (.demote · now) ++ rest⟩ =
      found ++ MeterTransaction.demoted ⟨call, chance, phase, rest⟩ := by
  simp [MeterTransaction.demoted, List.filterMap_append, List.filterMap_map]

theorem edited_demotes (found : List String) (now : ℤ) (call : MeterCall) (chance : MeterChance)
    (phase : MeterPhase) (rest : List MeterWrite) :
    MeterTransaction.edited ⟨call, chance, phase, found.map (.demote · now) ++ rest⟩ =
      MeterTransaction.edited ⟨call, chance, phase, rest⟩ := by
  simp [MeterTransaction.edited, List.filterMap_append, List.filterMap_map]

/-- What stands of an update that has demoted `found`. -/
theorem readsStand_update (found : List String) (now : ℤ) (rest : List MeterWrite) :
    ReadsStand rows ⟨.update userId id dto, chance, phase, found.map (.demote · now) ++ rest⟩ ↔
      if MeterTransaction.edited ⟨.update userId id dto, chance, phase, rest⟩ = [] then
        found ++ MeterTransaction.demoted ⟨.update userId id dto, chance, phase, rest⟩ = [] ∧
          rows.any (isOwned userId id) = false
      else rows.any (isOwned userId id) = true ∧
        (dto.isPrimary = .value true → ∀ row ∈ rows, isIncumbent userId id row →
          row.id ∈ found ++
            MeterTransaction.demoted ⟨.update userId id dto, chance, phase, rest⟩) := by
  rw [← edited_demotes found now, ← demoted_demotes found now]
  rfl

theorem serial_add {dto : AddMeterDto} {isPrimary : Bool}
    (fresh : ∀ other ∈ rows, duplicates (newMeter userId dto isPrimary chance) other = false)
    (first : isPrimary = !rows.any (isOf userId)) :
    Serial rows (.add userId dto, chance) (rows ++ [newMeter userId dto isPrimary chance]) := by
  subst first
  apply serial_of_serve 0
  have fresh : rows.any (duplicates (newMeter userId dto (!rows.any (isOf userId))
      { chance with tie := 0, fails := false })) = false := by
    rw [List.any_eq_false]
    intro other mem
    exact ne_true_of_eq_false (fresh other mem)
  simp only [serve, add, fresh, Bool.false_eq_true, if_false]
  rfl

/-- An update that found its meter gone. -/
theorem serial_unset {found : List String}
    (stands : ReadsStand rows ⟨.update userId id dto, chance, .committing columns,
      found.map (.demote · chance.demotedAt)⟩) :
    Serial rows (.update userId id dto, chance)
      (view rows (found.map (.demote · chance.demotedAt))) := by
  rw [← List.append_nil (found.map _), readsStand_update] at stands
  obtain ⟨none_, missing⟩ := stands
  obtain ⟨rfl, -⟩ := List.append_eq_nil_iff.mp none_
  apply serial_of_serve 0
  rw [serve_update_of_absent missing]
  rfl

theorem serial_set {found : List String} (keyed : Keyed rows)
    (notFalse : dto.isPrimary ≠ .value false) (notNull : dto.isPrimary ≠ .null)
    (promotes : dto.isPrimary = .value true ∨ found = [])
    (incumbents : Incumbents rows userId id found)
    (stands : ReadsStand rows ⟨.update userId id dto, chance, .committing columns,
      found.map (.demote · chance.demotedAt) ++ [.set id dto chance.updatedAt]⟩) :
    Serial rows (.update userId id dto, chance)
      (view rows (found.map (.demote · chance.demotedAt) ++ [.set id dto chance.updatedAt])) := by
  obtain ⟨owned, all⟩ := (readsStand_update ..).mp stands
  have demoted : view rows (found.map (.demote · chance.demotedAt)) =
      if dto.isPrimary = .value true then
        updateWhere (isIncumbent userId id) (demote chance.demotedAt) rows
      else rows := by
    split
    · next promotes =>
      apply view_incumbents keyed incumbents
      simpa [MeterTransaction.demoted] using all promotes
    · next notTrue =>
      rw [promotes.resolve_left notTrue]
      rfl
  apply serial_of_serve 0
  rw [serve_update_of_owned owned notFalse notNull rfl, view_append, demoted]
  rfl

theorem serial_removed (keyed : Keyed rows) (mem : row ∈ rows) (owned : isOwned userId id row)
    (stands : ReadsStand rows ⟨.remove userId id, chance, .committing columns,
      [.delete userId id]⟩) :
    Serial rows (.remove userId id, chance) (survivors rows userId id) := by
  have last := stands row mem owned
  apply serial_of_serve 0
  rw [serve_remove_of_owned keyed mem owned rfl]
  split
  · next isPrimary =>
    have gone : oldestMeter (survivors rows userId id) userId 0 = none :=
      oldestMeter_none.mpr (last isPrimary)
    simp only [gone]
  · rfl

theorem serial_replaced (keyed : Keyed rows) (mem : row ∈ rows) (owned : isOwned userId id row)
    (isPrimary : row.isPrimary = true)
    (stands : ReadsStand rows ⟨.remove userId id, chance, .committing columns,
      [.delete userId id, .promote next chance.updatedAt]⟩) :
    Serial rows (.remove userId id, chance)
      (updateWhere (·.id = next) (promote chance.updatedAt) (survivors rows userId id)) := by
  obtain ⟨other, left, own, same, least⟩ := stands row mem owned isPrimary
  rw [MeterTransaction.promoted] at same
  have same : other.id = next := by simpa using same
  subst same
  have mine : other ∈ (survivors rows userId id).filter (isOf userId) :=
    List.mem_filter.mpr ⟨left, isOf_iff.mpr own⟩
  obtain ⟨tie, oldest⟩ := exists_firstBy mine fun row mem =>
    least row (List.mem_filter.mp mem).1 (isOf_iff.mp (List.mem_filter.mp mem).2)
  apply serial_of_serve tie
  rw [serve_remove_of_owned keyed mem owned rfl, if_pos isPrimary]
  have oldest : oldestMeter (survivors rows userId id) userId tie = some other := oldest
  simp only [oldest]

/-- A commit that finds what its call has read does what the call does alone. -/
theorem Sound.serial (sound : Sound rows t) (keyed : Keyed rows) (commits : t.commits = true)
    (stands : ReadsStand rows t) : Serial rows (t.call, t.chance) (view rows t.writes) := by
  cases sound with
  | inserted fresh => exact serial_add fresh (stands _ (List.mem_singleton_self _))
  | unset => exact serial_unset stands
  | set notFalse notNull promotes incumbents =>
    exact serial_set keyed notFalse notNull promotes incumbents stands
  | removed mem owned => exact serial_removed keyed mem owned stands
  | replaced mem owned isPrimary => exact serial_replaced keyed mem owned isPrimary stands
  | _ => cases commits

end Commit

/-! ## Runs -/

/-- A write that locks a row, and another that does not lock it. -/
theorem MeterWrite.Clear.of_locks {write other : MeterWrite} (locked : write.locks id = true)
    (free : other.locks id = false) : write.Clear other := by
  cases write with
  | insert => cases locked
  | _ =>
    constructor
    · intro row same
      rwa [← of_decide_eq_true same, of_decide_eq_true locked]
    · intro row row' insert
      cases insert

/-- What a statement adds to the writes of its transaction is clear of the writes that it has not
waited for. -/
theorem statement_writes (next : statementNext rows t = some (phase, writes)) :
    writes = t.writes ∨ writes = [] ∨ ∃ write, writes = t.writes ++ [write] ∧
      ∀ other, waitsFor rows t other = false → write.Clear other := by
  obtain ⟨call, chance, phase, writes⟩ := t
  cases call with
  | add userId dto =>
    cases phase with
    | lookingForAny =>
      cases next
      exact .inl rfl
    | inserting isPrimary =>
      simp only [statementNext, addNext] at next
      split at next
      · cases next
        exact .inr (.inl rfl)
      · cases next
        refine .inr (.inr ⟨_, rfl, fun other free => ⟨?_, ?_⟩⟩)
        · intro row locked
          cases locked
        · rintro row row' ⟨⟩ rfl
          exact free
    | _ => cases next
  | update userId id dto =>
    cases phase with
    | lookingForOwned =>
      simp only [statementNext, updateNext] at next
      split at next
      · cases next
        exact .inr (.inl rfl)
      split at next <;> cases next <;> exact .inl rfl
    | lookingForIncumbents =>
      cases next
      exact .inl rfl
    | demoting found =>
      cases found with
      | nil =>
        cases next
        exact .inl rfl
      | cons incumbent found =>
        simp only [statementNext, updateNext] at next
        split at next
        · cases next
          exact .inr (.inr ⟨_, rfl, fun other free => .of_locks (decide_eq_true rfl) free⟩)
        · cases next
          exact .inl rfl
    | setting =>
      simp only [statementNext, updateNext] at next
      split at next
      · cases next
        exact .inl rfl
      split at next
      · cases next
        exact .inr (.inl rfl)
      · cases next
        exact .inr (.inr ⟨_, rfl, fun other free => .of_locks (decide_eq_true rfl) free⟩)
    | _ => cases next
  | remove userId id =>
    cases phase with
    | deleting =>
      simp only [statementNext, removeNext] at next
      split at next
      · cases next
        exact .inr (.inl rfl)
      · cases next
        exact .inr (.inr ⟨_, rfl, fun other free => .of_locks (decide_eq_true rfl) free⟩)
    | lookingForOldest =>
      simp only [statementNext, removeNext] at next
      split at next <;> cases next <;> exact .inl rfl
    | promoting next_ =>
      simp only [statementNext, removeNext] at next
      split at next
      · cases next
        exact .inr (.inr ⟨_, rfl, fun other free => .of_locks (decide_eq_true rfl) free⟩)
      · cases next
        exact .inl rfl
    | _ => cases next

section Step
variable {s s' : MeterState} {t' : MeterTransaction} {fails : Bool}

/-- A transaction rolls back, commits, or runs a statement. -/
theorem meterNext_cases (next : meterNext s t fails = some (s', t')) :
    (s' = s ∧ t' = { t with phase := .returned (.error internalError), writes := [] }) ∨
    (fails = false ∧ t.commits = true ∧
      s' = ⟨view s.rows t.writes, s.committed ++ [(t.call, t.chance)]⟩ ∧
      ∃ answer, t' = { t with phase := .returned answer, writes := [] }) ∨
    fails = false ∧ s' = s ∧ ∃ phase writes, statementNext s.rows t = some (phase, writes) ∧
      t' = { t with phase := phase, writes := writes } := by
  simp only [meterNext] at next
  split at next
  · cases next
  split at next
  · cases next
    exact .inl ⟨rfl, rfl⟩
  next notFails =>
  rw [Bool.not_eq_true] at notFails
  split at next
  · next columns committing =>
    cases next
    exact .inr (.inl ⟨notFails, by rw [MeterTransaction.commits, committing], rfl, _, rfl⟩)
  · obtain ⟨⟨phase, writes⟩, statement, after⟩ := Option.map_eq_some_iff.mp next
    cases after
    exact .inr (.inr ⟨notFails, rfl, phase, writes, statement, rfl⟩)

theorem Sound.init (rows : List MeterRow) (input : MeterCall × MeterChance) :
    Sound rows (meterServer.init input) := by
  obtain ⟨call, chance⟩ := input
  cases call with
  | add userId dto => exact .lookingForAny
  | update userId id dto =>
    simp only [meterServer, MeterCall.start]
    split
    · exact .returned
    · next notFalse => exact .lookingForOwned notFalse
  | remove userId id => exact .deleting

theorem Sound.rollback (rows : List MeterRow) (t : MeterTransaction)
    (answer : Except HttpException (Option MeterColumns)) :
    Sound rows { t with phase := .returned answer, writes := [] } := .returned

end Step

/-- The writes of two transactions are clear of each other. -/
def ClearOf (t u : MeterTransaction) : Prop :=
  ∀ write ∈ t.writes, ∀ other ∈ u.writes, write.Clear other

theorem ClearOf.of_nil (none_ : t.writes = []) : ClearOf t u := by
  intro write there
  rw [none_] at there
  cases there

theorem ClearOf.symm (clear : ClearOf t u) : ClearOf u t :=
  fun write there other there' => (clear other there' write there).symm

/-- What the guard keeps true. -/
structure SerialInv (rows₀ : List MeterRow) (s : MeterSystem) : Prop where
  kept : Kept s.shared.rows
  serial : Run Serial rows₀ s.shared.committed s.shared.rows
  sound : Everywhere (fun state t => Sound state.rows t) s
  clear : Apart ClearOf s

theorem Kept.serial (kept : Kept rows) (serial : Serial rows event rows') : Kept rows' := by
  obtain ⟨tie, same⟩ := serial
  cases same
  exact kept.serve ..

theorem SerialInv.step {rows₀ : List MeterRow} {s s' : MeterSystem} {move : MeterMove}
    (inv : SerialInv rows₀ s) (step : meterStep s move = some s') (stands : CommitsStand s move) :
    SerialInv rows₀ s' := by
  simp only [meterStep, guardStep, Option.ite_none_right_eq_some] at step
  obtain ⟨unblocked, step⟩ := step
  cases move with
  | start input =>
    cases step
    refine ⟨inv.kept, inv.serial, inv.sound.start (.init _ _), inv.clear.start fun u => ?_⟩
    exact ⟨.of_nil rfl, (ClearOf.of_nil rfl).symm⟩
  | advance i fails =>
    obtain ⟨t, state, t', here, next, rfl⟩ := advance_cases step
    obtain ⟨rfl, rfl⟩ | ⟨rfl, commits, rfl, answer, rfl⟩ |
      ⟨rfl, rfl, phase, writes, statement, rfl⟩ := meterNext_cases next
    · refine ⟨inv.kept, inv.serial, inv.sound.set (.rollback ..) fun _ _ _ _ => id, ?_⟩
      exact inv.clear.set fun j u _ _ => ⟨.of_nil rfl, (ClearOf.of_nil rfl).symm⟩
    · have serial := (inv.sound i t here).serial inv.kept.toKeyed commits
        (stands rfl t here commits)
      refine ⟨inv.kept.serial serial, inv.serial.snoc serial, ?_, ?_⟩
      · refine inv.sound.set (.rollback ..) fun j u other there sound => ?_
        exact sound.afterCommit (inv.clear i j t u (Ne.symm other) here there)
      · exact inv.clear.set fun j u _ _ => ⟨.of_nil rfl, (ClearOf.of_nil rfl).symm⟩
    · refine ⟨inv.kept, inv.serial,
        inv.sound.set ((inv.sound i t here).statement statement) fun _ _ _ _ => id, ?_⟩
      apply inv.clear.set
      intro j u other there
      have free : ∀ write ∈ u.writes, waitsFor s.shared.rows t write = false := by
        obtain ⟨bound, rfl⟩ := List.getElem?_eq_some_iff.mp there
        exact unblocked t here ⟨j, bound⟩ other
      have before := inv.clear i j t u (Ne.symm other) here there
      have after : ClearOf { t with phase := phase, writes := writes } u := by
        intro write there' own there
        obtain rfl | rfl | ⟨new, rfl, clear⟩ := statement_writes statement
        · exact before write there' own there
        · cases there'
        · obtain there' | there' := List.mem_append.mp there'
          · exact before write there' own there
          · rw [List.mem_singleton.mp there']
            exact clear own (free own there)
      exact ⟨after, after.symm⟩

/-- While commits find what their calls have read, the table is what the calls that have committed
make one after the other in the order of their commits, and each user with meters has one primary
meter. -/
theorem meters_serializable (kept : Kept rows₀)
    (run : Run (Guarded (Enabled meterStep) CommitsStand) ⟨⟨rows₀, []⟩, []⟩ tr s) :
    Run Serial rows₀ s.shared.committed s.shared.rows ∧
      ∀ userId, (∃ row ∈ s.shared.rows, row.userId = userId) →
        ∃ p, s.shared.rows.filter (fun row => isOf userId row && row.isPrimary) = [p] := by
  have inv : SerialInv rows₀ s := by
    apply run.invariant
    · exact ⟨kept, .nil, .nil, .nil⟩
    · intro s move s' inv step
      exact inv.step step.1 step.2
  refine ⟨inv.serial, fun userId has => ?_⟩
  obtain ⟨p, only, -⟩ := primary_listed inv.kept has
  exact ⟨p, only⟩

/-- Two calls of one user: the second starts, runs its first `before` statements, waits for the
first to run to its end, and then runs to its own. -/
def overlapping (first second : MeterCall × MeterChance) (length before after : ℕ) :
    List MeterMove :=
  [.start first, .start second] ++ List.replicate before (.advance 1 false) ++
    List.replicate length (.advance 0 false) ++ List.replicate after (.advance 1 false)

/-- A primary meter and another one. -/
def homeAndShop : List MeterRow :=
  [⟨"a", "raju", "33009605", some "Home", .home, .nesco, true, 1, 1⟩,
    ⟨"b", "raju", "33009606", some "Shop", .office, .nesco, false, 2, 2⟩]

theorem homeAndShop_kept : Kept homeAndShop where
  ids := by decide
  holdings := by decide
  primary := by
    have mine : ∀ row ∈ homeAndShop, row.userId = "raju" := by decide
    intro row mem
    rw [mine row mem]
    exact ⟨homeAndShop.head (by decide), by decide, by decide, by decide, by decide⟩

/-- A third meter is added while the second one is made primary. -/
theorem meters_serializable_homeAndShop :
    ∃ s, Run (Guarded (Enabled meterStep) CommitsStand) ⟨⟨homeAndShop, []⟩, []⟩
      (overlapping (.add "raju" ⟨"33009607", none, none, none⟩, { id := "c", createdAt := 3 })
        (.update "raju" "b" ⟨.absent, .value true⟩, {}) 3 2 4) s ∧
      s.shared.rows.map (fun row => (row.id, row.isPrimary)) =
        [("a", false), ("b", true), ("c", false)] ∧
      Run Serial homeAndShop s.shared.committed s.shared.rows := by
  have reached : (exec (guardStep meterStep CommitsStand) ⟨⟨homeAndShop, []⟩, []⟩
      (overlapping (.add "raju" ⟨"33009607", none, none, none⟩, { id := "c", createdAt := 3 })
        (.update "raju" "b" ⟨.absent, .value true⟩, {}) 3 2 4)).any fun s =>
          s.shared.rows.map (fun row => (row.id, row.isPrimary)) =
            [("a", false), ("b", true), ("c", false)] := by
    decide +kernel
  obtain ⟨s, run, flags⟩ := exec_guarded_any reached
  exact ⟨s, run, of_decide_eq_true flags, (meters_serializable homeAndShop_kept run).1⟩

/-- A row apart from its id and its times. -/
structure MeterContents where
  userId : String
  customerNo : String
  label : Option String
  type : MeterType
  provider : MeterProvider
  isPrimary : Bool
  deriving DecidableEq

def MeterRow.contents (row : MeterRow) : MeterContents :=
  ⟨row.userId, row.customerNo, row.label, row.type, row.provider, row.isPrimary⟩

/-- After calls that do not overlap, a user has at most one primary meter. -/
theorem Kept.count_primary (kept : Kept rows) (userId : String) :
    (rows.map (·.contents)).countP
      (fun contents => contents.userId = userId && contents.isPrimary) ≤ 1 := by
  rw [List.countP_map, List.countP_eq_length_filter]
  by_cases has : ∃ row ∈ rows, row.userId = userId
  · obtain ⟨p, only, -⟩ := primary_listed kept has
    exact (congrArg List.length only).le
  · have none_ : rows.filter (fun row => isOf userId row && row.isPrimary) = [] := by
      rw [List.filter_eq_nil_iff]
      intro row mem meets
      exact has ⟨row, mem, isOf_iff.mp (Bool.and_eq_true_iff.mp meets).1⟩
    exact (congrArg List.length none_).le.trans (Nat.zero_le 1)

/-- Two meters that are added at once to a user who has none both become primary, which no order of
the two calls makes. -/
theorem meters_collide :
    (¬ ∀ rows₀ tr s, Kept rows₀ → Run (Enabled meterStep) ⟨⟨rows₀, []⟩, []⟩ tr s →
      s.procs.length = 2 → s.shared.committed.length = 2 →
      ∃ calls rows, (calls.map (·.1)).Perm (s.shared.committed.map (·.1)) ∧
        Run (Enabled serveStep) rows₀ calls rows ∧
        (rows.map (·.contents)).Perm (s.shared.rows.map (·.contents))) ∧
    ¬ ∀ rows₀ tr s, Kept rows₀ → Run (Enabled meterStep) ⟨⟨rows₀, []⟩, []⟩ tr s →
      s.procs.length = 2 → s.shared.committed.length = 2 →
      ∀ userId, (∃ row ∈ s.shared.rows, row.userId = userId) →
        ∃ p, s.shared.rows.filter (fun row => isOf userId row && row.isPrimary) = [p] := by
  have reached : (exec meterStep ⟨⟨[], []⟩, []⟩
      (overlapping (.add "raju" ⟨"33009605", none, none, none⟩, { id := "a", createdAt := 1 })
        (.add "raju" ⟨"33009606", none, none, none⟩, { id := "b", createdAt := 2 }) 3 1 2)).any
          fun s => decide (s.procs.length = 2 ∧ s.shared.committed.length = 2 ∧
            s.shared.rows.map (·.contents) =
              [⟨"raju", "33009605", none, .home, .nesco, true⟩,
                ⟨"raju", "33009606", none, .home, .nesco, true⟩]) := by
    decide +kernel
  obtain ⟨s, run, ends⟩ := exec_any reached
  obtain ⟨two, both, contents⟩ := of_decide_eq_true ends
  constructor
  · intro serializable
    obtain ⟨calls, rows, -, serial, same⟩ := serializable _ _ s .nil run two both
    have few := (Kept.nil.run serial).count_primary "raju"
    rw [same.countP_eq, contents] at few
    exact absurd few (by decide)
  · intro primary
    have has : ∃ row ∈ s.shared.rows, row.userId = "raju" := by
      have member : MeterContents.mk "raju" "33009605" none .home .nesco true ∈
          s.shared.rows.map (·.contents) := by
        rw [contents]
        exact List.mem_cons_self
      obtain ⟨row, mem, same⟩ := List.mem_map.mp member
      exact ⟨row, mem, congrArg MeterContents.userId same⟩
    obtain ⟨p, only⟩ := primary _ _ s .nil run two both "raju" has
    have count : (s.shared.rows.map (·.contents)).countP
        (fun contents => contents.userId = "raju" && contents.isPrimary) = 1 := by
      rw [List.countP_map, List.countP_eq_length_filter]
      exact congrArg List.length only
    rw [contents] at count
    exact absurd count (by decide)

end ElectroSync.MeterService
