import ElectroSync.Library.Run
import ElectroSync.Meter.MeterService

/-!
# The primary meter

Nothing in the schema says that a user with meters has one primary meter: each call keeps it so for
the next one.
-/

namespace ElectroSync.MeterService
open Rows Transition

/-- `p` is the one primary meter of the user. -/
structure Primary (rows : List MeterRow) (userId : String) (p : MeterRow) : Prop where
  mem : p ∈ rows
  owner : p.userId = userId
  isPrimary : p.isPrimary = true
  only : ∀ row ∈ rows, row.userId = userId → row.isPrimary = true → row = p

/-- The columns of `meter_user_id_provider_customer_no_idx`. -/
def MeterRow.holding (row : MeterRow) : String × MeterProvider × String :=
  (row.userId, row.provider, row.customerNo)

/-- What the database enforces. -/
structure Keyed (rows : List MeterRow) : Prop where
  ids : (rows.map (·.id)).Nodup
  holdings : (rows.map (·.holding)).Nodup

/-- What the calls are to keep. -/
structure Kept (rows : List MeterRow) : Prop extends Keyed rows where
  primary : ∀ row ∈ rows, ∃ p, Primary rows row.userId p

/-- What a call that succeeds does to the table. -/
inductive Change (rows : List MeterRow) (chance : MeterChance) :
    MeterCall → List MeterRow → Prop
  | add : (∀ other ∈ rows,
      duplicates (newMeter userId dto (!rows.any (isOf userId)) chance) other = false) →
      Change rows chance (.add userId dto)
        (rows ++ [newMeter userId dto (!rows.any (isOf userId)) chance])
  | edit {id : String} : dto.isPrimary = .absent → row ∈ rows → row.id = id →
      row.userId = userId →
      Change rows chance (.update userId id dto)
        (updateWhere (·.id = id) (setMeter dto chance.updatedAt) rows)
  | promote {id : String} : dto.isPrimary = .value true → row ∈ rows → row.id = id →
      row.userId = userId →
      Change rows chance (.update userId id dto)
        (updateWhere (·.id = id) (setMeter dto chance.updatedAt)
          (updateWhere (isIncumbent userId id) (demote chance.demotedAt) rows))
  | remove {id : String} : row ∈ rows → row.id = id → row.userId = userId →
      (row.isPrimary = true →
        oldestMeter (survivors rows userId id) userId chance.tie = none) →
      Change rows chance (.remove userId id) (survivors rows userId id)
  | replace {id : String} : row ∈ rows → row.id = id → row.userId = userId →
      row.isPrimary = true →
      oldestMeter (survivors rows userId id) userId chance.tie = some next →
      Change rows chance (.remove userId id)
        (updateWhere (·.id = next.id) (promote chance.updatedAt) (survivors rows userId id))

variable {rows : List MeterRow} {row p : MeterRow} {userId id : String} {g : MeterRow → MeterRow}

theorem Kept.nil : Kept [] := ⟨⟨.nil, .nil⟩, nofun⟩

theorem Keyed.eq (keyed : Keyed rows) (mem : row ∈ rows) (mem' : p ∈ rows) (same : row.id = p.id) :
    row = p :=
  List.inj_on_of_nodup_map keyed.ids mem mem' same

@[simp] theorem isOf_iff : isOf userId row = true ↔ row.userId = userId := by
  simp [isOf]

@[simp] theorem isOwned_iff : isOwned userId id row = true ↔ row.id = id ∧ row.userId = userId := by
  simp [isOwned]

@[simp] theorem isIncumbent_iff : isIncumbent userId id row = true ↔
    row.userId = userId ∧ row.id ≠ id ∧ row.isPrimary = true := by
  simp [isIncumbent, and_assoc]

/-! ## What the updates keep -/

section Updates
variable {dto : UpdateMeterDto} {now : ℤ}

@[simp] theorem demote_id : (demote now row).id = row.id := rfl
@[simp] theorem demote_isPrimary : (demote now row).isPrimary = false := rfl

@[simp] theorem promote_id : (promote now row).id = row.id := rfl
@[simp] theorem promote_holding : (promote now row).holding = row.holding := rfl
@[simp] theorem promote_isPrimary : (promote now row).isPrimary = true := rfl

@[simp] theorem setMeter_id : (setMeter dto now row).id = row.id := rfl
@[simp] theorem setMeter_holding : (setMeter dto now row).holding = row.holding := rfl

theorem setMeter_isPrimary_true (promotes : dto.isPrimary = .value true) :
    (setMeter dto now row).isPrimary = true := by
  simp [setMeter, promotes]

theorem setMeter_isPrimary_absent (leaves : dto.isPrimary = .absent) :
    (setMeter dto now row).isPrimary = row.isPrimary := by
  simp [setMeter, leaves]

end Updates

/-! ## The primary of a table that changes -/

/-- The primary stays when no update changes which meters of the user are primary. -/
theorem Primary.map (primary : Primary rows userId p)
    (owner : ∀ row ∈ rows, (g row).userId = row.userId)
    (same : ∀ row ∈ rows, row.userId = userId → (g row).isPrimary = row.isPrimary) :
    Primary (rows.map g) userId (g p) where
  mem := List.mem_map_of_mem primary.mem
  owner := (owner p primary.mem).trans primary.owner
  isPrimary := (same p primary.mem primary.owner).trans primary.isPrimary
  only := by
    intro after there own isPrimary
    obtain ⟨row, mem, rfl⟩ := List.mem_map.mp there
    rw [owner row mem] at own
    rw [same row mem own] at isPrimary
    rw [primary.only row mem own isPrimary]

/-- The meter with the id becomes the primary when it is the only one of its user that is primary
after the updates. -/
theorem Primary.moved (ids : (rows.map (·.id)).Nodup) (mem : row ∈ rows) (own : row.userId = userId)
    (owner : ∀ row ∈ rows, (g row).userId = row.userId)
    (moved : ∀ other ∈ rows, other.userId = userId →
      ((g other).isPrimary = true ↔ other.id = row.id)) :
    Primary (rows.map g) userId (g row) where
  mem := List.mem_map_of_mem mem
  owner := (owner row mem).trans own
  isPrimary := (moved row mem own).mpr rfl
  only := by
    intro after there own' isPrimary
    obtain ⟨other, mem', rfl⟩ := List.mem_map.mp there
    rw [owner other mem'] at own'
    have same := (moved other mem' own').mp isPrimary
    rw [List.inj_on_of_nodup_map ids mem' mem same]

theorem Primary.filter {q : MeterRow → Bool} (primary : Primary rows userId p) (stays : q p) :
    Primary (rows.filter q) userId p where
  mem := List.mem_filter.mpr ⟨primary.mem, stays⟩
  owner := primary.owner
  isPrimary := primary.isPrimary
  only := fun row mem => primary.only row (List.mem_filter.mp mem).1

theorem Primary.append (primary : Primary rows userId p)
    (secondary : row.userId = userId → row.isPrimary = false) :
    Primary (rows ++ [row]) userId p where
  mem := List.mem_append_left _ primary.mem
  owner := primary.owner
  isPrimary := primary.isPrimary
  only := by
    intro other mem own isPrimary
    obtain mem | mem := List.mem_append.mp mem
    · exact primary.only other mem own isPrimary
    · rw [List.mem_singleton.mp mem] at own isPrimary
      rw [secondary own] at isPrimary
      cases isPrimary

/-- The first meter of a user. -/
theorem Primary.first (none_ : ∀ other ∈ rows, other.userId ≠ row.userId)
    (isPrimary : row.isPrimary = true) : Primary (rows ++ [row]) row.userId row where
  mem := List.mem_append_right _ (List.mem_singleton_self _)
  owner := rfl
  isPrimary := isPrimary
  only := by
    intro other mem own _
    obtain mem | mem := List.mem_append.mp mem
    · exact absurd own (none_ other mem)
    · exact List.mem_singleton.mp mem

theorem Primary.eq_filter (primary : Primary rows userId p) (ids : (rows.map (·.id)).Nodup) :
    rows.filter (fun row => isOf userId row && row.isPrimary) = [p] := by
  apply filter_eq_singleton ids primary.mem
  · simp [primary.owner, primary.isPrimary]
  · intro other mem meets
    simp only [Bool.and_eq_true, isOf_iff] at meets
    exact primary.only other mem meets.1 meets.2

theorem Primary.head?_of_lists (primary : Primary rows userId p)
    (lists : Lists rows userId listed) : listed.head? = some p.columns := by
  obtain ⟨mine, same, sorted, rfl⟩ := lists
  have member : p ∈ mine :=
    same.mem_iff.mpr (List.mem_filter.mpr ⟨primary.mem, isOf_iff.mpr primary.owner⟩)
  cases mine with
  | nil => cases member
  | cons first rest =>
    rw [List.map_cons, List.head?_cons]
    congr 2
    obtain rfl | later := List.mem_cons.mp member
    · rfl
    · have mem : first ∈ first :: rest := List.mem_cons_self
      have mem := List.mem_filter.mp (same.mem_iff.mp mem)
      obtain before | before := (List.pairwise_cons.mp sorted).1 p later
      · rw [primary.isPrimary] at before
        cases before.2
      · exact primary.only first mem.1 (isOf_iff.mp mem.2) (before.1.trans primary.isPrimary)

/-! ## What a call does -/

theorem add_cases (rows : List MeterRow) (userId : String) (dto : AddMeterDto)
    (chance : MeterChance) : (∃ e, add rows userId dto chance = (.error e, rows)) ∨
      ∃ columns rows', add rows userId dto chance = (.ok columns, rows') ∧
        Change rows chance (.add userId dto) rows' := by
  simp only [add]
  split
  · exact .inl ⟨_, rfl⟩
  split
  · exact .inl ⟨_, rfl⟩
  · next fresh =>
    refine .inr ⟨_, _, rfl, .add ?_⟩
    simpa using fresh

theorem update_cases (rows : List MeterRow) (userId id : String) (dto : UpdateMeterDto)
    (chance : MeterChance) : (∃ e, update rows userId id dto chance = (.error e, rows)) ∨
      ∃ columns rows', update rows userId id dto chance = (.ok columns, rows') ∧
        Change rows chance (.update userId id dto) rows' := by
  simp only [update]
  split
  · exact .inl ⟨_, rfl⟩
  split
  · exact .inl ⟨_, rfl⟩
  split
  · exact .inl ⟨_, rfl⟩
  next notFalse _ owned =>
  simp only [Bool.not_eq_true', Bool.not_eq_false, List.any_eq_true, isOwned_iff] at owned
  obtain ⟨row, mem, same, own⟩ := owned
  cases moves : dto.isPrimary with
  | null => exact .inl ⟨_, rfl⟩
  | absent => exact .inr ⟨_, _, rfl, .edit moves mem same own⟩
  | value flag =>
    cases flag with
    | false => exact absurd moves notFalse
    | true => exact .inr ⟨_, _, rfl, .promote moves mem same own⟩

theorem remove_cases (rows : List MeterRow) (userId id : String) (chance : MeterChance) :
    (∃ e, remove rows userId id chance = (.error e, rows)) ∨
      ∃ rows', remove rows userId id chance = (.ok (), rows') ∧
        Change rows chance (.remove userId id) rows' := by
  simp only [remove]
  split
  · exact .inl ⟨_, rfl⟩
  split
  · exact .inl ⟨_, rfl⟩
  next removed found =>
  have mem := List.mem_of_find?_eq_some found
  obtain ⟨same, own⟩ := isOwned_iff.mp (List.find?_some found)
  split
  · next secondary =>
    refine .inr ⟨_, rfl, .remove mem same own ?_⟩
    intro isPrimary
    rw [isPrimary] at secondary
    cases secondary
  next isPrimary =>
  rw [Bool.not_eq_true', Bool.not_eq_false] at isPrimary
  split
  · next gone => exact .inr ⟨_, rfl, .remove mem same own fun _ => gone⟩
  · next next_ oldest => exact .inr ⟨_, rfl, .replace mem same own isPrimary oldest⟩

/-- A call fails and leaves the table as it was, or succeeds with one of the changes. -/
theorem serve_cases (rows : List MeterRow) (call : MeterCall) (chance : MeterChance) :
    (∃ e, serve rows call chance = (.error e, rows)) ∨
      ∃ columns rows', serve rows call chance = (.ok columns, rows') ∧
        Change rows chance call rows' := by
  cases call with
  | add userId dto =>
    obtain ⟨e, fails⟩ | ⟨columns, rows', succeeds, change⟩ := add_cases rows userId dto chance
    · exact .inl ⟨e, by simp only [serve, fails]; rfl⟩
    · exact .inr ⟨some columns, rows', by simp only [serve, succeeds]; rfl, change⟩
  | update userId id dto => exact update_cases rows userId id dto chance
  | remove userId id =>
    obtain ⟨e, fails⟩ | ⟨rows', succeeds, change⟩ := remove_cases rows userId id chance
    · exact .inl ⟨e, by simp only [serve, fails]; rfl⟩
    · exact .inr ⟨none, rows', by simp only [serve, succeeds]; rfl, change⟩

/-! ## What a call keeps -/

theorem not_duplicates {other : MeterRow} (apart : duplicates row other = false) :
    row.id ≠ other.id ∧ row.holding ≠ other.holding := by
  simp only [duplicates, Bool.or_eq_false_iff, decide_eq_false_iff_not, ← Bool.decide_and,
    and_assoc] at apart
  simpa [MeterRow.holding] using apart

/-- An update of a table, row by row. -/
theorem Keyed.map (keyed : Keyed rows) (ids : ∀ row, (g row).id = row.id)
    (holdings : ∀ row, (g row).holding = row.holding)
    (primary : ∀ row ∈ rows, ∃ p, Primary (rows.map g) row.userId p) : Kept (rows.map g) where
  ids := by
    simpa only [List.map_map, Function.comp_def, ids] using keyed.ids
  holdings := by
    simpa only [List.map_map, Function.comp_def, holdings] using keyed.holdings
  primary := by
    intro after there
    obtain ⟨row, mem, rfl⟩ := List.mem_map.mp there
    have owner : (g row).userId = row.userId := congrArg Prod.fst (holdings row)
    rw [owner]
    exact primary row mem

theorem Kept.add (kept : Kept rows) (fresh : ∀ other ∈ rows, duplicates row other = false)
    (first : row.isPrimary = !rows.any (isOf row.userId)) : Kept (rows ++ [row]) where
  ids := by
    apply nodup_map_snoc kept.ids
    intro other mem same
    exact (not_duplicates (fresh other mem)).1 same.symm
  holdings := by
    apply nodup_map_snoc kept.holdings
    intro other mem same
    exact (not_duplicates (fresh other mem)).2 same.symm
  primary := by
    intro other mem
    by_cases has : ∃ other ∈ rows, other.userId = row.userId
    · have secondary : row.isPrimary = false := by
        rw [first, Bool.not_eq_false', List.any_eq_true]
        simpa only [isOf_iff] using has
      have older : ∃ old ∈ rows, old.userId = other.userId := by
        obtain mem | mem := List.mem_append.mp mem
        · exact ⟨other, mem, rfl⟩
        · rw [List.mem_singleton.mp mem]
          exact has
      obtain ⟨old, mem, same⟩ := older
      obtain ⟨p, primary⟩ := kept.primary old mem
      rw [same] at primary
      exact ⟨p, primary.append fun _ => secondary⟩
    · have none_ : ∀ other ∈ rows, other.userId ≠ row.userId := by simpa using has
      obtain mem | mem := List.mem_append.mp mem
      · obtain ⟨p, primary⟩ := kept.primary other mem
        exact ⟨p, primary.append fun own => absurd own.symm (none_ other mem)⟩
      · rw [List.mem_singleton.mp mem]
        refine ⟨row, .first none_ ?_⟩
        rw [first, Bool.not_eq_true', List.any_eq_false]
        simpa only [isOf_iff] using none_

theorem Kept.edit {dto : UpdateMeterDto} (kept : Kept rows) (leaves : dto.isPrimary = .absent)
    (id : String) (now : ℤ) : Kept (updateWhere (·.id = id) (setMeter dto now) rows) := by
  apply kept.toKeyed.map (keeps_ite fun _ => setMeter_id) (keeps_ite fun _ => setMeter_holding)
  intro row mem
  obtain ⟨p, primary⟩ := kept.primary row mem
  refine ⟨_, primary.map ?_ ?_⟩
  · intro row _
    split <;> rfl
  · intro row _ _
    split
    · exact setMeter_isPrimary_absent leaves
    · rfl

/-- What a promotion of `id` does to a row. -/
def promoting (userId id : String) (dto : UpdateMeterDto) (chance : MeterChance) (row : MeterRow) :
    MeterRow :=
  let demoted := if isIncumbent userId id row then demote chance.demotedAt row else row
  if demoted.id = id then setMeter dto chance.updatedAt demoted else demoted

section Promoting
variable {dto : UpdateMeterDto} {chance : MeterChance}

theorem updateWhere_promoting (userId id : String) (dto : UpdateMeterDto) (chance : MeterChance)
    (rows : List MeterRow) :
    updateWhere (·.id = id) (setMeter dto chance.updatedAt)
        (updateWhere (isIncumbent userId id) (demote chance.demotedAt) rows) =
      rows.map (promoting userId id dto chance) := by
  simp only [updateWhere, List.map_map, Function.comp_def, decide_eq_true_eq]
  rfl

theorem promoting_id (row : MeterRow) : (promoting userId id dto chance row).id = row.id := by
  unfold promoting
  dsimp only
  split <;> split <;> rfl

theorem promoting_holding (row : MeterRow) :
    (promoting userId id dto chance row).holding = row.holding := by
  unfold promoting
  dsimp only
  split <;> split <;> rfl

theorem promoting_userId (row : MeterRow) :
    (promoting userId id dto chance row).userId = row.userId :=
  congrArg Prod.fst (promoting_holding row)

theorem promoting_isPrimary (promotes : dto.isPrimary = .value true) (own : row.userId = userId) :
    (promoting userId id dto chance row).isPrimary = true ↔ row.id = id := by
  by_cases here : row.id = id
  · simp [promoting, here, setMeter_isPrimary_true promotes]
  · cases primary : row.isPrimary <;> simp [promoting, here, own, primary]

theorem promoting_of_ne (foreign : row.userId ≠ userId) (other : row.id ≠ id) :
    promoting userId id dto chance row = row := by
  simp [promoting, foreign, other]

theorem Kept.promote (kept : Kept rows) (promotes : dto.isPrimary = .value true)
    (mem : row ∈ rows) : Kept (rows.map (promoting row.userId row.id dto chance)) := by
  apply kept.toKeyed.map promoting_id promoting_holding
  intro other mem'
  by_cases own : other.userId = row.userId
  · rw [own]
    refine ⟨_, .moved kept.ids mem rfl (fun row _ => promoting_userId row) ?_⟩
    intro other _ own
    exact promoting_isPrimary promotes own
  · obtain ⟨p, primary⟩ := kept.primary other mem'
    refine ⟨_, primary.map (fun row _ => promoting_userId row) ?_⟩
    intro row' mem' own'
    have foreign : row'.userId ≠ row.userId := by rwa [own']
    rw [promoting_of_ne foreign]
    intro same
    exact foreign (congrArg _ (kept.eq mem' mem same))

end Promoting

theorem mem_survivors : row ∈ survivors rows userId id ↔
    row ∈ rows ∧ (row.userId = userId → row.id ≠ id) := by
  simp only [survivors, List.mem_filter, Bool.not_eq_true', Bool.eq_false_iff, ne_eq, isOwned_iff]
  tauto

theorem Keyed.survivors (keyed : Keyed rows) (userId id : String) :
    Keyed (survivors rows userId id) where
  ids := keyed.ids.sublist (List.filter_sublist.map _)
  holdings := keyed.holdings.sublist (List.filter_sublist.map _)

/-- The primary of a user stays when it is not the row that is removed. -/
theorem Primary.survives (primary : Primary rows user p) (stays : p.userId = userId → p.id ≠ id) :
    Primary (survivors rows userId id) user p := by
  apply primary.filter
  exact (List.mem_filter.mp (mem_survivors.mpr ⟨primary.mem, stays⟩)).2

theorem Kept.remove (kept : Kept rows) (mem : row ∈ rows)
    (last : row.isPrimary = true → ∀ other ∈ survivors rows row.userId row.id,
      other.userId ≠ row.userId) : Kept (survivors rows row.userId row.id) where
  toKeyed := kept.survivors row.userId row.id
  primary := by
    intro other mem'
    obtain ⟨p, primary⟩ := kept.primary other (mem_survivors.mp mem').1
    refine ⟨p, primary.survives ?_⟩
    intro own same
    rw [kept.eq primary.mem mem same] at primary
    exact last primary.isPrimary other mem' primary.owner.symm

theorem oldestMeter_spec (oldest : oldestMeter rows userId tie = some next) :
    next ∈ rows ∧ next.userId = userId ∧
      ∀ other ∈ rows, other.userId = userId → next.createdAt ≤ other.createdAt := by
  obtain ⟨mem, least⟩ := firstBy_least oldest
  obtain ⟨mem, own⟩ := List.mem_filter.mp mem
  refine ⟨mem, isOf_iff.mp own, fun other mem' own' => ?_⟩
  exact least other (List.mem_filter.mpr ⟨mem', isOf_iff.mpr own'⟩)

theorem oldestMeter_none :
    oldestMeter rows userId tie = none ↔ ∀ other ∈ rows, other.userId ≠ userId := by
  rw [oldestMeter, firstBy_eq_none, List.filter_eq_nil_iff]
  simp only [isOf_iff, ne_eq]

/-- The meter that replaces a primary is the primary. -/
theorem Primary.replaced (kept : Kept rows) (mem : row ∈ rows) (isPrimary : row.isPrimary = true)
    (oldest : oldestMeter (survivors rows row.userId row.id) row.userId tie = some next)
    (now : ℤ) :
    Primary (updateWhere (·.id = next.id) (promote now) (survivors rows row.userId row.id))
      row.userId (promote now next) := by
  obtain ⟨nextMem, own, -⟩ := oldestMeter_spec oldest
  have there : promote now next =
      (fun row => if decide (row.id = next.id) then promote now row else row) next := by simp
  rw [there]
  apply Primary.moved (kept.survivors ..).ids nextMem own
  · intro other _
    split <;> rfl
  · intro other mem' own'
    obtain ⟨p, primary⟩ := kept.primary row mem
    obtain ⟨left, stays⟩ := mem_survivors.mp mem'
    split
    · next same => simpa using same
    · next different =>
      simp only [decide_eq_true_eq] at different
      simp only [different, iff_false]
      -- the old primary is not among those that are left
      intro isPrimary'
      have := primary.only other left own' isPrimary'
      rw [primary.only row mem rfl isPrimary, ← this] at stays
      exact stays rfl rfl

theorem Kept.replace (kept : Kept rows) (mem : row ∈ rows) (isPrimary : row.isPrimary = true)
    (oldest : oldestMeter (survivors rows row.userId row.id) row.userId tie = some next)
    (now : ℤ) :
    Kept (updateWhere (·.id = next.id) (MeterService.promote now)
      (survivors rows row.userId row.id)) := by
  obtain ⟨nextMem, own, -⟩ := oldestMeter_spec oldest
  have keyed := kept.survivors row.userId row.id
  apply keyed.map (keeps_ite fun _ => promote_id) (keeps_ite fun _ => promote_holding)
  intro other mem'
  by_cases mine : other.userId = row.userId
  · rw [mine]
    exact ⟨_, .replaced kept mem isPrimary oldest now⟩
  · obtain ⟨p, primary⟩ := kept.primary other (mem_survivors.mp mem').1
    have survives : Primary (survivors rows row.userId row.id) other.userId p :=
      primary.survives fun own' => absurd (primary.owner.symm.trans own') mine
    refine ⟨_, survives.map ?_ ?_⟩
    · intro other _
      split <;> rfl
    · intro foreign there own'
      have different : foreign.id ≠ next.id := by
        intro same
        rw [keyed.eq there nextMem same, own] at own'
        exact mine own'.symm
      simp [different]

section Change
variable {rows' : List MeterRow} {call : MeterCall} {chance : MeterChance} {user : String}

theorem Change.kept (change : Change rows chance call rows') (kept : Kept rows) : Kept rows' := by
  cases change with
  | add fresh => exact kept.add fresh rfl
  | edit leaves => exact kept.edit leaves ..
  | promote promotes mem same own =>
    subst same own
    rw [updateWhere_promoting]
    exact kept.promote promotes mem
  | remove mem same own last =>
    subst same own
    exact kept.remove mem fun isPrimary => oldestMeter_none.mp (last isPrimary)
  | replace mem same own isPrimary oldest =>
    subst same own
    exact kept.replace mem isPrimary oldest _

theorem filter_survivors (foreign : user ≠ userId) (rows : List MeterRow) (id : String) :
    (survivors rows userId id).filter (isOf user) = rows.filter (isOf user) := by
  rw [survivors, List.filter_filter]
  apply List.filter_congr
  intro row _
  rw [Bool.and_eq_left_iff_imp, isOf_iff, Bool.not_eq_true', Bool.eq_false_iff, ne_eq, isOwned_iff]
  intro own owned
  exact foreign (own.symm.trans owned.2)

/-- The meters of other users. -/
theorem Change.frame (change : Change rows chance call rows') (keyed : Keyed rows)
    (foreign : user ≠ call.userId) : rows'.filter (isOf user) = rows.filter (isOf user) := by
  cases change with
  | @add userId dto fresh =>
    have other : isOf user (newMeter userId dto (!rows.any (isOf userId)) chance) = false := by
      rw [Bool.eq_false_iff, ne_eq, isOf_iff]
      exact Ne.symm foreign
    rw [List.filter_append, List.filter_singleton, other]
    exact List.append_nil _
  | edit leaves mem same own =>
    subst same own
    apply filter_map_of_fixed
    · intro other _
      split <;> rfl
    · intro other mem' mine
      apply if_neg
      intro here
      rw [keyed.eq mem' mem (of_decide_eq_true here), isOf_iff] at mine
      exact foreign mine.symm
  | promote promotes mem same own =>
    subst same own
    rw [updateWhere_promoting]
    apply filter_map_of_fixed
    · intro other _
      simp only [isOf, promoting_userId]
    · intro other mem' mine
      rw [isOf_iff] at mine
      apply promoting_of_ne
      · rw [mine]
        exact foreign
      · intro same
        rw [keyed.eq mem' mem same] at mine
        exact foreign mine.symm
  | remove => exact filter_survivors foreign ..
  | @replace row _ next _ mem same own isPrimary oldest =>
    subst same own
    have foreign : user ≠ row.userId := foreign
    rw [← filter_survivors foreign rows row.id]
    apply filter_map_of_fixed
    · intro other _
      split <;> rfl
    · intro other mem' mine
      obtain ⟨nextMem, own, -⟩ := oldestMeter_spec oldest
      apply if_neg
      intro here
      rw [(keyed.survivors ..).eq mem' nextMem (of_decide_eq_true here), isOf_iff, own] at mine
      exact foreign mine.symm

end Change

/-! ## Runs -/

/-- A call that does not overlap with another. -/
def serveStep (rows : List MeterRow) (event : MeterCall × MeterChance) : Option (List MeterRow) :=
  some (serve rows event.1 event.2).2

theorem Kept.serve (kept : Kept rows) (call : MeterCall) (chance : MeterChance) :
    Kept (serve rows call chance).2 := by
  obtain ⟨e, fails⟩ | ⟨columns, rows', succeeds, change⟩ := serve_cases rows call chance
  · rw [fails]
    exact kept
  · rw [succeeds]
    exact change.kept kept

theorem Kept.run (kept : Kept rows) (run : Run (Enabled serveStep) rows tr rows') : Kept rows' := by
  apply run.invariant kept
  intro rows event rows' kept step
  cases step
  exact kept.serve ..

/-- The meters that are left when one is removed. -/
theorem mem_survivors_iff (keyed : Keyed rows) (mem : row ∈ rows) {other : MeterRow}
    (own : other.userId = row.userId) :
    other ∈ survivors rows row.userId row.id ↔ other ∈ rows ∧ other ≠ row := by
  rw [mem_survivors]
  constructor
  · rintro ⟨mem', stays⟩
    refine ⟨mem', ?_⟩
    rintro rfl
    exact stays rfl rfl
  · rintro ⟨mem', different⟩
    exact ⟨mem', fun _ same => different (keyed.eq mem' mem same)⟩

/-- The removal of a primary meter promotes an oldest one of the meters that are left. -/
theorem remove_promotes_oldest (kept : Kept rows) (mem : row ∈ rows)
    (isPrimary : row.isPrimary = true)
    (succeeds : serve rows (.remove row.userId row.id) chance = (.ok columns, rows')) :
    (∀ other ∈ rows, other.userId = row.userId → other = row) ∨
      ∃ next ∈ rows, next ≠ row ∧ next.userId = row.userId ∧
        (∀ other ∈ rows, other ≠ row → other.userId = row.userId →
          next.createdAt ≤ other.createdAt) ∧
        Primary rows' row.userId (promote chance.updatedAt next) := by
  obtain ⟨e, fails⟩ | ⟨_, rows', same, change⟩ :=
    serve_cases rows (.remove row.userId row.id) chance
  · rw [fails] at succeeds
    cases succeeds
  rw [same] at succeeds
  cases succeeds
  cases change with
  | @remove removed _ _ mem' same' own' last =>
    rw [kept.eq mem' mem same'] at last
    refine .inl fun other mem' own => ?_
    by_contra different
    exact oldestMeter_none.mp (last isPrimary) other
      ((mem_survivors_iff kept.toKeyed mem own).mpr ⟨mem', different⟩) own
  | @replace _ _ next _ mem' same' own' isPrimary' oldest =>
    obtain ⟨left, own, least⟩ := oldestMeter_spec oldest
    obtain ⟨there, different⟩ := (mem_survivors_iff kept.toKeyed mem own).mp left
    refine .inr ⟨next, there, different, own, ?_, .replaced kept mem isPrimary oldest _⟩
    intro other mem' different own
    exact least other ((mem_survivors_iff kept.toKeyed mem own).mpr ⟨mem', different⟩) own

theorem primary_listed (kept : Kept rows) (has : ∃ row ∈ rows, row.userId = userId) :
    ∃ p, rows.filter (fun row => isOf userId row && row.isPrimary) = [p] ∧
      ∀ listed, Lists rows userId listed → listed.head? = some p.columns := by
  obtain ⟨row, mem, rfl⟩ := has
  obtain ⟨p, primary⟩ := kept.primary row mem
  exact ⟨p, primary.eq_filter kept.ids, fun _ => primary.head?_of_lists⟩

theorem serve_frame (kept : Kept rows) (foreign : user ≠ call.userId) :
    (serve rows call chance).2.filter (isOf user) = rows.filter (isOf user) := by
  obtain ⟨e, fails⟩ | ⟨columns, rows', succeeds, change⟩ := serve_cases rows call chance
  · rw [fails]
  · rw [succeeds]
    exact change.frame kept.toKeyed foreign

theorem serve_fails (fails : (serve rows call chance).1 = .error e) :
    (serve rows call chance).2 = rows := by
  obtain ⟨e, same⟩ | ⟨columns, rows', succeeds, -⟩ := serve_cases rows call chance
  · rw [same]
  · rw [succeeds] at fails
    cases fails

/-- In every run, a user with meters has one primary meter, which is listed first; no call touches a
meter of another user; a call that fails changes nothing; and the removal of a primary meter
promotes an oldest one of those that are left. -/
theorem meters_keep_primary (kept : Kept rows₀) (run : Run (Enabled serveStep) rows₀ tr rows) :
    (∀ userId, (∃ row ∈ rows, row.userId = userId) →
      ∃ p, rows.filter (fun row => isOf userId row && row.isPrimary) = [p] ∧
        ∀ listed, Lists rows userId listed → listed.head? = some p.columns) ∧
    ∀ call chance,
      (∀ user, user ≠ call.userId →
        (serve rows call chance).2.filter (isOf user) = rows.filter (isOf user)) ∧
      (∀ e, (serve rows call chance).1 = .error e → (serve rows call chance).2 = rows) ∧
      ∀ row ∈ rows, row.isPrimary = true → call = .remove row.userId row.id →
        ∀ columns rows', serve rows call chance = (.ok columns, rows') →
          (∀ other ∈ rows, other.userId = row.userId → other = row) ∨
            ∃ next ∈ rows, next ≠ row ∧ next.userId = row.userId ∧
              (∀ other ∈ rows, other ≠ row → other.userId = row.userId →
                next.createdAt ≤ other.createdAt) ∧
              rows'.filter (fun other => isOf row.userId other && other.isPrimary) =
                [promote chance.updatedAt next] := by
  have kept := kept.run run
  refine ⟨fun _ => primary_listed kept, fun call chance => ⟨fun _ => serve_frame kept,
    fun _ => serve_fails, ?_⟩⟩
  rintro row mem isPrimary rfl columns rows' succeeds
  have kept' : Kept rows' := by
    have := kept.serve (.remove row.userId row.id) chance
    rwa [succeeds] at this
  obtain last | ⟨next, mem', different, own, least, primary⟩ :=
    remove_promotes_oldest kept mem isPrimary succeeds
  · exact .inl last
  · exact .inr ⟨next, mem', different, own, least, primary.eq_filter kept'.ids⟩

/-- Three meters of one user and one of another; the second is made primary, and then removed. -/
def meterCalls : List (MeterCall × MeterChance) :=
  [(.add "raju" ⟨"33009605", none, none, some "Home"⟩, { id := "a", createdAt := 1 }),
    (.add "raju" ⟨"33009606", none, some .desco, none⟩, { id := "b", createdAt := 2 }),
    (.add "raju" ⟨"33009605", none, none, none⟩, { id := "c", createdAt := 3 }),
    (.add "mina" ⟨"33009605", none, none, none⟩, { id := "d", createdAt := 4 }),
    (.update "mina" "b" ⟨.absent, .value true⟩, {}),
    (.update "raju" "b" ⟨.absent, .null⟩, {}),
    (.update "raju" "b" ⟨.value "Shop", .value true⟩, {}),
    (.remove "raju" "b", {})]

theorem meters_keep_primary_meterCalls :
    ∃ rows, Run (Enabled serveStep) [] meterCalls rows ∧
      rows.map (fun row => (row.id, row.isPrimary)) = [("a", true), ("d", true)] ∧
      ∃ p, rows.filter (fun row => isOf "raju" row && row.isPrimary) = [p] ∧
        ∀ listed, Lists rows "raju" listed → listed.head? = some p.columns := by
  have reached : (exec serveStep [] meterCalls).any fun rows =>
      rows.map (fun row => (row.id, row.isPrimary)) = [("a", true), ("d", true)] ∧
        rows.any (isOf "raju") := by
    decide +kernel
  obtain ⟨rows, run, result⟩ := exec_any reached
  obtain ⟨flags, has⟩ := of_decide_eq_true result
  refine ⟨rows, run, flags, (meters_keep_primary .nil run).1 "raju" ?_⟩
  simpa using has

end ElectroSync.MeterService
