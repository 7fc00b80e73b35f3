import ElectroSync.Common.Exceptions
import ElectroSync.Database.Types
import ElectroSync.Library.Rows
import Mathlib.Data.List.Sort

/-!
# Meters (`meter/meter.service.ts`)

Adding, updating, removing and listing the meters of a user. The statements against the table are
definitions of their own, and `add`, `update` and `remove` are the calls as they run when no other
call interferes: a call that throws rolls its transaction back.
-/

namespace ElectroSync.MeterService
open Rows

structure MeterRow where
  id : String
  userId : String
  customerNo : String
  label : Option String
  type : MeterType
  provider : MeterProvider
  isPrimary : Bool
  createdAt : ℤ
  updatedAt : ℤ
  deriving DecidableEq

/-- `METER_COLUMNS` -/
structure MeterColumns where
  id : String
  customerNo : String
  type : MeterType
  provider : MeterProvider
  label : Option String
  isPrimary : Bool
  createdAt : ℤ
  deriving DecidableEq

def MeterRow.columns (row : MeterRow) : MeterColumns :=
  ⟨row.id, row.customerNo, row.type, row.provider, row.label, row.isPrimary, row.createdAt⟩

/-- A property that is `null` or missing is `none`. -/
structure AddMeterDto where
  customerNo : String
  type : Option MeterType := none
  provider : Option MeterProvider := none
  label : Option String := none
  deriving DecidableEq

structure UpdateMeterDto where
  label : Field String := .absent
  isPrimary : Field Bool := .absent
  deriving DecidableEq

def alreadyAdded : HttpException := ⟨409, "You have already added that meter.", none⟩

def cannotUnset : HttpException :=
  ⟨400, "A meter cannot be un-set as primary. Make another meter primary instead.", none⟩

def noSuchMeter : HttpException := ⟨404, "No such meter.", none⟩

/-- What a call meets: the id of a new row, its readings of the clock (`updatedAt` is the one of its
last statement), the database's choice among meters of one age, and whether the database fails
it. -/
structure MeterChance where
  id : String := ""
  createdAt : ℤ := 0
  demotedAt : ℤ := 0
  updatedAt : ℤ := 0
  tie : ℕ := 0
  fails : Bool := false
  deriving DecidableEq

/-! ## Statements -/

def isOf (userId : String) (row : MeterRow) : Bool := row.userId = userId

/-- `eq(meter.id, id)` and `eq(meter.userId, userId)` -/
def isOwned (userId id : String) (row : MeterRow) : Bool := row.id = id && row.userId = userId

/-- The rows that a promotion of `id` demotes. -/
def isIncumbent (userId id : String) (row : MeterRow) : Bool :=
  row.userId = userId && row.id ≠ id && row.isPrimary

def newMeter (userId : String) (dto : AddMeterDto) (isPrimary : Bool) (chance : MeterChance) :
    MeterRow where
  id := chance.id
  userId := userId
  customerNo := dto.customerNo
  label := dto.label
  type := dto.type.getD defaultMeterType
  provider := dto.provider.getD defaultMeterProvider
  isPrimary := isPrimary
  createdAt := chance.createdAt
  updatedAt := chance.updatedAt

/-- The primary key, and `meter_user_id_provider_customer_no_idx`. -/
def duplicates (row other : MeterRow) : Bool :=
  row.id = other.id ||
    row.userId = other.userId && row.provider = other.provider && row.customerNo = other.customerNo

def demote (now : ℤ) (row : MeterRow) : MeterRow :=
  { row with isPrimary := false, updatedAt := now }

def promote (now : ℤ) (row : MeterRow) : MeterRow :=
  { row with isPrimary := true, updatedAt := now }

/-- `undefined` leaves a column alone. A `null` for `isPrimary` does not get here. -/
def setMeter (dto : UpdateMeterDto) (now : ℤ) (row : MeterRow) : MeterRow :=
  { row with
    label := dto.label.spread row.label
    isPrimary := (dto.isPrimary.spread (some row.isPrimary)).getD row.isPrimary
    updatedAt := now }

/-- The oldest meter of a user. -/
def oldestMeter (rows : List MeterRow) (userId : String) (tie : ℕ) : Option MeterRow :=
  firstBy (·.createdAt) tie (rows.filter (isOf userId))

/-- The rows that the `DELETE` of `remove` leaves. -/
def survivors (rows : List MeterRow) (userId id : String) : List MeterRow :=
  rows.filter fun row => !isOwned userId id row

/-! ## Calls -/

def add (rows : List MeterRow) (userId : String) (dto : AddMeterDto) (chance : MeterChance) :
    Except HttpException MeterColumns × List MeterRow :=
  if chance.fails then (.error internalError, rows)
  else
    let row := newMeter userId dto (!rows.any (isOf userId)) chance
    if rows.any (duplicates row) then (.error alreadyAdded, rows)
    else (.ok row.columns, rows ++ [row])

def update (rows : List MeterRow) (userId id : String) (dto : UpdateMeterDto)
    (chance : MeterChance) : Except HttpException (Option MeterColumns) × List MeterRow :=
  if dto.isPrimary = .value false then (.error cannotUnset, rows)
  else if chance.fails then (.error internalError, rows)
  else if !rows.any (isOwned userId id) then (.error noSuchMeter, rows)
  else
    let demoted :=
      if dto.isPrimary = .value true then
        updateWhere (isIncumbent userId id) (demote chance.demotedAt) rows
      else rows
    -- the column is `NOT NULL`
    if dto.isPrimary = .null then (.error internalError, rows)
    else
      let updated := updateWhere (·.id = id) (setMeter dto chance.updatedAt) demoted
      (.ok ((updated.find? (·.id = id)).map (·.columns)), updated)

def remove (rows : List MeterRow) (userId id : String) (chance : MeterChance) :
    Except HttpException Unit × List MeterRow :=
  if chance.fails then (.error internalError, rows)
  else
    match rows.find? (isOwned userId id) with
    | none => (.error noSuchMeter, rows)
    | some removed =>
      let left := survivors rows userId id
      if !removed.isPrimary then (.ok (), left)
      else
        match oldestMeter left userId chance.tie with
        | none => (.ok (), left)
        | some next => (.ok (), updateWhere (·.id = next.id) (promote chance.updatedAt) left)

/-- Postgres orders `false` before `true`. -/
def listedBefore (a b : MeterRow) : Prop :=
  a.isPrimary = true ∧ b.isPrimary = false ∨ a.isPrimary = b.isPrimary ∧ a.createdAt ≤ b.createdAt

instance : DecidableRel listedBefore := fun a b => by
  unfold listedBefore
  infer_instance

/-- What the query of `list` may return: the order of rows that its clause does not decide is up to
the database. -/
def Lists (rows : List MeterRow) (userId : String) (listed : List MeterColumns) : Prop :=
  ∃ mine : List MeterRow, mine.Perm (rows.filter (isOf userId)) ∧ mine.Pairwise listedBefore ∧
    listed = mine.map (·.columns)

def list (rows : List MeterRow) (userId : String) : List MeterColumns :=
  ((rows.filter (isOf userId)).insertionSort listedBefore).map (·.columns)

instance : Std.Total listedBefore := ⟨fun a b => by
  simp only [listedBefore]
  have := le_total a.createdAt b.createdAt
  cases a.isPrimary <;> cases b.isPrimary <;> simp [this]⟩

instance : IsTrans MeterRow listedBefore := ⟨fun a b c hab hbc => by
  simp only [listedBefore] at *
  cases ha : a.isPrimary <;> cases hb : b.isPrimary <;> cases hc : c.isPrimary <;>
    simp_all <;> omega⟩

theorem lists_list (rows : List MeterRow) (userId : String) :
    Lists rows userId (list rows userId) :=
  ⟨_, List.perm_insertionSort _ _, List.pairwise_insertionSort _ _, rfl⟩

/-- A call of the three that change the table. -/
inductive MeterCall
  | add (userId : String) (dto : AddMeterDto)
  | update (userId id : String) (dto : UpdateMeterDto)
  | remove (userId id : String)
  deriving DecidableEq

def MeterCall.userId : MeterCall → String
  | add userId _ | update userId _ _ | remove userId _ => userId

/-- The answer of a call, with the columns that it returns, and the table after it. -/
def serve (rows : List MeterRow) (call : MeterCall) (chance : MeterChance) :
    Except HttpException (Option MeterColumns) × List MeterRow :=
  match call with
  | .add userId dto =>
    let (answer, rows) := add rows userId dto chance
    (answer.map some, rows)
  | .update userId id dto => update rows userId id dto chance
  | .remove userId id =>
    let (answer, rows) := remove rows userId id chance
    (answer.map fun _ => none, rows)

end ElectroSync.MeterService
