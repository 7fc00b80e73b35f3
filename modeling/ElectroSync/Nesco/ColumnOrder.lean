import ElectroSync.Nesco.PortalTable
import ElectroSync.Library.Related
import Mathlib.Data.List.GetD
import Mathlib.Data.List.Nodup

/-!
# The report tables are read by heading

A table with further columns beside its own, in any order, is read like the table itself: a heading
that the parser uses is resolved to the column that it heads in either table, and that column holds
the same cell in each row.
-/

namespace ElectroSync
open Related

/-! ## Rearranged tables -/

/-- A list in the order of the given positions. -/
def pick (order : List ℕ) (l : List String) : List String := order.map fun i => l.getD i ""

namespace ReportTable

/-- The columns of one table, and after them those of another. -/
def beside (table extra : ReportTable) : ReportTable where
  headings := table.headings ++ extra.headings
  rows := List.zipWith (· ++ ·) table.rows extra.rows

def reorder (order : List ℕ) (table : ReportTable) : ReportTable where
  headings := pick order table.headings
  rows := table.rows.map (pick order)

/-- Every row has a cell for each heading. -/
def Wide (table : ReportTable) : Prop := ∀ row ∈ table.rows, row.length = table.headings.length

instance (table : ReportTable) : Decidable table.Wide :=
  inferInstanceAs (Decidable (∀ row ∈ table.rows, _))

/-- The second table has the columns of the first and columns without a used heading, as long as
the first, and all of them in another order. -/
def Rearranged (host : Externals) (used : List String) (table table' : ReportTable) : Prop :=
  ∃ extra order, extra.Wide ∧ extra.rows.length = table.rows.length ∧
    (∀ heading ∈ extra.headings, ∀ heading' ∈ used,
      normalizeText host heading ≠ normalizeText host heading') ∧
    order.Perm (List.range (table.headings.length + extra.headings.length)) ∧
    table' = (table.beside extra).reorder order

end ReportTable

/-- Both errors say that the layout of the page has changed. -/
def LayoutChanged (e e' : NescoPortalError) : Prop :=
  e.reason = .layoutChanged ∧ e'.reason = .layoutChanged

/-- Both give the same records, or both report a changed layout. -/
abbrev SameOutcome (x y : Except NescoPortalError α) : Prop := Lift LayoutChanged Eq x y

/-- A column of the one table holds the same cells as a column of the other. -/
def SameColumn (rows rows' : List (List String)) (i i' : ℕ) : Prop :=
  ∀ pair ∈ rows.zip rows', pair.1[i]? = pair.2[i']?

variable {host : Externals} {headers headers' extra : List String}
  {rows rows' extraRows : List (List String)} {heading : String} {order : List ℕ} {l : List String}

theorem pick_getElem? (order : List ℕ) (l : List String) (i' : ℕ) :
    (pick order l)[i']? = order[i']?.map fun i => l.getD i "" := by
  rw [pick, List.getElem?_map]

theorem mem_pick (perm : order.Perm (List.range l.length)) :
    heading ∈ pick order l ↔ heading ∈ l := by
  simp only [pick, List.mem_map, perm.mem_iff, List.mem_range]
  rw [List.mem_iff_getElem]
  constructor
  · rintro ⟨i, bound, rfl⟩
    exact ⟨i, bound, (List.getD_eq_getElem l "" bound).symm⟩
  · rintro ⟨i, bound, rfl⟩
    exact ⟨i, bound, List.getD_eq_getElem l "" bound⟩

/-- The position of a heading in the rearranged table stands for its old position. -/
theorem order_idxOf (perm : order.Perm (List.range (headers.length + extra.length)))
    (distinct : headers.Nodup) (mem : heading ∈ headers) (unused : heading ∉ extra) :
    order[(pick order (headers ++ extra)).idxOf heading]? = some (headers.idxOf heading) := by
  have present : heading ∈ pick order (headers ++ extra) :=
    (mem_pick (by rwa [List.length_append])).mpr (List.mem_append_left _ mem)
  have found := List.getElem?_idxOf present
  rw [pick_getElem?] at found
  obtain ⟨i, position, here⟩ := Option.map_eq_some_iff.mp found
  rw [position, Option.some_inj]
  have bound : i < (headers ++ extra).length := by
    rw [List.length_append]
    exact List.mem_range.mp (perm.mem_iff.mp (List.mem_of_getElem? position))
  rw [List.getD_eq_getElem _ _ bound] at here
  have own : i < headers.length := by
    by_contra! beyond
    rw [List.getElem_append_right beyond] at here
    exact unused (here ▸ List.getElem_mem _)
  rw [List.getElem_append_left own] at here
  rw [← here, distinct.idxOf_getElem]

theorem pick_map (f : String → String) (bound : ∀ i ∈ order, i < l.length) :
    (pick order l).map f = pick order (l.map f) := by
  rw [pick, List.map_map, pick]
  apply List.map_congr_left
  intro i mem
  have here := bound i mem
  rw [Function.comp_apply, List.getD_eq_getElem _ _ here,
    List.getD_eq_getElem _ _ (by rwa [List.length_map]), List.getElem_map]

theorem map_pick_rows (f : String → String) (perm : order.Perm (List.range (n + m)))
    (wide : ∀ row ∈ rows, row.length = n) (wideExtra : ∀ row ∈ extraRows, row.length = m) :
    ((List.zipWith (· ++ ·) rows extraRows).map (pick order)).map (fun row => row.map f) =
      (List.zipWith (· ++ ·) (rows.map fun row => row.map f)
        (extraRows.map fun row => row.map f)).map (pick order) := by
  induction rows generalizing extraRows with
  | nil => rfl
  | cons row rows ih =>
    cases extraRows with
    | nil => rfl
    | cons extraRow extraRows =>
      have rest := ih (fun row mem => wide row (List.mem_cons_of_mem _ mem))
        fun row mem => wideExtra row (List.mem_cons_of_mem _ mem)
      have bound : ∀ i ∈ order, i < (row ++ extraRow).length := by
        intro i mem
        rw [List.length_append, wide row List.mem_cons_self, wideExtra extraRow List.mem_cons_self]
        exact List.mem_range.mp (perm.mem_iff.mp mem)
      simp only [List.map_cons, List.zipWith_cons_cons]
      rw [rest, pick_map f bound, List.map_append]

/-- The column of a heading holds the same cells before and after. -/
theorem sameColumn_pick (perm : order.Perm (List.range (headers.length + extra.length)))
    (distinct : headers.Nodup) (mem : heading ∈ headers) (unused : heading ∉ extra)
    (wide : ∀ row ∈ rows, row.length = headers.length) (aligned : extraRows.length = rows.length) :
    SameColumn rows ((List.zipWith (· ++ ·) rows extraRows).map (pick order))
      (headers.idxOf heading) ((pick order (headers ++ extra)).idxOf heading) := by
  induction rows generalizing extraRows with
  | nil =>
    intro pair mem
    cases mem
  | cons row rows ih =>
    cases extraRows with
    | nil => cases aligned
    | cons extraRow extraRows =>
      refine List.forall_mem_cons.mpr ⟨?_, ih (fun row mem => wide row (List.mem_cons_of_mem _ mem))
        (Nat.succ_inj.mp aligned)⟩
      have inside : headers.idxOf heading < row.length := by
        rw [wide row List.mem_cons_self]
        exact List.idxOf_lt_length_of_mem mem
      have inside' : headers.idxOf heading < (row ++ extraRow).length := by
        rw [List.length_append]
        exact Nat.lt_add_right _ inside
      rw [pick_getElem?, order_idxOf perm distinct mem unused, Option.map_some,
        List.getD_eq_getElem _ _ inside', List.getElem_append_left inside,
        List.getElem?_eq_getElem inside]

/-! ## The tables after extraction -/

namespace ReportTable
variable {table table' : ReportTable} {used : List String}

/-- The normalised cells of a table. -/
def cells (host : Externals) (table : ReportTable) : List (List String) :=
  table.rows.map fun tr => tr.map (normalizeText host)

def headerTexts (host : Externals) (table : ReportTable) : List String :=
  table.headings.map (normalizeText host)

/-- A heading in use is resolved in both tables or in neither, and to the same cells. -/
theorem Rearranged.column (rearranged : Rearranged host used table table') (wide : table.Wide)
    (distinct : (table.headerTexts host).Nodup) (mem : heading ∈ used) :
    Lift LayoutChanged (SameColumn (table.cells host) (table'.cells host))
      (requireColumn host (table.headerTexts host) heading)
      (requireColumn host (table'.headerTexts host) heading) := by
  obtain ⟨extra, order, wideExtra, aligned, unused, perm, rfl⟩ := rearranged
  have total : (table.headerTexts host).length + (extra.headerTexts host).length =
      table.headings.length + extra.headings.length := by
    simp only [headerTexts, List.length_map]
  have headings : ((table.beside extra).reorder order).headerTexts host =
      pick order (table.headerTexts host ++ extra.headerTexts host) := by
    rw [headerTexts, reorder, beside, pick_map, List.map_append]
    · rfl
    · intro i position
      rw [List.length_append]
      exact List.mem_range.mp (perm.mem_iff.mp position)
  have rows : ((table.beside extra).reorder order).cells host =
      (List.zipWith (· ++ ·) (table.cells host) (extra.cells host)).map (pick order) := by
    simp only [cells, reorder, beside]
    exact map_pick_rows _ perm wide wideExtra
  have free : normalizeText host heading ∉ extra.headerTexts host := by
    intro taken
    obtain ⟨other, mem', same⟩ := List.mem_map.mp taken
    exact unused other mem' heading mem same
  have present : normalizeText host heading ∈
      pick order (table.headerTexts host ++ extra.headerTexts host) ↔
      normalizeText host heading ∈ table.headerTexts host := by
    rw [mem_pick (by rwa [List.length_append, total]), List.mem_append, or_iff_left free]
  rw [← total] at perm
  rw [headings, rows, requireColumn, requireColumn]
  by_cases own : normalizeText host heading ∈ table.headerTexts host
  · rw [if_pos own, if_pos (present.mpr own)]
    refine .ok (sameColumn_pick perm distinct own free ?_ ?_)
    · simp only [cells, headerTexts, List.forall_mem_map, List.length_map]
      exact wide
    · simpa only [cells, List.length_map] using aligned
  · rw [if_neg own, if_neg (mt present.mp own)]
    exact .error ⟨rfl, rfl⟩

theorem Rearranged.length_cells (rearranged : Rearranged host used table table') :
    (table.cells host).length = (table'.cells host).length := by
  obtain ⟨extra, order, -, aligned, -, -, rfl⟩ := rearranged
  simp [cells, reorder, beside, aligned]

end ReportTable

/-! ## Rows -/

section
variable {i i' : ℕ} {row row' : List String} {f g : β → Except NescoPortalError α} {field : String}

/-- A cell that both rows hold, or both lack. -/
theorem lift_cell {f g : String → Except NescoPortalError α} (same : row[i]? = row'[i']?)
    (next : ∀ cell, SameOutcome (f cell) (g cell)) :
    SameOutcome (requireCell row i heading >>= f) (requireCell row' i' heading >>= g) := by
  rw [requireCell, requireCell, same]
  cases row'[i']? with
  | none => exact .error ⟨rfl, rfl⟩
  | some cell => exact next cell

theorem parseAmount_layout (raw : Option String) (field : String) :
    SameOutcome (parseAmount raw field) (parseAmount raw field) := by
  cases raw with
  | none => exact .error ⟨rfl, rfl⟩
  | some raw =>
    by_cases blank : cleaned raw = "" ∨ cleaned raw = "-"
    · rw [parseAmount_blank blank]
      exact .ok rfl
    · cases parsed : parseAmount (some raw) field with
      | ok v => exact .ok rfl
      | error e =>
        obtain ⟨nonempty, nodash⟩ := not_or.mp blank
        obtain ⟨message, same⟩ := @parseAmount_error raw field nonempty nodash (by simp [parsed])
        cases parsed.symm.trans same
        exact .error ⟨rfl, rfl⟩

theorem lift_amount {f g : ℚ → Except NescoPortalError α} (same : row[i]? = row'[i']?)
    (next : ∀ amount, SameOutcome (f amount) (g amount)) :
    SameOutcome (requireCell row i heading >>= fun cell => parseAmount (some cell) field >>= f)
      (requireCell row' i' heading >>= fun cell => parseAmount (some cell) field >>= g) := by
  refine lift_cell same fun cell => (parseAmount_layout _ _).bind fun amount _ h => ?_
  cases h
  exact next amount

theorem to24Hour_layout (rawHour meridiem : List Char) (raw : String) :
    SameOutcome (to24Hour rawHour meridiem raw) (to24Hour rawHour meridiem raw) := by
  simp only [to24Hour]
  split
  · exact .error ⟨rfl, rfl⟩
  · split
    · exact .ok rfl
    · exact .ok rfl

theorem dhakaTimeToEpochSeconds_layout (parts : Calendar.Clock) (field raw : String) :
    SameOutcome (dhakaTimeToEpochSeconds parts field raw)
      (dhakaTimeToEpochSeconds parts field raw) := by
  simp only [dhakaTimeToEpochSeconds]
  split
  · exact .error ⟨rfl, rfl⟩
  · exact .ok rfl

theorem parseRechargeDate_layout (raw : String) :
    SameOutcome (parseRechargeDate raw) (parseRechargeDate raw) := by
  unfold parseRechargeDate
  split
  · exact .error ⟨rfl, rfl⟩
  split
  · exact .error ⟨rfl, rfl⟩
  refine (to24Hour_layout _ _ _).bind fun hour _ same => ?_
  cases same
  exact dhakaTimeToEpochSeconds_layout _ _ _

end

theorem recharge_rearranged {table table' : ReportTable} {html html' : String}
    (read : host.reportTable html = some table) (read' : host.reportTable html' = some table')
    (wide : table.Wide) (distinct : (table.headerTexts host).Nodup)
    (rearranged : table.Rearranged host RechargeColumn.headings table') :
    SameOutcome (parseRechargeHistory host html) (parseRechargeHistory host html') := by
  have column {heading : String} (mem : heading ∈ RechargeColumn.headings) :=
    rearranged.column wide distinct mem
  simp only [parseRechargeHistory, extractTable, read, read', Option.map_some]
  refine (column (by simp [RechargeColumn.headings])).bind fun _ _ sn => ?_
  refine (column (by simp [RechargeColumn.headings])).bind fun _ _ token => ?_
  refine (column (by simp [RechargeColumn.headings])).bind fun _ _ meterRent => ?_
  refine (column (by simp [RechargeColumn.headings])).bind fun _ _ demandCharge => ?_
  refine (column (by simp [RechargeColumn.headings])).bind fun _ _ vat => ?_
  refine (column (by simp [RechargeColumn.headings])).bind fun _ _ concession => ?_
  refine (column (by simp [RechargeColumn.headings])).bind fun _ _ usable => ?_
  refine (column (by simp [RechargeColumn.headings])).bind fun _ _ rechargeAmount => ?_
  refine (column (by simp [RechargeColumn.headings])).bind fun _ _ method => ?_
  refine (column (by simp [RechargeColumn.headings])).bind fun _ _ date => ?_
  refine (column (by simp [RechargeColumn.headings])).bind fun _ _ status => ?_
  refine (Lift.mapM (List.forall₂_iff_zip.mpr ⟨rearranged.length_cells, ?_⟩)).mono
    fun _ _ same => List.forall₂_eq_eq_eq ▸ same
  intro row row' pair
  refine lift_amount (sn _ pair) fun _ => ?_
  refine lift_cell (token _ pair) fun _ => ?_
  refine lift_amount (meterRent _ pair) fun _ => ?_
  refine lift_amount (demandCharge _ pair) fun _ => ?_
  refine lift_amount (vat _ pair) fun _ => ?_
  refine lift_amount (concession _ pair) fun _ => ?_
  refine lift_amount (rechargeAmount _ pair) fun _ => ?_
  refine lift_amount (usable _ pair) fun _ => ?_
  refine lift_cell (method _ pair) fun _ => ?_
  refine lift_cell (date _ pair) fun _ => (parseRechargeDate_layout _).bind fun _ _ same => ?_
  refine lift_cell (status _ pair) fun _ => ?_
  cases same
  exact .ok rfl

theorem consumption_rearranged {table table' : ReportTable} {html html' : String}
    (read : host.reportTable html = some table) (read' : host.reportTable html' = some table')
    (wide : table.Wide) (distinct : (table.headerTexts host).Nodup)
    (rearranged : table.Rearranged host ConsumptionColumn.headings table') :
    SameOutcome (parseMonthlyConsumption host html) (parseMonthlyConsumption host html') := by
  have column {heading : String} (mem : heading ∈ ConsumptionColumn.headings) :=
    rearranged.column wide distinct mem
  simp only [parseMonthlyConsumption, extractTable, read, read', Option.map_some]
  refine (column (by simp [ConsumptionColumn.headings])).bind fun _ _ year => ?_
  refine (column (by simp [ConsumptionColumn.headings])).bind fun _ _ month => ?_
  refine (column (by simp [ConsumptionColumn.headings])).bind fun _ _ rechargeAmount => ?_
  refine (column (by simp [ConsumptionColumn.headings])).bind fun _ _ concession => ?_
  refine (column (by simp [ConsumptionColumn.headings])).bind fun _ _ electricityCharge => ?_
  refine (column (by simp [ConsumptionColumn.headings])).bind fun _ _ meterRent => ?_
  refine (column (by simp [ConsumptionColumn.headings])).bind fun _ _ demandCharge => ?_
  refine (column (by simp [ConsumptionColumn.headings])).bind fun _ _ vat => ?_
  refine (column (by simp [ConsumptionColumn.headings])).bind fun _ _ usageAmount => ?_
  refine (column (by simp [ConsumptionColumn.headings])).bind fun _ _ remainBalance => ?_
  refine (column (by simp [ConsumptionColumn.headings])).bind fun _ _ usageKwh => ?_
  refine (Lift.mapM (List.forall₂_iff_zip.mpr ⟨rearranged.length_cells, ?_⟩)).mono
    fun _ _ same => List.forall₂_eq_eq_eq ▸ same
  intro row row' pair
  refine lift_amount (year _ pair) fun _ => ?_
  refine lift_cell (month _ pair) fun _ => ?_
  refine lift_amount (rechargeAmount _ pair) fun _ => ?_
  refine lift_amount (concession _ pair) fun _ => ?_
  refine lift_amount (electricityCharge _ pair) fun _ => ?_
  refine lift_amount (meterRent _ pair) fun _ => ?_
  refine lift_amount (demandCharge _ pair) fun _ => ?_
  refine lift_amount (vat _ pair) fun _ => ?_
  refine lift_amount (usageAmount _ pair) fun _ => ?_
  refine lift_amount (remainBalance _ pair) fun _ => ?_
  refine lift_amount (usageKwh _ pair) fun _ => ?_
  exact .ok rfl

/-- A report and any rearrangement of it are read alike, by either parser. -/
theorem tables_read_by_heading (host : Externals) (html html' : String) (table table' : ReportTable)
    (read : host.reportTable html = some table) (read' : host.reportTable html' = some table')
    (wide : table.Wide) (distinct : (table.headings.map (normalizeText host)).Nodup) :
    (table.Rearranged host RechargeColumn.headings table' →
      SameOutcome (parseRechargeHistory host html) (parseRechargeHistory host html')) ∧
    (table.Rearranged host ConsumptionColumn.headings table' →
      SameOutcome (parseMonthlyConsumption host html) (parseMonthlyConsumption host html')) :=
  ⟨recharge_rearranged read read' wide distinct, consumption_rearranged read read' wide distinct⟩

/-- A recharge report of one row, and the same with a column for remarks and in reverse order. -/
def rechargeReport : ReportTable where
  headings := RechargeColumn.headings
  rows := [["১", "1234-5678", "40", "35", "25.5", "", "399.5", "500", "bKash",
    "05-FEB-2025 02:30 PM", "Success"]]

def remarks : ReportTable where
  headings := ["মন্তব্য"]
  rows := [["-"]]

def twoReports : Externals where
  reportTable html :=
    if html = "plain" then some rechargeReport
    else some ((rechargeReport.beside remarks).reorder (List.range 12).reverse)
  normalizeNFC := id
  toLowerCase s := String.ofList (s.toList.map Char.toLower)

/-- No two headings are spelled alike, and none has white space to collapse or to trim. -/
theorem headings_spelled : ∃ texts : List (List Char),
    remarks.headings ++ RechargeColumn.headings = texts.map String.ofList ∧ texts.Nodup ∧
      ∀ text ∈ texts, ((collapse false text).dropWhile JsString.isSpace).rdropWhile
        JsString.isSpace = text :=
  ⟨[_, _, _, _, _, _, _, _, _, _, _, _], rfl, by decide +kernel, by decide +kernel⟩

theorem headings_nodup : (remarks.headings ++ RechargeColumn.headings).Nodup := by
  obtain ⟨texts, spelled, distinct, -⟩ := headings_spelled
  rw [spelled]
  exact List.Nodup.map (fun _ _ => String.ofList_injective) distinct

theorem normalizeText_twoReports : ∀ heading ∈ remarks.headings ++ RechargeColumn.headings,
    normalizeText twoReports heading = heading := by
  obtain ⟨texts, spelled, -, tidy⟩ := headings_spelled
  rw [spelled, List.forall_mem_map]
  intro text mem
  rw [normalizeText, JsString.trim, String.toList_ofList]
  change String.ofList (((collapse false (String.ofList text).toList).dropWhile _).rdropWhile _) = _
  rw [String.toList_ofList, tidy text mem]

theorem tables_read_by_heading_twoReports :
    SameOutcome (parseRechargeHistory twoReports "plain")
      (parseRechargeHistory twoReports "reversed") := by
  obtain ⟨-, distinct, apart⟩ := List.nodup_append.mp headings_nodup
  have distinct : (rechargeReport.headings.map (normalizeText twoReports)).Nodup := by
    have plain : rechargeReport.headings.map (normalizeText twoReports) = _ :=
      List.map_congr_left fun heading mem =>
        normalizeText_twoReports heading (List.mem_append_right _ mem)
    rwa [plain, List.map_id']
  refine (tables_read_by_heading twoReports "plain" "reversed" rechargeReport _ rfl rfl
    (by decide) distinct).1 ⟨remarks, (List.range 12).reverse, by decide, rfl, ?_,
      List.reverse_perm _, rfl⟩
  intro heading mem heading' mem'
  rw [normalizeText_twoReports heading (List.mem_append_left _ mem),
    normalizeText_twoReports heading' (List.mem_append_right _ mem')]
  exact apart heading mem heading' mem'

end ElectroSync
