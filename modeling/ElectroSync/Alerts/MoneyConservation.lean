import ElectroSync.Alerts.SampleRuns

/-!
# Conservation of money over a run of polls

The portal keeps a ledger of recharges and lists, with every snapshot, the entries up to its stamp.
When it also stamps every snapshot, in order, the samples of a run tile the time between the first
and the last stamp, and their amounts account for every recharge in between once.
-/

namespace ElectroSync
open Transition Windows Rounding

variable {limits : UsageSamplingLimits} {meter : Meter} {m : Measurements}
  {trace : List PollEvent} {e : PollEvent} {ledger recharges : List NescoRechargeDto}

/-! ## The portal -/

/-- What identifies a recharge across snapshots, whose serial numbers shift. -/
def NescoRechargeDto.entry (r : NescoRechargeDto) : ℤ × String × ℚ × ℚ :=
  (r.rechargedDate, r.rechargeStatus, r.usableAmount, r.rechargeAmount)

/-- The entries dated at or before `asOf`. -/
def entriesUpTo (asOf : ℤ) (recharges : List NescoRechargeDto) : List (ℤ × String × ℚ × ℚ) :=
  (recharges.filter (·.rechargedDate ≤ asOf)).map (·.entry)

/-- The snapshots behind the committed readings of a run, oldest first. -/
def committedSnapshots (trace : List PollEvent) : List NescoSnapshot :=
  trace.filterMap fun e => if e.report.committed.isSome then e.input.snapshot.toOption else none

/-- A portal that stamps what it settled, in order, and lists its ledger up to each stamp. -/
structure HonestPortal (ledger : List NescoRechargeDto) (trace : List PollEvent) : Prop where
  stamped : ∀ e ∈ trace, e.report.committed.isSome → ∀ snapshot ∈ e.input.snapshot.toOption,
    ∃ asOf ∈ snapshot.balanceAsOf, asOf * 1000 ≤ e.input.now
  ordered : (committedSnapshots trace).Pairwise fun s t =>
    ∀ a ∈ s.balanceAsOf, ∀ b ∈ t.balanceAsOf, a ≤ b ∧ (a = b → s.balance = t.balance)
  complete : ∀ s ∈ committedSnapshots trace, ∀ asOf ∈ s.balanceAsOf,
    (entriesUpTo asOf s.recharges).Perm (entriesUpTo asOf ledger)
  money : ∀ s ∈ committedSnapshots trace, Cents s.balance ∧
    ∀ r ∈ s.recharges, Cents r.usableAmount ∧ Cents r.rechargeAmount

theorem committedSnapshots_snoc (trace : List PollEvent) (e : PollEvent) :
    committedSnapshots (trace ++ [e]) = committedSnapshots trace ++ committedSnapshots [e] :=
  List.filterMap_append

theorem HonestPortal.init (h : HonestPortal ledger (trace ++ [e])) : HonestPortal ledger trace := by
  obtain ⟨stamped, ordered, complete, money⟩ := h
  rw [committedSnapshots_snoc] at ordered complete money
  exact ⟨fun e' member => stamped e' (List.mem_append_left _ member),
    (List.pairwise_append.mp ordered).1,
    fun s member => complete s (List.mem_append_left _ member),
    fun s member => money s (List.mem_append_left _ member)⟩

/-! ## Sums over a ledger -/

/-- The sum of an amount of the entries over the successful ones in a window. -/
private theorem successfulWithin_entries (column : ℤ × String × ℚ × ℚ → ℚ)
    {amount : NescoRechargeDto → ℚ} (hcolumn : ∀ r, amount r = column r.entry)
    (recharges : List NescoRechargeDto) {a b asOf : ℤ} (hb : b ≤ asOf * 1000) :
    successfulWithin amount recharges a b =
      (((entriesUpTo asOf recharges).filter fun x =>
        x.2.1 = "success" ∧ a < x.1 * 1000 ∧ x.1 * 1000 ≤ b).map column).sum := by
  have amounts : column ∘ NescoRechargeDto.entry = amount := funext fun r => (hcolumn r).symm
  simp only [successfulWithin, successful, sumWithin, entriesUpTo, List.filter_map, List.map_map,
    List.filter_filter, amounts]
  congr 2
  apply List.filter_congr
  intro r _
  rw [Bool.eq_iff_iff]
  simp only [Function.comp_apply, Bool.and_eq_true, decide_eq_true_eq]
  simp only [NescoRechargeDto.instant, NescoRechargeDto.entry]
  constructor
  · rintro ⟨⟨low, high⟩, success⟩
    exact ⟨⟨success, low, high⟩, by omega⟩
  · rintro ⟨⟨success, low, high⟩, -⟩
    exact ⟨⟨low, high⟩, success⟩

theorem successfulWithin_congr (column : ℤ × String × ℚ × ℚ → ℚ)
    {amount : NescoRechargeDto → ℚ} (hcolumn : ∀ r, amount r = column r.entry)
    (same : (entriesUpTo asOf recharges).Perm (entriesUpTo asOf ledger)) {a b : ℤ}
    (hb : b ≤ asOf * 1000) :
    successfulWithin amount recharges a b = successfulWithin amount ledger a b := by
  rw [successfulWithin_entries column hcolumn recharges hb,
    successfulWithin_entries column hcolumn ledger hb]
  exact ((same.filter _).map column).sum_eq

/-! ## The invariant -/

/-- The samples account for everything between two readings. -/
structure Accounts (ledger : List NescoRechargeDto) (opening closing : ℚ) (start stop : ℤ)
    (samples : List UsageSample) : Prop where
  tiles : Tiles start (windows samples) stop
  rawDelta : (samples.map (·.rawDelta)).sum =
    opening - closing + successfulWithin (·.usableAmount) ledger start stop
  rechargePaid : (samples.map (·.rechargePaid)).sum =
    successfulWithin (·.rechargeAmount) ledger start stop

theorem Accounts.nil (ledger : List NescoRechargeDto) (balance : ℚ) (at' : ℤ) :
    Accounts ledger balance balance at' at' [] :=
  ⟨rfl, by simp [successfulWithin], by simp [successfulWithin]⟩

/-- A sample from the last reading to the new one extends the account. -/
theorem Accounts.snoc (h : Accounts ledger opening closing start stop samples)
    (built : buildUsageSample input limits = some s)
    (hopen : input.openingBalance = closing) (hstart : input.windowStart = stop)
    (hstop : input.windowEnd ≤ asOf * 1000)
    (same : (entriesUpTo asOf input.recharges).Perm (entriesUpTo asOf ledger))
    (cents : Cents input.openingBalance ∧ Cents input.closingBalance ∧
      ∀ r ∈ input.recharges, Cents r.usableAmount ∧ Cents r.rechargeAmount) :
    Accounts ledger opening input.closingBalance start input.windowEnd (samples ++ [s]) := by
  obtain ⟨sstart, send, -⟩ := buildUsageSample_spec built
  obtain ⟨paid, raw⟩ := buildUsageSample_exact built cents.1 cents.2.1 cents.2.2
  have usable : successfulWithin (·.usableAmount) input.recharges stop input.windowEnd =
      successfulWithin (·.usableAmount) ledger stop input.windowEnd :=
    successfulWithin_congr (·.2.2.1) (fun _ => rfl) same hstop
  have gross : successfulWithin (·.rechargeAmount) input.recharges stop input.windowEnd =
      successfulWithin (·.rechargeAmount) ledger stop input.windowEnd :=
    successfulWithin_congr (·.2.2.2) (fun _ => rfl) same hstop
  rw [hstart, gross] at paid
  rw [hopen, hstart, usable] at raw
  have advances := s.advances
  rw [sstart, send, hstart] at advances
  have window : s.window = (stop, input.windowEnd) := by
    rw [UsageSample.window, sstart, send, hstart]
  have first : start ≤ stop := h.tiles.le
  refine ⟨?_, ?_, ?_⟩
  · rw [windows_append, window]
    exact h.tiles.snoc advances
  · rw [List.map_append, List.sum_append, h.rawDelta, List.map_singleton, List.sum_singleton, raw,
      successfulWithin, successfulWithin, successfulWithin,
      ← sumWithin_add first advances.le]
    ring
  · rw [List.map_append, List.sum_append, h.rechargePaid, List.map_singleton, List.sum_singleton,
      paid]
    exact sumWithin_add first advances.le

/-- What the measurements of a run owe the snapshots it committed. -/
def Conserved (ledger : List NescoRechargeDto) : List NescoSnapshot → Measurements → Prop
  | [], m => m.lastReading = none ∧ m.samples = []
  | first :: rest, m =>
    let last := rest.getLastD first
    ∃ start stop, first.balanceAsOf = some start ∧ last.balanceAsOf = some stop ∧
      m.lastReading = some (last.balance, stop * 1000) ∧
      Accounts ledger first.balance last.balance (start * 1000) (stop * 1000) m.samples

theorem Conserved.record (h : Conserved ledger snapshots m)
    (stamp : snapshot.balanceAsOf = some asOf) (past : asOf * 1000 ≤ now)
    (ordered : ∀ s ∈ snapshots, ∀ a ∈ s.balanceAsOf,
      a ≤ asOf ∧ (a = asOf → s.balance = snapshot.balance))
    (same : (entriesUpTo asOf snapshot.recharges).Perm (entriesUpTo asOf ledger))
    (cents : ∀ s ∈ snapshots ++ [snapshot], Cents s.balance ∧
      ∀ r ∈ s.recharges, Cents r.usableAmount ∧ Cents r.rechargeAmount) :
    Conserved ledger (snapshots ++ [snapshot])
      (m.record (m.read limits settings snapshot now)) := by
  have instant : (resolveReadingInstant snapshot.balanceAsOf now).instant = asOf * 1000 := by
    rw [stamp, resolveReadingInstant_stamped past]
  have lastReading : (m.record (m.read limits settings snapshot now)).lastReading =
      some (snapshot.balance, asOf * 1000) := by
    simp [Measurements.record, Measurements.read, instant]
  have samples : (m.record (m.read limits settings snapshot now)).samples =
      insertBuilt m.samples (m.nextSample limits snapshot (asOf * 1000)) := by
    rw [Measurements.record, read_sample, instant]
  cases snapshots with
  | nil =>
    obtain ⟨noReading, noSamples⟩ := h
    refine ⟨asOf, asOf, stamp, stamp, lastReading, ?_⟩
    rw [samples, Measurements.nextSample, noReading, noSamples]
    exact .nil ledger _ _
  | cons first rest =>
    obtain ⟨start, stop, hfirst, hlast, reading, accounts⟩ := h
    have member : rest.getLastD first ∈ first :: rest := List.getLastD_mem_cons ..
    obtain ⟨le, repeated⟩ := ordered _ member stop hlast
    have newest : (rest.append [snapshot]).getLastD first = snapshot := List.getLastD_concat
    refine ⟨start, asOf, hfirst, by rw [newest, stamp], by rw [lastReading, newest], ?_⟩
    rw [samples, newest, Measurements.nextSample, reading, Option.bind_some]
    rcases built : buildUsageSample _ limits with _ | s
    · have back := buildUsageSample_eq_none_iff.mp built
      obtain rfl : stop = asOf := by
        simp only at back
        omega
      rw [← repeated rfl]
      exact accounts
    · have fresh : insertSample m.samples s = m.samples ++ [s] := by
        apply insertSample_of_fresh
        intro s' hs'
        have before := accounts.tiles.start_lt (List.mem_map_of_mem hs')
        rw [(buildUsageSample_spec built).1]
        exact before.ne
      rw [insertBuilt, fresh]
      obtain ⟨centsLast, -⟩ := cents _ (List.mem_append_left _ member)
      obtain ⟨centsNew, centsRecharges⟩ := cents snapshot (List.mem_append_right _ (by simp))
      exact accounts.snoc built rfl rfl le_rfl same ⟨centsLast, centsNew, centsRecharges⟩

theorem Conserved.step (h : Conserved ledger (committedSnapshots trace) m)
    (step : MeasurementStep limits m e m') (honest : HonestPortal ledger (trace ++ [e])) :
    Conserved ledger (committedSnapshots (trace ++ [e])) m' := by
  rw [committedSnapshots_snoc]
  cases step with
  | failed _ uncommitted =>
    have none : committedSnapshots [e] = [] := by simp [committedSnapshots, uncommitted]
    rw [none, List.append_nil]
    exact h
  | recorded snapshot sent anomalies scraped written committed =>
    have one : committedSnapshots [e] = [snapshot] := by
      simp [committedSnapshots, committed, scraped, Except.toOption]
    have snapshots := committedSnapshots_snoc trace e
    rw [one] at snapshots ⊢
    obtain ⟨asOf, stamp, past⟩ := honest.stamped e (by simp) (by simp [committed]) snapshot
      (by rw [scraped]; rfl)
    have last : snapshot ∈ committedSnapshots (trace ++ [e]) := by
      rw [snapshots]
      simp
    have ordered := honest.ordered
    rw [snapshots] at ordered
    refine h.record stamp past ?_ (honest.complete _ last _ stamp) ?_
    · intro s member a ha
      exact (List.pairwise_append.mp ordered).2.2 s member snapshot (by simp) a ha _ stamp
    · intro s member
      exact honest.money s (by rwa [snapshots])

/-- Conservation of money: the stored samples tile the time from the first committed stamp to the
last, and add up to what the balance lost and what the recharges in between credited. -/
theorem samples_conserve_money (run : Run (PollStep limits meter) {} trace store)
    (honest : HonestPortal ledger trace) :
    (committedSnapshots trace = [] → store.samples = []) ∧
      ∀ first last, (committedSnapshots trace).head? = some first →
        (committedSnapshots trace).getLast? = some last →
        ∃ start stop, first.balanceAsOf = some start ∧ last.balanceAsOf = some stop ∧
          Accounts ledger first.balance last.balance (start * 1000) (stop * 1000)
            store.samples := by
  have conserved : Conserved ledger (committedSnapshots trace) store.measurements := by
    refine (run_measurements run).invariantTrace (P := fun trace m => HonestPortal ledger trace →
      Conserved ledger (committedSnapshots trace) m) (fun _ => ⟨rfl, rfl⟩) ?_ honest
    intro trace m e m' _ ih step honest
    exact (ih honest.init).step step honest
  rcases snapshots : committedSnapshots trace with _ | ⟨first, rest⟩
  · rw [snapshots] at conserved
    exact ⟨fun _ => conserved.2, nofun⟩
  · rw [snapshots] at conserved
    obtain ⟨start, stop, hfirst, hlast, -, accounts⟩ := conserved
    refine ⟨nofun, ?_⟩
    intro first' last head hl
    rw [List.getLast?_cons, ← List.getLastD_eq_getLast?] at hl
    cases head
    cases hl
    exact ⟨start, stop, hfirst, hlast, accounts⟩

/-- Two recharges, the second of them failed. -/
def sampleLedger : List NescoRechargeDto :=
  [⟨1, "1111", 40, 42, 20, 0, 500, 398, "bKash", 150000, "success"⟩,
    ⟨2, "2222", 0, 0, 0, 0, 300, 300, "bKash", 160000, "failed"⟩]

/-- A first reading, a failed scrape, a repeated stamp, a transaction that rolls back, and two
further settlements. -/
def ledgerPolls : List PollInput :=
  [.untroubled ⟨120.5, some 100000, []⟩ 101000000,
    { PollInput.untroubled ⟨0, none, []⟩ 102000000 with snapshot := .error "UNREACHABLE" },
    .untroubled ⟨120.5, some 100000, []⟩ 103000000,
    { PollInput.untroubled ⟨90, some 140000, []⟩ 141000000 with
      successWrite := .error "could not serialize access" },
    .untroubled ⟨455.25, some 155000, sampleLedger⟩ 161000000,
    .untroubled ⟨431.15, some 200000, sampleLedger⟩ 200000000]

theorem samples_conserve_money_ledgerPolls :
    Accounts sampleLedger 120.5 431.15 100000000 200000000
      (runPolls ⟨500, 48⟩ ⟨"m1", "ayesha", "77", none⟩ ledgerPolls {}).2.samples := by
  have run := runPolls_run ⟨500, 48⟩ ⟨"m1", "ayesha", "77", none⟩ ledgerPolls {}
  have honest : HonestPortal sampleLedger
      (runPolls ⟨500, 48⟩ ⟨"m1", "ayesha", "77", none⟩ ledgerPolls {}).1 :=
    ⟨by decide +kernel, by decide +kernel, by decide +kernel, by decide +kernel⟩
  obtain ⟨start, stop, hstart, hstop, accounts⟩ := (samples_conserve_money run honest).2
    ⟨120.5, some 100000, []⟩ ⟨431.15, some 200000, sampleLedger⟩ (by decide +kernel)
    (by decide +kernel)
  cases hstart
  cases hstop
  exact accounts

end ElectroSync
