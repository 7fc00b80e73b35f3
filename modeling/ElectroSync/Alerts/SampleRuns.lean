import ElectroSync.Alerts.Measurements

/-!
# The samples of a run of polls

A sample chains off the last reading. As long as the readings do not go back in time, the stored
windows stay apart and every sample built is stored; a portal that stamps every reading with a
nondecreasing settlement instant makes the windows tile, and then the stored amounts add up to what
the portal credited and what the balance lost.
-/

namespace ElectroSync
open Transition Windows

variable {limits : UsageSamplingLimits} {meter : Meter} {m : Measurements}

def windows (samples : List UsageSample) : List (ℤ × ℤ) := samples.map (·.window)

@[simp] theorem windows_append (samples : List UsageSample) (s : UsageSample) :
    windows (samples ++ [s]) = windows samples ++ [s.window] := List.map_append

theorem insertSample_of_fresh {samples : List UsageSample} {s : UsageSample}
    (fresh : ∀ s' ∈ samples, s'.windowStart ≠ s.windowStart) :
    insertSample samples s = samples ++ [s] := by
  apply if_neg
  intro taken
  obtain ⟨s', member, same⟩ := List.any_eq_true.mp taken
  exact fresh s' member (of_decide_eq_true same)

theorem insertSample_subset {samples : List UsageSample} (s : UsageSample) :
    samples ⊆ insertSample samples s := by
  unfold insertSample
  split
  · exact List.Subset.refl _
  · exact List.subset_append_left _ _

theorem mem_insertSample {samples : List UsageSample} {s s' : UsageSample}
    (h : s ∈ insertSample samples s') : s ∈ samples ∨ s = s' := by
  unfold insertSample at h
  split at h
  · exact .inl h
  · simpa using h

@[simp] theorem read_sample (m : Measurements) (limits : UsageSamplingLimits)
    (settings : Option UserSettings) (snapshot : NescoSnapshot) (now : ℤ) :
    (m.read limits settings snapshot now).sample =
      m.nextSample limits snapshot (resolveReadingInstant snapshot.balanceAsOf now).instant := rfl

/-- A sample starts where the last reading was and ends at the new one. -/
theorem nextSample_window (h : m.nextSample limits snapshot readingAt = some s) :
    ∃ balance, m.lastReading = some (balance, s.windowStart) ∧ s.windowEnd = readingAt := by
  obtain ⟨⟨balance, start⟩, last, built⟩ := Option.bind_eq_some_iff.mp h
  obtain ⟨hstart, hend, -⟩ := buildUsageSample_spec built
  exact ⟨balance, by rw [last, hstart], hend⟩

/-! ## Readings that do not go back in time -/

/-- No reading that a poll can commit lies before the end of a stored window. -/
def InOrder (store : MeterStore) (e : PollEvent) : Prop :=
  ∀ snapshot, e.input.snapshot = .ok snapshot → e.input.successWrite = .ok () →
    ∀ s ∈ store.samples,
      s.windowEnd ≤ (resolveReadingInstant snapshot.balanceAsOf e.input.now).instant

/-- The samples that the committed polls of a run built. -/
def builtSamples (trace : List PollEvent) : List UsageSample :=
  (committedReadings trace).filterMap (·.sample)

theorem builtSamples_snoc (trace : List PollEvent) (e : PollEvent) :
    builtSamples (trace ++ [e]) =
      builtSamples trace ++ (e.report.committed.bind (·.sample)).toList := by
  rcases committed : e.report.committed with _ | reading
  · simp [builtSamples, committedReadings, committed]
  · rcases built : reading.sample with _ | s <;>
      simp [builtSamples, committedReadings, committed, built]

/-- What the samples of a run are supposed to satisfy: no overlap, and nothing built is lost. -/
structure WindowsKept (trace : List PollEvent) (samples : List UsageSample) : Prop where
  separated : Separated (windows samples)
  stored : builtSamples trace ⊆ samples

/-- The last reading lies after every stored window. -/
structure Chained (m : Measurements) : Prop where
  fresh : m.lastReading = none → m.samples = []
  after : ∀ balance at', m.lastReading = some (balance, at') → ∀ s ∈ m.samples, s.windowEnd ≤ at'
  separated : Separated (windows m.samples)

theorem Chained.empty : Chained {} := ⟨fun _ => rfl, nofun, .nil⟩

/-- A sample built off the last reading is stored at the end. -/
theorem Chained.insert (h : Chained m) (built : m.nextSample limits snapshot readingAt = some s) :
    insertSample m.samples s = m.samples ++ [s] := by
  obtain ⟨balance, last, -⟩ := nextSample_window built
  apply insertSample_of_fresh
  intro s' member
  have ends := h.after _ _ last s' member
  have advances := s'.advances
  omega

/-- A reading not before the stored windows keeps them in a chain, and its sample is stored. -/
theorem Chained.record (h : Chained m) (settings : Option UserSettings) (snapshot : NescoSnapshot)
    (now : ℤ) (inOrder : ∀ s ∈ m.samples,
      s.windowEnd ≤ (resolveReadingInstant snapshot.balanceAsOf now).instant) :
    Chained (m.record (m.read limits settings snapshot now)) ∧
      (m.read limits settings snapshot now).sample.toList ⊆
        (m.record (m.read limits settings snapshot now)).samples := by
  rcases built : (m.read limits settings snapshot now).sample with _ | s
  · have same : (m.record (m.read limits settings snapshot now)).samples = m.samples := by
      rw [Measurements.record, built]
      rfl
    refine ⟨⟨nofun, ?_, same ▸ h.separated⟩, List.nil_subset _⟩
    intro balance instant last s member
    cases last
    exact inOrder s (same ▸ member)
  · have stored : (m.record (m.read limits settings snapshot now)).samples = m.samples ++ [s] := by
      rw [Measurements.record, built]
      exact h.insert built
    obtain ⟨balance, last, ends⟩ := nextSample_window built
    refine ⟨⟨nofun, ?_, ?_⟩, ?_⟩
    · intro balance' instant last' s' member
      cases last'
      rw [stored, List.mem_append, List.mem_singleton] at member
      rcases member with member | rfl
      · exact inOrder s' member
      · exact ends.le
    · rw [stored, windows_append]
      apply h.separated.snoc
      intro w member
      obtain ⟨s', hs', rfl⟩ := List.mem_map.mp member
      exact h.after _ _ last s' hs'
    · rw [stored]
      exact List.subset_append_right _ _

theorem record_subset {reading : CommittedReading} :
    m.samples ⊆ (m.record reading).samples := by
  rw [Measurements.record]
  cases reading.sample with
  | none => exact List.Subset.refl _
  | some s => exact insertSample_subset s

/-- In a run in which no committed reading goes back before a stored window, the windows are
pairwise disjoint and every sample built by a committed poll is stored. -/
theorem windowsKept_of_inOrder
    (run : Run (Guarded (PollStep limits meter) InOrder) {} trace store) :
    WindowsKept trace store.samples := by
  have kept : Chained store.measurements ∧ builtSamples trace ⊆ store.measurements.samples := by
    refine run.invariantTrace (P := fun trace store => Chained store.measurements ∧
      builtSamples trace ⊆ store.measurements.samples) ⟨.empty, List.nil_subset _⟩ ?_
    rintro trace store e store' - ⟨chained, stored⟩ ⟨step, inOrder⟩
    have step := step.measurements
    rw [builtSamples_snoc]
    generalize store'.measurements = m' at step ⊢
    cases step with
    | failed _ uncommitted _ =>
      rw [uncommitted]
      exact ⟨chained, by simpa using stored⟩
    | recorded snapshot sent anomalies scraped written committed =>
      obtain ⟨chained', last⟩ := chained.record e.input.settings snapshot e.input.now
        (inOrder snapshot scraped written)
      rw [committed]
      exact ⟨chained', List.append_subset.mpr
        ⟨List.Subset.trans stored record_subset, last⟩⟩
  exact ⟨kept.1.separated, kept.2⟩

/-! ## Readings that do go back -/

/-- A stored sample was built by a committed poll, and ends at its reading. -/
theorem sample_origin (run : Run (MeasurementStep limits) {} trace m) :
    ∀ s ∈ m.samples, ∃ e ∈ trace, ∃ reading, e.report.committed = some reading ∧
      reading.sample = some s ∧ s.windowEnd = reading.readingAt ∧
      reading.readingAt ≤ e.input.now := by
  refine run.invariantTrace (P := fun trace m => ∀ s ∈ m.samples, ∃ e ∈ trace, ∃ reading,
    e.report.committed = some reading ∧ reading.sample = some s ∧
      s.windowEnd = reading.readingAt ∧ reading.readingAt ≤ e.input.now) ?_ ?_
  · intro s member
    cases member
  intro trace m e m' _ origins step s member
  have earlier : s ∈ m.samples → ∃ e' ∈ trace ++ [e], ∃ reading,
      e'.report.committed = some reading ∧ reading.sample = some s ∧
        s.windowEnd = reading.readingAt ∧ reading.readingAt ≤ e'.input.now := fun old => by
    obtain ⟨e', he', origin⟩ := origins s old
    exact ⟨e', List.mem_append_left _ he', origin⟩
  cases step with
  | failed => exact earlier member
  | recorded snapshot _ _ _ _ committed =>
    rw [Measurements.record] at member
    rcases built : (m.read limits e.input.settings snapshot e.input.now).sample with _ | s'
    · rw [built] at member
      exact earlier member
    · rw [built] at member
      rcases mem_insertSample member with old | rfl
      · exact earlier old
      · obtain ⟨balance, -, ends⟩ := nextSample_window built
        exact ⟨e, List.mem_append_right _ (List.mem_singleton_self e), _, committed, built, ends,
          resolveReadingInstant_le _ _⟩

/-- An unstamped reading after one that went back builds a sample from there to the poll. -/
private theorem read_after_back (limits : UsageSamplingLimits)
    (settings settings' : Option UserSettings) (m : Measurements) (back next : NescoSnapshot)
    (unstamped : next.balanceAsOf = none)
    (later : (resolveReadingInstant back.balanceAsOf now).instant < now') :
    ∃ s, ((m.record (m.read limits settings back now)).read limits settings' next now').sample =
      some s ∧ s.windowStart = (resolveReadingInstant back.balanceAsOf now).instant ∧
      s.windowEnd = now' := by
  have instant : (resolveReadingInstant next.balanceAsOf now').instant = now' := by
    rw [unstamped]
    rfl
  rw [read_sample, instant]
  rcases built : (m.record (m.read limits settings back now)).nextSample limits next now' with
    _ | s
  · exact absurd (buildUsageSample_eq_none_iff.mp built) (not_le.mpr later)
  · obtain ⟨balance, last, ends⟩ := nextSample_window built
    obtain ⟨-, starts⟩ := Prod.mk.inj (Option.some.inj last)
    exact ⟨s, rfl, starts.symm, ends⟩

/-- The condition is needed: once a committed reading goes back before the end of a stored window,
the next unstamped reading overlaps that window or is dropped. -/
theorem not_windowsKept_of_back (run : Run (PollStep limits meter) {} trace store)
    (step : PollStep limits meter store e store') (back : ¬ InOrder store e)
    (next : PollStep limits meter store' e' store'')
    (scraped : e'.input.snapshot = .ok snapshot) (unstamped : snapshot.balanceAsOf = none)
    (written : e'.input.successWrite = .ok ())
    (later : ∀ d ∈ trace, d.input.now < e'.input.now) :
    ¬ WindowsKept (trace ++ [e, e']) store''.samples := by
  intro kept
  have step := step.measurements
  have next := next.measurements
  simp only [InOrder, not_forall, not_le] at back
  obtain ⟨goingBack, scrapedBack, writtenBack, s, stored, before⟩ := back
  obtain ⟨d, hd, reading, -, -, ends, polled⟩ := sample_origin (run_measurements run) s stored
  have last := (ends.trans_le polled).trans_lt (later d hd)
  have builtLast : (e'.report.committed.bind (·.sample)).toList ⊆ store''.measurements.samples := by
    have split : trace ++ [e, e'] = (trace ++ [e]) ++ [e'] := by simp
    have stored := kept.stored
    rw [split, builtSamples_snoc] at stored
    exact (List.append_subset.mp stored).2
  have apart : Separated (windows store''.measurements.samples) := kept.separated
  clear kept
  generalize store'.measurements = m' at step next
  generalize store''.measurements = m'' at next builtLast apart
  cases step with
  | failed fault => exact fault _ scrapedBack writtenBack
  | recorded back' _ _ scraped' =>
    cases scrapedBack.symm.trans scraped'
    cases next with
    | failed fault => exact fault _ scraped written
    | recorded snapshot' _ _ scraped'' _ committed =>
      cases scraped.symm.trans scraped''
      obtain ⟨s', built, starts, ends'⟩ := read_after_back limits e.input.settings
        e'.input.settings store.measurements goingBack snapshot unstamped (before.trans last)
      rw [committed] at builtLast
      have new := builtLast (Option.mem_toList.mpr built)
      have differ : s.window ≠ s'.window := fun same =>
        last.ne ((congrArg Prod.snd same).trans ends')
      have disjoint := apart.disjoint
        (List.mem_map_of_mem (record_subset (record_subset stored))) (List.mem_map_of_mem new)
        differ
      have shared : s.windowEnd ∈ Set.Ioc s'.windowStart s'.windowEnd :=
        ⟨starts ▸ before, ends' ▸ last.le⟩
      exact Set.disjoint_left.mp disjoint ⟨s.advances, le_rfl⟩ shared

/-- Polls of one meter, with the hour of each and the stamp, if any, in hours. -/
def hourlyPolls (readings : List (ℤ × Option ℤ)) : List PollInput :=
  readings.map fun (hour, stamp) =>
    .untroubled ⟨100, stamp.map (· * secondsPerHour), []⟩ (hour * msPerHour)

def runHourly (readings : List (ℤ × Option ℤ)) : List PollEvent × MeterStore :=
  runPolls ⟨500, 48⟩ ⟨"m1", "ayesha", "77", none⟩ (hourlyPolls readings) {}

theorem windowsKept_of_inOrder_hourly :
    WindowsKept (runHourly [(85, some 84), (100, none), (109, some 108)]).1
      (runHourly [(85, some 84), (100, none), (109, some 108)]).2.samples := by
  simp only [runHourly, hourlyPolls, List.map_cons, List.map_nil]
  refine windowsKept_of_inOrder (Run.cons_iff.mpr ⟨_, ⟨rfl, ?_⟩, Run.cons_iff.mpr ⟨_, ⟨rfl, ?_⟩,
    Run.cons_iff.mpr ⟨_, ⟨rfl, ?_⟩, .nil⟩⟩⟩)
  all_goals
    intro snapshot scraped _
    cases scraped
    decide +kernel

/-- After an estimated reading the next stamp may lie inside the window just stored: then windows
overlap, or a sample is dropped because another one starts where it does. -/
theorem windowsKept_fails :
    (¬ ∀ limits meter trace store, Run (PollStep limits meter) {} trace store →
      (trace.map (·.input.now)).Pairwise (· < ·) → Separated (windows store.samples)) ∧
    ¬ ∀ limits meter trace store, Run (PollStep limits meter) {} trace store →
      (trace.map (·.input.now)).Pairwise (· < ·) → builtSamples trace ⊆ store.samples := by
  constructor
  · intro separated
    have apart := separated _ _ _ _ (runPolls_run ⟨500, 48⟩ ⟨"m1", "ayesha", "77", none⟩
      (hourlyPolls [(85, some 84), (100, none), (106, some 96), (110, some 108)]) {})
      (by decide +kernel)
    have overlap : windows (runHourly [(85, some 84), (100, none), (106, some 96),
        (110, some 108)]).2.samples =
      [(84 * msPerHour, 100 * msPerHour), (96 * msPerHour, 108 * msPerHour)] := by decide +kernel
    rw [← runHourly, overlap, Separated, List.pairwise_pair] at apart
    have shared : 98 * msPerHour ∈ Set.Ioc (84 * msPerHour) (100 * msPerHour) := by decide
    exact Set.disjoint_left.mp apart shared (by decide)
  · intro stored
    exact absurd (stored _ _ _ _ (runPolls_run ⟨500, 48⟩ ⟨"m1", "ayesha", "77", none⟩
      (hourlyPolls [(85, some 84), (100, none), (106, some 84), (110, none)]) {})
      (by decide +kernel)) (by decide +kernel)

end ElectroSync
