import ElectroSync.Nesco.DateDecoding

/-!
# What an accepted date means

The parsers compare the year, the month and the day of the instant with what was printed, and leave
the hour, the minute and the second to the number of their digits. A minute or a second of sixty or
more is therefore carried, unless it is carried into the next day.
-/

namespace ElectroSync
open Calendar Matcher

/-- The wall clock in Dhaka at an instant. -/
def dhakaClock (t : ℤ) : Clock := Clock.ofSeconds (t + dhakaUtcOffsetMinutes * 60)

/-- An instant that is answered shows the clock that was printed, and a text that shows no clock
that exists is rejected. -/
structure Faithful (answer : Option ℤ) (prints : Clock → Prop) : Prop where
  accepted : ∀ t, answer = some t → prints (dhakaClock t)
  rejected : (∀ c, prints c → ¬ c.Exists) → answer = none

/-- The minute or the second is out of range, and the date is accepted nevertheless. -/
structure Carries (c : Clock) : Prop extends Readable c where
  overflow : 60 ≤ c.minute ∨ 60 ≤ c.second

variable {answer : Option ℤ} {prints : Clock → Prop} {c : Clock}

theorem dhakaClock_dhakaSeconds (real : c.Exists) : dhakaClock (dhakaSeconds c) = c := by
  rw [dhakaClock, dhakaSeconds, sub_add_cancel, Clock.ofSeconds_toSeconds real]

theorem dhakaClock_exists (t : ℤ) : (dhakaClock t).Exists := Clock.ofSeconds_exists _

theorem Readable.exists_iff (readable : Readable c) (natural : Natural c) :
    c.Exists ↔ ¬ (60 ≤ c.minute ∨ 60 ≤ c.second) := by
  obtain ⟨-, -, -, hour, minute, second⟩ := natural
  constructor
  · rintro ⟨-, -, minute', second'⟩
    omega
  · intro inRange
    have time := readable.time
    rw [Clock.time] at time
    exact ⟨readable.date, by omega, by omega, by omega⟩

/-- A parser that reads what is printed is faithful unless something is carried. -/
theorem Reads.faithful_iff (reads : Reads answer prints) :
    Faithful answer prints ↔ ¬ ∃ c, prints c ∧ Carries c := by
  constructor
  · rintro faithful ⟨c, printed, readable, overflow⟩
    have answered := (reads.accepts _).mpr ⟨c, printed, readable, rfl⟩
    have same := reads.unique (faithful.accepted _ answered) printed
    have real := dhakaClock_exists (dhakaSeconds c)
    rw [same] at real
    exact (readable.exists_iff (reads.natural printed)).mp real overflow
  · intro none
    have real {c : Clock} (printed : prints c) (readable : Readable c) : c.Exists :=
      (readable.exists_iff (reads.natural printed)).mpr fun overflow =>
        none ⟨c, printed, readable, overflow⟩
    constructor
    · intro t answered
      obtain ⟨c, printed, readable, rfl⟩ := (reads.accepts t).mp answered
      rwa [dhakaClock_dhakaSeconds (real printed readable)]
    · intro unreal
      rw [Option.eq_none_iff_forall_ne_some]
      intro t answered
      obtain ⟨c, printed, readable, -⟩ := (reads.accepts t).mp answered
      exact unreal c printed (real printed readable)

/-! ## Errors -/

theorem dhakaTimeToEpochSeconds_error {parts : Clock} {field raw : String}
    (h : dhakaTimeToEpochSeconds parts field raw = .error e) : e.reason = .layoutChanged := by
  simp only [dhakaTimeToEpochSeconds] at h
  split at h <;> cases h
  rfl

theorem to24Hour_error {digits half : List Char} {raw : String}
    (h : to24Hour digits half raw = .error e) : e.reason = .layoutChanged := by
  simp only [to24Hour] at h
  split_ifs at h
  cases h
  rfl

theorem parseInstallationDate_error {raw : String} (h : parseInstallationDate raw = .error e) :
    e.reason = .layoutChanged := by
  unfold parseInstallationDate parseSlashDateTime at h
  split at h
  · cases h
    rfl
  · exact dhakaTimeToEpochSeconds_error h

theorem parseRechargeDate_error {raw : String} (h : parseRechargeDate raw = .error e) :
    e.reason = .layoutChanged := by
  unfold parseRechargeDate at h
  split at h
  · cases h
    rfl
  next m _ =>
  split at h
  · cases h
    rfl
  · rcases half : to24Hour m.rawHour m.meridiem raw with e' | hour
    · rw [half] at h
      cases h
      exact to24Hour_error half
    · rw [half] at h
      exact dhakaTimeToEpochSeconds_error h

/-- What is accepted means what was printed, and nothing else is accepted, exactly when no minute
and no second is carried; whatever is rejected is rejected as a change of the layout. -/
theorem accepted_dates_faithful_iff (raw : String) :
    (Faithful (parseInstallationDate raw).toOption (Prints SlashText raw) ↔
        ¬ ∃ c, Prints SlashText raw c ∧ Carries c) ∧
      (Faithful (parseRechargeDate raw).toOption (Prints RechargeText raw) ↔
        ¬ ∃ c, Prints RechargeText raw c ∧ Carries c) ∧
      (Faithful (parseBalanceAsOf raw) (PrintsBalance raw) ↔
        ¬ ∃ c, PrintsBalance raw c ∧ Carries c) ∧
      ∀ e, parseInstallationDate raw = .error e ∨ parseRechargeDate raw = .error e →
        e.reason = .layoutChanged := by
  refine ⟨(reads_installationDate raw).faithful_iff, (reads_rechargeDate raw).faithful_iff,
    (reads_balanceAsOf raw).faithful_iff, fun e => ?_⟩
  rintro (error | error)
  · exact parseInstallationDate_error error
  · exact parseRechargeDate_error error

/-- A quarter past fourteen, with a minute of seventy-five: read as a quarter past fifteen. -/
theorem accepted_dates_carried :
    parseInstallationDate "15/03/2021 14:75:00" = .ok 1615799700 ∧
      ¬ ∀ raw, Faithful (parseInstallationDate raw).toOption (Prints SlashText raw) := by
  refine ⟨by decide +kernel, fun faithful => ?_⟩
  have shown : (exec slashPattern (JsString.trim (toAsciiDigits "15/03/2021 14:75:00")).toList).map
      SlashMatch.clock = some ⟨⟨2021, 2, 15⟩, 14, 75, 0⟩ := by decide +kernel
  obtain ⟨m, found, clock⟩ := Option.map_eq_some_iff.mp shown
  have printed : Prints SlashText "15/03/2021 14:75:00" ⟨⟨2021, 2, 15⟩, 14, 75, 0⟩ :=
    (prints_iff SlashText.trimmed _).mpr (exec_slashPattern_iff.mp ⟨m, found, clock⟩)
  refine (reads_installationDate _).faithful_iff.mp (faithful _) ⟨_, printed, ⟨?_, ?_, ?_⟩, ?_⟩
  · decide
  · exact ⟨by decide, by decide⟩
  · decide
  · decide

end ElectroSync
