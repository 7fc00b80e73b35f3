import ElectroSync.Alerts.AlertEvaluation
import ElectroSync.Alerts.UsageAnomaly
import ElectroSync.Library.Run
import ElectroSync.User.Settings
import Mathlib.Tactic.MkIffOfInductiveProp

/-!
# The domain of the resolved settings

The validators keep every stored value that is not `null` in its domain. They do not see a `null`,
which the merge stores and the spread lets hide the default: the settings stay in their domain
exactly as long as no accepted body sets a property other than the two phone numbers to `null`.
-/

namespace ElectroSync
open Transition

/-- An integer between `lo` and `hi`. -/
def IntegerIn (lo hi : ℤ) (q : ℚ) : Prop := q.den = 1 ∧ lo ≤ q ∧ q ≤ hi

/-- What the settings screen and the alerts expect of the settings they read. -/
@[mk_iff]
structure ResolvedSettings.InDomain (s : ResolvedSettings) : Prop where
  pushEnabled : s.pushEnabled.isSome
  lowBalanceAlerts : s.lowBalanceAlerts.isSome
  lowBalanceThreshold : ∃ q, s.lowBalanceThreshold = some q ∧ IntegerIn 0 100000 q
  rechargeAlerts : s.rechargeAlerts.isSome
  usageAnomalyAlerts : s.usageAnomalyAlerts.isSome
  usageAnomalyThreshold : ∃ q, s.usageAnomalyThreshold = some q ∧ IntegerIn 10 500 q
  whatsappAlerts : s.whatsappAlerts.isSome
  smsAlerts : s.smsAlerts.isSome
  emailAlerts : s.emailAlerts.isSome
  language : s.language.isSome
  theme : s.theme.isSome

/-! ## One property -/

namespace Field
variable {f g : Field α} {P : α → Prop}

/-- Not `null`, and in `P` when present. -/
def Within (P : α → Prop) : Field α → Prop
  | absent => True
  | null => False
  | value a => P a

theorem merge_ne_null (stored : f ≠ null) : f.merge g ≠ null ↔ g ≠ null := by
  cases g with
  | absent => simpa using stored
  | null => exact Iff.rfl
  | value a => exact Iff.rfl

theorem merge_within (stored : f.Within P) : (f.merge g).Within P ↔ g.Within P := by
  cases g with
  | absent => simpa [Within] using stored
  | null => exact Iff.rfl
  | value a => exact Iff.rfl

theorem spread_isSome (f : Field α) (d : α) : (f.spread (some d)).isSome ↔ f ≠ null := by
  cases f <;> simp

theorem spread_within (dflt : P d) : (∃ a, f.spread (some d) = some a ∧ P a) ↔ f.Within P := by
  cases f <;> simp [Within, dflt]

/-- The property as the stored JSON has it. -/
def toJson (write : α → Json) : Field α → Option Json
  | absent => none
  | null => some .null
  | value a => some (write a)

end Field

namespace Property
variable {p : Property α} {body : JsonObject} {write : α → Json} {P : α → Prop}

/-- What the validators accept reads as a value in `P` and is the JSON of that value. -/
def Sound (p : Property α) (write : α → Json) (P : α → Prop) : Prop :=
  ∀ v, p.validators.filterMap (· v) = [] → ∃ a, p.read v = some a ∧ write a = v ∧ P a

theorem field_eq_null : p.field body = .null ↔ body.lookup p.key = some .null := by
  unfold field
  split
  · next missing => simp [missing]
  · next found => simp [found]
  · next v hv found =>
    rw [found]
    cases p.read v with
    | none => simpa using hv
    | some a => simpa using hv

/-- An accepted property is missing, `null`, or reads as a value in `P`. -/
theorem field_cases (sound : p.Sound write P) (accepted : p.errors body = []) :
    body.lookup p.key = none ∧ p.field body = .absent ∨
      body.lookup p.key = some .null ∧ p.field body = .null ∨
      ∃ a, body.lookup p.key = some (write a) ∧ write a ≠ .null ∧ p.field body = .value a ∧
        P a := by
  unfold errors at accepted
  unfold field
  split at accepted
  · next missing => exact .inl ⟨missing, rfl⟩
  · next found => exact .inr (.inl ⟨found, rfl⟩)
  · next v hv found =>
    obtain ⟨a, read, rfl, ha⟩ := sound v accepted
    refine .inr (.inr ⟨a, found, hv, ?_, ha⟩)
    rw [read]
    rfl

theorem field_within (sound : p.Sound write P) (accepted : p.errors body = []) :
    (p.field body).Within P ↔ body.lookup p.key ≠ some .null := by
  obtain ⟨found, field⟩ | ⟨found, field⟩ | ⟨a, found, notNull, field, ha⟩ :=
    field_cases sound accepted
  · simp [found, field, Field.Within]
  · simp [found, field, Field.Within]
  · simp [found, field, Field.Within, notNull, ha]

theorem field_toJson (sound : p.Sound write P) (accepted : p.errors body = []) :
    (p.field body).toJson write = body.lookup p.key := by
  obtain ⟨found, field⟩ | ⟨found, field⟩ | ⟨a, found, -, field, -⟩ := field_cases sound accepted
  all_goals rw [found, field]; rfl

end Property

theorem toggle_sound (key : String) : (toggle key).Sound .bool fun _ => True := by
  intro v passed
  cases v with
  | bool b => exact ⟨b, rfl, rfl, trivial⟩
  | _ => simp [toggle, Validator.isBoolean] at passed

theorem threshold_sound (key : String) (lo hi : ℤ) :
    (threshold key lo hi).Sound .number (IntegerIn lo hi) := by
  intro v passed
  cases v with
  | number q =>
    simp [threshold, Validator.isInt, Validator.min, Validator.max] at passed
    exact ⟨q, rfl, rfl, passed.2.2, passed.2.1, passed.1⟩
  | _ => simp [threshold, Validator.isInt] at passed

theorem phone_sound (key : String) : (phone key).Sound .string fun _ => True := by
  intro v passed
  cases v with
  | string s => exact ⟨s, rfl, rfl, trivial⟩
  | _ => simp [phone, Validator.isString] at passed

def Theme.text : Theme → String
  | .light => "light"
  | .dark => "dark"
  | .system => "system"

/-- An enumerated property whose values are the texts of a type. -/
theorem isIn_sound {text : α → String} {read : Json → Option α}
    (reads : ∀ a, read (.string (text a)) = some a) (all : ∀ s ∈ values, ∃ a, text a = s) :
    (⟨key, [.isIn key values], read⟩ : Property α).Sound (.string ∘ text) fun _ => True := by
  intro v passed
  cases v with
  | string s =>
    simp [Validator.isIn] at passed
    obtain ⟨a, rfl⟩ := all s passed
    exact ⟨a, reads a, rfl, trivial⟩
  | _ => simp [Validator.isIn] at passed

theorem language_sound :
    UpdateUserSettingsDto.language.Sound (.string ∘ Language.text) fun _ => True := by
  apply isIn_sound
  · intro a
    cases a <;> rfl
  · intro s hs
    simp only [List.mem_cons, List.not_mem_nil, or_false] at hs
    obtain rfl | rfl := hs
    exacts [⟨.en, rfl⟩, ⟨.bn, rfl⟩]

theorem theme_sound :
    UpdateUserSettingsDto.theme.Sound (.string ∘ Theme.text) fun _ => True := by
  apply isIn_sound
  · intro a
    cases a <;> rfl
  · intro s hs
    simp only [List.mem_cons, List.not_mem_nil, or_false] at hs
    obtain rfl | rfl | rfl := hs
    exacts [⟨.light, rfl⟩, ⟨.dark, rfl⟩, ⟨.system, rfl⟩]

/-! ## The whole body -/

namespace UpdateUserSettingsDto
variable {body : JsonObject} {patch : UserSettings}

/-- No property is `null`, the two phone numbers aside. -/
def NoNulls (body : JsonObject) : Prop :=
  ∀ key ∈ keys, key ≠ "whatsappNumber" → key ≠ "smsNumber" → body.lookup key ≠ some .null

instance : Decidable (NoNulls body) := inferInstanceAs (Decidable (∀ _ ∈ keys, _))

end UpdateUserSettingsDto

/-- Every property of a stored object that is present is in its domain, the two phone numbers
aside. -/
@[mk_iff]
structure UserSettings.Valid (s : UserSettings) : Prop where
  pushEnabled : s.pushEnabled ≠ .null
  lowBalanceAlerts : s.lowBalanceAlerts ≠ .null
  lowBalanceThreshold : s.lowBalanceThreshold.Within (IntegerIn 0 100000)
  rechargeAlerts : s.rechargeAlerts ≠ .null
  usageAnomalyAlerts : s.usageAnomalyAlerts ≠ .null
  usageAnomalyThreshold : s.usageAnomalyThreshold.Within (IntegerIn 10 500)
  whatsappAlerts : s.whatsappAlerts ≠ .null
  smsAlerts : s.smsAlerts ≠ .null
  emailAlerts : s.emailAlerts ≠ .null
  language : s.language ≠ .null
  theme : s.theme ≠ .null

theorem UserSettings.Valid.empty : ({} : UserSettings).Valid :=
  ⟨nofun, nofun, trivial, nofun, nofun, trivial, nofun, nofun, nofun, nofun, nofun⟩

theorem UserSettings.merge_valid {stored patch : UserSettings} (h : stored.Valid) :
    (stored.merge patch).Valid ↔ patch.Valid := by
  simp only [UserSettings.valid_iff, UserSettings.merge, Field.merge_ne_null h.pushEnabled,
    Field.merge_ne_null h.lowBalanceAlerts, Field.merge_within h.lowBalanceThreshold,
    Field.merge_ne_null h.rechargeAlerts, Field.merge_ne_null h.usageAnomalyAlerts,
    Field.merge_within h.usageAnomalyThreshold, Field.merge_ne_null h.whatsappAlerts,
    Field.merge_ne_null h.smsAlerts, Field.merge_ne_null h.emailAlerts,
    Field.merge_ne_null h.language, Field.merge_ne_null h.theme]

/-- The defaults are in the domain, and a stored property hides its default. -/
theorem overDefaults_inDomain (settings : Option UserSettings) :
    (overDefaults settings).InDomain ↔ (settings.getD {}).Valid := by
  have threshold (f : Field ℚ) : _ ↔ f.Within (IntegerIn 0 100000) :=
    Field.spread_within (d := 100) ⟨rfl, by norm_num, by norm_num⟩
  have anomalyThreshold (f : Field ℚ) : _ ↔ f.Within (IntegerIn 10 500) :=
    Field.spread_within (d := 40) ⟨rfl, by norm_num, by norm_num⟩
  simp only [ResolvedSettings.inDomain_iff, UserSettings.valid_iff, overDefaults,
    ResolvedSettings.spread, defaultUserSettings, Field.spread_isSome, threshold, anomalyThreshold]

/-- A property of the stored object, by name. -/
def UserSettings.property (s : UserSettings) : String → Option Json
  | "pushEnabled" => s.pushEnabled.toJson .bool
  | "lowBalanceAlerts" => s.lowBalanceAlerts.toJson .bool
  | "lowBalanceThreshold" => s.lowBalanceThreshold.toJson .number
  | "rechargeAlerts" => s.rechargeAlerts.toJson .bool
  | "usageAnomalyAlerts" => s.usageAnomalyAlerts.toJson .bool
  | "usageAnomalyThreshold" => s.usageAnomalyThreshold.toJson .number
  | "whatsappAlerts" => s.whatsappAlerts.toJson .bool
  | "smsAlerts" => s.smsAlerts.toJson .bool
  | "emailAlerts" => s.emailAlerts.toJson .bool
  | "whatsappNumber" => s.whatsappNumber.toJson .string
  | "smsNumber" => s.smsNumber.toJson .string
  | "language" => s.language.toJson (.string ∘ Language.text)
  | "theme" => s.theme.toJson (.string ∘ Theme.text)
  | _ => none

namespace UpdateUserSettingsDto
variable {body : JsonObject} {patch : UserSettings}

theorem validate_ok :
    validate body = .ok patch ↔ (∀ errors ∈ messages body, errors = []) ∧ ofBody body = patch := by
  rw [← List.flatten_eq_nil_iff]
  unfold validate
  split
  · next accepted => simp [accepted]
  · next refused => simp [refused]

/-- What passes the pipe is in its domain as soon as nothing in it is `null`. -/
theorem valid_iff_noNulls (accepted : validate body = .ok patch) : patch.Valid ↔ NoNulls body := by
  obtain ⟨silent, rfl⟩ := validate_ok.mp accepted
  have threshold : (lowBalanceThreshold.field body).Within (IntegerIn 0 100000) ↔
      body.lookup "lowBalanceThreshold" ≠ some .null :=
    Property.field_within (threshold_sound _ _ _) (silent _ (by simp [messages]))
  have anomalyThreshold : (usageAnomalyThreshold.field body).Within (IntegerIn 10 500) ↔
      body.lookup "usageAnomalyThreshold" ≠ some .null :=
    Property.field_within (threshold_sound _ _ _) (silent _ (by simp [messages]))
  simp only [UserSettings.valid_iff, ofBody, ne_eq, Property.field_eq_null, threshold,
    anomalyThreshold]
  simp [NoNulls, keys, pushEnabled, lowBalanceAlerts, rechargeAlerts, usageAnomalyAlerts,
    whatsappAlerts, smsAlerts, emailAlerts, language, theme, toggle]

theorem lookup_of_whitelist (silent : whitelist body = []) (undeclared : key ∉ keys) :
    body.lookup key = none := by
  rw [List.lookup_eq_none_iff]
  intro entry mem
  simp only [whitelist, List.map_eq_nil_iff, List.filter_eq_nil_iff, decide_eq_true_eq,
    not_not] at silent
  simp only [bne_iff_ne]
  rintro rfl
  exact undeclared (silent entry mem)

/-- What is stored of an accepted body is the body. -/
theorem property_of_validate (accepted : validate body = .ok patch) (key : String) :
    patch.property key = body.lookup key := by
  obtain ⟨silent, rfl⟩ := validate_ok.mp accepted
  by_cases declared : key ∈ keys
  · simp only [keys, List.mem_cons, List.not_mem_nil, or_false] at declared
    obtain rfl | rfl | rfl | rfl | rfl | rfl | rfl | rfl | rfl | rfl | rfl | rfl | rfl := declared
    · exact Property.field_toJson (toggle_sound _) (silent _ (by simp [messages]))
    · exact Property.field_toJson (toggle_sound _) (silent _ (by simp [messages]))
    · exact Property.field_toJson (threshold_sound _ _ _) (silent _ (by simp [messages]))
    · exact Property.field_toJson (toggle_sound _) (silent _ (by simp [messages]))
    · exact Property.field_toJson (toggle_sound _) (silent _ (by simp [messages]))
    · exact Property.field_toJson (threshold_sound _ _ _) (silent _ (by simp [messages]))
    · exact Property.field_toJson (toggle_sound _) (silent _ (by simp [messages]))
    · exact Property.field_toJson (toggle_sound _) (silent _ (by simp [messages]))
    · exact Property.field_toJson (toggle_sound _) (silent _ (by simp [messages]))
    · exact Property.field_toJson (phone_sound _) (silent _ (by simp [messages]))
    · exact Property.field_toJson (phone_sound _) (silent _ (by simp [messages]))
    · exact Property.field_toJson language_sound (silent _ (by simp [messages]))
    · exact Property.field_toJson theme_sound (silent _ (by simp [messages]))
  · rw [lookup_of_whitelist (silent _ (by simp [messages])) declared]
    simp only [keys, List.mem_cons, List.not_mem_nil, or_false, not_or] at declared
    unfold UserSettings.property
    split <;> simp_all

end UpdateUserSettingsDto

/-! ## Updates -/

namespace UserService
variable {users users' : SettingsColumn} {userId id : String} {body : JsonObject}

theorem updateSettings_of_row (row : users userId = some settings) (patch : UserSettings) :
    updateSettings users userId patch =
      (.ok (withDefaults (some ((settings.getD {}).merge patch))),
        Function.update users userId (some (some ((settings.getD {}).merge patch)))) := by
  simp only [updateSettings, row]
  rfl

theorem updateSettings_of_missing (missing : users userId = none) (patch : UserSettings) :
    updateSettings users userId patch = (.error "User not found.", users) := by
  simp only [updateSettings, missing]
  rfl

/-- An update answers what the next read answers. -/
theorem getSettings_updateSettings (patch : UserSettings) :
    getSettings (updateSettings users userId patch).2 userId =
      (updateSettings users userId patch).1 := by
  cases row : users userId with
  | none => simp only [updateSettings_of_missing row, getSettings, row]
  | some settings => simp only [updateSettings_of_row row, getSettings, Function.update_self]

/-- All that an accepted request does. -/
theorem patchSettings_cases (accepted : patchSettings users (userId, body) = some users') :
    ∃ patch settings, UpdateUserSettingsDto.validate body = .ok patch ∧
      users userId = some settings ∧
      users' = Function.update users userId (some (some ((settings.getD {}).merge patch))) := by
  unfold patchSettings at accepted
  split at accepted
  · cases accepted
  · next patch valid =>
    cases row : users userId with
    | none =>
      rw [updateSettings_of_missing row] at accepted
      cases accepted
    | some settings =>
      rw [updateSettings_of_row row] at accepted
      cases accepted
      exact ⟨patch, settings, valid, rfl, rfl⟩

end UserService

/-! ## Runs -/

/-- No user has settings yet. -/
def Fresh (users : SettingsColumn) : Prop :=
  ∀ userId settings, users userId = some settings → settings = none

/-- What the settings endpoints, the two evaluations, the sweep and the notifier read of a user's
settings is in its domain. -/
def ReadsInDomain (users : SettingsColumn) (userId : String) : Prop :=
  ∀ settings, users userId = some settings →
    (UserService.withDefaults settings).InDomain ∧ (AlertEvaluation.resolve settings).InDomain ∧
      (UsageAnomaly.resolve settings).InDomain ∧ (overDefaults settings).InDomain

section Runs
open UserService UpdateUserSettingsDto
variable {users₀ users users' : SettingsColumn} {userId : String}
  {patches : List (String × JsonObject)}

theorem readsInDomain_iff : ReadsInDomain users userId ↔
    ∀ settings, users userId = some settings → (settings.getD {}).Valid := by
  simp only [ReadsInDomain, withDefaults, AlertEvaluation.resolve, UsageAnomaly.resolve,
    overDefaults_inDomain, and_self]

theorem Fresh.readsInDomain (fresh : Fresh users) : ReadsInDomain users userId := by
  rw [readsInDomain_iff]
  intro settings row
  cases fresh userId settings row
  exact .empty

/-- A request leaves the settings in their domain exactly when it sets nothing to `null`. -/
theorem readsInDomain_step (before : ReadsInDomain users userId)
    (step : patchSettings users request = some users') :
    ReadsInDomain users' userId ↔ (request.1 = userId → NoNulls request.2) := by
  obtain ⟨id, body⟩ := request
  obtain ⟨patch, settings, valid, row, rfl⟩ := patchSettings_cases step
  rw [readsInDomain_iff] at before ⊢
  by_cases same : id = userId
  · subst same
    simp only [Function.update_self, Option.some.injEq, forall_eq', Option.getD_some,
      forall_true_left]
    rw [UserSettings.merge_valid (before settings row), valid_iff_noNulls valid]
  · simp only [Function.update_of_ne (Ne.symm same), same, false_imp_iff, iff_true]
    exact before

theorem readsInDomain_run (fresh : Fresh users₀)
    (run : Run (Enabled patchSettings) users₀ patches users)
    (noNulls : ∀ request ∈ patches, request.1 = userId → NoNulls request.2) :
    ReadsInDomain users userId := by
  induction run with
  | nil => exact fresh.readsInDomain
  | snoc _ step ih =>
    simp only [List.forall_mem_append, List.forall_mem_singleton] at noNulls
    exact (readsInDomain_step (ih noNulls.1) step).mpr noNulls.2

/-- The settings of a user stay in their domain exactly when no accepted request of the user sets a
property to `null`. -/
theorem settings_stay_inDomain_iff (fresh : Fresh users₀)
    (run : Run (Enabled patchSettings) users₀ patches users) :
    (∀ taken users', taken <+: patches → Run (Enabled patchSettings) users₀ taken users' →
        ReadsInDomain users' userId) ↔
      ∀ request ∈ patches, request.1 = userId → NoNulls request.2 := by
  constructor
  · intro always request mem
    obtain ⟨taken, rest, rfl⟩ := List.append_of_mem mem
    obtain ⟨before, after, reached, step, -⟩ := run.split_at
    have inDomain := always taken before (List.prefix_append ..) reached
    refine (readsInDomain_step inDomain step).mp (always (taken ++ [request]) after ?_ ?_)
    · exact ⟨rest, by simp⟩
    · exact reached.snoc step
  · intro noNulls taken users' initial reached
    exact readsInDomain_run fresh reached fun request mem => noNulls request (initial.subset mem)

/-- One registered user. -/
def registered : SettingsColumn := fun userId => if userId = "u" then some none else none

theorem registered_fresh : Fresh registered := by
  intro userId settings row
  unfold registered at row
  split at row
  · cases row
    rfl
  · cases row

/-- Two requests that move a threshold and the theme, and clear a phone number. -/
theorem settings_stay_inDomain_iff_twoPatches :
    let patches : List (String × JsonObject) :=
      [("u", [("lowBalanceThreshold", .number 250), ("whatsappNumber", .null)]),
        ("u", [("theme", .string "dark")])]
    ∃ users, Run (Enabled patchSettings) registered patches users ∧ ReadsInDomain users "u" := by
  intro patches
  have accepted : (exec patchSettings registered patches).any fun _ => true := by decide +kernel
  obtain ⟨users, run, -⟩ := exec_any accepted
  have noNulls : ∀ request ∈ patches, request.1 = "u" → NoNulls request.2 := by decide
  have inDomain := (settings_stay_inDomain_iff registered_fresh run).mpr noNulls
  exact ⟨users, run, inDomain patches users List.prefix_rfl run⟩

/-- The request `{ "lowBalanceThreshold": null }` is accepted, and no reader has a threshold. -/
theorem settings_leave_domain :
    ¬ ∀ users₀ patches users userId, Fresh users₀ →
      Run (Enabled patchSettings) users₀ patches users → ReadsInDomain users userId := by
  intro always
  have accepted : (exec patchSettings registered
      [("u", [("lowBalanceThreshold", .null)])]).any fun users =>
        (users "u").any fun settings => (overDefaults settings).lowBalanceThreshold = none := by
    decide +kernel
  obtain ⟨users, run, found⟩ := exec_any accepted
  obtain ⟨settings, row, missing⟩ := (Option.any_eq_true ..).mp found
  obtain ⟨-, -, -, inDomain⟩ := always _ _ _ "u" registered_fresh run settings row
  obtain ⟨q, threshold, -⟩ := inDomain.lowBalanceThreshold
  rw [of_decide_eq_true missing] at threshold
  cases threshold

end Runs

end ElectroSync
