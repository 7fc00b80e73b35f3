import ElectroSync.Database.Types
import Mathlib.Logic.Function.Basic

/-!
# Settings updates (`user/user.service.ts`, `user/dto/update-user-settings.dto.ts`)

The body of `PATCH users/me/settings` passes the validation pipe, is merged into the stored JSON,
and the stored JSON is read over the defaults.
-/

namespace ElectroSync

/-! ## Request bodies -/

/-- A property of a request body. No validator below looks inside an array or an object. -/
inductive Json
  | null
  | bool (b : Bool)
  | number (q : ℚ)
  | string (s : String)
  | compound
  deriving DecidableEq

/-- A request body, as parsed and without the prototype keys the pipe deletes. -/
abbrev JsonObject := List (String × Json)

/-- A validator returns its message when it fails. -/
abbrev Validator := Json → Option String

namespace Validator
variable (property : String)

def isBoolean : Validator
  | .bool _ => none
  | _ => some s!"{property} must be a boolean value"

def isInt : Validator
  | .number q => if q.den = 1 then none else some s!"{property} must be an integer number"
  | _ => some s!"{property} must be an integer number"

def min (bound : ℤ) : Validator
  | .number q => if bound ≤ q then none else some s!"{property} must not be less than {bound}"
  | _ => some s!"{property} must not be less than {bound}"

def max (bound : ℤ) : Validator
  | .number q => if q ≤ bound then none else some s!"{property} must not be greater than {bound}"
  | _ => some s!"{property} must not be greater than {bound}"

def isString : Validator
  | .string _ => none
  | _ => some s!"{property} must be a string"

/-- The length counts code points, except the two presentation selectors. -/
def maxLength (bound : ℕ) : Validator
  | .string s =>
    if (s.toList.filter fun c => c.val ≠ 0xFE0E ∧ c.val ≠ 0xFE0F).length ≤ bound then none
    else some s!"{property} must be shorter than or equal to {bound} characters"
  | _ => some s!"{property} must be shorter than or equal to {bound} characters"

def isIn (values : List String) : Validator := fun v =>
  let message := property ++ " must be one of the following values: " ++ ", ".intercalate values
  match v with
  | .string s => if s ∈ values then none else some message
  | _ => some message

end Validator

/-! ## The declared properties -/

/-- A property declared by the DTO: its validators after `@IsOptional()`, in the order they run, and
how a value that passes them reads. -/
structure Property (α : Type) where
  key : String
  validators : List Validator
  read : Json → Option α

namespace Property

-- `@IsOptional()` skips the validators for `null` as for a missing property
def errors (p : Property α) (body : JsonObject) : List String :=
  match body.lookup p.key with
  | none | some .null => []
  | some v => p.validators.filterMap (· v)

def field (p : Property α) (body : JsonObject) : Field α :=
  match body.lookup p.key with
  | none => .absent
  | some .null => .null
  | some v => (p.read v).elim .absent .value

end Property

def Json.toBool? : Json → Option Bool
  | bool b => some b
  | _ => none

def Json.toNumber? : Json → Option ℚ
  | number q => some q
  | _ => none

def Json.toString? : Json → Option String
  | string s => some s
  | _ => none

def Json.toLanguage? : Json → Option Language
  | string "en" => some .en
  | string "bn" => some .bn
  | _ => none

def Json.toTheme? : Json → Option Theme
  | string "light" => some .light
  | string "dark" => some .dark
  | string "system" => some .system
  | _ => none

-- decorators are applied from the property upwards
def toggle (key : String) : Property Bool := ⟨key, [.isBoolean key], Json.toBool?⟩

def threshold (key : String) (lo hi : ℤ) : Property ℚ :=
  ⟨key, [.max key hi, .min key lo, .isInt key], Json.toNumber?⟩

def phone (key : String) : Property String :=
  ⟨key, [.maxLength key 32, .isString key], Json.toString?⟩

namespace UpdateUserSettingsDto

def pushEnabled := toggle "pushEnabled"
def lowBalanceAlerts := toggle "lowBalanceAlerts"
def lowBalanceThreshold := threshold "lowBalanceThreshold" 0 100000
def rechargeAlerts := toggle "rechargeAlerts"
def usageAnomalyAlerts := toggle "usageAnomalyAlerts"
def usageAnomalyThreshold := threshold "usageAnomalyThreshold" 10 500
def whatsappAlerts := toggle "whatsappAlerts"
def smsAlerts := toggle "smsAlerts"
def emailAlerts := toggle "emailAlerts"
def whatsappNumber := phone "whatsappNumber"
def smsNumber := phone "smsNumber"

def language : Property Language :=
  ⟨"language", [.isIn "language" ["en", "bn"]], Json.toLanguage?⟩

def theme : Property Theme :=
  ⟨"theme", [.isIn "theme" ["light", "dark", "system"]], Json.toTheme?⟩

def keys : List String :=
  ["pushEnabled", "lowBalanceAlerts", "lowBalanceThreshold", "rechargeAlerts",
    "usageAnomalyAlerts", "usageAnomalyThreshold", "whatsappAlerts", "smsAlerts", "emailAlerts",
    "whatsappNumber", "smsNumber", "language", "theme"]

/-- `forbidNonWhitelisted` -/
def whitelist (body : JsonObject) : List String :=
  (body.filter fun entry => entry.1 ∉ keys).map fun entry =>
    s!"property {entry.1} should not exist"

/-- The messages by property, the undeclared properties first. -/
def messages (body : JsonObject) : List (List String) :=
  [whitelist body, pushEnabled.errors body, lowBalanceAlerts.errors body,
    lowBalanceThreshold.errors body, rechargeAlerts.errors body, usageAnomalyAlerts.errors body,
    usageAnomalyThreshold.errors body, whatsappAlerts.errors body, smsAlerts.errors body,
    emailAlerts.errors body, whatsappNumber.errors body, smsNumber.errors body,
    language.errors body, theme.errors body]

def ofBody (body : JsonObject) : UserSettings where
  pushEnabled := pushEnabled.field body
  lowBalanceAlerts := lowBalanceAlerts.field body
  lowBalanceThreshold := lowBalanceThreshold.field body
  rechargeAlerts := rechargeAlerts.field body
  usageAnomalyAlerts := usageAnomalyAlerts.field body
  usageAnomalyThreshold := usageAnomalyThreshold.field body
  whatsappAlerts := whatsappAlerts.field body
  smsAlerts := smsAlerts.field body
  emailAlerts := emailAlerts.field body
  whatsappNumber := whatsappNumber.field body
  smsNumber := smsNumber.field body
  language := language.field body
  theme := theme.field body

/-- The validation pipe: the messages of a 400, or the DTO. -/
def validate (body : JsonObject) : Except (List String) UserSettings :=
  if (messages body).flatten = [] then .ok (ofBody body) else .error (messages body).flatten

end UpdateUserSettingsDto

/-! ## The service (`user.service.ts`) -/

/-- The JSONB operator `stored || patch`. -/
def UserSettings.merge (stored patch : UserSettings) : UserSettings where
  pushEnabled := stored.pushEnabled.merge patch.pushEnabled
  lowBalanceAlerts := stored.lowBalanceAlerts.merge patch.lowBalanceAlerts
  lowBalanceThreshold := stored.lowBalanceThreshold.merge patch.lowBalanceThreshold
  rechargeAlerts := stored.rechargeAlerts.merge patch.rechargeAlerts
  usageAnomalyAlerts := stored.usageAnomalyAlerts.merge patch.usageAnomalyAlerts
  usageAnomalyThreshold := stored.usageAnomalyThreshold.merge patch.usageAnomalyThreshold
  whatsappAlerts := stored.whatsappAlerts.merge patch.whatsappAlerts
  smsAlerts := stored.smsAlerts.merge patch.smsAlerts
  emailAlerts := stored.emailAlerts.merge patch.emailAlerts
  whatsappNumber := stored.whatsappNumber.merge patch.whatsappNumber
  smsNumber := stored.smsNumber.merge patch.smsNumber
  language := stored.language.merge patch.language
  theme := stored.theme.merge patch.theme

/-- The `settings` column of the rows of `user`, by id. -/
abbrev SettingsColumn := String → Option (Option UserSettings)

namespace UserService

def withDefaults (stored : Option UserSettings) : ResolvedSettings := overDefaults stored

def getSettings (users : SettingsColumn) (userId : String) : Except String ResolvedSettings :=
  match users userId with
  | none => .error "User not found."
  | some settings => .ok (withDefaults settings)

def updateSettings (users : SettingsColumn) (userId : String) (patch : UserSettings) :
    Except String ResolvedSettings × SettingsColumn :=
  -- `Object.keys(patch)`: an instance of the class owns every declared property
  if UpdateUserSettingsDto.keys.isEmpty then (getSettings users userId, users)
  else match users userId with
    | none => (.error "User not found.", users)
    | some settings =>
      let merged := some ((settings.getD {}).merge patch)
      (.ok (withDefaults merged), Function.update users userId (some merged))

/-- A `PATCH users/me/settings` that is accepted. -/
def patchSettings (users : SettingsColumn) (request : String × JsonObject) :
    Option SettingsColumn :=
  match UpdateUserSettingsDto.validate request.2 with
  | .error _ => none
  | .ok patch => match updateSettings users request.1 patch with
    | (.ok _, users') => some users'
    | (.error _, _) => none

end UserService

end ElectroSync
