import Mathlib.Data.Rat.Defs

/-!
# Column and settings types (`src/database/types`)

The enumerations the tables store as text, the clock types, and the settings object of a user.

Throughout, a `Date` is its count `ℤ` of milliseconds since the epoch, a calendar day of Asia/Dhaka
the count `ℤ` of days since 1 January 1970 (the `YYYY-MM-DD` texts the source compares are in the
order of these counts), and an amount of money a rational number `ℚ` of taka.
-/

namespace ElectroSync

instance decidableEqExcept [DecidableEq ε] [DecidableEq α] : DecidableEq (Except ε α)
  | .error e, .error e' => decidable_of_iff (e = e') ⟨congrArg _, Except.error.inj⟩
  | .ok a, .ok a' => decidable_of_iff (a = a') ⟨congrArg _, Except.ok.inj⟩
  | .error _, .ok _ => isFalse nofun
  | .ok _, .error _ => isFalse nofun

/-! ## Alerts (`alert.type.ts`) -/

inductive AlertSeverity
  | ok
  | low
  | depleted
  deriving DecidableEq

def severityRank : AlertSeverity → ℕ
  | .ok => 0
  | .low => 1
  | .depleted => 2

inductive AlertKind
  | lowBalance
  | balanceDepleted
  | rechargeDetected
  | usageAnomaly
  deriving DecidableEq

/-! ## Usage (`usage.type.ts`) -/

inductive UsageAnomaly
  | negativeDelta
  | implausibleRate
  | staleWindow
  deriving DecidableEq

inductive UsageGranularity
  | daily
  | weekly
  | weekday
  deriving DecidableEq

/-! ## Meters (`meter.type.ts`) -/

inductive MeterType
  | home
  | office
  | industry
  deriving DecidableEq

inductive MeterProvider
  | nesco
  | desco
  | dpdc
  deriving DecidableEq

def defaultMeterType : MeterType := .home
def defaultMeterProvider : MeterProvider := .nesco

/-! ## Settings (`user-settings.type.ts`) -/

inductive Language
  | en
  | bn
  deriving DecidableEq

def Language.text : Language → String
  | .en => "en"
  | .bn => "bn"

inductive Theme
  | light
  | dark
  | system
  deriving DecidableEq

/-- A property of a stored JSON object: missing, present as `null`, or present with a value. -/
inductive Field (α : Type)
  | absent
  | null
  | value (a : α)
  deriving DecidableEq

namespace Field

/-- The property after `{ ...defaults, ...stored }`: a present `null` hides the default. -/
def spread (dflt : Option α) : Field α → Option α
  | absent => dflt
  | null => none
  | value a => some a

-- the JSONB operator `stored || patch`
def merge (stored patch : Field α) : Field α :=
  match patch with
  | absent => stored
  | _ => patch

@[simp] theorem spread_absent (d : Option α) : (absent : Field α).spread d = d := rfl
@[simp] theorem spread_null (d : Option α) : (null : Field α).spread d = none := rfl
@[simp] theorem spread_value (d : Option α) (a : α) : (value a).spread d = some a := rfl
@[simp] theorem merge_absent (f : Field α) : f.merge absent = f := rfl
@[simp] theorem absent_merge (f : Field α) : absent.merge f = f := by cases f <;> rfl

end Field

structure UserSettings where
  pushEnabled : Field Bool := .absent
  lowBalanceAlerts : Field Bool := .absent
  lowBalanceThreshold : Field ℚ := .absent
  rechargeAlerts : Field Bool := .absent
  usageAnomalyAlerts : Field Bool := .absent
  usageAnomalyThreshold : Field ℚ := .absent
  whatsappAlerts : Field Bool := .absent
  smsAlerts : Field Bool := .absent
  emailAlerts : Field Bool := .absent
  whatsappNumber : Field String := .absent
  smsNumber : Field String := .absent
  language : Field Language := .absent
  theme : Field Theme := .absent
  deriving DecidableEq

/-- `Required<UserSettings>` as it exists at run time: every property is present, and `none` is a
JavaScript `null`. -/
structure ResolvedSettings where
  pushEnabled : Option Bool
  lowBalanceAlerts : Option Bool
  lowBalanceThreshold : Option ℚ
  rechargeAlerts : Option Bool
  usageAnomalyAlerts : Option Bool
  usageAnomalyThreshold : Option ℚ
  whatsappAlerts : Option Bool
  smsAlerts : Option Bool
  emailAlerts : Option Bool
  whatsappNumber : Option String
  smsNumber : Option String
  language : Option Language
  theme : Option Theme
  deriving DecidableEq

def defaultUserSettings : ResolvedSettings where
  pushEnabled := some true
  lowBalanceAlerts := some true
  lowBalanceThreshold := some 100
  rechargeAlerts := some true
  usageAnomalyAlerts := some true
  usageAnomalyThreshold := some 40
  whatsappAlerts := some false
  smsAlerts := some false
  emailAlerts := some false
  whatsappNumber := none
  smsNumber := none
  language := some .en
  theme := some .system

def ResolvedSettings.spread (base : ResolvedSettings) (stored : UserSettings) :
    ResolvedSettings where
  pushEnabled := stored.pushEnabled.spread base.pushEnabled
  lowBalanceAlerts := stored.lowBalanceAlerts.spread base.lowBalanceAlerts
  lowBalanceThreshold := stored.lowBalanceThreshold.spread base.lowBalanceThreshold
  rechargeAlerts := stored.rechargeAlerts.spread base.rechargeAlerts
  usageAnomalyAlerts := stored.usageAnomalyAlerts.spread base.usageAnomalyAlerts
  usageAnomalyThreshold := stored.usageAnomalyThreshold.spread base.usageAnomalyThreshold
  whatsappAlerts := stored.whatsappAlerts.spread base.whatsappAlerts
  smsAlerts := stored.smsAlerts.spread base.smsAlerts
  emailAlerts := stored.emailAlerts.spread base.emailAlerts
  whatsappNumber := stored.whatsappNumber.spread base.whatsappNumber
  smsNumber := stored.smsNumber.spread base.smsNumber
  language := stored.language.spread base.language
  theme := stored.theme.spread base.theme

/-- `{ ...DEFAULT_USER_SETTINGS, ...(settings ?? {}) }`, the expression every reader of the
settings column evaluates. -/
def overDefaults (settings : Option UserSettings) : ResolvedSettings :=
  defaultUserSettings.spread (settings.getD {})

/-! JavaScript reads a `null` toggle as false, and a `null` number in a comparison as zero. -/

def truthy (b : Option Bool) : Bool := b.getD false

def toNumber (v : Option ℚ) : ℚ := v.getD 0

end ElectroSync
