import ElectroSync.Nesco.Amounts
import ElectroSync.Nesco.Response

/-!
# The report tables of the portal (`nesco/portal/nesco.parsing.ts`)

The two reports are tables with a heading for each column. What `cheerio` selects from the page and
what the language reads off its Unicode tables are fields of `Externals`; the rest is the code: the
texts are normalised, each heading is resolved to the index of its column, and each row is read at
these indices.
-/

namespace ElectroSync

/-- The texts of the first report table of a page, in document order. -/
structure ReportTable where
  headings : List String
  rows : List (List String)
  deriving DecidableEq

/-- What the parser takes from outside: the selections of the page, and two conversions of text. -/
structure Externals where
  reportTable : String → Option ReportTable
  normalizeNFC : String → String
  toLowerCase : String → String

/-- `replace(/\s+/g, ' ')`, after a white space character or not. -/
def collapse (spaced : Bool) : List Char → List Char
  | [] => []
  | c :: t =>
    if JsString.isSpace c then if spaced then collapse true t else ' ' :: collapse true t
    else c :: collapse false t

def normalizeText (host : Externals) (value : String) : String :=
  JsString.trim (String.ofList (collapse false (host.normalizeNFC value).toList))

structure PortalTable where
  headers : List String
  rows : List (List String)
  deriving DecidableEq

def extractTable (host : Externals) (html : String) : Option PortalTable :=
  (host.reportTable html).map fun table => {
    headers := table.headings.map (normalizeText host)
    rows := table.rows.map fun tr => tr.map (normalizeText host) }

def requireColumn (host : Externals) (headers : List String) (heading : String) :
    Except NescoPortalError ℕ :=
  if normalizeText host heading ∈ headers then .ok (headers.idxOf (normalizeText host heading))
  else
    let found := String.intercalate ", " headers
    .error (layoutError s!"Report table has no \"{heading}\" column (found: {found})")

def requireCell (row : List String) (index : ℕ) (heading : String) :
    Except NescoPortalError String :=
  match row[index]? with
  | some cell => .ok cell
  | none => .error (layoutError s!"Row is missing the \"{heading}\" cell")

/-! ## Recharge history -/

namespace RechargeColumn

def sn : String := "ক্র নং"
def token : String := "টোকেন নম্বর"
def meterRent : String := "মিটার রেন্ট (টাকা)"
def demandCharge : String := "ডিমান্ড চার্জ (টাকা)"
def vat : String := "ভ্যাট (টাকা)"
def concession : String := "রেয়াত (টাকা)"
def usable : String := "বিদ্যুৎ (টাকা)"
def rechargeAmount : String := "রিচার্জের পরিমাণ (টাকা)"
def rechargeMethod : String := "রিচার্জের মাধ্যম"
def rechargeDate : String := "রিচার্জের তারিখ"
def rechargeStatus : String := "রিমোট রিচার্জ স্ট্যাটাস"

def headings : List String :=
  [sn, token, meterRent, demandCharge, vat, concession, usable, rechargeAmount, rechargeMethod,
    rechargeDate, rechargeStatus]

end RechargeColumn

def parseRechargeHistory (host : Externals) (html : String) :
    Except NescoPortalError (List NescoRechargeDto) :=
  match extractTable host html with
  | none => .error (layoutError "Recharge history response contained no report table")
  | some { headers, rows } => do
    let sn ← requireColumn host headers RechargeColumn.sn
    let token ← requireColumn host headers RechargeColumn.token
    let meterRent ← requireColumn host headers RechargeColumn.meterRent
    let demandCharge ← requireColumn host headers RechargeColumn.demandCharge
    let vat ← requireColumn host headers RechargeColumn.vat
    let concession ← requireColumn host headers RechargeColumn.concession
    let usable ← requireColumn host headers RechargeColumn.usable
    let rechargeAmount ← requireColumn host headers RechargeColumn.rechargeAmount
    let method ← requireColumn host headers RechargeColumn.rechargeMethod
    let date ← requireColumn host headers RechargeColumn.rechargeDate
    let status ← requireColumn host headers RechargeColumn.rechargeStatus
    rows.mapM fun row => return {
      sn := ← parseAmount (← requireCell row sn RechargeColumn.sn) "sn"
      token := ← requireCell row token RechargeColumn.token
      meterRentAmount :=
        ← parseAmount (← requireCell row meterRent RechargeColumn.meterRent) "meterRentAmount"
      demandChargeAmount := ← parseAmount
        (← requireCell row demandCharge RechargeColumn.demandCharge) "demandChargeAmount"
      vatAmount := ← parseAmount (← requireCell row vat RechargeColumn.vat) "vatAmount"
      concessionAmount :=
        ← parseAmount (← requireCell row concession RechargeColumn.concession) "concessionAmount"
      rechargeAmount := ← parseAmount
        (← requireCell row rechargeAmount RechargeColumn.rechargeAmount) "rechargeAmount"
      usableAmount := ← parseAmount (← requireCell row usable RechargeColumn.usable) "usableAmount"
      rechargeMethod := ← requireCell row method RechargeColumn.rechargeMethod
      rechargedDate := ← parseRechargeDate (← requireCell row date RechargeColumn.rechargeDate)
      rechargeStatus :=
        host.toLowerCase (← requireCell row status RechargeColumn.rechargeStatus) }

/-! ## Monthly consumption -/

namespace ConsumptionColumn

def year : String := "বছর"
def month : String := "মাস"
def rechargeAmount : String := "সর্বমোট রিচার্জ (টাকা)"
def concession : String := "রেয়াত (টাকা)"
def electricityCharge : String := "ব্যবহৃত বিদ্যুৎ (টাকা)"
def meterRent : String := "মিটার রেন্ট (টাকা)"
def demandCharge : String := "ডিমান্ড চার্জ (টাকা)"
def vat : String := "ভ্যাট (টাকা)"
def usageAmount : String := "সর্বমোট ব্যবহার/কর্তন (টাকা)"
def remainBalance : String := "মাস শেষে মিটার ব্যালেন্স (টাকা)"
def usageKwh : String := "ব্যবহৃত বিদ্যুৎ (কি.ও.আ.)"

def headings : List String :=
  [year, month, rechargeAmount, concession, electricityCharge, meterRent, demandCharge, vat,
    usageAmount, remainBalance, usageKwh]

end ConsumptionColumn

structure NescoMonthlyConsumptionDto where
  year : ℚ
  month : String
  totalRechargeAmount : ℚ
  totalConcessionAmount : ℚ
  totalElectricityChargeAmount : ℚ
  meterRentAmount : ℚ
  demandChargeAmount : ℚ
  totalVatAmount : ℚ
  totalUsageAmount : ℚ
  remainingMeterBalance : ℚ
  totalUsageInKwh : ℚ
  deriving DecidableEq

def parseMonthlyConsumption (host : Externals) (html : String) :
    Except NescoPortalError (List NescoMonthlyConsumptionDto) :=
  match extractTable host html with
  | none => .error (layoutError "Monthly consumption response contained no report table")
  | some { headers, rows } => do
    let year ← requireColumn host headers ConsumptionColumn.year
    let month ← requireColumn host headers ConsumptionColumn.month
    let rechargeAmount ← requireColumn host headers ConsumptionColumn.rechargeAmount
    let concession ← requireColumn host headers ConsumptionColumn.concession
    let electricityCharge ← requireColumn host headers ConsumptionColumn.electricityCharge
    let meterRent ← requireColumn host headers ConsumptionColumn.meterRent
    let demandCharge ← requireColumn host headers ConsumptionColumn.demandCharge
    let vat ← requireColumn host headers ConsumptionColumn.vat
    let usageAmount ← requireColumn host headers ConsumptionColumn.usageAmount
    let remainBalance ← requireColumn host headers ConsumptionColumn.remainBalance
    let usageKwh ← requireColumn host headers ConsumptionColumn.usageKwh
    rows.mapM fun row => return {
      year := ← parseAmount (← requireCell row year ConsumptionColumn.year) "year"
      month := ← requireCell row month ConsumptionColumn.month
      totalRechargeAmount := ← parseAmount
        (← requireCell row rechargeAmount ConsumptionColumn.rechargeAmount) "totalRechargeAmount"
      totalConcessionAmount := ← parseAmount
        (← requireCell row concession ConsumptionColumn.concession) "totalConcessionAmount"
      totalElectricityChargeAmount := ← parseAmount
        (← requireCell row electricityCharge ConsumptionColumn.electricityCharge)
        "totalElectricityChargeAmount"
      meterRentAmount :=
        ← parseAmount (← requireCell row meterRent ConsumptionColumn.meterRent) "meterRentAmount"
      demandChargeAmount := ← parseAmount
        (← requireCell row demandCharge ConsumptionColumn.demandCharge) "demandChargeAmount"
      totalVatAmount := ← parseAmount (← requireCell row vat ConsumptionColumn.vat) "totalVatAmount"
      totalUsageAmount := ← parseAmount
        (← requireCell row usageAmount ConsumptionColumn.usageAmount) "totalUsageAmount"
      remainingMeterBalance := ← parseAmount
        (← requireCell row remainBalance ConsumptionColumn.remainBalance) "remainingMeterBalance"
      totalUsageInKwh := ← parseAmount
        (← requireCell row usageKwh ConsumptionColumn.usageKwh) "totalUsageInKwh" }

end ElectroSync
