import ElectroSync.Library.InsertionMap
import ElectroSync.Nesco.PortalTable

/-!
# The customer form of the portal (`nesco/portal/nesco.parsing.ts`)

The form has no names to go by: a value is the input beside a label, and is looked up by the text of
the label, in full or as its beginning. What `cheerio` selects of the form is a field of
`PortalExternals`. A page is accepted exactly when it states the record that is read from it: each
value stands beside a label that begins with the text of its field, wherever on the page, among
whatever other fields.
-/

namespace ElectroSync
open JsNumber

/-- A label of the form: its text, and the `value` attribute of the first input beside it. -/
structure DetailLabel where
  text : String
  input : Option (Option String)
  deriving DecidableEq

/-- What the client and the parser take from a page besides its report table. -/
structure PortalExternals extends Externals where
  detailLabels : String → List DetailLabel
  csrfToken : String → Option String

/-- The field of a label that has an input. -/
def labelledField (host : PortalExternals) (label : DetailLabel) : Option (String × String) :=
  label.input.map fun value =>
    (normalizeText host.toExternals label.text, JsString.trim (value.getD ""))

/-- The fields of the form, in document order. -/
def labelledFields (host : PortalExternals) (html : String) : List (String × String) :=
  (host.detailLabels html).filterMap (labelledField host)

def extractLabelledInputs (host : PortalExternals) (html : String) :
    InsertionMap String String :=
  .ofEntries (labelledFields host html)

/-- `key.startsWith(target)` -/
def startsWith (key target : String) : Bool := target.toList.isPrefixOf key.toList

def requireLabelledEntry (host : PortalExternals) (values : InsertionMap String String)
    (label : String) : Except NescoPortalError (String × String) :=
  let target := normalizeText host.toExternals label
  match values.get? target with
  | some exact_ => .ok (target, exact_)
  | none =>
    match values.entries.find? fun entry => startsWith entry.1 target with
    | some entry => .ok entry
    | none => .error (layoutError s!"Customer detail form has no field labelled \"{label}\"")

def requireLabelled (host : PortalExternals) (values : InsertionMap String String)
    (label : String) : Except NescoPortalError String :=
  (requireLabelledEntry host values label).map Prod.snd

namespace Label

def name : String := "গ্রাহকের নাম"
def address : String := "ঠিকানা"
def office : String := "সংশ্লিষ্ট বিদ্যুৎ অফিস"
def feeder : String := "ফিডারের নাম"
def meterNo : String := "মিটার নম্বর"
def meterType : String := "মিটারের ধরণ"
def meterStatus : String := "মিটার স্ট্যাটাস"
def meterInstalledAt : String := "মিটার স্থাপনের তারিখ"
def approvedLoad : String := "অনুমোদিত লোড (কি.ও)"
def balance : String := "অবশিষ্ট ব্যালেন্স"
def minRecharge : String := "মিনিমাম রিচার্জের পরিমাণ (টাকা)"

def texts : List String :=
  [name, address, office, feeder, meterNo, meterType, meterStatus, meterInstalledAt, approvedLoad,
    balance, minRecharge]

end Label

structure NescoCustomerInfoDto where
  consumerNo : String
  name : String
  address : String
  office : String
  feeder : String
  meterNo : String
  meterType : String
  meterStatus : String
  /-- Unix epoch seconds. -/
  meterInstalledAt : ℤ
  approvedLoad : ℚ
  minimumRecharge : ℚ
  currentBalance : ℚ
  /-- Unix epoch seconds, when the portal printed a stamp. -/
  balanceAsOf : Option ℤ
  deriving DecidableEq

structure PortalBalance where
  balance : ℚ
  asOf : Option ℤ
  deriving DecidableEq

def customerNotFound (customerNumber : String) : NescoPortalError :=
  ⟨.customerNotFound, s!"The portal returned no customer details for \"{customerNumber}\""⟩

def parseCustomerInfo (host : PortalExternals) (html customerNumber : String) :
    Except NescoPortalError NescoCustomerInfoDto := do
  let values := extractLabelledInputs host html
  if values.entries = [] then throw (customerNotFound customerNumber)
  let installedAt ← requireLabelled host values Label.meterInstalledAt
  let balance ← requireLabelledEntry host values Label.balance
  return {
    consumerNo := customerNumber
    name := ← requireLabelled host values Label.name
    address := ← requireLabelled host values Label.address
    office := ← requireLabelled host values Label.office
    feeder := ← requireLabelled host values Label.feeder
    meterNo := ← requireLabelled host values Label.meterNo
    meterType := ← requireLabelled host values Label.meterType
    meterStatus := ← requireLabelled host values Label.meterStatus
    meterInstalledAt := ← parseInstallationDate installedAt
    approvedLoad :=
      ← parseAmount (← requireLabelled host values Label.approvedLoad) "approvedLoad"
    minimumRecharge :=
      ← parseAmount (← requireLabelled host values Label.minRecharge) "minimumRecharge"
    currentBalance := ← parseAmount balance.2 "currentBalance"
    balanceAsOf := parseBalanceAsOf balance.1 }

def parseBalance (host : PortalExternals) (html customerNumber : String) :
    Except NescoPortalError PortalBalance := do
  let values := extractLabelledInputs host html
  if values.entries = [] then throw (customerNotFound customerNumber)
  let entry ← requireLabelledEntry host values Label.balance
  return {
    balance := ← parseAmount entry.2 "balance"
    asOf := parseBalanceAsOf entry.1 }

/-! ## What a page states -/

section Statements
variable (host : PortalExternals) (fields : List (String × String))

/-- The field is on the page, and its label begins with the text. -/
structure Stated (label : String) (field : String × String) : Prop where
  mem : field ∈ fields
  begins : startsWith field.1 (normalizeText host.toExternals label)

/-- The labels of two different fields do not begin with one of the texts. -/
def Unambiguous : Prop :=
  ∀ label ∈ Label.texts, ∀ field field', Stated host fields label field →
    Stated host fields label field' → field = field'

/-- The amount that a text is read as. -/
def AmountText (raw : String) (v : ℚ) : Prop :=
  (cleaned raw = "" ∨ cleaned raw = "-") ∧ v = 0 ∨
    (DecimalNumeral (cleaned raw).toList v ∨ ExponentNumeral (cleaned raw).toList v ∨
      RadixLiteral (cleaned raw).toList v) ∧ |v| < overflow

def StatesText (label value : String) : Prop :=
  ∃ key, Stated host fields label (key, value)

def StatesAmount (label : String) (v : ℚ) : Prop :=
  ∃ raw, StatesText host fields label raw ∧ AmountText raw v

/-- The balance, and in its label the stamp, when a readable one is printed there. -/
def StatesBalance (balance : PortalBalance) : Prop :=
  ∃ key raw, Stated host fields Label.balance (key, raw) ∧ AmountText raw balance.balance ∧
    ∀ t, balance.asOf = some t ↔ ∃ c, PrintsBalance key c ∧ Readable c ∧ t = dhakaSeconds c

structure StatesInfo (info : NescoCustomerInfoDto) : Prop where
  name : StatesText host fields Label.name info.name
  address : StatesText host fields Label.address info.address
  office : StatesText host fields Label.office info.office
  feeder : StatesText host fields Label.feeder info.feeder
  meterNo : StatesText host fields Label.meterNo info.meterNo
  meterType : StatesText host fields Label.meterType info.meterType
  meterStatus : StatesText host fields Label.meterStatus info.meterStatus
  meterInstalledAt : ∃ raw c, StatesText host fields Label.meterInstalledAt raw ∧
    Prints SlashText raw c ∧ Readable c ∧ info.meterInstalledAt = dhakaSeconds c
  approvedLoad : StatesAmount host fields Label.approvedLoad info.approvedLoad
  minimumRecharge : StatesAmount host fields Label.minRecharge info.minimumRecharge
  balance : StatesBalance host fields ⟨info.currentBalance, info.balanceAsOf⟩

end Statements

/-! ## Reading a field -/

variable {host : PortalExternals} {fields : List (String × String)} {label raw : String}
  {field : String × String} {html customerNumber : String}

theorem startsWith_self (text : String) : startsWith text text := by simp [startsWith]

theorem requireLabelledEntry_iff (clear : Unambiguous host fields) (used : label ∈ Label.texts) :
    requireLabelledEntry host (.ofEntries fields) label = .ok field ↔
      Stated host fields label field := by
  have kept {field : String × String} (stated : Stated host fields label field) :
      field ∈ (InsertionMap.ofEntries fields).entries :=
    InsertionMap.mem_ofEntries_of_unique stated.mem fun other member same =>
      clear label used other field ⟨member, same ▸ stated.begins⟩ stated
  simp only [requireLabelledEntry]
  cases exact_ : (InsertionMap.ofEntries fields).get? (normalizeText host.toExternals label) with
  | some value =>
    have stated : Stated host fields label (normalizeText host.toExternals label, value) :=
      ⟨InsertionMap.mem_of_mem_ofEntries (InsertionMap.get?_eq_some_iff.mp exact_),
        startsWith_self _⟩
    rw [Except.ok.injEq]
    constructor
    · rintro rfl
      exact stated
    · exact clear label used _ _ stated
  | none =>
    cases first : (InsertionMap.ofEntries fields).entries.find? fun entry =>
        startsWith entry.1 (normalizeText host.toExternals label) with
    | some entry =>
      have begins := List.find?_some first
      have stated : Stated host fields label entry :=
        ⟨InsertionMap.mem_of_mem_ofEntries (List.mem_of_find?_eq_some first), begins⟩
      simp only [Except.ok.injEq]
      constructor
      · rintro rfl
        exact stated
      · exact clear label used _ _ stated
    | none =>
      simp only [reduceCtorEq, false_iff]
      exact fun stated => List.find?_eq_none.mp first field (kept stated) stated.begins

theorem map_eq_ok_iff {f : α → β} {x : Except ε α} {b : β} :
    x.map f = .ok b ↔ ∃ a, x = .ok a ∧ f a = b := by
  rcases x with e | a <;> simp [Except.map]

theorem bind_eq_ok_iff {f : α → Except ε β} {x : Except ε α} {b : β} :
    (x >>= f) = .ok b ↔ ∃ a, x = .ok a ∧ f a = .ok b := by
  rcases x with e | a <;> simp [bind, Except.bind]

theorem pure_eq_ok_iff {a b : α} : (pure a : Except ε α) = .ok b ↔ a = b := by
  simp [pure, Except.pure]

theorem requireLabelled_iff (clear : Unambiguous host fields) (used : label ∈ Label.texts) :
    requireLabelled host (.ofEntries fields) label = .ok raw ↔
      StatesText host fields label raw := by
  rw [requireLabelled, map_eq_ok_iff]
  simp only [requireLabelledEntry_iff clear used, StatesText, Prod.exists, exists_eq_right]

theorem parseAmount_iff {v : ℚ} {name : String} :
    parseAmount (some raw) name = .ok v ↔ AmountText raw v := by
  by_cases blank : cleaned raw = "" ∨ cleaned raw = "-"
  · have numeral := @literal_eq_some_iff (cleaned raw).toList v
    rw [literal_blank blank] at numeral
    simp only [reduceCtorEq, false_iff] at numeral
    rw [parseAmount_blank blank, AmountText, or_iff_left fun h => numeral h.1,
      and_iff_right blank, Except.ok.injEq, eq_comm]
  · obtain ⟨nonempty, nodash⟩ := not_or.mp blank
    have unblank : ¬ ((cleaned raw = "" ∨ cleaned raw = "-") ∧ v = 0) := fun h => blank h.1
    rw [parseAmount_eq_ok_iff nonempty nodash, literal_eq_some_iff, AmountText,
      or_iff_right unblank]

/-! ## Reading a page -/

theorem statesBalance_iff (clear : Unambiguous host fields) {balance : ℚ} {asOf : Option ℤ}
    (name : String) :
    (∃ entry, requireLabelledEntry host (.ofEntries fields) Label.balance = .ok entry ∧
      parseAmount (some entry.2) name = .ok balance ∧ parseBalanceAsOf entry.1 = asOf) ↔
      StatesBalance host fields ⟨balance, asOf⟩ := by
  have stamp (key : String) : parseBalanceAsOf key = asOf ↔
      ∀ t, asOf = some t ↔ ∃ c, PrintsBalance key c ∧ Readable c ∧ t = dhakaSeconds c := by
    simp only [← (reads_balanceAsOf key).accepts]
    rw [Option.ext_iff]
    exact forall_congr' fun t => iff_comm
  have used : Label.balance ∈ Label.texts := by simp [Label.texts]
  simp only [requireLabelledEntry_iff clear used, parseAmount_iff, stamp, StatesBalance,
    Prod.exists]

theorem StatesBalance.nonempty {balance : PortalBalance}
    (states : StatesBalance host fields balance) : fields ≠ [] := by
  obtain ⟨key, raw, stated, -⟩ := states
  exact List.ne_nil_of_mem stated.mem

theorem extract_ne_nil (nonempty : labelledFields host html ≠ []) :
    (extractLabelledInputs host html).entries ≠ [] :=
  mt InsertionMap.ofEntries_eq_nil_iff.mp nonempty

theorem parseBalance_iff (clear : Unambiguous host (labelledFields host html))
    {balance : PortalBalance} :
    parseBalance host html customerNumber = .ok balance ↔
      StatesBalance host (labelledFields host html) balance := by
  by_cases empty : labelledFields host html = []
  · have none_ : (extractLabelledInputs host html).entries = [] :=
      InsertionMap.ofEntries_eq_nil_iff.mpr empty
    rw [parseBalance]
    refine iff_of_false ?_ fun states => states.nonempty empty
    simp [none_, throw, throwThe, MonadExceptOf.throw, bind, Except.bind]
  · rw [← statesBalance_iff clear "balance", parseBalance, if_neg (extract_ne_nil empty)]
    simp only [extractLabelledInputs, bind_eq_ok_iff, pure_eq_ok_iff]
    refine exists_congr fun entry => and_congr_right fun _ => ?_
    constructor
    · rintro ⟨amount, read, rfl⟩
      exact ⟨read, rfl⟩
    · rintro ⟨read, stamp⟩
      exact ⟨balance.balance, read, by rw [stamp]⟩

/-- A page is accepted exactly when it states the record that is read. -/
theorem parseCustomerInfo_iff (clear : Unambiguous host (labelledFields host html))
    {info : NescoCustomerInfoDto} :
    parseCustomerInfo host html customerNumber = .ok info ↔
      info.consumerNo = customerNumber ∧ StatesInfo host (labelledFields host html) info := by
  by_cases empty : labelledFields host html = []
  · have none_ : (extractLabelledInputs host html).entries = [] :=
      InsertionMap.ofEntries_eq_nil_iff.mpr empty
    rw [parseCustomerInfo]
    refine iff_of_false ?_ fun states => states.2.balance.nonempty empty
    simp [none_, throw, throwThe, MonadExceptOf.throw, bind, Except.bind]
  have text : ∀ label ∈ Label.texts, ∀ value, requireLabelled host
      (.ofEntries (labelledFields host html)) label = .ok value ↔
        StatesText host (labelledFields host html) label value :=
    fun label used value => requireLabelled_iff clear used
  simp only [Label.texts, List.forall_mem_cons] at text
  obtain ⟨name, address, office, feeder, meterNo, meterType, meterStatus, installed, load, -,
    least, -⟩ := text
  have date (raw : String) (t : ℤ) : parseInstallationDate raw = .ok t ↔
      ∃ c, Prints SlashText raw c ∧ Readable c ∧ t = dhakaSeconds c := by
    rw [← (reads_installationDate raw).accepts, toOption_eq_some_iff]
  have balance := @statesBalance_iff _ _ clear info.currentBalance info.balanceAsOf "currentBalance"
  rw [parseCustomerInfo, if_neg (extract_ne_nil empty)]
  simp only [extractLabelledInputs, bind_eq_ok_iff, pure_eq_ok_iff, name, address, office, feeder,
    meterNo, meterType, meterStatus, installed, load, least, date, parseAmount_iff]
  simp only [parseAmount_iff] at balance
  constructor
  · rintro ⟨raw, dated, entry, found, _, name, _, address, _, office, _, feeder, _, meterNo, _,
      meterType, _, meterStatus, _, ⟨c, printed, readable, rfl⟩, _, load, _, loaded, _, least, _,
      leastRead, _, current, rfl⟩
    exact ⟨rfl, name, address, office, feeder, meterNo, meterType, meterStatus,
      ⟨raw, c, dated, printed, readable, rfl⟩, ⟨_, load, loaded⟩, ⟨_, least, leastRead⟩,
      balance.mp ⟨entry, found, current, rfl⟩⟩
  · rintro ⟨rfl, name, address, office, feeder, meterNo, meterType, meterStatus,
      ⟨raw, c, dated, printed, readable, at_⟩, ⟨_, load, loaded⟩, ⟨_, least, leastRead⟩, stated⟩
    obtain ⟨entry, found, current, stamp⟩ := balance.mpr stated
    refine ⟨raw, dated, entry, found, _, name, _, address, _, office, _, feeder, _, meterNo, _,
      meterType, _, meterStatus, _, ⟨c, printed, readable, at_⟩, _, load, _, loaded, _, least, _,
      leastRead, _, current, ?_⟩
    rw [stamp]

/-- The fields whose labels begin with the text. -/
def fieldsOf (host : PortalExternals) (fields : List (String × String)) (label : String) :
    List (String × String) :=
  fields.filter fun field => startsWith field.1 (normalizeText host.toExternals label)

theorem mem_fieldsOf : field ∈ fieldsOf host fields label ↔ Stated host fields label field := by
  rw [fieldsOf, List.mem_filter]
  exact ⟨fun ⟨member, begins⟩ => ⟨member, begins⟩, fun h => ⟨h.mem, h.begins⟩⟩

instance (host : PortalExternals) (fields : List (String × String)) :
    Decidable (Unambiguous host fields) :=
  decidable_of_iff (∀ label ∈ Label.texts, ∀ field ∈ fieldsOf host fields label,
    ∀ field' ∈ fieldsOf host fields label, field = field') <| by
  simp only [mem_fieldsOf, Unambiguous]
  exact ⟨fun h label used field field' stated => h label used field stated field',
    fun h label used field stated field' => h label used field field' stated⟩

/-- A page with the fields out of order, one that is not used, and Bengali digits. -/
def samplePage : List DetailLabel :=
  [⟨"মিনিমাম রিচার্জের পরিমাণ (টাকা)", some (some "২০০")⟩,
    ⟨" অবশিষ্ট  ব্যালেন্স (টাকা)(সময়ঃ 15 August 2026 12:00:00 AM )", some (some "1,523.45")⟩,
    ⟨"মোবাইল নম্বর", some none⟩, ⟨"গ্রাহকের নাম", some (some " MD. RAJU AHMED ")⟩,
    ⟨"ঠিকানা", some (some "RAJSHAHI")⟩, ⟨"সংশ্লিষ্ট বিদ্যুৎ অফিস", some (some "S&D 1")⟩,
    ⟨"ফিডারের নাম", some (some "KADIRGANJ")⟩, ⟨"মিটার নম্বর", some (some "000012345678")⟩,
    ⟨"মিটারের ধরণ", some (some "1P")⟩, ⟨"মিটার স্ট্যাটাস", some (some "Active")⟩,
    ⟨"মিটার স্থাপনের তারিখ", some (some "15/03/2021 14:22:31")⟩,
    ⟨"অনুমোদিত লোড (কি.ও)", some (some "2")⟩, ⟨"অনুমোদিত লোড", none⟩]

def sampleHost : PortalExternals where
  reportTable _ := none
  normalizeNFC := id
  toLowerCase := id
  detailLabels _ := samplePage
  csrfToken _ := none

def sampleInfo : NescoCustomerInfoDto where
  consumerNo := "33009605"
  name := "MD. RAJU AHMED"
  address := "RAJSHAHI"
  office := "S&D 1"
  feeder := "KADIRGANJ"
  meterNo := "000012345678"
  meterType := "1P"
  meterStatus := "Active"
  meterInstalledAt := 1615796551
  approvedLoad := 2
  minimumRecharge := 200
  currentBalance := 1523.45
  balanceAsOf := some 1786730400

theorem parseCustomerInfo_iff_sample :
    parseCustomerInfo sampleHost "" "33009605" = .ok sampleInfo ∧
      StatesInfo sampleHost (labelledFields sampleHost "") sampleInfo := by
  have ⟨accepted, clear⟩ : parseCustomerInfo sampleHost "" "33009605" = .ok sampleInfo ∧
      Unambiguous sampleHost (labelledFields sampleHost "") := by decide +kernel
  exact ⟨accepted, ((parseCustomerInfo_iff clear).mp accepted).2⟩

end ElectroSync
