import ElectroSync.Auth.PasswordResetPolicy
import ElectroSync.Common.Exceptions
import ElectroSync.Library.JsString
import ElectroSync.Library.Rows
import Mathlib.Data.List.Sort

/-!
# Password recovery (`auth/password-reset.service.ts`)

A request emails a one-time code; a reset trades the code for a new password. The statements of the
two flows against the tables are definitions of their own, and `request` and `reset` are the flows
as one call runs them when no other call interferes.
-/

namespace ElectroSync

/-! ## Tables (`database/schema`) -/

inductive VerificationType
  | passwordReset
  deriving DecidableEq

structure VerificationRow where
  id : String
  identifier : String
  type : VerificationType
  value : String
  expiresAt : ℤ
  attempts : ℕ := 0
  consumedAt : Option ℤ := none
  createdAt : ℤ
  deriving DecidableEq

/-- What `rejectionFor` reads of a row. -/
def VerificationRow.record (row : VerificationRow) : ResetCodeRecord :=
  ⟨row.expiresAt, row.consumedAt, row.attempts⟩

structure UserRow where
  id : String
  name : String
  email : String
  settings : Option UserSettings := none
  deriving DecidableEq

structure AccountRow where
  userId : String
  providerId : String
  password : Option String
  deriving DecidableEq

structure Tables where
  users : List UserRow := []
  accounts : List AccountRow := []
  verifications : List VerificationRow := []
  deriving DecidableEq

/-- `CREDENTIAL_PROVIDER` -/
def credentialProvider : String := "credential"

/-! ## Collaborators -/

/-- `PasswordService`, over argon2: a hash is made with a random salt. -/
structure PasswordService where
  hash (salt : ℕ) (plaintext : String) : String
  verify (hash plaintext : String) : Bool
  verify_hash (salt : ℕ) (p q : String) : verify (hash salt p) q = decide (p = q)

structure Platform where
  passwords : PasswordService
  toLowerCase : String → String

/-- What `MailService.send` throws. -/
def mailUnavailable : HttpException :=
  ⟨503, "Could not send the email. Please try again shortly.", none⟩

/-- The data of `passwordResetMail`. -/
structure PasswordResetMail where
  address : String
  name : String
  code : String
  expiresInMinutes : ℤ
  locale : Language
  deriving DecidableEq

/-- The user a token is issued for. -/
structure TokenSubject where
  id : String
  email : String
  deriving DecidableEq

structure ForgotPasswordDto where
  email : String
  deriving DecidableEq

structure ResetPasswordDto where
  email : String
  code : String
  password : String
  deriving DecidableEq

namespace PasswordResetService

def normalizeEmail (platform : Platform) (email : String) : String :=
  platform.toLowerCase (JsString.trim email)

/-- The first word of the stored name. -/
def firstName (name : String) : String :=
  let first := JsString.firstWord (JsString.trim name)
  if first = "" then name else first

inductive InvalidCodeReason
  | rejected (rejection : CodeRejection)
  | mismatch
  | accountGone
  deriving DecidableEq

/-- The reason is logged and does not reach the response. -/
def invalidCode (_reason : InvalidCodeReason) : HttpException :=
  ⟨400, "That code is wrong or has expired. Request a new one.", none⟩

def tooManyRequests (throttle : Throttle) : HttpException :=
  ⟨429, "Too many reset requests. Please wait before trying again.",
    some throttle.retryAfterSeconds⟩

def resetMail (recipient : UserRow) (code : String) : PasswordResetMail where
  address := recipient.email
  name := firstName recipient.name
  code := code
  expiresInMinutes := codeTtlMinutes
  locale := match recipient.settings.map UserSettings.language with
    | some (.value language) => language
    | _ => .en

/-! ## Statements -/

def isCodeFor (email : String) (row : VerificationRow) : Bool :=
  row.identifier = email && row.type = .passwordReset

def codesFor (t : Tables) (email : String) : List VerificationRow :=
  t.verifications.filter (isCodeFor email)

/-- The newest code of an email. Among rows with the same `createdAt` the database picks any. -/
def selectPending (t : Tables) (email : String) (tie : ℕ) : Option VerificationRow :=
  let rows := codesFor t email
  let newest := rows.filter fun row => rows.all fun other => other.createdAt ≤ row.createdAt
  newest[tie % newest.length]?

def findCredentialUser (t : Tables) (email : String) : Option UserRow :=
  t.users.find? fun user => user.email = email &&
    t.accounts.any fun account =>
      account.userId = user.id && account.providerId = credentialProvider

/-- The query of `assertNotThrottled`. -/
def recentRequests (t : Tables) (email : String) (now : ℤ) : List IssuedRequest :=
  let rows := (codesFor t email).filter (·.createdAt > requestWindowStart now)
  (rows.map fun row => ⟨row.createdAt⟩).insertionSort fun a b => b.createdAt ≤ a.createdAt

/-- The rows that the retiring `UPDATE` finds when it starts. -/
def liveCodes (t : Tables) (email : String) : List String :=
  ((codesFor t email).filter (·.consumedAt.isNone)).map (·.id)

/-- Of the rows that it found, the `UPDATE` retires those that still are live. -/
def retire (email : String) (now : ℤ) (live : List String) (row : VerificationRow) :
    VerificationRow :=
  if isCodeFor email row && row.consumedAt.isNone && live.contains row.id then
    { row with consumedAt := some now }
  else row

def newCode (email : String) (now : ℤ) (codeHash id : String) : VerificationRow where
  id := id
  identifier := email
  type := .passwordReset
  value := codeHash
  expiresAt := codeExpiryFrom now
  createdAt := now

/-- The transaction of a request. -/
def issueCode (t : Tables) (email : String) (now : ℤ) (codeHash id : String) (live : List String) :
    Tables :=
  { t with verifications :=
      t.verifications.map (retire email now live) ++ [newCode email now codeHash id] }

def attempt (id : String) (row : VerificationRow) : VerificationRow :=
  if row.id = id then { row with attempts := row.attempts + 1 } else row

def countAttempt (t : Tables) (id : String) : Tables :=
  { t with verifications := t.verifications.map (attempt id) }

def consume (id : String) (now : ℤ) (row : VerificationRow) : VerificationRow :=
  if row.id = id then { row with consumedAt := some now } else row

def setPassword (userId passwordHash : String) (account : AccountRow) : AccountRow :=
  if account.userId = userId && account.providerId = credentialProvider then
    { account with password := some passwordHash }
  else account

/-- The transaction of a reset. -/
def redeemCode (t : Tables) (id : String) (now : ℤ) (userId passwordHash : String) : Tables :=
  { t with
    verifications := t.verifications.map (consume id now)
    accounts := t.accounts.map (setPassword userId passwordHash) }

/-! ## The flows -/

/-- What a request meets: the draw of its code, the salt of the hash, the id of the new row, and
whether its transaction commits and its mail leaves. -/
structure RequestChance where
  draw : Fin (10 ^ codeLength)
  salt : ℕ := 0
  id : String
  commits : Bool := true
  delivers : Bool := true
  deriving DecidableEq

structure RequestResult where
  answer : Except HttpException Unit
  mail : Option PasswordResetMail := none
  tables : Tables
  deriving DecidableEq

def request (platform : Platform) (t : Tables) (dto : ForgotPasswordDto) (now : ℤ)
    (chance : RequestChance) : RequestResult :=
  let email := normalizeEmail platform dto.email
  match findCredentialUser t email with
  | none => { answer := .ok (), tables := t }
  | some recipient =>
    match throttleFor (recentRequests t email now) now with
    | some throttle => { answer := .error (tooManyRequests throttle), tables := t }
    | none =>
      let code := generateCode chance.draw
      let codeHash := platform.passwords.hash chance.salt code
      -- the primary key refuses an id that is taken
      if !chance.commits || t.verifications.any (·.id = chance.id) then
        { answer := .error internalError, tables := t }
      else
        { answer := if chance.delivers then .ok () else .error mailUnavailable
          mail := some (resetMail recipient code)
          tables := issueCode t email now codeHash chance.id (liveCodes t email) }

structure ResetChance where
  tie : ℕ := 0
  salt : ℕ := 0
  deriving DecidableEq

def reset (platform : Platform) (t : Tables) (dto : ResetPasswordDto) (now : ℤ)
    (chance : ResetChance) : Except HttpException TokenSubject × Tables :=
  let email := normalizeEmail platform dto.email
  let pending := selectPending t email chance.tie
  match pending, rejectionFor (pending.map (·.record)) now with
  | some pending, none =>
    if !platform.passwords.verify pending.value dto.code then
      (.error (invalidCode .mismatch), countAttempt t pending.id)
    else
      match findCredentialUser t email with
      | none => (.error (invalidCode .accountGone), t)
      | some recipient =>
        let passwordHash := platform.passwords.hash chance.salt dto.password
        (.ok ⟨recipient.id, recipient.email⟩, redeemCode t pending.id now recipient.id passwordHash)
  | _, rejection => (.error (invalidCode (.rejected (rejection.getD .missing))), t)

/-! ## What the statements do -/

variable {platform : Platform} {t t' : Tables} {email other : String} {row : VerificationRow}
  {now : ℤ}

theorem isCodeFor_iff : isCodeFor email row = true ↔ row.identifier = email := by
  cases h : row.type
  simp [isCodeFor, h]

theorem mem_codesFor : row ∈ codesFor t email ↔ row ∈ t.verifications ∧ row.identifier = email := by
  rw [codesFor, List.mem_filter, isCodeFor_iff]

/-- The row that was created last. -/
structure Newest (rows : List VerificationRow) (row : VerificationRow) : Prop where
  mem : row ∈ rows
  latest : ∀ other ∈ rows, other ≠ row → other.createdAt < row.createdAt

theorem Newest.map {rows : List VerificationRow} {f : VerificationRow → VerificationRow}
    (newest : Newest rows row) (same : ∀ row, (f row).createdAt = row.createdAt) :
    Newest (rows.map f) (f row) := by
  refine ⟨List.mem_map_of_mem newest.mem, fun other mem different => ?_⟩
  obtain ⟨row', mem', rfl⟩ := List.mem_map.mp mem
  rw [same, same]
  exact newest.latest row' mem' fun equal => different (congrArg f equal)

theorem Newest.append_singleton {rows : List VerificationRow}
    (later : ∀ other ∈ rows, other.createdAt < row.createdAt) : Newest (rows ++ [row]) row := by
  refine ⟨by simp, fun other mem different => ?_⟩
  rcases List.mem_append.mp mem with old | new
  · exact later other old
  · exact absurd (List.mem_singleton.mp new) different

theorem selectPending_mem (h : selectPending t email tie = some row) :
    row ∈ codesFor t email ∧ ∀ other ∈ codesFor t email, other.createdAt ≤ row.createdAt := by
  have mem := List.mem_of_getElem? h
  simpa using mem

theorem Newest.selectPending (h : Newest (codesFor t email) row) (tie : ℕ) :
    selectPending t email tie = some row := by
  have maximal : row ∈ (codesFor t email).filter fun row =>
      (codesFor t email).all fun other => other.createdAt ≤ row.createdAt := by
    simp only [List.mem_filter, List.all_eq_true, decide_eq_true_eq]
    refine ⟨h.mem, fun other mem => ?_⟩
    by_cases same : other = row
    · rw [same]
    · exact (h.latest other mem same).le
  have bound := Nat.mod_lt tie (List.length_pos_of_mem maximal)
  have selected : PasswordResetService.selectPending t email tie = some _ :=
    List.getElem?_eq_getElem bound
  rw [selected]
  obtain ⟨mem, newest⟩ := selectPending_mem selected
  by_contra different
  have := h.latest _ mem (mt (congrArg some) different)
  have := newest row h.mem
  omega

theorem selectPending_of_nil (fresh : codesFor t email = []) (tie : ℕ) :
    selectPending t email tie = none := by
  simp [selectPending, fresh]

/-- When the codes of an email were sent. -/
def issuedAt (t : Tables) (email : String) : List ℤ := (codesFor t email).map (·.createdAt)

/-- What `throttleFor` gets of the codes that were sent at `times`. -/
def requestsAt (times : List ℤ) (now : ℤ) : List IssuedRequest :=
  ((times.filter (· > requestWindowStart now)).map .mk).insertionSort
    fun a b => b.createdAt ≤ a.createdAt

theorem recentRequests_eq (t : Tables) (email : String) (now : ℤ) :
    recentRequests t email now = requestsAt (issuedAt t email) now := by
  simp only [recentRequests, requestsAt, issuedAt, List.filter_map, List.map_map]
  rfl

/-- A request that is not throttled comes a minute after every code of its email. -/
theorem spacing_of_throttleFor (allowed : throttleFor (requestsAt times now) now = none)
    (mem : sent ∈ times) : sent + 60000 ≤ now := by
  by_cases recent : sent > requestWindowStart now
  · have listed : ⟨sent⟩ ∈ requestsAt times now := by
      simp only [requestsAt, List.mem_insertionSort, List.mem_map, List.mem_filter,
        decide_eq_true_eq]
      exact ⟨sent, ⟨mem, recent⟩, rfl⟩
    have sorted : (requestsAt times now).Pairwise fun a b => b.createdAt ≤ a.createdAt :=
      List.pairwise_insertionSort _ _
    generalize requestsAt times now = requests at allowed listed sorted
    cases requests with
    | nil => cases listed
    | cons newest rest =>
      have cooldown := cooldown_of_throttleFor allowed
      obtain rfl | later := List.mem_cons.mp listed
      · exact cooldown
      · have := (List.pairwise_cons.mp sorted).1 _ later
        simp only at this
        omega
  · simp only [requestWindowStart, requestWindowMinutes] at recent
    omega

/-- A request that is not throttled finds fewer codes in its window than the quota. -/
theorem room_of_throttleFor (allowed : throttleFor (requestsAt times now) now = none) :
    times.countP (requestWindowStart now < ·) < maxRequestsPerWindow := by
  have few := quota_of_throttleFor allowed
  have same := (List.perm_insertionSort (fun a b : IssuedRequest => b.createdAt ≤ a.createdAt)
    ((times.filter (· > requestWindowStart now)).map .mk)).countP_eq
      (·.createdAt > requestWindowStart now)
  rw [← List.countP_eq_length_filter, requestsAt, same, List.countP_map, List.countP_filter] at few
  convert few using 2
  simp

/-! ## What the updates leave unchanged -/

section Updates
variable {live : List String} {id userId hash : String} {account : AccountRow}

@[simp] theorem retire_id : (retire email now live row).id = row.id := by
  unfold retire
  split <;> rfl

@[simp] theorem retire_identifier : (retire email now live row).identifier = row.identifier := by
  unfold retire
  split <;> rfl

@[simp] theorem retire_createdAt : (retire email now live row).createdAt = row.createdAt := by
  unfold retire
  split <;> rfl

@[simp] theorem retire_attempts : (retire email now live row).attempts = row.attempts := by
  unfold retire
  split <;> rfl

theorem retire_of_ne (foreign : row.identifier ≠ email) : retire email now live row = row := by
  have : isCodeFor email row = false := by
    rwa [Bool.eq_false_iff, ne_eq, isCodeFor_iff]
  simp [retire, this]

theorem retire_of_unseen (unseen : row.id ∉ live) : retire email now live row = row := by
  simp [retire, unseen]

theorem retire_of_consumed (consumed : row.consumedAt ≠ none) :
    retire email now live row = row := by
  simp [retire, consumed]

@[simp] theorem attempt_id : (attempt id row).id = row.id := by
  unfold attempt
  split <;> rfl

@[simp] theorem attempt_identifier : (attempt id row).identifier = row.identifier := by
  unfold attempt
  split <;> rfl

@[simp] theorem attempt_createdAt : (attempt id row).createdAt = row.createdAt := by
  unfold attempt
  split <;> rfl

@[simp] theorem attempt_consumedAt : (attempt id row).consumedAt = row.consumedAt := by
  unfold attempt
  split <;> rfl

theorem attempt_of_ne (other : row.id ≠ id) : attempt id row = row := if_neg other

@[simp] theorem consume_id : (consume id now row).id = row.id := by
  unfold consume
  split <;> rfl

@[simp] theorem consume_identifier : (consume id now row).identifier = row.identifier := by
  unfold consume
  split <;> rfl

@[simp] theorem consume_createdAt : (consume id now row).createdAt = row.createdAt := by
  unfold consume
  split <;> rfl

@[simp] theorem consume_attempts : (consume id now row).attempts = row.attempts := by
  unfold consume
  split <;> rfl

theorem consume_consumedAt (consumed : row.consumedAt ≠ none) :
    (consume id now row).consumedAt ≠ none := by
  unfold consume
  split
  · exact Option.some_ne_none _
  · exact consumed

theorem consume_of_ne (other : row.id ≠ id) : consume id now row = row := if_neg other

@[simp] theorem setPassword_userId : (setPassword userId hash account).userId = account.userId := by
  unfold setPassword
  split <;> rfl

@[simp] theorem setPassword_providerId :
    (setPassword userId hash account).providerId = account.providerId := by
  unfold setPassword
  split <;> rfl

theorem codesFor_map {f : VerificationRow → VerificationRow}
    (same : ∀ row, (f row).identifier = row.identifier) :
    (t.verifications.map f).filter (isCodeFor email) = (codesFor t email).map f := by
  rw [codesFor, List.filter_map]
  congr 2
  funext row
  rw [Function.comp_apply, Bool.eq_iff_iff, isCodeFor_iff, isCodeFor_iff, same]

theorem codesFor_countAttempt (t : Tables) (email id : String) :
    codesFor (countAttempt t id) email = (codesFor t email).map (attempt id) :=
  codesFor_map fun _ => attempt_identifier

theorem codesFor_redeemCode (t : Tables) (email id : String) (now : ℤ) (userId hash : String) :
    codesFor (redeemCode t id now userId hash) email = (codesFor t email).map (consume id now) :=
  codesFor_map fun _ => consume_identifier

theorem codesFor_issueCode (t : Tables) (email : String) (now : ℤ) (hash id : String)
    (live : List String) :
    codesFor (issueCode t email now hash id live) email =
      (codesFor t email).map (retire email now live) ++ [newCode email now hash id] := by
  have new : isCodeFor email (newCode email now hash id) = true := isCodeFor_iff.mpr rfl
  simp only [codesFor, issueCode, List.filter_append, List.filter_cons, new]
  rw [codesFor_map fun _ => retire_identifier]
  rfl

theorem codesFor_issueCode_of_ne (foreign : other ≠ email) (now : ℤ) (hash id : String)
    (live : List String) :
    codesFor (issueCode t other now hash id live) email = codesFor t email := by
  have new : isCodeFor email (newCode other now hash id) = false := by
    rwa [Bool.eq_false_iff, ne_eq, isCodeFor_iff]
  have kept : (codesFor t email).map (retire other now live) = codesFor t email := by
    refine (List.map_congr_left fun row mem => ?_).trans (List.map_id _)
    apply retire_of_ne
    intro same
    apply foreign
    rw [← same, (mem_codesFor.mp mem).2]
  simp only [codesFor, issueCode, List.filter_append, List.filter_cons, new]
  rw [codesFor_map fun _ => retire_identifier, kept]
  exact List.append_nil _

/-- Resets and requests change no user, and of the accounts only passwords. -/
theorem findCredentialUser_redeemCode :
    findCredentialUser (redeemCode t id now userId hash) email = findCredentialUser t email := by
  simp only [findCredentialUser, redeemCode, List.any_map, Function.comp_def, setPassword_userId,
    setPassword_providerId]

end Updates

/-! ## Row identities -/

section Ids
variable {row' : VerificationRow} {id hash : String}

/-- The primary key of `verification`. -/
def IdsDistinct (t : Tables) : Prop := (t.verifications.map (·.id)).Nodup

theorem IdsDistinct.eq (ids : IdsDistinct t) (mem : row ∈ t.verifications)
    (mem' : row' ∈ t.verifications) (same : row.id = row'.id) : row = row' :=
  List.inj_on_of_nodup_map ids mem mem' same

/-- An update of one row of another email. -/
theorem codesFor_update_of_ne {f : VerificationRow → VerificationRow} (ids : IdsDistinct t)
    (mem : row ∈ codesFor t other) (foreign : other ≠ email)
    (fixed : ∀ row' : VerificationRow, row'.id ≠ row.id → f row' = row') :
    (codesFor t email).map f = codesFor t email := by
  refine (List.map_congr_left fun row' mem' => ?_).trans (List.map_id _)
  apply fixed row'
  intro same
  apply foreign
  obtain ⟨mem, identifier⟩ := mem_codesFor.mp mem
  obtain ⟨mem', identifier'⟩ := mem_codesFor.mp mem'
  rw [← identifier, ← identifier', ids.eq mem' mem same]

theorem map_attempt_ids (t : Tables) (id : String) :
    (countAttempt t id).verifications.map (·.id) = t.verifications.map (·.id) := by
  simp only [countAttempt, List.map_map, Function.comp_def, attempt_id]

theorem map_consume_ids (t : Tables) (id : String) (now : ℤ) (userId hash : String) :
    (redeemCode t id now userId hash).verifications.map (·.id) = t.verifications.map (·.id) := by
  simp only [redeemCode, List.map_map, Function.comp_def, consume_id]

theorem IdsDistinct.issueCode {live : List String} (ids : IdsDistinct t)
    (fresh : ∀ row ∈ t.verifications, row.id ≠ id) :
    IdsDistinct (issueCode t email now hash id live) := by
  apply Rows.nodup_map_snoc
  · simpa only [IdsDistinct, List.map_map, Function.comp_def, retire_id] using ids
  · intro old retired
    obtain ⟨row, mem, rfl⟩ := List.mem_map.mp retired
    rw [retire_id]
    exact fresh row mem

end Ids

/-! ## What a call does -/

/-- The answers of a request whose transaction committed. -/
def Issued (answer : Except HttpException Unit) : Prop :=
  answer = .ok () ∨ answer = .error mailUnavailable

instance (answer : Except HttpException Unit) : Decidable (Issued answer) :=
  inferInstanceAs (Decidable (_ ∨ _))

/-- For an email with an account, a request either does nothing and says so, or it issues a code. -/
theorem request_cases {dto : ForgotPasswordDto} (chance : RequestChance)
    (account : findCredentialUser t (normalizeEmail platform dto.email) = some user) :
    ¬ Issued (request platform t dto now chance).answer ∧
        (request platform t dto now chance).tables = t ∨
      Issued (request platform t dto now chance).answer ∧
        throttleFor (recentRequests t (normalizeEmail platform dto.email) now) now = none ∧
        (∀ row ∈ t.verifications, row.id ≠ chance.id) ∧
        (request platform t dto now chance).tables =
          issueCode t (normalizeEmail platform dto.email) now
            (platform.passwords.hash chance.salt (generateCode chance.draw)) chance.id
            (liveCodes t (normalizeEmail platform dto.email)) := by
  simp only [request, account]
  split
  · left
    simp [Issued, tooManyRequests, mailUnavailable]
  · next allowed =>
    split
    · left
      simp [Issued, internalError, mailUnavailable]
    · next committed =>
      simp only [Bool.or_eq_true, not_or, Bool.not_eq_true', List.any_eq_true, decide_eq_true_eq,
        not_exists, not_and] at committed
      refine .inr ⟨?_, allowed, committed.2, rfl⟩
      cases chance.delivers
      · exact .inr rfl
      · exact .inl rfl

/-- Whatever the email, a request issues a code of that email or leaves the tables as they are. -/
theorem request_tables (dto : ForgotPasswordDto) (chance : RequestChance) :
    (request platform t dto now chance).tables = t ∨
      (∀ row ∈ t.verifications, row.id ≠ chance.id) ∧
        (request platform t dto now chance).tables =
          issueCode t (normalizeEmail platform dto.email) now
            (platform.passwords.hash chance.salt (generateCode chance.draw)) chance.id
            (liveCodes t (normalizeEmail platform dto.email)) := by
  cases account : findCredentialUser t (normalizeEmail platform dto.email) with
  | none =>
    left
    simp only [request, account]
  | some user =>
    obtain ⟨-, same⟩ | ⟨-, -, fresh, issued⟩ := request_cases chance account
    · exact .inl same
    · exact .inr ⟨fresh, issued⟩

/-- The row can be redeemed. -/
def Redeemable (row : VerificationRow) (now : ℤ) : Prop :=
  row.consumedAt = none ∧ now < row.expiresAt ∧ row.attempts < maxAttempts

instance : Decidable (Redeemable row now) := inferInstanceAs (Decidable (_ ∧ _ ∧ _))

theorem rejectionFor_record : rejectionFor (some row.record) now = none ↔ Redeemable row now := by
  simp [rejectionFor_eq_none, Redeemable, VerificationRow.record]

/-- The response to every code that does not work. -/
def wrongCode : HttpException := invalidCode .mismatch

theorem reset_of_missing {dto : ResetPasswordDto} (chance : ResetChance)
    (missing : selectPending t (normalizeEmail platform dto.email) chance.tie = none) :
    reset platform t dto now chance = (.error wrongCode, t) := by
  simp only [reset, missing]
  rfl

theorem reset_of_pending {dto : ResetPasswordDto} (chance : ResetChance)
    (pending : selectPending t (normalizeEmail platform dto.email) chance.tie = some row) :
    reset platform t dto now chance =
      if ¬ Redeemable row now then (.error wrongCode, t)
      else if platform.passwords.verify row.value dto.code = false then
        (.error wrongCode, countAttempt t row.id)
      else match findCredentialUser t (normalizeEmail platform dto.email) with
        | none => (.error wrongCode, t)
        | some user => (.ok ⟨user.id, user.email⟩, redeemCode t row.id now user.id
            (platform.passwords.hash chance.salt dto.password)) := by
  simp only [reset, pending, Option.map_some]
  split
  · next found allowed =>
    cases found
    rw [if_neg (not_not.mpr (rejectionFor_record.mp allowed))]
    cases platform.passwords.verify row.value dto.code <;> rfl
  · next refused =>
    have : ¬ Redeemable row now := fun allowed =>
      refused row rfl (rejectionFor_record.mpr allowed)
    rw [if_pos this]
    rfl

/-- Whatever the email, a reset leaves the tables as they are, counts an attempt against a code of
the email, or redeems one for the account of the email. -/
theorem reset_tables (dto : ResetPasswordDto) (chance : ResetChance) :
    (∃ e, reset platform t dto now chance = (.error e, t)) ∨
      (∃ e, ∃ row ∈ codesFor t (normalizeEmail platform dto.email),
        reset platform t dto now chance = (.error e, countAttempt t row.id)) ∨
      ∃ row ∈ codesFor t (normalizeEmail platform dto.email), ∃ user,
        findCredentialUser t (normalizeEmail platform dto.email) = some user ∧
        reset platform t dto now chance = (.ok ⟨user.id, user.email⟩,
          redeemCode t row.id now user.id (platform.passwords.hash chance.salt dto.password)) := by
  cases pending : selectPending t (normalizeEmail platform dto.email) chance.tie with
  | none => exact .inl ⟨_, reset_of_missing chance pending⟩
  | some row =>
    have mem := (selectPending_mem pending).1
    rw [reset_of_pending chance pending]
    split
    · exact .inl ⟨_, rfl⟩
    split
    · exact .inr (.inl ⟨_, row, mem, rfl⟩)
    · split
      · exact .inl ⟨_, rfl⟩
      · next user account => exact .inr (.inr ⟨row, mem, user, account, rfl⟩)

end PasswordResetService

/-! ## A platform to run -/

/-- Passwords as they are, and the case of ASCII letters. -/
def plainPlatform : Platform where
  passwords := {
    hash := fun _ plaintext => plaintext
    verify := fun hash plaintext => decide (hash = plaintext)
    verify_hash := fun _ _ _ => rfl }
  toLowerCase := fun s => String.ofList (s.toList.map Char.toLower)

/-- One user with a password. -/
def oneAccount : Tables where
  users := [{ id := "u", name := "Raju", email := "raju@example.com" }]
  accounts := [{ userId := "u", providerId := "credential", password := some "old password" }]

/-- The draw of the code 000042. -/
def firstCode : PasswordResetService.RequestChance where
  draw := 42
  id := "v"

end ElectroSync
