import ElectroSync.Auth.AuthService
import ElectroSync.Auth.PasswordResetRuns
import ElectroSync.Library.Rows

/-!
# Which email an account is known by

Runs of registrations, logins, requests and resets, one after the other. Every user is stored under
the normal form of the email that it registered with, and has one account, whose password is the
last one that was set for that form. A registration that spells the email of a user differently is
the one call that does not see this: it misses the user and meets the unique column.
-/

namespace ElectroSync
open Transition PasswordResetService AuthService

/-- What the language and argon2 say of their functions. -/
structure Platform.Conforms (platform : Platform) : Prop where
  toLowerCase_toLowerCase (s : String) :
    platform.toLowerCase (platform.toLowerCase s) = platform.toLowerCase s
  trim_toLowerCase (s : String) :
    JsString.trim (platform.toLowerCase s) = platform.toLowerCase (JsString.trim s)
  hash_ne_empty (salt : ℕ) (plaintext : String) : platform.passwords.hash salt plaintext ≠ ""

theorem Platform.Conforms.normalizeEmail {platform : Platform}
    (conforms : platform.Conforms) (email : String) :
    PasswordResetService.normalizeEmail platform
      (PasswordResetService.normalizeEmail platform email) =
      PasswordResetService.normalizeEmail platform email := by
  unfold PasswordResetService.normalizeEmail
  rw [conforms.trim_toLowerCase, JsString.trim_trim, conforms.toLowerCase_toLowerCase]

namespace AuthController

/-! ## Calls -/

inductive AccountCall
  | register (dto : RegisterDto) (chance : RegisterChance)
  | login (dto : LoginDto) (tie : ℕ)
  | forgotPassword (dto : ForgotPasswordDto) (now : ℤ) (chance : RequestChance)
  | resetPassword (dto : ResetPasswordDto) (now : ℤ) (chance : ResetChance)
  deriving DecidableEq

/-- The answer of a call, which without a token has no body, and the mail that it sends. -/
structure AccountOutcome where
  answer : Except AuthError (Option TokenSubject)
  mail : Option PasswordResetMail := none
  deriving DecidableEq

/-- The routes. -/
def handle (platform : Platform) (t : Tables) : AccountCall → AccountOutcome × Tables
  | .register dto chance =>
    let result := register platform t dto chance
    ({ answer := result.1.map some }, result.2)
  | .login dto tie => ({ answer := ((login platform t dto tie).map some).mapError .http }, t)
  | .forgotPassword dto now chance =>
    let result := request platform t dto now chance
    ({ answer := (result.answer.map fun _ => none).mapError .http, mail := result.mail },
      result.tables)
  | .resetPassword dto now chance =>
    let result := reset platform t dto now chance
    ({ answer := (result.1.map some).mapError .http }, result.2)

namespace AccountCall

def email : AccountCall → String
  | register dto _ => dto.email
  | login dto _ => dto.email
  | forgotPassword dto _ _ => dto.email
  | resetPassword dto _ _ => dto.email

def withEmail (email : String) : AccountCall → AccountCall
  | register dto chance => register { dto with email } chance
  | login dto tie => login { dto with email } tie
  | forgotPassword _ now chance => forgotPassword { email } now chance
  | resetPassword dto now chance => resetPassword { dto with email } now chance

/-- The call with the normal form of its email. -/
def normalized (platform : Platform) (call : AccountCall) : AccountCall :=
  call.withEmail (PasswordResetService.normalizeEmail platform call.email)

/-- `ObjectId` does not repeat an id. -/
def hasNewId (t : Tables) : AccountCall → Bool
  | register _ chance => t.users.all (·.id ≠ chance.id)
  | _ => true

/-- The password that the call sets for an email if it succeeds. -/
def sets (platform : Platform) (email : String) : AccountCall → Option String
  | register dto _ =>
    if PasswordResetService.normalizeEmail platform dto.email = email then some dto.password
    else none
  | resetPassword dto _ _ =>
    if PasswordResetService.normalizeEmail platform dto.email = email then some dto.password
    else none
  | _ => none

end AccountCall

/-- A call and its outcome. -/
structure AccountEvent where
  call : AccountCall
  outcome : AccountOutcome
  deriving DecidableEq

/-- The tables after a call with the outcome of the event. -/
def serve (platform : Platform) (t : Tables) (event : AccountEvent) : Option Tables :=
  let result := handle platform t event.call
  if event.call.hasNewId t ∧ result.1 = event.outcome then some result.2 else none

/-- The password that the event sets for an email. -/
def AccountEvent.sets (platform : Platform) (email : String) (event : AccountEvent) :
    Option String :=
  if event.outcome.answer.isOk then event.call.sets platform email else none

/-- The password that was registered for an email, or set by the last reset. -/
def lastPassword (platform : Platform) (email : String) (tr : List AccountEvent) : Option String :=
  tr.foldl (fun last event => (event.sets platform email).or last) none

/-! ## What is expected of the calls -/

/-- A registration is a conflict when its normal form is stored, and otherwise stores one user with
one account. -/
structure Registers (s : Tables) (email : String) (outcome : AccountOutcome) (s' : Tables) :
    Prop where
  conflict : outcome.answer = .error (.http emailExists) ↔ Stored s email
  noViolation : outcome.answer ≠ .error .uniqueViolation
  created : ¬ Stored s email → ∃ user account, user.email = email ∧ account.userId = user.id ∧
    account.providerId = credentialProvider ∧ outcome.answer = .ok (some ⟨user.id, user.email⟩) ∧
    s'.users = s.users ++ [user] ∧ s'.accounts = s.accounts ++ [account]

structure ByNormalForm (platform : Platform) (s : Tables) (event : AccountEvent) (s' : Tables) :
    Prop where
  spelling : handle platform s (event.call.normalized platform) = (event.outcome, s')
  registers : ∀ dto chance, event.call = .register dto chance →
    Registers s (AuthService.normalizeEmail platform dto.email) event.outcome s'

/-- In a run that starts without users, each call sees its email through its normal form, and after
each call the last password of an email logs in under every spelling. -/
structure KnownByNormalForm (platform : Platform) (tr : List AccountEvent) : Prop where
  calls : ∀ pre event post s s', tr = pre ++ event :: post →
    Run (Enabled (serve platform)) {} pre s → serve platform s event = some s' →
    ByNormalForm platform s event s'
  logins : ∀ pre post s, tr = pre ++ post → Run (Enabled (serve platform)) {} pre s →
    ∀ dto tie, lastPassword platform (AuthService.normalizeEmail platform dto.email) pre =
        some dto.password →
      ∃ user ∈ s.users, user.email = AuthService.normalizeEmail platform dto.email ∧
        login platform s dto tie = .ok ⟨user.id, user.email⟩

/-- A registration of an email that is stored spells it as it is stored. -/
def SpelledAsStored (platform : Platform) (s : Tables) : AccountCall → Prop
  | .register dto _ => Stored s (AuthService.normalizeEmail platform dto.email) →
      dto.email = AuthService.normalizeEmail platform dto.email
  | _ => True

variable {platform : Platform} {t t' : Tables} {email : String} {user : UserRow}
  {event : AccountEvent} {tr : List AccountEvent}

/-! ## The normal form -/

/-- Logins, requests and resets do not see the spelling. -/
theorem handle_normalized (conforms : platform.Conforms) (call : AccountCall)
    (other : ∀ dto chance, call ≠ .register dto chance) :
    handle platform t (call.normalized platform) = handle platform t call := by
  have stable := conforms.normalizeEmail
  cases call with
  | register dto chance => exact absurd rfl (other dto chance)
  | login dto tie =>
    simp only [AccountCall.normalized, AccountCall.withEmail, AccountCall.email, handle, login,
      normalizeEmail_eq, stable]
  | forgotPassword dto now chance =>
    simp only [AccountCall.normalized, AccountCall.withEmail, AccountCall.email, handle, request,
      stable]
  | resetPassword dto now chance =>
    simp only [AccountCall.normalized, AccountCall.withEmail, AccountCall.email, handle, reset,
      stable]

/-! ## What a call changes -/

theorem serve_iff : serve platform t event = some t' ↔
    event.call.hasNewId t ∧ handle platform t event.call = (event.outcome, t') := by
  simp only [serve, Option.ite_none_right_eq_some, Option.some.injEq, Prod.ext_iff, and_assoc]

theorem hasNewId_register {dto : RegisterDto} {chance : RegisterChance} :
    (AccountCall.register dto chance).hasNewId t ↔ ∀ user ∈ t.users, user.id ≠ chance.id := by
  simp only [AccountCall.hasNewId, List.all_eq_true, decide_eq_true_eq]

/-- What a call does to users and accounts, and the passwords that it sets. -/
inductive AccountEffect (platform : Platform) (t : Tables) (event : AccountEvent) (t' : Tables) :
    Prop
  | idle (users : t'.users = t.users) (accounts : t'.accounts = t.accounts)
      (sets : ∀ email, event.sets platform email = none)
  | added (dto : RegisterDto) (chance : RegisterChance)
      (fresh : ∀ user ∈ t.users, user.id ≠ chance.id)
      (new : ¬ Stored t (PasswordResetService.normalizeEmail platform dto.email))
      (tables : t' = addUser platform t dto chance)
      (sets : ∀ email, event.sets platform email =
        if PasswordResetService.normalizeEmail platform dto.email = email then some dto.password
        else none)
  | changed (user : UserRow) (salt : ℕ) (password : String) (member : user ∈ t.users)
      (users : t'.users = t.users)
      (accounts : t'.accounts =
        t.accounts.map (setPassword user.id (platform.passwords.hash salt password)))
      (sets : ∀ email, event.sets platform email =
        if user.email = email then some password else none)

theorem findCredentialUser_mem (found : findCredentialUser t email = some user) :
    user ∈ t.users ∧ user.email = email := by
  have meets := List.find?_some found
  simp only [Bool.and_eq_true, decide_eq_true_eq] at meets
  exact ⟨List.mem_of_find?_eq_some found, meets.1⟩

theorem serve_effect (step : serve platform t event = some t') :
    AccountEffect platform t event t' := by
  obtain ⟨call, outcome⟩ := event
  obtain ⟨newId, step⟩ := serve_iff.mp step
  cases call with
  | register dto chance =>
    have fresh := hasNewId_register.mp newId
    simp only [handle, register_eq dto fresh, Prod.mk.injEq] at step
    obtain ⟨rfl, rfl⟩ := step
    by_cases given : Stored t dto.email
    · simp only [if_pos given]
      exact .idle rfl rfl fun _ => rfl
    · by_cases stored : Stored t (AuthService.normalizeEmail platform dto.email)
      · simp only [if_neg given, if_pos stored]
        exact .idle rfl rfl fun _ => rfl
      · simp only [if_neg given, if_neg stored]
        exact .added dto chance fresh stored rfl fun _ => rfl
  | login dto tie =>
    simp only [handle, Prod.mk.injEq] at step
    obtain ⟨-, rfl⟩ := step
    exact .idle rfl rfl fun _ => ite_self _
  | forgotPassword dto now chance =>
    simp only [handle, Prod.mk.injEq] at step
    obtain ⟨-, rfl⟩ := step
    have quiet (email : String) : AccountEvent.sets platform email
        ⟨.forgotPassword dto now chance, outcome⟩ = none := ite_self _
    obtain same | ⟨-, issued⟩ := request_tables dto chance
    · rw [same]
      exact .idle rfl rfl quiet
    · rw [issued]
      exact .idle rfl rfl quiet
  | resetPassword dto now chance =>
    simp only [handle, Prod.mk.injEq] at step
    obtain ⟨rfl, rfl⟩ := step
    obtain ⟨_, refused⟩ | ⟨_, row, -, counted⟩ | ⟨row, -, user, account, redeemed⟩ :=
      reset_tables dto chance
    · rw [refused]
      exact .idle rfl rfl fun _ => rfl
    · rw [counted]
      exact .idle rfl rfl fun _ => rfl
    · obtain ⟨member, same⟩ := findCredentialUser_mem account
      rw [redeemed]
      refine .changed user chance.salt dto.password member rfl rfl fun email => ?_
      rw [same]
      rfl

/-! ## The accounts of a run -/

theorem lastPassword_snoc (tr : List AccountEvent) (event : AccountEvent) :
    lastPassword platform email (tr ++ [event]) =
      (event.sets platform email).or (lastPassword platform email tr) := by
  simp only [lastPassword, List.foldl_append, List.foldl_cons, List.foldl_nil]

theorem credentials_congr (accounts : t'.accounts = t.accounts) (userId : String) :
    credentials t' userId = credentials t userId := by
  simp only [credentials, accounts]

theorem credentials_setPassword {owner hash : String}
    (accounts : t'.accounts = t.accounts.map (setPassword owner hash)) (userId : String) :
    credentials t' userId =
      (credentials t userId).map fun old => if owner = userId then some hash else old := by
  have same := credentials_congr (t := redeemCode t "" 0 owner hash) accounts userId
  by_cases own : owner = userId
  · subst own
    simp only [same, credentials_redeemCode, if_true]
  · rw [same, credentials_redeemCode_of_ne own]
    simp only [if_neg own, List.map_id']

theorem credentials_addUser (dto : RegisterDto) (chance : RegisterChance) (userId : String) :
    credentials (addUser platform t dto chance) userId = credentials t userId ++
      if chance.id = userId then [some (platform.passwords.hash chance.salt dto.password)]
      else [] := by
  simp only [credentials, addUser, List.filter_append, List.map_append, List.append_cancel_left_eq,
    List.filter_cons, newAccount, decide_true, Bool.and_true, decide_eq_true_eq, List.filter_nil]
  split <;> rfl

/-- What every run keeps true of the users and their accounts. -/
structure AccountsInv (platform : Platform) (tr : List AccountEvent) (t : Tables) : Prop where
  ids : (t.users.map (·.id)).Nodup
  emails : (t.users.map (·.email)).Nodup
  normal : ∀ user ∈ t.users,
    PasswordResetService.normalizeEmail platform user.email = user.email
  owned : ∀ account ∈ t.accounts, ∃ user ∈ t.users, user.id = account.userId
  password : ∀ user ∈ t.users, ∃ salt password,
    credentials t user.id = [some (platform.passwords.hash salt password)] ∧
      lastPassword platform user.email tr = some password
  registered : ∀ {email password}, lastPassword platform email tr = some password → Stored t email

namespace AccountsInv

theorem init : AccountsInv platform [] {} where
  ids := List.nodup_nil
  emails := List.nodup_nil
  normal := by simp
  owned := by simp
  password := by simp
  registered h := by cases h

theorem idle (inv : AccountsInv platform tr t) (users : t'.users = t.users)
    (accounts : t'.accounts = t.accounts) (sets : ∀ email, event.sets platform email = none) :
    AccountsInv platform (tr ++ [event]) t' where
  ids := users ▸ inv.ids
  emails := users ▸ inv.emails
  normal := users ▸ inv.normal
  owned := by
    rw [users, accounts]
    exact inv.owned
  password := by
    intro user member
    rw [credentials_congr accounts, lastPassword_snoc, sets, Option.none_or]
    exact inv.password user (users ▸ member)
  registered := by
    intro email password last
    rw [lastPassword_snoc, sets, Option.none_or] at last
    rw [Stored, users]
    exact inv.registered last

/-- No account has an id that no user has. -/
theorem credentials_of_fresh (inv : AccountsInv platform tr t) {id : String}
    (fresh : ∀ user ∈ t.users, user.id ≠ id) : credentials t id = [] := by
  rw [credentials, List.map_eq_nil_iff, List.filter_eq_nil_iff]
  intro account member own
  simp only [Bool.and_eq_true, decide_eq_true_eq] at own
  obtain ⟨user, owner, same⟩ := inv.owned account member
  exact fresh user owner (same.trans own.1)

theorem added (conforms : platform.Conforms) (inv : AccountsInv platform tr t) {dto : RegisterDto}
    {chance : RegisterChance} (fresh : ∀ user ∈ t.users, user.id ≠ chance.id)
    (new : ¬ Stored t (PasswordResetService.normalizeEmail platform dto.email))
    (sets : ∀ email, event.sets platform email =
      if PasswordResetService.normalizeEmail platform dto.email = email then some dto.password
      else none) :
    AccountsInv platform (tr ++ [event]) (addUser platform t dto chance) where
  ids := Rows.nodup_map_snoc inv.ids fresh
  emails := Rows.nodup_map_snoc inv.emails fun user member same => new ⟨user, member, same⟩
  normal := by
    intro user member
    rcases List.mem_append.mp member with old | added
    · exact inv.normal user old
    · rw [List.mem_singleton.mp added]
      exact conforms.normalizeEmail dto.email
  owned := by
    intro account member
    rcases List.mem_append.mp member with old | added
    · obtain ⟨user, owner, same⟩ := inv.owned account old
      exact ⟨user, List.mem_append_left _ owner, same⟩
    · rw [List.mem_singleton.mp added]
      exact ⟨newUser platform dto chance.id, by simp [addUser], rfl⟩
  password := by
    intro user member
    rw [lastPassword_snoc, sets, credentials_addUser]
    rcases List.mem_append.mp member with old | added
    · have other : PasswordResetService.normalizeEmail platform dto.email ≠ user.email :=
        fun same => new ⟨user, old, same.symm⟩
      rw [if_neg (fresh user old).symm, if_neg other, List.append_nil, Option.none_or]
      exact inv.password user old
    · rw [List.mem_singleton.mp added]
      refine ⟨chance.salt, dto.password, ?_, ?_⟩
      · rw [newUser, if_pos rfl, inv.credentials_of_fresh fresh, List.nil_append]
      · rw [newUser, normalizeEmail_eq, if_pos rfl, Option.some_or]
  registered := by
    intro email password last
    rw [lastPassword_snoc, sets] at last
    split at last
    · next same => exact ⟨newUser platform dto chance.id, by simp [addUser], same⟩
    · obtain ⟨user, member, same⟩ := inv.registered ((Option.none_or ..).symm.trans last)
      exact ⟨user, List.mem_append_left _ member, same⟩

theorem changed (inv : AccountsInv platform tr t) {salt : ℕ} {password : String}
    (member : user ∈ t.users) (users : t'.users = t.users)
    (accounts : t'.accounts =
      t.accounts.map (setPassword user.id (platform.passwords.hash salt password)))
    (sets : ∀ email, event.sets platform email =
      if user.email = email then some password else none) :
    AccountsInv platform (tr ++ [event]) t' where
  ids := users ▸ inv.ids
  emails := users ▸ inv.emails
  normal := users ▸ inv.normal
  owned := by
    rw [users, accounts]
    intro account changed
    obtain ⟨account, old, rfl⟩ := List.mem_map.mp changed
    rw [setPassword_userId]
    exact inv.owned account old
  password := by
    rw [users]
    intro other member'
    obtain ⟨salt', password', stored, last⟩ := inv.password other member'
    rw [lastPassword_snoc, sets, credentials_setPassword accounts, stored]
    by_cases same : user = other
    · subst same
      refine ⟨salt, password, ?_, ?_⟩
      · simp only [List.map_cons, List.map_nil, if_true]
      · rw [if_pos rfl, Option.some_or]
    · have ids : user.id ≠ other.id :=
        fun equal => same (List.inj_on_of_nodup_map inv.ids member member' equal)
      have emails : user.email ≠ other.email :=
        fun equal => same (List.inj_on_of_nodup_map inv.emails member member' equal)
      refine ⟨salt', password', ?_, ?_⟩
      · simp only [List.map_cons, List.map_nil, if_neg ids]
      · rw [if_neg emails, Option.none_or, last]
  registered := by
    intro email password' last
    rw [Stored, users]
    rw [lastPassword_snoc, sets] at last
    split at last
    · next same => exact ⟨user, member, same⟩
    · exact inv.registered ((Option.none_or ..).symm.trans last)

theorem step (conforms : platform.Conforms) (inv : AccountsInv platform tr t)
    (step : serve platform t event = some t') : AccountsInv platform (tr ++ [event]) t' := by
  cases serve_effect step with
  | idle users accounts sets => exact inv.idle users accounts sets
  | added dto chance fresh new tables sets =>
    subst tables
    exact inv.added conforms fresh new sets
  | changed user salt password member users accounts sets =>
    exact inv.changed member users accounts sets

theorem run (conforms : platform.Conforms) (run : Run (Enabled (serve platform)) {} tr t) :
    AccountsInv platform tr t :=
  run.invariantTrace .init fun _ inv step => inv.step conforms step

end AccountsInv

/-! ## Logins -/

theorem credentialRecords_eq (t : Tables) (email : String) :
    credentialRecords t email = (t.users.filter (·.email = email)).flatMap fun user =>
      (credentials t user.id).map fun password => ⟨user.id, user.email, password⟩ := by
  simp only [credentialRecords, credentials, List.map_map]
  rfl

/-- Of the passwords, the last one that was set logs in, whatever the spelling. -/
theorem AccountsInv.login (conforms : platform.Conforms) (inv : AccountsInv platform tr t)
    {dto : LoginDto} (tie : ℕ) {password : String} (last : lastPassword platform
      (PasswordResetService.normalizeEmail platform dto.email) tr = some password) :
    ∃ user ∈ t.users, user.email = PasswordResetService.normalizeEmail platform dto.email ∧
      AuthService.login platform t dto tie =
        if password = dto.password then .ok ⟨user.id, user.email⟩
        else .error invalidCredentials := by
  obtain ⟨user, member, same⟩ := inv.registered last
  obtain ⟨salt, _, stored, last'⟩ := inv.password user member
  cases (same ▸ last').symm.trans last
  refine ⟨user, member, same, ?_⟩
  have found : t.users.filter
      (·.email = PasswordResetService.normalizeEmail platform dto.email) = [user] := by
    refine Rows.filter_eq_singleton inv.emails member (decide_eq_true same) ?_
    intro other member' meets
    exact List.inj_on_of_nodup_map inv.emails member' member
      ((of_decide_eq_true meets).trans same.symm)
  have only : credentialRecords t (AuthService.normalizeEmail platform dto.email) =
      [⟨user.id, user.email, some (platform.passwords.hash salt password)⟩] := by
    rw [credentialRecords_eq, normalizeEmail_eq, found, List.flatMap_singleton, stored,
      List.map_singleton]
  rw [login_of_record tie only (conforms.hash_ne_empty salt password),
    platform.passwords.verify_hash]
  simp only [decide_eq_true_eq]

/-! ## Registrations -/

/-- Users are stored under normal forms. -/
theorem AccountsInv.stored (inv : AccountsInv platform tr t) (stored : Stored t email) :
    PasswordResetService.normalizeEmail platform email = email := by
  obtain ⟨user, member, rfl⟩ := stored
  exact inv.normal user member

section Registration
variable {dto : RegisterDto} {chance : RegisterChance}

/-- The registration with the normal form of its email. -/
def normalDto (platform : Platform) (dto : RegisterDto) : RegisterDto :=
  { dto with email := AuthService.normalizeEmail platform dto.email }

/-- A conflict under any spelling that is stored. -/
theorem handle_register_stored (fresh : ∀ user ∈ t.users, user.id ≠ chance.id)
    (stored : Stored t dto.email) : handle platform t (.register dto chance) =
      ({ answer := .error (.http emailExists) }, t) := by
  simp only [handle, register_eq dto fresh, if_pos stored]
  rfl

theorem handle_register_taken (fresh : ∀ user ∈ t.users, user.id ≠ chance.id)
    (given : ¬ Stored t dto.email)
    (stored : Stored t (AuthService.normalizeEmail platform dto.email)) :
    handle platform t (.register dto chance) = ({ answer := .error .uniqueViolation }, t) := by
  simp only [handle, register_eq dto fresh, if_neg given, if_pos stored]
  rfl

theorem handle_register_new (fresh : ∀ user ∈ t.users, user.id ≠ chance.id)
    (given : ¬ Stored t dto.email)
    (new : ¬ Stored t (AuthService.normalizeEmail platform dto.email)) :
    handle platform t (.register dto chance) =
      ({ answer := .ok (some ⟨chance.id, AuthService.normalizeEmail platform dto.email⟩) },
        addUser platform t dto chance) := by
  simp only [handle, register_eq dto fresh, if_neg given, if_neg new]
  rfl

theorem addUser_normalDto (conforms : platform.Conforms) :
    addUser platform t (normalDto platform dto) chance = addUser platform t dto chance := by
  simp only [addUser, newUser, newAccount, normalDto, normalizeEmail_eq, conforms.normalizeEmail]

theorem byNormalForm_of_stored (fresh : ∀ user ∈ t.users, user.id ≠ chance.id)
    (spelled : dto.email = AuthService.normalizeEmail platform dto.email)
    (stored : Stored t (AuthService.normalizeEmail platform dto.email)) :
    ByNormalForm platform t ⟨.register dto chance, (handle platform t (.register dto chance)).1⟩
      (handle platform t (.register dto chance)).2 := by
  have same : (AccountCall.register dto chance).normalized platform = .register dto chance := by
    change AccountCall.register (normalDto platform dto) chance = _
    rw [normalDto, ← spelled]
  refine ⟨by rw [same], fun dto' chance' call => ?_⟩
  cases call
  rw [handle_register_stored fresh (spelled ▸ stored)]
  exact ⟨iff_of_true rfl stored, by simp, fun new => absurd stored new⟩

theorem byNormalForm_of_new (conforms : platform.Conforms)
    (fresh : ∀ user ∈ t.users, user.id ≠ chance.id) (given : ¬ Stored t dto.email)
    (new : ¬ Stored t (AuthService.normalizeEmail platform dto.email)) :
    ByNormalForm platform t ⟨.register dto chance, (handle platform t (.register dto chance)).1⟩
      (handle platform t (.register dto chance)).2 := by
  have stable : AuthService.normalizeEmail platform (normalDto platform dto).email =
      AuthService.normalizeEmail platform dto.email := conforms.normalizeEmail dto.email
  refine ⟨?_, fun dto' chance' call => ?_⟩
  · change handle platform t (.register (normalDto platform dto) chance) = _
    rw [handle_register_new fresh new (stable ▸ new), addUser_normalDto conforms, stable,
      handle_register_new fresh given new]
  · cases call
    rw [handle_register_new fresh given new]
    refine ⟨iff_of_false (by simp) new, by simp, fun _ => ?_⟩
    exact ⟨newUser platform dto chance.id, newAccount platform dto chance, rfl, rfl, rfl, rfl, rfl,
      rfl⟩

/-- A registration sees its email through the normal form exactly when it spells a stored email as
it is stored. -/
theorem AccountsInv.register_iff (conforms : platform.Conforms) (inv : AccountsInv platform tr t)
    (dto : RegisterDto) (fresh : ∀ user ∈ t.users, user.id ≠ chance.id) :
    ByNormalForm platform t ⟨.register dto chance, (handle platform t (.register dto chance)).1⟩
        (handle platform t (.register dto chance)).2 ↔
      SpelledAsStored platform t (.register dto chance) := by
  constructor
  · intro sees stored
    by_contra spelled
    have given : ¬ Stored t dto.email := fun given => spelled (inv.stored given).symm
    have registers := sees.registers dto chance rfl
    rw [handle_register_taken fresh given stored] at registers
    exact registers.noViolation rfl
  · intro spelled
    by_cases stored : Stored t (AuthService.normalizeEmail platform dto.email)
    · exact byNormalForm_of_stored fresh (spelled stored) stored
    · refine byNormalForm_of_new conforms fresh (fun given => stored ?_) stored
      rw [normalizeEmail_eq, inv.stored given]
      exact given

end Registration

/-! ## Runs -/

theorem AccountsInv.byNormalForm_iff (conforms : platform.Conforms)
    (inv : AccountsInv platform tr t) (step : serve platform t event = some t') :
    ByNormalForm platform t event t' ↔ SpelledAsStored platform t event.call := by
  obtain ⟨call, outcome⟩ := event
  obtain ⟨newId, step⟩ := serve_iff.mp step
  by_cases registration : ∃ dto chance, call = .register dto chance
  · obtain ⟨dto, chance, rfl⟩ := registration
    have sees := inv.register_iff conforms dto (hasNewId_register.mp newId)
    rwa [step] at sees
  · have other (dto chance) : call ≠ .register dto chance :=
      fun same => registration ⟨dto, chance, same⟩
    refine iff_of_true ⟨?_, fun dto chance same => absurd same (other dto chance)⟩ ?_
    · rw [handle_normalized conforms call other, step]
    · cases call with
      | register dto chance => exact absurd rfl (other dto chance)
      | login | forgotPassword | resetPassword => trivial

/-- A run sees its emails through their normal forms exactly when every registration in it spells a
stored email as it is stored. -/
theorem knownByNormalForm_iff (conforms : platform.Conforms)
    (run : Run (Enabled (serve platform)) {} tr t) :
    KnownByNormalForm platform tr ↔
      ∀ pre event post s, tr = pre ++ event :: post → Run (Enabled (serve platform)) {} pre s →
        SpelledAsStored platform s event.call := by
  constructor
  · rintro known pre event post s rfl before
    obtain ⟨s', s'', before', step, -⟩ := run.split_at
    cases Run.unique (R := Enabled (serve platform))
      (fun step step' => Option.some.inj (step.symm.trans step')) before before'
    have inv := AccountsInv.run conforms before
    exact (inv.byNormalForm_iff conforms step).mp (known.calls _ _ _ _ _ rfl before step)
  · intro spelled
    refine ⟨fun pre event post s s' split before step => ?_, ?_⟩
    · have inv := AccountsInv.run conforms before
      exact (inv.byNormalForm_iff conforms step).mpr (spelled pre event post s split before)
    · intro pre post s split before dto tie last
      have inv := AccountsInv.run conforms before
      obtain ⟨user, member, same, answer⟩ := inv.login conforms tie last
      exact ⟨user, member, same, answer.trans (if_pos rfl)⟩

/-! ## A platform to run -/

/-- The case of ASCII letters, and hashes with the prefix of the algorithm. -/
def asciiPlatform : Platform where
  passwords := {
    hash := fun _ plaintext => "$argon2id$" ++ plaintext
    verify := fun hash plaintext => decide (hash = "$argon2id$" ++ plaintext)
    verify_hash := fun _ _ _ => decide_eq_decide.mpr (String.append_right_inj _) }
  toLowerCase := fun s => String.ofList (s.toList.map Char.toLower)

theorem asciiPlatform_conforms : asciiPlatform.Conforms where
  toLowerCase_toLowerCase s := by
    simp only [asciiPlatform, String.toList_ofList, List.map_map]
    congr 2
    funext c
    exact JsString.toLower_toLower c
  trim_toLowerCase := JsString.trim_map JsString.isSpace_toLower
  hash_ne_empty salt plaintext := by
    intro empty
    have := congrArg String.toList empty
    simp [asciiPlatform] at this

def raju (email : String) (id : String) : AccountCall :=
  .register ⟨"Raju", email, "correct horse"⟩ { id }

/-- A registration, a recovery under other spellings, and a second registration. -/
def recovered : List AccountEvent :=
  [⟨raju "Raju@Example.com" "u", { answer := .ok (some ⟨"u", "raju@example.com"⟩) }⟩,
    ⟨.forgotPassword ⟨"RAJU@example.com"⟩ 0 firstCode,
      { answer := .ok none, mail := some ⟨"raju@example.com", "Raju", "000042", 15, .en⟩ }⟩,
    ⟨.resetPassword ⟨"raju@EXAMPLE.com", "000042", "battery staple"⟩ 1000 {},
      { answer := .ok (some ⟨"u", "raju@example.com"⟩) }⟩,
    ⟨raju "raju@example.com" "w", { answer := .error (.http emailExists) }⟩]

theorem recovered_spelled {pre post : List AccountEvent} {s : Tables}
    (split : recovered = pre ++ event :: post)
    (run : Run (Enabled (serve asciiPlatform)) {} pre s) :
    SpelledAsStored asciiPlatform s event.call := by
  match pre with
  | [] =>
    cases split
    cases Run.nil_iff.mp run
    rintro ⟨user, member, -⟩
    cases member
  | [_] | [_, _] =>
    cases split
    trivial
  | [_, _, _] =>
    cases split
    intro
    rfl
  | _ :: _ :: _ :: _ :: rest =>
    have long := congrArg List.length split
    simp only [recovered, List.length_cons, List.length_nil, List.length_append] at long
    omega

theorem knownByNormalForm_iff_recovered :
    (∃ t, Run (Enabled (serve asciiPlatform)) {} recovered t) ∧
      KnownByNormalForm asciiPlatform recovered := by
  obtain ⟨t, run, -⟩ := exec_any (by decide +kernel :
    (exec (serve asciiPlatform) {} recovered).any fun _ => true)
  refine ⟨⟨t, run⟩, (knownByNormalForm_iff asciiPlatform_conforms run).mpr ?_⟩
  exact fun pre event post s => recovered_spelled

def registeredOnce : List AccountEvent :=
  [⟨raju "raju@example.com" "u", { answer := .ok (some ⟨"u", "raju@example.com"⟩) }⟩]

/-- A second registration, with other capitals. -/
def registeredAgain : AccountEvent :=
  ⟨raju "Raju@Example.com" "w", { answer := .error .uniqueViolation }⟩

/-- The database refuses the second user, and the caller does not learn why. -/
theorem knownByNormalForm_fails :
    ¬ ∀ platform : Platform, platform.Conforms → ∀ tr t,
      Run (Enabled (serve platform)) {} tr t → KnownByNormalForm platform tr := by
  intro known
  obtain ⟨t, run, -⟩ := exec_any (by decide +kernel :
    (exec (serve asciiPlatform) {} (registeredOnce ++ [registeredAgain])).any fun _ => true)
  obtain ⟨s, before, step⟩ := Run.snoc_iff.mp run
  have seen := (known _ asciiPlatform_conforms _ _ run).calls _ _ [] _ _ rfl before step
  exact (seen.registers _ _ rfl).noViolation rfl

end AuthController

end ElectroSync
