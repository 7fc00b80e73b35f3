import ElectroSync.Auth.EmailIdentity

/-!
# Changing a password (`auth/auth.service.ts`, `changePassword`)

A signed-in user trades the current password for a new one. With registrations, resets and changes
in one run, the password of an account is always the last one that any of them has set: it logs in,
no other does, and the next change asks for it.
-/

namespace ElectroSync
open Transition PasswordResetService AuthService AuthController

structure ChangePasswordDto where
  currentPassword : String
  newPassword : String
  deriving DecidableEq

namespace AuthService

def noPassword : HttpException := ⟨400, "This account has no password to change.", none⟩

def wrongPassword : HttpException := ⟨400, "Your current password is wrong.", none⟩

def samePassword : HttpException :=
  ⟨400, "Your new password must be different from your current one.", none⟩

/-! ## Statements -/

/-- `eq(account.userId, userId)` and the credential provider. -/
def isCredentialOf (userId : String) (account : AccountRow) : Bool :=
  account.userId = userId && account.providerId = credentialProvider

/-- The places of a user's credential rows. A place stands for the id of its row: no flow deletes or
moves an account. -/
def credentialPlaces (accounts : List AccountRow) (userId : String) : List ℕ :=
  (List.range accounts.length).filter fun place => accounts[place]?.any (isCredentialOf userId)

/-- `limit(1)` without an order takes any row. -/
def selectCredential (t : Tables) (userId : String) (tie : ℕ) : Option (ℕ × AccountRow) := do
  let places := credentialPlaces t.accounts userId
  let place ← places[tie % places.length]?
  return (place, ← t.accounts[place]?)

/-- The update of one row. -/
def updateCredential (t : Tables) (place : ℕ) (passwordHash : String) : Tables :=
  { t with accounts := t.accounts.modify place fun account =>
      { account with password := some passwordHash } }

/-! ## The call -/

structure ChangeChance where
  tie : ℕ := 0
  salt : ℕ := 0
  deriving DecidableEq

/-- What a change answers about the stored hash. The comparison of the two passwords comes after the
verify: before it, the answer would confirm a guess. -/
def checkChange (platform : Platform) (dto : ChangePasswordDto) (password : Option String) :
    Except HttpException Unit :=
  match password with
  | none => .error noPassword
  | some password =>
    if password = "" then .error noPassword
    else if !platform.passwords.verify password dto.currentPassword then .error wrongPassword
    else if dto.currentPassword = dto.newPassword then .error samePassword
    else .ok ()

def changePassword (platform : Platform) (t : Tables) (userId : String) (dto : ChangePasswordDto)
    (chance : ChangeChance) : Except HttpException Unit × Tables :=
  match selectCredential t userId chance.tie with
  | none => (.error noPassword, t)
  | some (place, credential) =>
    match checkChange platform dto credential.password with
    | .error e => (.error e, t)
    | .ok _ =>
      let passwordHash := platform.passwords.hash chance.salt dto.newPassword
      (.ok (), updateCredential t place passwordHash)

/-! ## The credential row of a user -/

variable {platform : Platform} {t t' : Tables} {accounts : List AccountRow} {userId hash : String}
  {password : Option String} {place : ℕ}

theorem credentials_eq (t : Tables) (userId : String) :
    credentials t userId = (t.accounts.filter (isCredentialOf userId)).map (·.password) := rfl

theorem credentialPlaces_cons (account : AccountRow) (accounts : List AccountRow)
    (userId : String) :
    credentialPlaces (account :: accounts) userId =
      (if isCredentialOf userId account then [0] else []) ++
        (credentialPlaces accounts userId).map (· + 1) := by
  rw [credentialPlaces, List.length_cons, List.range_succ_eq_map, List.filter_cons,
    List.filter_map, credentialPlaces]
  by_cases own : isCredentialOf userId account = true <;> simp [own, Function.comp_def]

/-- The rows at the places of a user's credentials. -/
theorem map_credentialPlaces (accounts : List AccountRow) (userId : String) :
    (credentialPlaces accounts userId).map (accounts[·]?) =
      (accounts.filter (isCredentialOf userId)).map some := by
  induction accounts with
  | nil => rfl
  | cons account accounts ih =>
    rw [credentialPlaces_cons, List.map_append, List.map_map, List.filter_cons]
    have rest : (credentialPlaces accounts userId).map
        ((fun place => (account :: accounts)[place]?) ∘ (· + 1)) =
          (accounts.filter (isCredentialOf userId)).map some := by
      rw [← ih]
      rfl
    rw [rest]
    by_cases own : isCredentialOf userId account = true <;> simp [own]

theorem setPassword_of_not {account : AccountRow} (other : isCredentialOf userId account = false) :
    setPassword userId hash account = account := by
  rw [setPassword, if_neg]
  rw [isCredentialOf] at other
  simp [other]

theorem setPassword_of {account : AccountRow} (own : isCredentialOf userId account = true) :
    setPassword userId hash account = { account with password := some hash } := if_pos own

/-- When a user has one credential row, an update of this row is an update of all. -/
theorem modify_eq_map (only : credentialPlaces accounts userId = [place]) :
    (accounts.modify place fun account => { account with password := some hash }) =
      accounts.map (setPassword userId hash) := by
  apply List.ext_getElem?
  intro i
  rw [List.getElem?_modify, List.getElem?_map]
  cases here : accounts[i]? with
  | none => rfl
  | some account =>
    have bound := (List.getElem?_eq_some_iff.mp here).1
    have listed : i ∈ credentialPlaces accounts userId ↔ isCredentialOf userId account = true := by
      rw [credentialPlaces, List.mem_filter, List.mem_range, here]
      simp [bound]
    rw [only, List.mem_singleton] at listed
    by_cases same : i = place
    · simp [same, setPassword_of (listed.mp same)]
    · have other : isCredentialOf userId account = false := by
        rw [← Bool.not_eq_true]
        exact fun own => same (listed.mpr own)
      simp [Ne.symm same, setPassword_of_not other]

/-- The one credential row of a user is what the call finds. -/
theorem selectCredential_of_one (only : credentials t userId = [password]) (tie : ℕ) :
    ∃ place account, selectCredential t userId tie = some (place, account) ∧
      account.password = password ∧ credentialPlaces t.accounts userId = [place] := by
  have rows := map_credentialPlaces t.accounts userId
  rw [credentials_eq] at only
  obtain ⟨account, filtered, read⟩ : ∃ account,
      t.accounts.filter (isCredentialOf userId) = [account] ∧ account.password = password := by
    rcases filtered : t.accounts.filter (isCredentialOf userId) with _ | ⟨account, _ | _⟩
    · rw [filtered] at only
      cases only
    · rw [filtered] at only
      cases only
      exact ⟨account, rfl, rfl⟩
    · rw [filtered] at only
      cases only
  rw [filtered] at rows
  rcases places : credentialPlaces t.accounts userId with _ | ⟨place, _ | _⟩ <;>
    rw [places] at rows <;> simp at rows
  refine ⟨place, account, ?_, read, rfl⟩
  simp [selectCredential, places, Nat.mod_one, rows]

theorem selectCredential_of_none (none_ : credentials t userId = []) (tie : ℕ) :
    selectCredential t userId tie = none := by
  have rows := map_credentialPlaces t.accounts userId
  rw [credentials_eq, List.map_eq_nil_iff] at none_
  rw [none_, List.map_nil, List.map_eq_nil_iff] at rows
  simp [selectCredential, rows]

/-- The tables with another password of a user. -/
def withPassword (t : Tables) (userId passwordHash : String) : Tables :=
  { t with accounts := t.accounts.map (setPassword userId passwordHash) }

/-- What a change does to a user with one credential row. -/
theorem changePassword_of_one (only : credentials t userId = [password]) (dto : ChangePasswordDto)
    (chance : ChangeChance) :
    changePassword platform t userId dto chance =
      match checkChange platform dto password with
      | .error e => (.error e, t)
      | .ok _ => (.ok (), withPassword t userId
          (platform.passwords.hash chance.salt dto.newPassword)) := by
  obtain ⟨place, account, selected, read, places⟩ := selectCredential_of_one only chance.tie
  simp only [changePassword, selected, read]
  rcases checkChange platform dto password with e | _
  · rfl
  · simp only [updateCredential, modify_eq_map places, withPassword]

/-- What a change answers when the password in force is known. -/
def answerTo (dto : ChangePasswordDto) (password : String) : Except HttpException Unit :=
  if password ≠ dto.currentPassword then .error wrongPassword
  else if dto.currentPassword = dto.newPassword then .error samePassword
  else .ok ()

theorem checkChange_hash (conforms : platform.Conforms) (dto : ChangePasswordDto) (salt : ℕ)
    (password : String) :
    checkChange platform dto (some (platform.passwords.hash salt password)) =
      answerTo dto password := by
  simp only [checkChange, if_neg (conforms.hash_ne_empty salt password),
    platform.passwords.verify_hash, answerTo]
  by_cases right : password = dto.currentPassword <;> simp [right]

end AuthService

namespace AuthController

/-! ## What is in force -/

/-- The registration of an account, and a reset of its password. In the history of an account a
change stands as a reset: both set a password. -/
def asRegistration (dto : RegisterDto) (chance : RegisterChance) : AccountEvent :=
  ⟨.register dto chance, { answer := .ok none }⟩

def asReset (user : UserRow) (password : String) : AccountEvent :=
  ⟨.resetPassword ⟨user.email, "", password⟩ 0 {}, { answer := .ok none }⟩

variable {platform : Platform} {t t' : Tables} {user : UserRow}

theorem asReset_sets (normal : PasswordResetService.normalizeEmail platform user.email = user.email)
    (password email : String) : (asReset user password).sets platform email =
      if user.email = email then some password else none := by
  change (if PasswordResetService.normalizeEmail platform user.email = email then _ else _) = _
  rw [normal]

theorem AccountsInv.congr {history : List AccountEvent} (inv : AccountsInv platform history t)
    (users : t'.users = t.users) (accounts : t'.accounts = t.accounts) :
    AccountsInv platform history t' where
  ids := users ▸ inv.ids
  emails := users ▸ inv.emails
  normal := users ▸ inv.normal
  owned := by
    rw [users, accounts]
    exact inv.owned
  password := by
    rw [users]
    simp only [credentials_congr accounts]
    exact inv.password
  registered := by
    simp only [Stored, users]
    exact inv.registered

/-- The passwords in force are those that some history of the accounts leaves. -/
def Recorded (platform : Platform) (inForce : UserRow → Option String) (t : Tables) : Prop :=
  ∃ history, AccountsInv platform history t ∧
    ∀ user ∈ t.users, inForce user = lastPassword platform user.email history

namespace Recorded
variable {inForce inForce' : UserRow → Option String}

theorem init : Recorded platform inForce {} := ⟨[], .init, by simp⟩

theorem idle (h : Recorded platform inForce t) (users : t'.users = t.users)
    (accounts : t'.accounts = t.accounts) (same : ∀ user ∈ t.users, inForce' user = inForce user) :
    Recorded platform inForce' t' := by
  obtain ⟨history, inv, last⟩ := h
  refine ⟨history, inv.congr users accounts, fun user member => ?_⟩
  rw [users] at member
  rw [same user member, last user member]

theorem added (conforms : platform.Conforms) (h : Recorded platform inForce t) {dto : RegisterDto}
    {chance : RegisterChance} (fresh : ∀ user ∈ t.users, user.id ≠ chance.id)
    (new : ¬ Stored t (PasswordResetService.normalizeEmail platform dto.email))
    (own : inForce' (newUser platform dto chance.id) = some dto.password)
    (others : ∀ user ∈ t.users, inForce' user = inForce user) :
    Recorded platform inForce' (addUser platform t dto chance) := by
  obtain ⟨history, inv, last⟩ := h
  have sets (email : String) : (asRegistration dto chance).sets platform email =
      if PasswordResetService.normalizeEmail platform dto.email = email then some dto.password
      else none := rfl
  refine ⟨history ++ [asRegistration dto chance], inv.added conforms fresh new sets, ?_⟩
  intro user member
  rw [lastPassword_snoc, sets]
  rcases List.mem_append.mp member with old | added
  · have foreign : PasswordResetService.normalizeEmail platform dto.email ≠ user.email :=
      fun same => new ⟨user, old, same.symm⟩
    rw [if_neg foreign, Option.none_or, others user old, last user old]
  · rw [List.mem_singleton.mp added, own, newUser, normalizeEmail_eq, if_pos rfl, Option.some_or]

theorem changed (h : Recorded platform inForce t) {salt : ℕ} {password : String}
    (member : user ∈ t.users) (users : t'.users = t.users)
    (accounts : t'.accounts =
      t.accounts.map (setPassword user.id (platform.passwords.hash salt password)))
    (own : inForce' user = some password)
    (others : ∀ other ∈ t.users, other.id ≠ user.id → inForce' other = inForce other) :
    Recorded platform inForce' t' := by
  obtain ⟨history, inv, last⟩ := h
  have sets := asReset_sets (inv.normal user member) password
  refine ⟨history ++ [asReset user password], inv.changed member users accounts sets, ?_⟩
  intro other member'
  rw [users] at member'
  rw [lastPassword_snoc, sets]
  by_cases same : user = other
  · subst same
    rw [if_pos rfl, Option.some_or, own]
  · have ids : other.id ≠ user.id :=
      fun equal => same (List.inj_on_of_nodup_map inv.ids member' member equal).symm
    have emails : user.email ≠ other.email :=
      fun equal => same (List.inj_on_of_nodup_map inv.emails member member' equal)
    rw [if_neg emails, Option.none_or, others other member' ids, last other member']

/-- The one credential of a user is for the password in force. -/
theorem password (h : Recorded platform inForce t) (member : user ∈ t.users) :
    ∃ salt password, credentials t user.id = [some (platform.passwords.hash salt password)] ∧
      inForce user = some password := by
  obtain ⟨history, inv, last⟩ := h
  rw [last user member]
  exact inv.password user member

theorem credentials_of_stranger (h : Recorded platform inForce t) {id : String}
    (stranger : ∀ user ∈ t.users, user.id ≠ id) : credentials t id = [] := by
  obtain ⟨history, inv, -⟩ := h
  exact inv.credentials_of_fresh stranger

/-- A login under any spelling of a stored email. -/
theorem login (conforms : platform.Conforms) (h : Recorded platform inForce t)
    (member : user ∈ t.users) {password : String} (last : inForce user = some password)
    {dto : LoginDto} (spelled : AuthService.normalizeEmail platform dto.email = user.email)
    (tie : ℕ) : AuthService.login platform t dto tie =
      if password = dto.password then .ok ⟨user.id, user.email⟩ else .error invalidCredentials := by
  obtain ⟨history, inv, same⟩ := h
  have last' : lastPassword platform (PasswordResetService.normalizeEmail platform dto.email)
      history = some password := by
    rw [← normalizeEmail_eq, spelled, ← same user member, last]
  obtain ⟨found, member', same', answer⟩ := inv.login conforms tie last'
  obtain rfl : found = user :=
    List.inj_on_of_nodup_map inv.emails member' member (same'.trans spelled)
  exact answer

/-- A change asks for the password in force, and replaces it. -/
theorem changePassword (conforms : platform.Conforms) (h : Recorded platform inForce t)
    (member : user ∈ t.users) {password : String} (last : inForce user = some password)
    (dto : ChangePasswordDto) (chance : ChangeChance) :
    AuthService.changePassword platform t user.id dto chance =
      match answerTo dto password with
      | .error e => (.error e, t)
      | .ok _ => (.ok (), withPassword t user.id
          (platform.passwords.hash chance.salt dto.newPassword)) := by
  obtain ⟨salt, password', only, last'⟩ := h.password member
  cases last.symm.trans last'
  rw [changePassword_of_one only, checkChange_hash conforms]

end Recorded

/-! ## Runs with changes -/

inductive PasswordEvent
  | account (event : AccountEvent)
  | change (userId : String) (dto : ChangePasswordDto) (chance : ChangeChance)
    (answer : Except HttpException Unit)

/-- The tables after a call with the outcome of the event. -/
def servePassword (platform : Platform) (t : Tables) : PasswordEvent → Option Tables
  | .account event => serve platform t event
  | .change userId dto chance answer =>
    let result := changePassword platform t userId dto chance
    if result.1 = answer then some result.2 else none

/-- The password that an event sets for a user. -/
def PasswordEvent.sets (platform : Platform) (user : UserRow) : PasswordEvent → Option String
  | .account event => event.sets platform user.email
  | .change userId dto _ answer =>
    if answer.isOk && userId = user.id then some dto.newPassword else none

/-- The password that the user registered with, or that a reset or a change has set since. -/
def passwordOf (platform : Platform) (tr : List PasswordEvent) (user : UserRow) : Option String :=
  tr.foldl (fun last event => (event.sets platform user).or last) none

variable {tr : List PasswordEvent} {event : PasswordEvent}

theorem passwordOf_snoc (tr : List PasswordEvent) (event : PasswordEvent) :
    passwordOf platform (tr ++ [event]) user =
      (event.sets platform user).or (passwordOf platform tr user) := by
  simp only [passwordOf, List.foldl_append, List.foldl_cons, List.foldl_nil]

theorem Recorded.account (conforms : platform.Conforms) {event : AccountEvent}
    (h : Recorded platform (passwordOf platform tr) t) (step : serve platform t event = some t') :
    Recorded platform (passwordOf platform (tr ++ [.account event])) t' := by
  cases serve_effect step with
  | idle users accounts sets =>
    refine h.idle users accounts fun user _ => ?_
    rw [passwordOf_snoc, PasswordEvent.sets, sets, Option.none_or]
  | added dto chance fresh new tables sets =>
    subst tables
    refine h.added conforms fresh new ?_ fun user member => ?_
    · rw [passwordOf_snoc, PasswordEvent.sets, sets, newUser, normalizeEmail_eq, if_pos rfl,
        Option.some_or]
    · have foreign : PasswordResetService.normalizeEmail platform dto.email ≠ user.email :=
        fun same => new ⟨user, member, same.symm⟩
      rw [passwordOf_snoc, PasswordEvent.sets, sets, if_neg foreign, Option.none_or]
  | changed user salt password member users accounts sets =>
    obtain ⟨_, inv, -⟩ := id h
    refine h.changed member users accounts ?_ fun other member' different => ?_
    · rw [passwordOf_snoc, PasswordEvent.sets, sets, if_pos rfl, Option.some_or]
    · have foreign : user.email ≠ other.email := fun equal =>
        different (congrArg _ (List.inj_on_of_nodup_map inv.emails member' member equal.symm))
      rw [passwordOf_snoc, PasswordEvent.sets, sets, if_neg foreign, Option.none_or]

theorem Recorded.refused {userId : String} {dto : ChangePasswordDto} {chance : ChangeChance}
    {e : HttpException} (h : Recorded platform (passwordOf platform tr) t) :
    Recorded platform (passwordOf platform (tr ++ [.change userId dto chance (.error e)])) t := by
  refine h.idle rfl rfl fun user _ => ?_
  rw [passwordOf_snoc]
  rfl

theorem Recorded.step (conforms : platform.Conforms)
    (h : Recorded platform (passwordOf platform tr) t)
    (step : servePassword platform t event = some t') :
    Recorded platform (passwordOf platform (tr ++ [event])) t' := by
  cases event with
  | account event => exact h.account conforms step
  | change userId dto chance answer =>
    obtain ⟨rfl, rfl⟩ : (AuthService.changePassword platform t userId dto chance).1 = answer ∧
        (AuthService.changePassword platform t userId dto chance).2 = t' := by
      simpa [servePassword] using step
    by_cases known : ∃ user ∈ t.users, user.id = userId
    · obtain ⟨user, member, rfl⟩ := known
      obtain ⟨salt, password, -, last⟩ := h.password member
      rw [h.changePassword conforms member last]
      rcases answerTo dto password with e | _
      · exact h.refused
      · refine h.changed member rfl rfl ?_ fun other _ different => ?_
        · rw [passwordOf_snoc]
          simp [PasswordEvent.sets, Except.isOk, Except.toBool]
        · rw [passwordOf_snoc]
          simp [PasswordEvent.sets, different.symm]
    · have nobody : credentials t userId = [] :=
        h.credentials_of_stranger fun user member same => known ⟨user, member, same⟩
      rw [AuthService.changePassword, selectCredential_of_none nobody]
      exact h.refused

theorem Recorded.run (conforms : platform.Conforms)
    (run : Run (Enabled (servePassword platform)) {} tr t) :
    Recorded platform (passwordOf platform tr) t :=
  run.invariantTrace (P := fun tr => Recorded platform (passwordOf platform tr)) .init
    fun _ h step => h.step conforms step

/-- After any run, one password of a user is in force: the one that the user registered with, or
that the last reset or change has set. It alone logs in, under every spelling of the email, and a
change asks for it. -/
theorem passwordInForce (conforms : platform.Conforms)
    (run : Run (Enabled (servePassword platform)) {} tr t) (member : user ∈ t.users) :
    ∃ password, passwordOf platform tr user = some password ∧
      (∀ dto tie, AuthService.normalizeEmail platform dto.email = user.email →
        login platform t dto tie =
          if password = dto.password then .ok ⟨user.id, user.email⟩
          else .error invalidCredentials) ∧
      ∀ dto chance, (changePassword platform t user.id dto chance).1 = answerTo dto password := by
  have recorded := Recorded.run conforms run
  obtain ⟨salt, password, -, last⟩ := recorded.password member
  refine ⟨password, last, fun dto tie spelled => ?_, fun dto chance => ?_⟩
  · exact recorded.login conforms member last spelled tie
  · rw [recorded.changePassword conforms member last]
    rcases answerTo dto password with e | _ <;> rfl

/-- A wrong attempt, a change, a recovery, and an attempt with the password before it. -/
def changedAndRecovered : List PasswordEvent :=
  [.account ⟨raju "Raju@Example.com" "u", { answer := .ok (some ⟨"u", "raju@example.com"⟩) }⟩,
    .change "u" ⟨"wrong horse", "battery staple"⟩ {} (.error wrongPassword),
    .change "u" ⟨"correct horse", "battery staple"⟩ {} (.ok ()),
    .account ⟨.forgotPassword ⟨"RAJU@example.com"⟩ 0 firstCode,
      { answer := .ok none, mail := some ⟨"raju@example.com", "Raju", "000042", 15, .en⟩ }⟩,
    .account ⟨.resetPassword ⟨"raju@EXAMPLE.com", "000042", "paper clip"⟩ 1000 {},
      { answer := .ok (some ⟨"u", "raju@example.com"⟩) }⟩,
    .change "u" ⟨"battery staple", "glass bell"⟩ {} (.error wrongPassword)]

def rajuRow : UserRow :=
  newUser asciiPlatform ⟨"Raju", "Raju@Example.com", "correct horse"⟩ "u"

theorem passwordInForce_changedAndRecovered :
    passwordOf asciiPlatform changedAndRecovered rajuRow = some "paper clip" ∧
      ∃ t, Run (Enabled (servePassword asciiPlatform)) {} changedAndRecovered t ∧
        ∀ chance, (changePassword asciiPlatform t "u" ⟨"paper clip", "glass bell"⟩ chance).1 =
          .ok () := by
  have last : passwordOf asciiPlatform changedAndRecovered rajuRow = some "paper clip" := by
    decide +kernel
  obtain ⟨t, run, member⟩ := exec_any (by decide +kernel :
    (exec (servePassword asciiPlatform) {} changedAndRecovered).any
      fun t => decide (rajuRow ∈ t.users))
  obtain ⟨password, inForce, -, changes⟩ :=
    passwordInForce asciiPlatform_conforms run (of_decide_eq_true member)
  cases inForce.symm.trans last
  exact ⟨last, t, run, fun chance => changes _ chance⟩

end AuthController

end ElectroSync
