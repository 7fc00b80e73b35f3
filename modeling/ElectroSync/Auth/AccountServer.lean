import ElectroSync.Auth.PasswordChanges
import ElectroSync.Auth.RecoveryServer

/-!
# Concurrent account calls

Registrations, logins and password changes beside the recovery calls, statement by statement. In
every interleaving the stored password of a user is the last one that a call has committed, and each
call that answers with success has committed once. A login, and a change, answers for the password
that was in force when the call read the account. A change writes without looking again: what has
been committed since it read, it overwrites.
-/

namespace ElectroSync
open Transition Interleaving PasswordResetService AuthService AuthController

/-- The next statement of a registration. -/
inductive RegisterPhase
  /-- `findFirst` -/
  | finding
  /-- `passwords.hash` -/
  | hashing
  /-- the transaction -/
  | inserting (passwordHash : String)
  | returned (answer : Except AuthError TokenSubject)
  deriving DecidableEq

/-- The next statement of a login. -/
inductive LoginPhase
  /-- the join -/
  | selecting
  /-- `passwords.verify` -/
  | verifying (record : Option CredentialRecord)
  | returned (answer : Except HttpException TokenSubject)
  deriving DecidableEq

/-- The next statement of a change. -/
inductive ChangePhase
  /-- the query for the credential row -/
  | selecting
  /-- `passwords.verify` -/
  | verifying (place : ℕ) (password : Option String)
  /-- `passwords.hash` -/
  | hashing (place : ℕ)
  /-- the `UPDATE` -/
  | updating (place : ℕ) (passwordHash : String)
  | returned (answer : Except HttpException Unit)
  deriving DecidableEq

inductive AccountProcess
  | recovery (call : RecoveryCall)
  | register (dto : RegisterDto) (phase : RegisterPhase)
  | login (dto : LoginDto) (phase : LoginPhase)
  | change (userId : String) (dto : ChangePasswordDto) (phase : ChangePhase)
  deriving DecidableEq

inductive AccountInput
  | recovery (input : RecoveryInput)
  | register (dto : RegisterDto)
  | login (dto : LoginDto)
  | change (userId : String) (dto : ChangePasswordDto)
  deriving DecidableEq

inductive AccountChance
  | recovery (chance : RecoveryChance)
  | register (chance : RegisterChance)
  | login (tie : ℕ)
  | change (chance : ChangeChance)
  deriving DecidableEq

structure AccountState where
  recovery : RecoveryState := { tables := {} }
  /-- The passwords that commits have set, and for whom, newest first. -/
  passwords : List (String × String) := []

namespace AccountState

abbrev tables (s : AccountState) : Tables := s.recovery.tables

/-- The last password that a commit has set for a user. -/
def inForce (s : AccountState) (userId : String) : Option String := s.passwords.lookup userId

/-- The state after a commit that sets a password. -/
def commit (s : AccountState) (tables : Tables) (userId password : String) : AccountState where
  recovery := { s.recovery with tables }
  passwords := (userId, password) :: s.passwords

end AccountState

def registerNext (platform : Platform) (s : AccountState) (dto : RegisterDto)
    (chance : RegisterChance) : RegisterPhase → Option (AccountState × RegisterPhase)
  | .finding =>
    match s.tables.users.find? (·.email = dto.email) with
    | some _ => some (s, .returned (.error (.http emailExists)))
    | none => some (s, .hashing)
  | .hashing => some (s, .inserting (platform.passwords.hash chance.salt dto.password))
  | .inserting passwordHash =>
    let email := AuthService.normalizeEmail platform dto.email
    match insertUser s.tables { id := chance.id, name := dto.name, email := email } with
    | .error e => some (s, .returned (.error e))
    | .ok created =>
      let inserted := insertAccount created
        { userId := chance.id, providerId := credentialProvider, password := some passwordHash }
      some (s.commit inserted chance.id dto.password, .returned (.ok ⟨chance.id, email⟩))
  | .returned _ => none

/-- What a login answers about the record that it found. -/
def checkLogin (platform : Platform) (dto : LoginDto) :
    Option CredentialRecord → Except HttpException TokenSubject
  | some ⟨id, email, some password⟩ =>
    if password = "" then .error invalidCredentials
    else if !platform.passwords.verify password dto.password then .error invalidCredentials
    else .ok ⟨id, email⟩
  | _ => .error invalidCredentials

/-- The record that the join of a login finds. -/
def selectRecord (platform : Platform) (t : Tables) (dto : LoginDto) (tie : ℕ) :
    Option CredentialRecord :=
  let found := credentialRecords t (AuthService.normalizeEmail platform dto.email)
  found[tie % found.length]?

def loginNext (platform : Platform) (s : AccountState) (dto : LoginDto) (tie : ℕ) :
    LoginPhase → Option (AccountState × LoginPhase)
  | .selecting => some (s, .verifying (selectRecord platform s.tables dto tie))
  | .verifying record => some (s, .returned (checkLogin platform dto record))
  | .returned _ => none

def changeNext (platform : Platform) (s : AccountState) (userId : String) (dto : ChangePasswordDto)
    (chance : ChangeChance) : ChangePhase → Option (AccountState × ChangePhase)
  | .selecting =>
    match selectCredential s.tables userId chance.tie with
    | none => some (s, .returned (.error noPassword))
    | some (place, credential) => some (s, .verifying place credential.password)
  | .verifying place password =>
    match checkChange platform dto password with
    | .error e => some (s, .returned (.error e))
    | .ok _ => some (s, .hashing place)
  | .hashing place =>
    some (s, .updating place (platform.passwords.hash chance.salt dto.newPassword))
  | .updating place passwordHash =>
    let updated := updateCredential s.tables place passwordHash
    some (s.commit updated userId dto.newPassword, .returned (.ok ()))
  | .returned _ => none

/-- The password that the next statement of a recovery call commits, and for whom. -/
def resets : RecoveryCall → RecoveryChance → Option (String × String)
  | .reset dto _ (.redeeming _ recipient _), .reset chance =>
    if chance.commits then some (recipient.id, dto.password) else none
  | _, _ => none

def recoveryNext (platform : Platform) (s : AccountState) (call : RecoveryCall)
    (chance : RecoveryChance) : Option (AccountState × RecoveryCall) :=
  ((recoveryServer platform).next s.recovery call chance).map fun after =>
    ({ recovery := after.1, passwords := (resets call chance).toList ++ s.passwords }, after.2)

def accountServer (platform : Platform) :
    Program AccountState AccountInput AccountProcess AccountChance where
  init
    | .recovery input => .recovery ((recoveryServer platform).init input)
    | .register dto => .register dto .finding
    | .login dto => .login dto .selecting
    | .change userId dto => .change userId dto .selecting
  next s
    | .recovery call, .recovery chance =>
      (recoveryNext platform s call chance).map fun after => (after.1, .recovery after.2)
    | .register dto phase, .register chance =>
      (registerNext platform s dto chance phase).map fun after => (after.1, .register dto after.2)
    | .login dto phase, .login tie =>
      (loginNext platform s dto tie phase).map fun after => (after.1, .login dto after.2)
    | .change userId dto phase, .change chance =>
      (changeNext platform s userId dto chance phase).map fun after =>
        (after.1, .change userId dto after.2)
    | _, _ => none

abbrev AccountSystem := System AccountState AccountProcess

abbrev AccountMove := Move AccountInput AccountChance

/-! ## What is expected of the server -/

/-- The password that a call has answered to have set. -/
def AccountProcess.hasSet : AccountProcess → Option (String × String)
  | .register dto (.returned (.ok subject)) => some (subject.id, dto.password)
  | .change userId dto (.returned (.ok _)) => some (userId, dto.newPassword)
  | .recovery (.reset dto _ (.returned (.ok subject))) => some (subject.id, dto.password)
  | _ => none

/-- What a login is to answer while these passwords are in force. -/
def loginAnswer (platform : Platform) (s : AccountState) (dto : LoginDto) :
    Except HttpException TokenSubject :=
  match s.tables.users.find? (·.email = AuthService.normalizeEmail platform dto.email) with
  | none => .error invalidCredentials
  | some user =>
    if s.inForce user.id = some dto.password then .ok ⟨user.id, user.email⟩
    else .error invalidCredentials

/-- What a change is to answer while these passwords are in force. -/
def changeAnswer (s : AccountState) (userId : String) (dto : ChangePasswordDto) :
    Except HttpException Unit :=
  match s.inForce userId with
  | none => .error noPassword
  | some password => answerTo dto password

/-- The steps from an empty server. -/
abbrev AccountRun (platform : Platform) : List AccountMove → AccountSystem → Prop :=
  Run (Enabled (step (accountServer platform))) ⟨{}, []⟩

/-- The server once made a move from a state such that both meet `P`. -/
abbrev Met (platform : Platform) (P : AccountSystem → AccountMove → Prop) :
    List AccountMove → Prop :=
  Once (Enabled (step (accountServer platform))) ⟨{}, []⟩ P

structure AccountsAgree (platform : Platform) (tr : List AccountMove) (s : AccountSystem) :
    Prop where
  emails : (s.shared.tables.users.map (·.email)).Nodup
  /-- The one credential of a user is for the password in force. -/
  stored : ∀ user ∈ s.shared.tables.users, ∃ salt password,
    s.shared.inForce user.id = some password ∧
      credentials s.shared.tables user.id = [some (platform.passwords.hash salt password)]
  /-- The commits are those of the calls that have answered with success. -/
  complete : s.shared.passwords.Perm (gather AccountProcess.hasSet s)
  /-- A login that has answered is right about the passwords in force when it read the account … -/
  logins : ∀ (i : ℕ) dto answer, s.procs[i]? = some (.login dto (.returned answer)) →
    Met platform (fun before move => (∃ chance, move = .advance i chance) ∧
      before.procs[i]? = some (.login dto .selecting) ∧
        loginAnswer platform before.shared dto = answer) tr
  /-- … and so is a change. -/
  changes : ∀ (i : ℕ) userId dto answer,
    s.procs[i]? = some (.change userId dto (.returned answer)) →
    Met platform (fun before move => (∃ chance, move = .advance i chance) ∧
      before.procs[i]? = some (.change userId dto .selecting) ∧
        changeAnswer before.shared userId dto = answer) tr

/-! ## What is kept -/

theorem insertUser_ok {t created : Tables} {row : UserRow}
    (inserted : insertUser t row = .ok created) :
    (∀ user ∈ t.users, user.id ≠ row.id) ∧ ¬ Stored t row.email ∧
      created = { t with users := t.users ++ [row] } := by
  rw [insertUser] at inserted
  split at inserted
  · cases inserted
  · next free =>
    cases inserted
    simp only [List.any_eq_true, Bool.or_eq_true, decide_eq_true_eq, not_exists, not_and,
      not_or] at free
    refine ⟨fun user member => (free user member).1, ?_, rfl⟩
    rintro ⟨user, member, same⟩
    exact (free user member).2 same

variable {platform : Platform} {s s' : AccountState} {p p' q : AccountProcess}
  {set : Option (String × String)}

theorem AccountState.inForce_cons {entry : String × String} {userId : String}
    (passwords : s'.passwords = entry :: s.passwords) :
    s'.inForce userId = if userId = entry.1 then some entry.2 else s.inForce userId := by
  rw [inForce, passwords, inForce, List.lookup_cons]
  by_cases same : userId = entry.1
  · rw [if_pos same, beq_iff_eq.mpr same]
  · rw [if_neg same, beq_eq_false_iff_ne.mpr same]

/-- The passwords in force are those of the accounts. -/
structure CommitsKept (platform : Platform) (s : AccountState) : Prop where
  recorded : Recorded platform (fun user => s.inForce user.id) s.tables
  strangers : ∀ id, (∀ user ∈ s.tables.users, user.id ≠ id) → s.inForce id = none

/-- The row at the place is the one credential of a user. -/
def Targets (s : AccountState) (userId : String) (place : ℕ) : Prop :=
  (∃ user ∈ s.tables.users, user.id = userId) ∧
    credentialPlaces s.tables.accounts userId = [place]

/-- What a call holds on to between two statements. -/
def Sound (platform : Platform) (s : AccountState) : AccountProcess → Prop
  | .recovery (.reset _ _ (.hashing _ recipient)) => recipient ∈ s.tables.users
  | .recovery (.reset dto _ (.redeeming _ recipient passwordHash)) =>
    recipient ∈ s.tables.users ∧ ∃ salt, passwordHash = platform.passwords.hash salt dto.password
  | .register dto (.inserting passwordHash) =>
    ∃ salt, passwordHash = platform.passwords.hash salt dto.password
  | .change userId _ (.verifying place _) | .change userId _ (.hashing place) =>
    Targets s userId place
  | .change userId dto (.updating place passwordHash) =>
    Targets s userId place ∧ ∃ salt, passwordHash = platform.passwords.hash salt dto.newPassword
  | _ => True

/-- What a statement does to the users, their accounts and the passwords in force. -/
inductive AccountCommit (platform : Platform) (s s' : AccountState) :
    Option (String × String) → Prop
  | idle (users : s'.tables.users = s.tables.users)
      (accounts : s'.tables.accounts = s.tables.accounts)
      (passwords : s'.passwords = s.passwords) : AccountCommit platform s s' none
  | created (dto : RegisterDto) (chance : RegisterChance)
      (fresh : ∀ user ∈ s.tables.users, user.id ≠ chance.id)
      (new : ¬ Stored s.tables (PasswordResetService.normalizeEmail platform dto.email))
      (tables : s'.tables = addUser platform s.tables dto chance)
      (passwords : s'.passwords = (chance.id, dto.password) :: s.passwords) :
      AccountCommit platform s s' (some (chance.id, dto.password))
  | changed (user : UserRow) (salt : ℕ) (password : String) (member : user ∈ s.tables.users)
      (users : s'.tables.users = s.tables.users)
      (accounts : s'.tables.accounts = s.tables.accounts.map
        (setPassword user.id (platform.passwords.hash salt password)))
      (passwords : s'.passwords = (user.id, password) :: s.passwords) :
      AccountCommit platform s s' (some (user.id, password))

theorem CommitsKept.step (conforms : platform.Conforms) (kept : CommitsKept platform s)
    (commit : AccountCommit platform s s' set) : CommitsKept platform s' := by
  cases commit with
  | idle users accounts passwords =>
    have same (id : String) : s'.inForce id = s.inForce id := by
      rw [AccountState.inForce, passwords, AccountState.inForce]
    refine ⟨kept.recorded.idle users accounts fun user _ => same user.id, fun id => ?_⟩
    rw [users, same]
    exact kept.strangers id
  | created dto chance fresh new tables passwords =>
    refine ⟨?_, fun id stranger => ?_⟩
    · rw [tables]
      refine kept.recorded.added conforms fresh new ?_ fun user member => ?_
      · rw [AccountState.inForce_cons passwords, newUser, if_pos rfl]
      · rw [AccountState.inForce_cons passwords, if_neg (fresh user member)]
    · rw [tables] at stranger
      have other : id ≠ chance.id := Ne.symm (stranger (newUser platform dto chance.id)
        (List.mem_append_right _ (List.mem_singleton_self _)))
      rw [AccountState.inForce_cons passwords, if_neg other]
      exact kept.strangers id fun user member => stranger user (List.mem_append_left _ member)
  | changed user salt password member users accounts passwords =>
    refine ⟨kept.recorded.changed member users accounts ?_ fun other _ different => ?_,
      fun id stranger => ?_⟩
    · rw [AccountState.inForce_cons passwords, if_pos rfl]
    · rw [AccountState.inForce_cons passwords, if_neg different]
    · rw [users] at stranger
      rw [AccountState.inForce_cons passwords, if_neg (stranger user member).symm]
      exact kept.strangers id stranger

/-! ## What other calls leave alone -/

theorem isCredentialOf_setPassword (userId owner hash : String) (account : AccountRow) :
    isCredentialOf userId (setPassword owner hash account) = isCredentialOf userId account := by
  simp only [isCredentialOf, setPassword_userId, setPassword_providerId]

theorem credentialPlaces_setPassword (accounts : List AccountRow) (userId owner hash : String) :
    credentialPlaces (accounts.map (setPassword owner hash)) userId =
      credentialPlaces accounts userId := by
  simp only [credentialPlaces, List.length_map, List.getElem?_map, Option.any_map,
    isCredentialOf_setPassword]

theorem credentialPlaces_append {account : AccountRow} {userId : String}
    (foreign : account.userId ≠ userId) (accounts : List AccountRow) :
    credentialPlaces (accounts ++ [account]) userId = credentialPlaces accounts userId := by
  have other : isCredentialOf userId account = false := by simp [isCredentialOf, foreign]
  induction accounts with
  | nil => simp [credentialPlaces, other]
  | cons first accounts ih =>
    rw [List.cons_append, credentialPlaces_cons, credentialPlaces_cons, ih]

theorem AccountCommit.users (commit : AccountCommit platform s s' set) {user : UserRow}
    (member : user ∈ s.tables.users) : user ∈ s'.tables.users := by
  cases commit with
  | idle users => rwa [users]
  | created dto chance fresh new tables =>
    rw [tables]
    exact List.mem_append_left _ member
  | changed _ _ _ _ users => rwa [users]

theorem Targets.step {userId : String} {place : ℕ} (targets : Targets s userId place)
    (commit : AccountCommit platform s s' set) : Targets s' userId place := by
  obtain ⟨⟨user, member, same⟩, places⟩ := targets
  refine ⟨⟨user, commit.users member, same⟩, ?_⟩
  cases commit with
  | idle users accounts => rwa [accounts]
  | created dto chance fresh new tables =>
    have foreign : (newAccount platform dto chance).userId ≠ userId :=
      fun equal => fresh user member (same.trans equal.symm)
    rw [tables]
    exact (credentialPlaces_append foreign s.tables.accounts).trans places
  | changed _ _ _ _ _ accounts => rwa [accounts, credentialPlaces_setPassword]

theorem Sound.step (sound : Sound platform s p) (commit : AccountCommit platform s s' set) :
    Sound platform s' p := by
  cases p with
  | recovery call =>
    cases call with
    | request => trivial
    | reset dto now phase =>
      cases phase with
      | hashing pending recipient => exact commit.users sound
      | redeeming pending recipient passwordHash => exact ⟨commit.users sound.1, sound.2⟩
      | _ => trivial
  | register dto phase =>
    cases phase with
    | inserting => exact sound
    | _ => trivial
  | login => trivial
  | change userId dto phase =>
    cases phase with
    | verifying | hashing => exact Targets.step sound commit
    | updating => exact ⟨Targets.step sound.1 commit, sound.2⟩
    | _ => trivial

/-! ## What a call reads -/

theorem login_eq (t : Tables) (dto : LoginDto) (tie : ℕ) :
    login platform t dto tie = checkLogin platform dto (selectRecord platform t dto tie) := by
  rw [login, selectRecord]
  rcases (credentialRecords t (AuthService.normalizeEmail platform dto.email))[
    tie % (credentialRecords t (AuthService.normalizeEmail platform dto.email)).length]? with
    _ | ⟨id, email, _ | password⟩ <;> rfl

/-- The join finds the password in force. -/
theorem CommitsKept.login (conforms : platform.Conforms) (kept : CommitsKept platform s)
    (dto : LoginDto) (tie : ℕ) :
    checkLogin platform dto (selectRecord platform s.tables dto tie) =
      loginAnswer platform s dto := by
  rw [loginAnswer]
  cases found : s.tables.users.find?
      (·.email = AuthService.normalizeEmail platform dto.email) with
  | none =>
    have nobody : s.tables.users.filter
        (·.email = AuthService.normalizeEmail platform dto.email) = [] :=
      List.filter_eq_nil_iff.mpr (List.find?_eq_none.mp found)
    have missing : selectRecord platform s.tables dto tie = none := by
      simp only [selectRecord, credentialRecords, nobody, List.flatMap_nil, List.getElem?_nil]
    rw [missing]
    rfl
  | some user =>
    have member := List.mem_of_find?_eq_some found
    have meets := List.find?_some found
    have spelled : user.email = AuthService.normalizeEmail platform dto.email :=
      of_decide_eq_true meets
    obtain ⟨salt, password, -, last⟩ := kept.recorded.password member
    rw [← login_eq, kept.recorded.login conforms member last spelled.symm tie]
    simp only [last, Option.some.injEq]

/-- The query of a change finds the password in force. -/
theorem CommitsKept.select (kept : CommitsKept platform s) (userId : String) (tie : ℕ) :
    (selectCredential s.tables userId tie = none ∧ s.inForce userId = none) ∨
      ∃ place account salt password,
        selectCredential s.tables userId tie = some (place, account) ∧ Targets s userId place ∧
        account.password = some (platform.passwords.hash salt password) ∧
        s.inForce userId = some password := by
  by_cases known : ∃ user ∈ s.tables.users, user.id = userId
  · obtain ⟨user, member, rfl⟩ := known
    obtain ⟨salt, password, only, last⟩ := kept.recorded.password member
    obtain ⟨place, account, selected, read, places⟩ := selectCredential_of_one only tie
    exact .inr ⟨place, account, salt, password, selected, ⟨⟨user, member, rfl⟩, places⟩, read, last⟩
  · have stranger (user) (member : user ∈ s.tables.users) : user.id ≠ userId :=
      fun same => known ⟨user, member, same⟩
    refine .inl ⟨?_, kept.strangers userId stranger⟩
    exact selectCredential_of_none (kept.recorded.credentials_of_stranger stranger) tie

/-! ## Statements -/

namespace AccountProcess

/-- What the call was started with. -/
def input : AccountProcess → AccountInput
  | recovery (.request dto now _) => .recovery (.request dto now)
  | recovery (.reset dto now _) => .recovery (.reset dto now)
  | register dto _ => .register dto
  | login dto _ => .login dto
  | change userId dto _ => .change userId dto

/-- The answer that a login or a change is bound to give, once it has read the account. -/
def verdict (platform : Platform) : AccountProcess →
    Option (Except HttpException (Option TokenSubject))
  | login dto (.verifying record) => some ((checkLogin platform dto record).map some)
  | login _ (.returned answer) => some (answer.map some)
  | change _ dto (.verifying _ password) =>
    some ((checkChange platform dto password).map fun _ => none)
  | change _ _ (.hashing _) | change _ _ (.updating _ _) => some (.ok none)
  | change _ _ (.returned answer) => some (answer.map fun _ => none)
  | _ => none

/-- The answer that the passwords in force call for. -/
def due (platform : Platform) (s : AccountState) : AccountProcess →
    Except HttpException (Option TokenSubject)
  | login dto _ => (loginAnswer platform s dto).map some
  | change userId dto _ => (changeAnswer s userId dto).map fun _ => none
  | _ => .ok none

end AccountProcess

/-- All that a statement does. -/
structure Moves (platform : Platform) (s s' : AccountState) (p p' : AccountProcess) : Prop where
  commit : AccountCommit platform s s' p'.hasSet
  pending : p.hasSet = none
  sound : Sound platform s' p'
  input : p'.input = p.input
  verdict : p'.verdict platform = p.verdict platform ∨
    p.verdict platform = none ∧ p'.verdict platform = some (p.due platform s)

theorem AccountCommit.refl : AccountCommit platform s s none := .idle rfl rfl rfl

theorem register_moves {dto : RegisterDto} {phase phase' : RegisterPhase} {chance : RegisterChance}
    (sound : Sound platform s (.register dto phase))
    (next : registerNext platform s dto chance phase = some (s', phase')) :
    Moves platform s s' (.register dto phase) (.register dto phase') := by
  cases phase with
  | finding =>
    simp only [registerNext] at next
    split at next <;> cases next <;> exact ⟨.refl, rfl, trivial, rfl, .inl rfl⟩
  | hashing =>
    cases next
    exact ⟨.refl, rfl, ⟨chance.salt, rfl⟩, rfl, .inl rfl⟩
  | inserting passwordHash =>
    obtain ⟨salt, rfl⟩ := sound
    simp only [registerNext] at next
    split at next
    · cases next
      exact ⟨.refl, rfl, trivial, rfl, .inl rfl⟩
    · next created inserted =>
      cases next
      obtain ⟨fresh, new, rfl⟩ := insertUser_ok inserted
      exact ⟨.created dto { salt, id := chance.id } fresh new rfl rfl, rfl, trivial, rfl, .inl rfl⟩
  | returned => cases next

theorem login_moves (conforms : platform.Conforms) (kept : CommitsKept platform s) {dto : LoginDto}
    {phase phase' : LoginPhase} {tie : ℕ}
    (next : loginNext platform s dto tie phase = some (s', phase')) :
    Moves platform s s' (.login dto phase) (.login dto phase') := by
  cases phase with
  | selecting =>
    cases next
    refine ⟨.refl, rfl, trivial, rfl, .inr ⟨rfl, ?_⟩⟩
    rw [AccountProcess.verdict, kept.login conforms, AccountProcess.due]
  | verifying record =>
    cases next
    exact ⟨.refl, rfl, trivial, rfl, .inl rfl⟩
  | returned => cases next

theorem change_moves (conforms : platform.Conforms) (kept : CommitsKept platform s)
    {userId : String} {dto : ChangePasswordDto} {phase phase' : ChangePhase} {chance : ChangeChance}
    (sound : Sound platform s (.change userId dto phase))
    (next : changeNext platform s userId dto chance phase = some (s', phase')) :
    Moves platform s s' (.change userId dto phase) (.change userId dto phase') := by
  cases phase with
  | selecting =>
    simp only [changeNext] at next
    rcases kept.select userId chance.tie with ⟨missing, unset⟩ | ⟨place, account, salt, password,
      selected, targets, read, last⟩
    · rw [missing] at next
      cases next
      refine ⟨.refl, rfl, trivial, rfl, .inr ⟨rfl, ?_⟩⟩
      rw [AccountProcess.due, changeAnswer, unset]
      rfl
    · rw [selected] at next
      cases next
      refine ⟨.refl, rfl, targets, rfl, .inr ⟨rfl, ?_⟩⟩
      rw [AccountProcess.verdict, read, checkChange_hash conforms, AccountProcess.due, changeAnswer,
        last]
  | verifying place password =>
    simp only [changeNext] at next
    split at next
    · next e refused =>
      cases next
      refine ⟨.refl, rfl, trivial, rfl, .inl ?_⟩
      rw [AccountProcess.verdict, AccountProcess.verdict, refused]
    · next allowed =>
      cases next
      refine ⟨.refl, rfl, sound, rfl, .inl ?_⟩
      rw [AccountProcess.verdict, AccountProcess.verdict, allowed]
      rfl
  | hashing place =>
    cases next
    exact ⟨.refl, rfl, ⟨sound, chance.salt, rfl⟩, rfl, .inl rfl⟩
  | updating place passwordHash =>
    cases next
    obtain ⟨⟨⟨user, member, rfl⟩, places⟩, salt, rfl⟩ := sound
    exact ⟨.changed user salt dto.newPassword member rfl (modify_eq_map places) rfl, rfl, trivial,
      rfl, .inl rfl⟩
  | returned => cases next

theorem request_moves {dto : ForgotPasswordDto} {now : ℤ} {phase phase' : RequestPhase}
    {chance : RequestChance} {after : RecoveryState}
    (next : requestNext platform s.recovery dto now chance phase = some (after, phase')) :
    Moves platform s { recovery := after, passwords := s.passwords }
      (.recovery (.request dto now phase)) (.recovery (.request dto now phase')) := by
  cases requestNext_statement next with
  | request => exact ⟨.refl, rfl, trivial, rfl, .inl rfl⟩
  | issue => exact ⟨.idle rfl rfl rfl, rfl, trivial, rfl, .inl rfl⟩

theorem reset_moves {dto : ResetPasswordDto} {now : ℤ} {phase phase' : ResetPhase}
    {chance : RedeemChance} {after : RecoveryState}
    (sound : Sound platform s (.recovery (.reset dto now phase)))
    (next : resetNext platform s.recovery dto now chance phase = some (after, phase')) :
    Moves platform s
      { recovery := after
        passwords := (resets (.reset dto now phase) (.reset chance)).toList ++ s.passwords }
      (.recovery (.reset dto now phase)) (.recovery (.reset dto now phase')) := by
  cases phase with
  | selecting =>
    simp only [resetNext] at next
    split at next <;> cases next <;> exact ⟨.refl, rfl, trivial, rfl, .inl rfl⟩
  | verifying pending =>
    simp only [resetNext] at next
    cases verify : platform.passwords.verify pending.value dto.code with
    | false | true =>
      rw [verify] at next
      cases next
      exact ⟨.idle rfl rfl rfl, rfl, trivial, rfl, .inl rfl⟩
  | counting pending =>
    cases next
    exact ⟨.idle rfl rfl rfl, rfl, trivial, rfl, .inl rfl⟩
  | finding pending =>
    simp only [resetNext] at next
    split at next
    · cases next
      exact ⟨.refl, rfl, trivial, rfl, .inl rfl⟩
    · next recipient found =>
      cases next
      exact ⟨.refl, rfl, (findCredentialUser_mem found).1, rfl, .inl rfl⟩
  | hashing pending recipient =>
    cases next
    exact ⟨.refl, rfl, ⟨sound, chance.salt, rfl⟩, rfl, .inl rfl⟩
  | redeeming pending recipient passwordHash =>
    obtain ⟨member, salt, rfl⟩ := sound
    simp only [resetNext] at next
    cases committed : chance.commits with
    | false =>
      rw [committed] at next
      cases next
      simp only [resets, committed]
      exact ⟨.refl, rfl, trivial, rfl, .inl rfl⟩
    | true =>
      rw [committed] at next
      cases next
      simp only [resets, committed]
      exact ⟨.changed recipient salt dto.password member rfl rfl rfl, rfl, trivial, rfl, .inl rfl⟩
  | returned => cases next

theorem recovery_moves {call call' : RecoveryCall} {chance : RecoveryChance}
    (sound : Sound platform s (.recovery call))
    (next : recoveryNext platform s call chance = some (s', call')) :
    Moves platform s s' (.recovery call) (.recovery call') := by
  obtain ⟨⟨after, _⟩, recovered, same⟩ := Option.map_eq_some_iff.mp next
  cases same
  cases call with
  | request dto now phase =>
    cases chance with
    | request chance =>
      obtain ⟨⟨_, phase'⟩, moved, same⟩ := Option.map_eq_some_iff.mp recovered
      cases same
      exact request_moves moved
    | reset => cases recovered
  | reset dto now phase =>
    cases chance with
    | request => cases recovered
    | reset chance =>
      obtain ⟨⟨_, phase'⟩, moved, same⟩ := Option.map_eq_some_iff.mp recovered
      cases same
      exact reset_moves sound moved

theorem next_moves (conforms : platform.Conforms) (kept : CommitsKept platform s)
    {chance : AccountChance} (sound : Sound platform s p)
    (next : (accountServer platform).next s p chance = some (s', p')) :
    Moves platform s s' p p' := by
  cases p with
  | recovery call =>
    cases chance with
    | recovery chance =>
      obtain ⟨⟨s', call'⟩, moved, after⟩ := Option.map_eq_some_iff.mp next
      cases after
      exact recovery_moves sound moved
    | _ => cases next
  | register dto phase =>
    cases chance with
    | register chance =>
      obtain ⟨⟨s', phase'⟩, moved, after⟩ := Option.map_eq_some_iff.mp next
      cases after
      exact register_moves sound moved
    | _ => cases next
  | login dto phase =>
    cases chance with
    | login tie =>
      obtain ⟨⟨s', phase'⟩, moved, after⟩ := Option.map_eq_some_iff.mp next
      cases after
      exact login_moves conforms kept moved
    | _ => cases next
  | change userId dto phase =>
    cases chance with
    | change chance =>
      obtain ⟨⟨s', phase'⟩, moved, after⟩ := Option.map_eq_some_iff.mp next
      cases after
      exact change_moves conforms kept sound moved
    | _ => cases next

/-! ## Runs -/

/-- What every interleaving keeps. -/
structure AccountsKept (platform : Platform) (s : AccountSystem) : Prop where
  kept : CommitsKept platform s.shared
  sound : Everywhere (Sound platform) s
  complete : s.shared.passwords.Perm (gather AccountProcess.hasSet s)

theorem AccountCommit.passwords (commit : AccountCommit platform s s' set) :
    s'.passwords = set.toList ++ s.passwords := by
  cases commit with
  | idle _ _ passwords => exact passwords
  | created _ _ _ _ _ passwords => exact passwords
  | changed _ _ _ _ _ _ passwords => exact passwords

theorem init_fresh (platform : Platform) (input : AccountInput) (s : AccountState) :
    ((accountServer platform).init input).hasSet = none ∧
      ((accountServer platform).init input).verdict platform = none ∧
      Sound platform s ((accountServer platform).init input) := by
  cases input with
  | recovery input => cases input <;> exact ⟨rfl, rfl, trivial⟩
  | _ => exact ⟨rfl, rfl, trivial⟩

theorem AccountsKept.step (conforms : platform.Conforms) {s s' : AccountSystem} {move : AccountMove}
    (inv : AccountsKept platform s) (h : step (accountServer platform) s move = some s') :
    AccountsKept platform s' := by
  cases move with
  | start input =>
    cases h
    obtain ⟨unset, -, sound⟩ := init_fresh platform input s.shared
    refine ⟨inv.kept, inv.sound.start sound, ?_⟩
    rw [gather_start unset]
    exact inv.complete
  | advance i chance =>
    obtain ⟨p, shared', p', here, next, rfl⟩ := advance_cases h
    have moves := next_moves conforms inv.kept (inv.sound i p here) next
    refine ⟨inv.kept.step conforms moves.commit,
      inv.sound.set moves.sound fun _ _ _ _ sound => sound.step moves.commit, ?_⟩
    have gathered : (gather AccountProcess.hasSet
        (⟨shared', s.procs.set i p'⟩ : AccountSystem) ++ p.hasSet.toList).Perm
          (gather AccountProcess.hasSet s ++ p'.hasSet.toList) :=
      gather_set AccountProcess.hasSet here
    rw [moves.pending, Option.toList_none, List.append_nil] at gathered
    rw [moves.commit.passwords]
    exact (inv.complete.append_left _).trans (List.perm_append_comm.trans gathered.symm)

theorem AccountsKept.run (conforms : platform.Conforms) {tr : List AccountMove} {s : AccountSystem}
    (run : AccountRun platform tr s) : AccountsKept platform s :=
  run.invariant ⟨⟨.init, fun _ _ => rfl⟩, .nil, .nil⟩ fun inv step => inv.step conforms step

/-- What a call is bound to answer is what the passwords in force called for when it read them. -/
theorem verdict_once (conforms : platform.Conforms) {tr : List AccountMove} {s : AccountSystem}
    (run : AccountRun platform tr s) {i : ℕ} (here : s.procs[i]? = some p)
    {answer : Except HttpException (Option TokenSubject)}
    (bound : p.verdict platform = some answer) :
    Met platform (fun before move => ∃ p₀ chance, move = .advance i chance ∧
      before.procs[i]? = some p₀ ∧ p₀.input = p.input ∧ p₀.verdict platform = none ∧
        p₀.due platform before.shared = answer) tr := by
  refine taken_once AccountProcess.input (·.verdict platform)
    (fun s _ p answer => p.due platform s = answer) rfl (AccountsKept.run conforms)
    (fun input => (init_fresh platform input {}).2.1) ?_ run here bound
  intro s p chance shared' p' i inv here next
  have moves := next_moves conforms inv.kept (inv.sound i p here) next
  exact ⟨moves.input, moves.verdict.imp_right fun ⟨unread, read⟩ => ⟨unread, _, read, rfl⟩⟩

theorem except_map_injective {f : α → β} (injective : Function.Injective f) :
    Function.Injective (Except.map f : Except ε α → Except ε β) := by
  rintro (e | a) (e' | a') same
  · cases same
    rfl
  · cases same
  · cases same
  · rw [injective (Except.ok.inj same)]

theorem login_unread {dto : LoginDto} (input : p.input = .login dto)
    (unread : p.verdict platform = none) : p = .login dto .selecting := by
  cases p with
  | recovery call => cases call <;> cases input
  | login dto phase =>
    cases input
    cases phase with
    | selecting => rfl
    | _ => cases unread
  | _ => cases input

theorem change_unread {userId : String} {dto : ChangePasswordDto}
    (input : p.input = .change userId dto) (unread : p.verdict platform = none) :
    p = .change userId dto .selecting := by
  cases p with
  | recovery call => cases call <;> cases input
  | change userId dto phase =>
    cases input
    cases phase with
    | selecting => rfl
    | _ => cases unread
  | _ => cases input

theorem accountsAgree (conforms : platform.Conforms) {tr : List AccountMove} {s : AccountSystem}
    (run : AccountRun platform tr s) : AccountsAgree platform tr s := by
  have inv := AccountsKept.run conforms run
  refine ⟨?_, ?_, inv.complete, ?_, ?_⟩
  · obtain ⟨history, accounts, -⟩ := inv.kept.recorded
    exact accounts.emails
  · intro user member
    obtain ⟨salt, password, only, last⟩ := inv.kept.recorded.password member
    exact ⟨salt, password, last, only⟩
  · intro i dto answer here
    refine (verdict_once conforms run here rfl).mono fun before move met => ?_
    obtain ⟨p₀, chance, reads, here, input, unread, due⟩ := met
    obtain rfl := login_unread input unread
    exact ⟨⟨chance, reads⟩, here, except_map_injective (Option.some_injective _) due⟩
  · intro i userId dto answer here
    refine (verdict_once conforms run here rfl).mono fun before move met => ?_
    obtain ⟨p₀, chance, reads, here, input, unread, due⟩ := met
    obtain rfl := change_unread input unread
    exact ⟨⟨chance, reads⟩, here, except_map_injective (Function.injective_of_subsingleton _) due⟩

/-- A change reads the account, a reset commits, and the change commits after it. -/
def overtakenReset : List AccountMove :=
  .start (.register ⟨"Raju", "Raju@Example.com", "correct horse"⟩) ::
    List.replicate 3 (.advance 0 (.register { id := "u" })) ++
    .start (.recovery (.request ⟨"raju@example.com"⟩ 0)) ::
    List.replicate 6 (.advance 1 (.recovery (.request firstCode))) ++
    .start (.change "u" ⟨"correct horse", "glass bell"⟩) ::
    List.replicate 2 (.advance 2 (.change {})) ++
    .start (.recovery (.reset ⟨"raju@example.com", "000042", "paper clip"⟩ 1000)) ::
    List.replicate 5 (.advance 3 (.recovery (.reset {}))) ++
    List.replicate 2 (.advance 2 (.change {})) ++
    .start (.login ⟨" RAJU@example.com", "glass bell"⟩) ::
    List.replicate 2 (.advance 4 (.login 0))

/-- The reset is lost, although it has answered with success. -/
theorem accountsAgree_overtakenReset :
    ∃ s, AccountRun asciiPlatform overtakenReset s ∧ AccountsAgree asciiPlatform overtakenReset s ∧
      s.shared.passwords = [("u", "glass bell"), ("u", "paper clip"), ("u", "correct horse")] ∧
      s.procs[4]? = some (.login ⟨" RAJU@example.com", "glass bell"⟩
        (.returned (.ok ⟨"u", "raju@example.com"⟩))) := by
  obtain ⟨s, run, reached⟩ := exec_any (by decide +kernel :
    (exec (step (accountServer asciiPlatform)) ⟨{}, []⟩ overtakenReset).any fun s => decide
      (s.shared.passwords = [("u", "glass bell"), ("u", "paper clip"), ("u", "correct horse")] ∧
        s.procs[4]? = some (.login ⟨" RAJU@example.com", "glass bell"⟩
          (.returned (.ok ⟨"u", "raju@example.com"⟩)))))
  exact ⟨s, run, accountsAgree asciiPlatform_conforms run, of_decide_eq_true reached⟩

end ElectroSync
