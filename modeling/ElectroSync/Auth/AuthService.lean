import ElectroSync.Auth.PasswordReset

/-!
# Registration and login (`auth/auth.service.ts`)

Both write or look for the normal form of the email that they are given. The one exception is the
lookup of `register`, which takes the email as it is.
-/

namespace ElectroSync

structure RegisterDto where
  name : String
  email : String
  password : String
  deriving DecidableEq

structure LoginDto where
  email : String
  password : String
  deriving DecidableEq

namespace AuthService

/-- What a call throws: nothing in it catches an error of the database. -/
inductive AuthError
  | http (exception : HttpException)
  | uniqueViolation
  deriving DecidableEq

def emailExists : HttpException := ⟨409, "Email already exists.", none⟩

def invalidCredentials : HttpException := ⟨401, "Invalid email or password.", none⟩

/-- The service has a copy of its own. -/
def normalizeEmail (platform : Platform) (email : String) : String :=
  platform.toLowerCase (JsString.trim email)

/-! ## Statements -/

/-- The primary key of `user`, and its unique column `email`. -/
def insertUser (t : Tables) (row : UserRow) : Except AuthError Tables :=
  if t.users.any fun other => other.id = row.id || other.email = row.email then
    .error .uniqueViolation
  else .ok { t with users := t.users ++ [row] }

def insertAccount (t : Tables) (row : AccountRow) : Tables :=
  { t with accounts := t.accounts ++ [row] }

/-- The columns that `login` selects. -/
structure CredentialRecord where
  id : String
  email : String
  password : Option String
  deriving DecidableEq

/-- The join of `login`. -/
def credentialRecords (t : Tables) (email : String) : List CredentialRecord :=
  (t.users.filter (·.email = email)).flatMap fun user =>
    (t.accounts.filter fun account =>
      account.userId = user.id && account.providerId = credentialProvider).map fun account =>
        ⟨user.id, user.email, account.password⟩

/-! ## The calls -/

/-- The salt of the hash and the id of the new row. -/
structure RegisterChance where
  salt : ℕ := 0
  id : String
  deriving DecidableEq

/-- A transaction that throws is rolled back. -/
def register (platform : Platform) (t : Tables) (dto : RegisterDto) (chance : RegisterChance) :
    Except AuthError TokenSubject × Tables :=
  let email := normalizeEmail platform dto.email
  -- the lookup is on the email as given
  match t.users.find? (·.email = dto.email) with
  | some _ => (.error (.http emailExists), t)
  | none =>
    let passwordHash := platform.passwords.hash chance.salt dto.password
    match insertUser t { id := chance.id, name := dto.name, email := email } with
    | .error e => (.error e, t)
    | .ok created =>
      (.ok ⟨chance.id, email⟩, insertAccount created
        { userId := chance.id, providerId := credentialProvider, password := some passwordHash })

/-- `limit(1)` without an order takes any row. An empty password is falsy. -/
def login (platform : Platform) (t : Tables) (dto : LoginDto) (tie : ℕ) :
    Except HttpException TokenSubject :=
  let found := credentialRecords t (normalizeEmail platform dto.email)
  match found[tie % found.length]? with
  | some ⟨id, email, some password⟩ =>
    if password = "" then .error invalidCredentials
    else if !platform.passwords.verify password dto.password then .error invalidCredentials
    else .ok ⟨id, email⟩
  | _ => .error invalidCredentials

/-! ## What the calls do -/

variable {platform : Platform} {t t' : Tables} {email : String}

@[simp] theorem normalizeEmail_eq (email : String) :
    normalizeEmail platform email = PasswordResetService.normalizeEmail platform email := rfl

/-- The user that `register` inserts. -/
def newUser (platform : Platform) (dto : RegisterDto) (id : String) : UserRow where
  id := id
  name := dto.name
  email := normalizeEmail platform dto.email

/-- The account that `register` inserts. -/
def newAccount (platform : Platform) (dto : RegisterDto) (chance : RegisterChance) :
    AccountRow where
  userId := chance.id
  providerId := credentialProvider
  password := some (platform.passwords.hash chance.salt dto.password)

/-- The tables with a new user and its account. -/
def addUser (platform : Platform) (t : Tables) (dto : RegisterDto) (chance : RegisterChance) :
    Tables :=
  { t with
    users := t.users ++ [newUser platform dto chance.id]
    accounts := t.accounts ++ [newAccount platform dto chance] }

/-- A user with the email is stored. -/
def Stored (t : Tables) (email : String) : Prop := ∃ user ∈ t.users, user.email = email

instance (t : Tables) (email : String) : Decidable (Stored t email) :=
  inferInstanceAs (Decidable (∃ user ∈ t.users, _))

theorem insertUser_stored {row : UserRow} (stored : Stored t row.email) :
    insertUser t row = .error .uniqueViolation := by
  obtain ⟨user, mem, same⟩ := stored
  have found : (t.users.any fun other => other.id = row.id || other.email = row.email) = true := by
    rw [List.any_eq_true]
    exact ⟨user, mem, by simp [same]⟩
  rw [insertUser, if_pos found]

theorem insertUser_new {row : UserRow} (fresh : ∀ user ∈ t.users, user.id ≠ row.id)
    (new : ¬ Stored t row.email) :
    insertUser t row = .ok { t with users := t.users ++ [row] } := by
  have free : ¬ (t.users.any fun other => other.id = row.id || other.email = row.email) = true := by
    rw [List.any_eq_true]
    rintro ⟨user, mem, taken⟩
    simp only [Bool.or_eq_true, decide_eq_true_eq] at taken
    rcases taken with same | same
    · exact fresh user mem same
    · exact new ⟨user, mem, same⟩
  rw [insertUser, if_neg free]

/-- Everything that a registration does. The three cases are told apart by what is stored under the
email as given and under its normal form. -/
theorem register_eq (dto : RegisterDto) {chance : RegisterChance}
    (fresh : ∀ user ∈ t.users, user.id ≠ chance.id) :
    register platform t dto chance =
      if Stored t dto.email then (.error (.http emailExists), t)
      else if Stored t (normalizeEmail platform dto.email) then (.error .uniqueViolation, t)
      else (.ok ⟨chance.id, normalizeEmail platform dto.email⟩, addUser platform t dto chance) := by
  by_cases given : Stored t dto.email
  · rw [if_pos given]
    cases found : t.users.find? (·.email = dto.email) with
    | none =>
      obtain ⟨user, mem, same⟩ := given
      exact absurd (decide_eq_true same) (List.find?_eq_none.mp found user mem)
    | some user => simp only [register, found]
  · rw [if_neg given]
    have missing : t.users.find? (·.email = dto.email) = none := by
      rw [List.find?_eq_none]
      intro user mem same
      exact given ⟨user, mem, of_decide_eq_true same⟩
    simp only [register, missing]
    by_cases stored : Stored t (normalizeEmail platform dto.email)
    · rw [if_pos stored, insertUser_stored stored]
    · rw [if_neg stored, insertUser_new fresh stored]
      rfl

/-- The login of an email with one record. -/
theorem login_of_record {dto : LoginDto} {id password : String} (tie : ℕ)
    (only : credentialRecords t (normalizeEmail platform dto.email) = [⟨id, email, some password⟩])
    (nonempty : password ≠ "") :
    login platform t dto tie =
      if platform.passwords.verify password dto.password then .ok ⟨id, email⟩
      else .error invalidCredentials := by
  simp only [login, only, List.length_singleton, Nat.mod_one, List.getElem?_cons_zero,
    if_neg nonempty]
  cases platform.passwords.verify password dto.password <;> rfl

end AuthService

end ElectroSync
