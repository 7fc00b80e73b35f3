import ElectroSync.Auth.PasswordChanges
import ElectroSync.Library.FormUrlEncoded

/-!
# Sessions (`auth/token.service.ts`, `auth/guards/jwt-auth.guard.ts`)

A session is a signed token and nothing else: the guard reads the identity from the token and looks
at no table. Over every run, whoever presents a token that was issued and has not expired is served
as the user that it was issued for, whatever has become of the password; and that user exists.
-/

namespace ElectroSync
open Transition AuthService AuthController

structure JwtPayload where
  sub : String
  email : String
  type : String
  deriving DecidableEq

/-- `JwtService`, with one key pair: a signature holds until the second in which it expires. A token
is a word without blanks. Times are in milliseconds, and `iat` and `exp` in seconds. -/
structure JwtService where
  sign (payload : JwtPayload) (expiresIn : ℕ) (now : ℤ) : String
  verify (token : String) (now : ℤ) : Option JwtPayload
  verify_sign (payload : JwtPayload) (expiresIn : ℕ) (issuedAt now : ℤ) :
    verify (sign payload expiresIn issuedAt) now =
      if now / 1000 < issuedAt / 1000 + expiresIn then some payload else none
  sign_ne_empty (payload : JwtPayload) (expiresIn : ℕ) (now : ℤ) : sign payload expiresIn now ≠ ""
  sign_word (payload : JwtPayload) (expiresIn : ℕ) (now : ℤ) :
    ' ' ∉ (sign payload expiresIn now).toList

/-! ## Tokens -/

structure IssuedToken where
  accessToken : String
  expiresIn : ℕ
  deriving DecidableEq

namespace TokenService

/-- `JWT_EXPIRY_DAYS` in seconds. -/
def expiresIn (expiryDays : ℕ) : ℕ := expiryDays * 24 * 60 * 60

def payload (user : TokenSubject) : JwtPayload := ⟨user.id, user.email, "access"⟩

def issue (jwt : JwtService) (expiryDays : ℕ) (user : TokenSubject) (now : ℤ) : IssuedToken where
  accessToken := jwt.sign (payload user) (expiresIn expiryDays) now
  expiresIn := expiresIn expiryDays

end TokenService

/-! ## The guard -/

namespace JwtAuthGuard

def missingToken : HttpException := ⟨401, "Missing bearer token.", none⟩

def invalidToken : HttpException := ⟨401, "Invalid or expired token.", none⟩

/-- `split(' ')`: what follows a second blank is ignored. -/
def extractBearerToken (platform : Platform) (authorization : Option String) : Option String :=
  match (authorization.map fun header => header.toList.splitOn ' ').getD [] with
  | scheme :: value :: _ =>
    if platform.toLowerCase (String.ofList scheme) = "bearer" then some (String.ofList value)
    else none
  | _ => none

/-- The user that a request is served as: nobody on a public route. An empty token is falsy. -/
def canActivate (platform : Platform) (jwt : JwtService) (isPublic : Bool)
    (authorization : Option String) (now : ℤ) : Except HttpException (Option TokenSubject) :=
  if isPublic then .ok none
  else match extractBearerToken platform authorization with
  | none => .error missingToken
  | some token =>
    if token = "" then .error missingToken
    else match jwt.verify token now with
    | none => .error invalidToken
    | some payload =>
      if payload.type ≠ "access" then .error invalidToken
      else .ok (some ⟨payload.sub, payload.email⟩)

end JwtAuthGuard

/-- `@CurrentUser()` -/
def currentUser : Option TokenSubject → Except HttpException TokenSubject
  | none => .error ⟨500, "Route uses @CurrentUser() but is not behind the auth guard.", none⟩
  | some user => .ok user

namespace AuthService

def findProfile (t : Tables) (userId : String) : Except HttpException UserRow :=
  match t.users.find? (·.id = userId) with
  | none => .error ⟨404, "User not found.", none⟩
  | some profile => .ok profile

end AuthService

/-! ## Runs of sessions -/

namespace Sessions
open JwtAuthGuard

/-- A request that the guard lets through as a user, and its handler. -/
def guarded (platform : Platform) (jwt : JwtService) (authorization : Option String) (now : ℤ)
    (handler : TokenSubject → Except HttpException α × Tables) (t : Tables) :
    Except HttpException α × Tables :=
  match canActivate platform jwt false authorization now with
  | .error e => (.error e, t)
  | .ok user =>
    match currentUser user with
    | .error e => (.error e, t)
    | .ok user => handler user

inductive SessionEvent
  /-- A call that issues a token when its answer names a user. -/
  | account (event : AccountEvent) (now : ℤ)
  | changePassword (authorization : Option String) (now : ℤ) (dto : ChangePasswordDto)
    (chance : ChangeChance) (answer : Except HttpException Unit)
  | me (authorization : Option String) (now : ℤ) (answer : Except HttpException UserRow)

/-- A token that was issued, for whom and when. -/
structure Issue where
  token : String
  user : TokenSubject
  issuedAt : ℤ
  deriving DecidableEq

structure SessionState where
  tables : Tables := {}
  issued : List Issue := []
  deriving DecidableEq

/-- The token that comes with the answer of a call. -/
def issues (jwt : JwtService) (expiryDays : ℕ) (event : AccountEvent) (now : ℤ) : List Issue :=
  match event.outcome.answer with
  | .ok (some user) => [⟨(TokenService.issue jwt expiryDays user now).accessToken, user, now⟩]
  | _ => []

/-- The state after a request with the answer of the event. -/
def serveSession (platform : Platform) (jwt : JwtService) (expiryDays : ℕ) (s : SessionState) :
    SessionEvent → Option SessionState
  | .account event now =>
    (serve platform s.tables event).map fun tables =>
      { tables, issued := issues jwt expiryDays event now ++ s.issued }
  | .changePassword authorization now dto chance answer =>
    let result := guarded platform jwt authorization now
      (fun user => changePassword platform s.tables user.id dto chance) s.tables
    if result.1 = answer then some { s with tables := result.2 } else none
  | .me authorization now answer =>
    let result := guarded platform jwt authorization now
      (fun user => (findProfile s.tables user.id, s.tables)) s.tables
    if result.1 = answer then some { s with tables := result.2 } else none

/-- Nobody but the server signs: a token that verifies has been issued. -/
def Unforged (platform : Platform) (jwt : JwtService) (issued : List Issue)
    (authorization : Option String) (now : ℤ) : Prop :=
  ∀ token ∈ extractBearerToken platform authorization, (jwt.verify token now).isSome →
    ∃ issue ∈ issued, issue.token = token

/-- The header presents the token: a scheme that reads `bearer`, one blank, and the token. -/
def Presents (platform : Platform) (authorization : Option String) (token : String) : Prop :=
  ∃ scheme tail : List Char,
    authorization = some (String.ofList (scheme ++ ' ' :: (token.toList ++ tail))) ∧
    ' ' ∉ scheme ∧ (∀ c ∈ tail.head?, c = ' ') ∧
    platform.toLowerCase (String.ofList scheme) = "bearer"

/-- The token of the header was issued for the user, and has not expired. -/
def Valid (platform : Platform) (expiryDays : ℕ) (issued : List Issue)
    (authorization : Option String) (now : ℤ) (user : TokenSubject) : Prop :=
  ∃ issue ∈ issued, Presents platform authorization issue.token ∧ issue.user = user ∧
    now / 1000 < issue.issuedAt / 1000 + expiryDays * (24 * 60 * 60)

/-- The change that an event asks for, when the guard lets it through. -/
def passwordEvent (platform : Platform) (jwt : JwtService) : SessionEvent → Option PasswordEvent
  | .account event _ => some (.account event)
  | .changePassword authorization now dto chance answer =>
    match canActivate platform jwt false authorization now with
    | .ok (some user) => some (.change user.id dto chance answer)
    | _ => none
  | .me _ _ _ => none

/-- What is expected of the guard, in a state that a run has led to. -/
structure Serves (platform : Platform) (jwt : JwtService) (expiryDays : ℕ)
    (tr : List SessionEvent) (s : SessionState) (authorization : Option String) (now : ℤ) :
    Prop where
  served (user : TokenSubject) :
    canActivate platform jwt false authorization now = .ok (some user) ↔
      Valid platform expiryDays s.issued authorization now user
  refused : (∀ user, ¬ Valid platform expiryDays s.issued authorization now user) →
    ∃ e, canActivate platform jwt false authorization now = .error e ∧ e.statusCode = 401
  /-- The handlers find the account of the user. -/
  known (user : TokenSubject) : Valid platform expiryDays s.issued authorization now user →
    ∃ row ∈ s.tables.users, row.id = user.id ∧ row.email = user.email ∧
      findProfile s.tables user.id = .ok row ∧
      ∃ password, passwordOf platform (tr.filterMap (passwordEvent platform jwt)) row =
          some password ∧
        ∀ dto chance, (changePassword platform s.tables user.id dto chance).1 =
          answerTo dto password

variable {platform : Platform} {jwt : JwtService} {expiryDays : ℕ} {tr : List SessionEvent}
  {s s' : SessionState} {authorization : Option String} {now : ℤ} {token : String}

/-! ## The guard -/

theorem split_header_iff {header scheme value : List Char} :
    (∃ words, header.splitOn ' ' = scheme :: value :: words) ↔ ' ' ∉ scheme ∧ ' ' ∉ value ∧
      ∃ tail, header = scheme ++ ' ' :: (value ++ tail) ∧ ∀ c ∈ tail.head?, c = ' ' := by
  constructor
  · rintro ⟨words, split⟩
    obtain ⟨fresh, ⟨-, empty⟩ | ⟨rest, rfl, split'⟩⟩ := JsString.splitOn_eq_cons_iff.mp split
    · cases empty
    obtain ⟨fresh', ⟨rfl, -⟩ | ⟨tail, rfl, -⟩⟩ := JsString.splitOn_eq_cons_iff.mp split'.symm
    · exact ⟨fresh, fresh', [], by rw [List.append_nil], by simp⟩
    · exact ⟨fresh, fresh', ' ' :: tail, rfl, by simp⟩
  · rintro ⟨fresh, fresh', tail, rfl, stops⟩
    rw [List.splitOn_append_cons_self_of_not_mem fresh]
    rcases tail with _ | ⟨c, tail⟩
    · rw [List.append_nil, List.splitOn_eq_singleton fresh']
      exact ⟨_, rfl⟩
    · rw [stops c rfl, List.splitOn_append_cons_self_of_not_mem fresh']
      exact ⟨_, rfl⟩

theorem extractBearerToken_iff : extractBearerToken platform authorization = some token ↔
    ' ' ∉ token.toList ∧ Presents platform authorization token := by
  cases authorization with
  | none => simp [extractBearerToken, Presents]
  | some header =>
    have parts : extractBearerToken platform (some header) = some token ↔
        ∃ scheme, (∃ words, header.toList.splitOn ' ' = scheme :: token.toList :: words) ∧
          platform.toLowerCase (String.ofList scheme) = "bearer" := by
      simp only [extractBearerToken, Option.map_some, Option.getD_some]
      rcases header.toList.splitOn ' ' with _ | ⟨scheme, _ | ⟨value, words⟩⟩
      · simp
      · simp
      · have same : String.ofList value = token ↔ value = token.toList := by
          rw [← String.toList_inj, String.toList_ofList]
        simp [same, and_comm]
    rw [parts]
    constructor
    · rintro ⟨scheme, split, bearer⟩
      obtain ⟨fresh, fresh', tail, shape, stops⟩ := split_header_iff.mp split
      exact ⟨fresh', scheme, tail, by rw [← shape, String.ofList_toList], fresh, stops, bearer⟩
    · rintro ⟨fresh', scheme, tail, shape, fresh, stops, bearer⟩
      cases shape
      rw [String.toList_ofList]
      exact ⟨scheme, split_header_iff.mpr ⟨fresh, fresh', tail, rfl, stops⟩, bearer⟩

/-- The tokens of a list were all signed by the server. -/
def Signed (jwt : JwtService) (expiryDays : ℕ) (issued : List Issue) : Prop :=
  ∀ issue ∈ issued, issue.token =
    (TokenService.issue jwt expiryDays issue.user issue.issuedAt).accessToken

theorem verify_issue (jwt : JwtService) (expiryDays : ℕ) (user : TokenSubject) (issuedAt now : ℤ) :
    jwt.verify (TokenService.issue jwt expiryDays user issuedAt).accessToken now =
      if now / 1000 < issuedAt / 1000 + expiryDays * (24 * 60 * 60) then
        some (TokenService.payload user) else none := by
  have seconds : ((TokenService.expiresIn expiryDays : ℕ) : ℤ) = expiryDays * (24 * 60 * 60) := by
    rw [TokenService.expiresIn]
    omega
  rw [TokenService.issue, jwt.verify_sign, seconds]

theorem canActivate_iff (signed : Signed jwt expiryDays s.issued)
    (unforged : Unforged platform jwt s.issued authorization now) (user : TokenSubject) :
    canActivate platform jwt false authorization now = .ok (some user) ↔
      Valid platform expiryDays s.issued authorization now user := by
  constructor
  · intro served
    simp only [canActivate, Bool.false_eq_true, if_false] at served
    split at served
    · cases served
    · next token extracted =>
      split at served
      · cases served
      split at served
      · cases served
      · next payload verified =>
        obtain ⟨issue, member, rfl⟩ := unforged token extracted (by rw [verified]; rfl)
        have presented := (extractBearerToken_iff.mp extracted).2
        rw [signed issue member, verify_issue] at verified
        split at verified
        · next lives =>
          cases verified
          rw [if_neg (by simp [TokenService.payload])] at served
          cases served
          exact ⟨issue, member, presented, rfl, lives⟩
        · cases verified
  · rintro ⟨issue, member, presented, rfl, lives⟩
    have word := signed issue member
    have extracted := extractBearerToken_iff.mpr ⟨word ▸ jwt.sign_word _ _ _, presented⟩
    have nonempty : issue.token ≠ "" := word ▸ jwt.sign_ne_empty _ _ _
    have verified : jwt.verify issue.token now = some (TokenService.payload issue.user) := by
      rw [word, verify_issue, if_pos lives]
    simp [canActivate, extracted, nonempty, verified, TokenService.payload]

theorem canActivate_refuses (nobody : ∀ user, canActivate platform jwt false authorization now ≠
      .ok (some user)) :
    ∃ e, canActivate platform jwt false authorization now = .error e ∧ e.statusCode = 401 := by
  generalize answered : canActivate platform jwt false authorization now = answer at nobody
  simp only [canActivate, Bool.false_eq_true, if_false] at answered
  split at answered
  · exact ⟨_, answered.symm, rfl⟩
  split at answered
  · exact ⟨_, answered.symm, rfl⟩
  split at answered
  · exact ⟨_, answered.symm, rfl⟩
  split at answered
  · exact ⟨_, answered.symm, rfl⟩
  · exact absurd answered.symm (nobody _)

/-! ## Runs -/

/-- What a run keeps true of the accounts and of the tokens. -/
structure SessionInv (platform : Platform) (jwt : JwtService) (expiryDays : ℕ)
    (tr : List SessionEvent) (s : SessionState) : Prop where
  recorded : Recorded platform (passwordOf platform (tr.filterMap (passwordEvent platform jwt)))
    s.tables
  signed : Signed jwt expiryDays s.issued
  owned : ∀ issue ∈ s.issued, ∃ row ∈ s.tables.users, issue.user = ⟨row.id, row.email⟩

theorem login_subject {t : Tables} {dto : LoginDto} {tie : ℕ} {user : TokenSubject}
    (accepted : login platform t dto tie = .ok user) :
    ∃ row ∈ t.users, user = ⟨row.id, row.email⟩ := by
  simp only [login] at accepted
  split at accepted
  · next id email password found =>
    split at accepted
    · cases accepted
    split at accepted
    · cases accepted
    cases accepted
    obtain ⟨row, listed, joined⟩ := List.mem_flatMap.mp (List.mem_of_getElem? found)
    obtain ⟨account, -, same⟩ := List.mem_map.mp joined
    simp only [CredentialRecord.mk.injEq] at same
    obtain ⟨rfl, rfl, -⟩ := same
    exact ⟨row, (List.mem_filter.mp listed).1, rfl⟩
  · cases accepted

/-- The user that a call answers with is stored. -/
theorem serve_subject {t t' : Tables} {event : AccountEvent} {user : TokenSubject}
    (step : serve platform t event = some t')
    (answered : event.outcome.answer = .ok (some user)) :
    ∃ row ∈ t'.users, user = ⟨row.id, row.email⟩ := by
  obtain ⟨call, outcome⟩ := event
  obtain ⟨newId, handled⟩ := serve_iff.mp step
  cases call with
  | register dto chance =>
    simp only [handle, register_eq dto (hasNewId_register.mp newId), Prod.mk.injEq] at handled
    obtain ⟨rfl, rfl⟩ := handled
    by_cases given : Stored t dto.email
    · simp only [if_pos given] at answered
      cases answered
    by_cases stored : Stored t (AuthService.normalizeEmail platform dto.email)
    · simp only [if_neg given, if_pos stored] at answered
      cases answered
    · simp only [if_neg given, if_neg stored] at answered ⊢
      cases answered
      exact ⟨newUser platform dto chance.id, by simp [addUser], rfl⟩
  | login dto tie =>
    simp only [handle, Prod.mk.injEq] at handled
    obtain ⟨rfl, rfl⟩ := handled
    rcases accepted : login platform t dto tie with e | subject
    · rw [accepted] at answered
      cases answered
    · rw [accepted] at answered
      cases answered
      exact login_subject accepted
  | forgotPassword dto now chance =>
    simp only [handle, Prod.mk.injEq] at handled
    obtain ⟨rfl, rfl⟩ := handled
    rcases result : (PasswordResetService.request platform t dto now chance).answer with e | _ <;>
      rw [result] at answered <;> cases answered
  | resetPassword dto now chance =>
    simp only [handle, Prod.mk.injEq] at handled
    obtain ⟨rfl, rfl⟩ := handled
    obtain ⟨_, refused⟩ | ⟨_, row, -, counted⟩ | ⟨row, -, found, account, redeemed⟩ :=
      PasswordResetService.reset_tables dto chance
    · rw [refused] at answered
      cases answered
    · rw [counted] at answered
      cases answered
    · rw [redeemed] at answered ⊢
      cases answered
      exact ⟨found, (findCredentialUser_mem account).1, rfl⟩

theorem serve_users {t t' : Tables} {event : AccountEvent} {row : UserRow}
    (step : serve platform t event = some t') (member : row ∈ t.users) : row ∈ t'.users := by
  cases serve_effect step with
  | idle users => rwa [users]
  | added dto chance fresh new tables =>
    rw [tables]
    exact List.mem_append_left _ member
  | changed _ _ _ _ users => rwa [users]

theorem changePassword_users (t : Tables) (userId : String) (dto : ChangePasswordDto)
    (chance : ChangeChance) : (changePassword platform t userId dto chance).2.users = t.users := by
  rw [changePassword]
  rcases selectCredential t userId chance.tie with _ | ⟨place, credential⟩
  · rfl
  · simp only
    rcases checkChange platform dto credential.password with e | _ <;> rfl

/-- A guarded request is refused, or handled for the user that the guard lets through. -/
theorem guarded_cases (platform : Platform) (jwt : JwtService) (authorization : Option String)
    (now : ℤ) (handler : TokenSubject → Except HttpException α × Tables) (t : Tables) :
    ((∀ user, canActivate platform jwt false authorization now ≠ .ok (some user)) ∧
      ∃ e, guarded platform jwt authorization now handler t = (.error e, t)) ∨
      ∃ user, canActivate platform jwt false authorization now = .ok (some user) ∧
        guarded platform jwt authorization now handler t = handler user := by
  rcases answered : canActivate platform jwt false authorization now with e | _ | user
  · exact .inl ⟨nofun, e, by simp only [guarded, answered]⟩
  · exact .inl ⟨by simp, _, by simp only [guarded, answered, currentUser]; rfl⟩
  · exact .inr ⟨user, rfl, by simp only [guarded, answered, currentUser]⟩

/-- A handler that only reads. -/
theorem guarded_tables (platform : Platform) (jwt : JwtService) (authorization : Option String)
    (now : ℤ) (handler : TokenSubject → Except HttpException α) (t : Tables) :
    (guarded platform jwt authorization now (fun user => (handler user, t)) t).2 = t := by
  obtain ⟨-, e, same⟩ | ⟨user, -, same⟩ :=
    guarded_cases platform jwt authorization now (fun user => (handler user, t)) t
  · rw [same]
  · rw [same]

theorem passwordEvent_of_refused (dto : ChangePasswordDto) (chance : ChangeChance)
    (answer : Except HttpException Unit)
    (refused : ∀ user, canActivate platform jwt false authorization now ≠ .ok (some user)) :
    passwordEvent platform jwt (.changePassword authorization now dto chance answer) = none := by
  rw [passwordEvent]
  rcases answered : canActivate platform jwt false authorization now with e | _ | user
  · rfl
  · rfl
  · exact absurd answered (refused user)

theorem findProfile_of_mem {t : Tables} {row : UserRow} (ids : (t.users.map (·.id)).Nodup)
    (stored : row ∈ t.users) : findProfile t row.id = .ok row := by
  rw [findProfile]
  cases found : t.users.find? (·.id = row.id) with
  | none => exact absurd (decide_eq_true rfl) (List.find?_eq_none.mp found row stored)
  | some other =>
    have meets := List.find?_some found
    rw [List.inj_on_of_nodup_map ids (List.mem_of_find?_eq_some found) stored
      (of_decide_eq_true meets)]

namespace SessionInv

/-- A request that writes no table. -/
theorem quiet (inv : SessionInv platform jwt expiryDays tr s) {event : SessionEvent}
    (silent : passwordEvent platform jwt event = none) :
    SessionInv platform jwt expiryDays (tr ++ [event]) s := by
  refine ⟨?_, inv.signed, inv.owned⟩
  rw [List.filterMap_append, List.filterMap_cons, silent, List.filterMap_nil, List.append_nil]
  exact inv.recorded

theorem account (conforms : platform.Conforms) (inv : SessionInv platform jwt expiryDays tr s)
    {event : AccountEvent} {t' : Tables} (step : serve platform s.tables event = some t') :
    SessionInv platform jwt expiryDays (tr ++ [.account event now])
      { tables := t', issued := issues jwt expiryDays event now ++ s.issued } := by
  have fresh : ∀ issue ∈ issues jwt expiryDays event now, ∃ user,
      event.outcome.answer = .ok (some user) ∧
        issue = ⟨(TokenService.issue jwt expiryDays user now).accessToken, user, now⟩ := by
    intro issue member
    rw [issues] at member
    split at member
    · next user answered => exact ⟨user, answered, List.mem_singleton.mp member⟩
    · cases member
  refine ⟨?_, fun issue member => ?_, fun issue member => ?_⟩
  · rw [List.filterMap_append]
    exact inv.recorded.account conforms step
  · rcases List.mem_append.mp member with new | old
    · obtain ⟨user, -, rfl⟩ := fresh issue new
      rfl
    · exact inv.signed issue old
  · rcases List.mem_append.mp member with new | old
    · obtain ⟨user, answered, rfl⟩ := fresh issue new
      exact serve_subject step answered
    · obtain ⟨row, stored, same⟩ := inv.owned issue old
      exact ⟨row, serve_users step stored, same⟩

theorem step (conforms : platform.Conforms) (inv : SessionInv platform jwt expiryDays tr s)
    {event : SessionEvent} (step : serveSession platform jwt expiryDays s event = some s') :
    SessionInv platform jwt expiryDays (tr ++ [event]) s' := by
  cases event with
  | account event now =>
    obtain ⟨t', served, rfl⟩ := Option.map_eq_some_iff.mp step
    exact inv.account conforms served
  | changePassword authorization now dto chance answer =>
    simp only [serveSession, Option.ite_none_right_eq_some, Option.some.injEq] at step
    obtain ⟨refused, e, same⟩ | ⟨user, passed, same⟩ :=
      guarded_cases platform jwt authorization now
        (fun user => changePassword platform s.tables user.id dto chance) s.tables
    · rw [same] at step
      obtain ⟨-, rfl⟩ := step
      exact inv.quiet (passwordEvent_of_refused dto chance answer refused)
    · rw [same] at step
      obtain ⟨answered, rfl⟩ := step
      have asked : passwordEvent platform jwt
          (.changePassword authorization now dto chance answer) =
            some (.change user.id dto chance answer) := by
        simp only [passwordEvent, passed]
      refine ⟨?_, inv.signed, fun issue member => ?_⟩
      · rw [List.filterMap_append, List.filterMap_cons, asked]
        exact inv.recorded.step conforms (by simp [servePassword, answered])
      · simp only [changePassword_users]
        exact inv.owned issue member
  | me authorization now answer =>
    simp only [serveSession, Option.ite_none_right_eq_some, Option.some.injEq] at step
    have same := guarded_tables platform jwt authorization now
      (fun user => findProfile s.tables user.id) s.tables
    rw [same] at step
    obtain ⟨-, rfl⟩ := step
    exact inv.quiet rfl

theorem run (conforms : platform.Conforms)
    (run : Run (Enabled (serveSession platform jwt expiryDays)) {} tr s) :
    SessionInv platform jwt expiryDays tr s :=
  run.invariantTrace (P := SessionInv platform jwt expiryDays) ⟨.init, nofun, nofun⟩
    fun _ inv step => inv.step conforms step

end SessionInv

/-- In every run the guard serves exactly those who present a token that was issued and has not
expired, as the user it was issued for, whatever has become of the password since; and the handlers
find the account of that user. -/
theorem guard_serves (conforms : platform.Conforms)
    (run : Run (Enabled (serveSession platform jwt expiryDays)) {} tr s)
    (unforged : Unforged platform jwt s.issued authorization now) :
    Serves platform jwt expiryDays tr s authorization now := by
  have inv := SessionInv.run conforms run
  have served := canActivate_iff inv.signed unforged
  refine ⟨served, fun nobody => ?_, fun user valid => ?_⟩
  · exact canActivate_refuses fun user passed => nobody user ((served user).mp passed)
  · obtain ⟨issue, member, -, rfl, -⟩ := valid
    obtain ⟨row, stored, same⟩ := inv.owned issue member
    obtain ⟨salt, password, -, last⟩ := inv.recorded.password stored
    rw [same]
    refine ⟨row, stored, rfl, rfl, ?_, password, last, fun dto chance => ?_⟩
    · obtain ⟨history, accounts, -⟩ := inv.recorded
      exact findProfile_of_mem accounts.ids stored
    · rw [inv.recorded.changePassword conforms stored last]
      rcases answerTo dto password with e | _ <;> rfl

/-! ## A service to run -/

/-- A token with its payload in clear. -/
def plainToken (payload : JwtPayload) (exp : ℤ) : String :=
  FormUrlEncoded.serializeStrings
    [("sub", payload.sub), ("email", payload.email), ("type", payload.type),
      ("exp", String.ofList (Nat.toDigits 10 exp.toNat)),
      ("early", String.ofList (Nat.toDigits 10 (-exp).toNat))]

/-- What such a token says. -/
def readPlainToken (token : String) : Option (JwtPayload × ℤ) :=
  match FormUrlEncoded.parseStrings token with
  | some [(_, sub), (_, email), (_, type), (_, exp), (_, early)] =>
    some (⟨sub, email, type⟩, JsString.number exp.toList - JsString.number early.toList)
  | _ => none

theorem number_toDigits (n : ℕ) : JsString.number (Nat.toDigits 10 n) = n :=
  Nat.ofDigitChars_ten_toDigits

theorem readPlainToken_plainToken (payload : JwtPayload) (exp : ℤ) :
    readPlainToken (plainToken payload exp) = some (payload, exp) := by
  rw [readPlainToken, plainToken, FormUrlEncoded.parseStrings_serializeStrings]
  simp only [String.toList_ofList, number_toDigits, Int.toNat_sub_toNat_neg]

def plainJwt : JwtService where
  sign payload expiresIn now := plainToken payload (now / 1000 + expiresIn)
  verify token now := (readPlainToken token).bind fun read =>
    if now / 1000 < read.2 then some read.1 else none
  verify_sign payload expiresIn issuedAt now := by
    rw [readPlainToken_plainToken, Option.bind_some]
  sign_ne_empty payload expiresIn now empty := by
    have read := readPlainToken_plainToken payload (now / 1000 + expiresIn)
    rw [empty] at read
    cases read
  sign_word payload expiresIn now := by
    rw [plainToken, FormUrlEncoded.serializeStrings, String.toList_ofList]
    exact FormUrlEncoded.not_mem_serialize _ (by decide)

def rajuSubject : TokenSubject := ⟨"u", "raju@example.com"⟩

/-- The token of a day that is issued to Raju at time 0. -/
def rajuToken : String := (TokenService.issue plainJwt 1 rajuSubject 0).accessToken

def rajuHeader : Option String := some ("BEARER " ++ rajuToken)

/-- A registration, and a change of the password with its token. -/
def changedSession : List SessionEvent :=
  [.account ⟨raju "Raju@Example.com" "u", { answer := .ok (some rajuSubject) }⟩ 0,
    .changePassword rajuHeader 1000 ⟨"correct horse", "battery staple"⟩ {} (.ok ()),
    .me rajuHeader 2000 (.ok rajuRow)]

/-- The token is good until the last millisecond of the day. -/
theorem guard_serves_changedSession :
    ∃ s, Run (Enabled (serveSession asciiPlatform plainJwt 1)) {} changedSession s ∧
      Serves asciiPlatform plainJwt 1 changedSession s rajuHeader 86399999 ∧
      canActivate asciiPlatform plainJwt false rajuHeader 86399999 = .ok (some rajuSubject) := by
  obtain ⟨s, run, issued⟩ := exec_any (by decide +kernel :
    (exec (serveSession asciiPlatform plainJwt 1) {} changedSession).any fun s =>
      decide (s.issued = [⟨rajuToken, rajuSubject, 0⟩]))
  have member : (⟨rajuToken, rajuSubject, 0⟩ : Issue) ∈ s.issued := by
    rw [of_decide_eq_true issued]
    exact List.mem_singleton_self _
  have presented : extractBearerToken asciiPlatform rajuHeader = some rajuToken := by
    decide +kernel
  have unforged : Unforged asciiPlatform plainJwt s.issued rajuHeader 86399999 :=
    fun token extracted _ => ⟨_, member, Option.some.inj (presented.symm.trans extracted)⟩
  have serves := guard_serves asciiPlatform_conforms run unforged
  refine ⟨s, run, serves, (serves.served rajuSubject).mpr ⟨_, member, ?_, rfl, by decide⟩⟩
  exact (extractBearerToken_iff.mp presented).2

end Sessions

end ElectroSync
