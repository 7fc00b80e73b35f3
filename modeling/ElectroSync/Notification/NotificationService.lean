import ElectroSync.Common.PhoneNumber
import ElectroSync.Library.JsString
import ElectroSync.Library.Rows
import ElectroSync.Library.Run
import ElectroSync.Mail.AlertTemplate
import ElectroSync.Notification.Fcm

/-!
# Notifications (`notification/notification.service.ts`)

A notification is stored, texted, mailed and pushed. The device tokens it is pushed to are
registered by the users' apps, and the stored notifications are read and archived by the users.
-/

namespace ElectroSync
open Throwing Transition Rows

/-! ## Tables (`database/schema`) -/

/-- The columns of `user` that the service reads. -/
structure ContactRow where
  id : String
  mobile : Option String
  email : String
  settings : Option UserSettings
  deriving DecidableEq

inductive DevicePlatform
  | ios
  | android
  | web
  deriving DecidableEq

structure DeviceTokenRow where
  id : String
  userId : String
  token : String
  platform : DevicePlatform
  deviceId : Option String
  isActive : Bool
  lastUsedAt : ℤ
  createdAt : ℤ
  updatedAt : ℤ
  deriving DecidableEq

structure NotificationRow where
  id : String
  title : String
  body : String
  data : Option (List (String × String))
  readAt : Option ℤ := none
  archivedAt : Option ℤ := none
  sentAt : ℤ
  userId : String
  createdAt : ℤ
  deriving DecidableEq

/-- The tables of the service, with their primary keys and the unique column `token`. -/
structure NotificationTables where
  users : List ContactRow
  deviceTokens : List DeviceTokenRow
  notifications : List NotificationRow
  device_token_pk : (deviceTokens.map (·.id)).Nodup
  device_token_token_unique : (deviceTokens.map (·.token)).Nodup
  notification_pk : (notifications.map (·.id)).Nodup
  deriving DecidableEq

def foreignKeyViolation : String := "violates foreign key constraint"
def uniqueViolation : String := "duplicate key value violates unique constraint"

namespace NotificationTables

def updateDeviceTokens (t : NotificationTables) (p : DeviceTokenRow → Bool)
    (f : DeviceTokenRow → DeviceTokenRow) (id : ∀ row, (f row).id = row.id)
    (token : ∀ row, (f row).token = row.token) : NotificationTables :=
  { t with
    deviceTokens := updateWhere p f t.deviceTokens
    device_token_pk := by
      rw [map_key_updateWhere id]
      exact t.device_token_pk
    device_token_token_unique := by
      rw [map_key_updateWhere token]
      exact t.device_token_token_unique }

def updateNotifications (t : NotificationTables) (p : NotificationRow → Bool)
    (f : NotificationRow → NotificationRow) (id : ∀ row, (f row).id = row.id) :
    NotificationTables :=
  { t with
    notifications := updateWhere p f t.notifications
    notification_pk := by
      rw [map_key_updateWhere id]
      exact t.notification_pk }

/-- The row of a token, if there is one. -/
def deviceToken (t : NotificationTables) (token : String) : Option DeviceTokenRow :=
  t.deviceTokens.find? (·.token = token)

/-- The `INSERT` of a device token without its conflict clause. -/
def insertDeviceToken (t : NotificationTables) (row : DeviceTokenRow)
    (fresh : row.token ∉ t.deviceTokens.map (·.token)) : Except String NotificationTables :=
  if taken : row.id ∈ t.deviceTokens.map (·.id) then .error uniqueViolation
  else .ok { t with
    deviceTokens := t.deviceTokens ++ [row]
    device_token_pk := by
      rw [List.map_append, List.map_singleton]
      exact t.device_token_pk.append (List.nodup_singleton _) (List.disjoint_singleton.mpr taken)
    device_token_token_unique := by
      rw [List.map_append, List.map_singleton]
      exact t.device_token_token_unique.append (List.nodup_singleton _)
        (List.disjoint_singleton.mpr fresh) }

def insertNotification (t : NotificationTables) (row : NotificationRow) :
    Except String NotificationTables :=
  if !t.users.any (·.id = row.userId) then .error foreignKeyViolation
  else if taken : row.id ∈ t.notifications.map (·.id) then .error uniqueViolation
  else .ok { t with
    notifications := t.notifications ++ [row]
    notification_pk := by
      rw [List.map_append, List.map_singleton]
      exact t.notification_pk.append (List.nodup_singleton _) (List.disjoint_singleton.mpr taken) }

end NotificationTables

/-! ## Collaborators -/

structure OutboundSms where
  number : String
  message : String
  deriving DecidableEq

structure SmsSendResult where
  number : String
  segments : ℕ
  deriving DecidableEq

/-- `SmsService`: whether it has a gateway, and what a send meets. -/
structure SmsService where
  isConfigured : Bool
  send : OutboundSms → Except String SmsSendResult

/-- What a call meets: the clock, the id of a new row, the outcomes of its statements, and the
channels. -/
structure World where
  now : ℤ
  id : String
  write : Except String Unit
  recipientRead : Except String Unit
  tokensRead : Except String Unit
  deactivation : Except String Unit
  sms : SmsService
  mail : MailService
  fcm : FcmService

/-! ## Records -/

structure RegisterDeviceTokenDto where
  token : String
  platform : DevicePlatform
  deviceId : Field String
  deriving DecidableEq

inductive SmsSkip
  | providerNotConfigured
  | channelDisabled
  | noUsableNumber
  deriving DecidableEq

inductive SmsOutcome
  | sent (number : String) (segments : ℕ)
  | skipped (reason : SmsSkip)
  | failed (reason : String)
  deriving DecidableEq

inductive EmailSkip
  | providerNotConfigured
  | channelDisabled
  | noUsableAddress
  deriving DecidableEq

inductive EmailOutcome
  | sent (address : String)
  | skipped (reason : EmailSkip)
  | failed (reason : String)
  deriving DecidableEq

structure SendOutcome where
  notificationId : String
  pushAttempted : Bool
  delivery : FcmSendResult
  sms : SmsOutcome
  email : EmailOutcome
  deriving DecidableEq

structure Recipient where
  userId : String
  mobile : Option String
  email : Option String
  settings : ResolvedSettings
  deriving DecidableEq

/-- What leaves the server. -/
inductive Attempt
  | sms (sms : OutboundSms)
  | email (mail : OutboundMail)
  | push (tokens : List String)
  deriving DecidableEq

structure Sending where
  tables : NotificationTables
  attempted : List Attempt := []

/-- Something leaves the server. -/
def Sending.attempt (a : Attempt) (s : Sending) : Sending :=
  { s with attempted := s.attempted ++ [a] }

namespace NotificationService

/-- A statement: it may not reach the database, and the database may refuse it. -/
def statement (reached : Except String Unit)
    (run : NotificationTables → Except String (α × NotificationTables)) :
    Throwing Sending Thrown α := do
  Throwing.ofExcept (reached.mapError .error)
  let tables ← Throwing.read (·.tables)
  let (a, tables) ← Throwing.ofExcept ((run tables).mapError .error)
  Throwing.update fun s => { s with tables }
  return a

/-! ## Device tokens -/

/-- The `set` of the conflict clause. A `deviceId` that the request leaves out is not set. -/
def refreshToken (userId : String) (dto : RegisterDeviceTokenDto) (now : ℤ)
    (row : DeviceTokenRow) : DeviceTokenRow :=
  { row with
    userId
    platform := dto.platform
    deviceId := dto.deviceId.spread row.deviceId
    isActive := true
    lastUsedAt := now
    updatedAt := now }

def newToken (userId : String) (dto : RegisterDeviceTokenDto) (now : ℤ) (id : String) :
    DeviceTokenRow where
  id
  userId
  token := dto.token
  platform := dto.platform
  deviceId := dto.deviceId.spread none
  isActive := true
  lastUsedAt := now
  createdAt := now
  updatedAt := now

def upsertDeviceToken (t : NotificationTables) (userId : String) (dto : RegisterDeviceTokenDto)
    (now : ℤ) (id : String) : Except String NotificationTables :=
  if !t.users.any (·.id = userId) then .error foreignKeyViolation
  else if fresh : dto.token ∉ t.deviceTokens.map (·.token) then
    t.insertDeviceToken (newToken userId dto now id) fresh
  else .ok (t.updateDeviceTokens (·.token = dto.token) (refreshToken userId dto now)
    (fun _ => rfl) fun _ => rfl)

def registerDeviceToken (world : World) (userId : String) (dto : RegisterDeviceTokenDto) :
    Throwing Sending Thrown (Option DeviceTokenRow) :=
  statement world.write fun t => do
    let t ← upsertDeviceToken t userId dto world.now world.id
    return (t.deviceToken dto.token, t)

def deactivate (now : ℤ) (row : DeviceTokenRow) : DeviceTokenRow :=
  { row with isActive := false, updatedAt := now }

def deactivateWhere (t : NotificationTables) (now : ℤ) (p : DeviceTokenRow → Bool) :
    NotificationTables :=
  t.updateDeviceTokens p (deactivate now) (fun _ => rfl) fun _ => rfl

def unregisterDeviceToken (world : World) (userId token : String) :
    Throwing Sending Thrown Unit := do
  let own (row : DeviceTokenRow) : Bool := row.token = token && row.userId = userId
  let rows ← statement world.write fun t =>
    .ok (t.deviceTokens.filter own, deactivateWhere t world.now own)
  if rows.isEmpty then throw (.http ⟨404, "That device token is not registered.", none⟩)

/-- The tokens of a user that are pushed to. -/
def activeTokensFor (t : NotificationTables) (userId : String) : List String :=
  (t.deviceTokens.filter fun row => row.userId = userId && row.isActive).map (·.token)

def deactivateTokens (world : World) (tokens : List String) : Throwing Sending Thrown Unit :=
  statement world.deactivation fun t =>
    .ok ((), deactivateWhere t world.now fun row => tokens.contains row.token)

/-! ## The channels -/

/-- Truthiness of a string. -/
def nonempty (text : Option String) : Option String := text.filter (· ≠ "")

def recipientFor (world : World) (userId : String) : Throwing Sending Thrown Recipient := do
  Throwing.ofExcept (world.recipientRead.mapError .error)
  let row ← Throwing.read fun s => s.tables.users.find? (·.id = userId)
  return {
    userId
    mobile := row.bind (·.mobile)
    email := row.map (·.email)
    settings := overDefaults (row.bind (·.settings)) }

def deliverSms (world : World) (recipient : Recipient) (payload : PushPayload) :
    Throwing Sending Thrown SmsOutcome := do
  if !world.sms.isConfigured then return .skipped .providerNotConfigured
  let settings := recipient.settings
  if !truthy settings.smsAlerts then return .skipped .channelDisabled
  -- the number of the settings wins over the number of the profile
  match toBangladeshMsisdn (settings.smsNumber <|> recipient.mobile) with
  | none => return .skipped .noUsableNumber
  | some number =>
    let text : OutboundSms := ⟨number, payload.title ++ ": " ++ payload.body⟩
    tryCatch (do
      Throwing.update (Sending.attempt (.sms text))
      let result ← Throwing.ofExcept ((world.sms.send text).mapError .error)
      return .sent result.number result.segments) fun error => return .failed error.message

def deliverEmail (world : World) (recipient : Recipient) (payload : PushPayload) :
    Throwing Sending Thrown EmailOutcome := do
  let settings := recipient.settings
  if !truthy settings.emailAlerts then return .skipped .channelDisabled
  if !world.mail.isConfigured then return .skipped .providerNotConfigured
  match nonempty (recipient.email.map JsString.trim) with
  | none => return .skipped .noUsableAddress
  | some address =>
    tryCatch (do
      let mail := alertMail {
        address
        title := payload.title
        body := payload.body
        locale := settings.language.getD .en }
      Throwing.update (Sending.attempt (.email mail))
      Throwing.ofExcept ((world.mail.send mail).mapError .error)
      return .sent address) fun error => return .failed error.message

/-! ## A notification -/

def newNotification (world : World) (userId : String) (payload : PushPayload) :
    NotificationRow where
  id := world.id
  title := payload.title
  body := payload.body
  data := payload.data
  sentAt := world.now
  userId
  createdAt := world.now

/-- The rest of `sendToUser`: the push. -/
def deliverPush (world : World) (userId : String) (payload : PushPayload) (sms : SmsOutcome)
    (email : EmailOutcome) : Throwing Sending Thrown SendOutcome := do
  let unpushed : SendOutcome := {
    notificationId := world.id
    pushAttempted := false
    delivery := ⟨0, 0, []⟩
    sms
    email }
  if !world.fcm.isConfigured then return unpushed
  Throwing.ofExcept (world.tokensRead.mapError .error)
  let tokens ← Throwing.read fun s => activeTokensFor s.tables userId
  if tokens.isEmpty then return unpushed
  let delivery ← world.fcm.sendToTokens (fun batch => Sending.attempt (.push batch)) tokens payload
  if !delivery.invalidTokens.isEmpty then deactivateTokens world delivery.invalidTokens
  return { unpushed with pushAttempted := true, delivery }

def sendToUser (world : World) (userId : String) (payload : PushPayload) :
    Throwing Sending Thrown SendOutcome := do
  statement world.write fun t => do
    return ((), ← t.insertNotification (newNotification world userId payload))
  let recipient ← recipientFor world userId
  -- the channels are no fallbacks for each other
  let sms ← deliverSms world recipient payload
  let email ← deliverEmail world recipient payload
  deliverPush world userId payload sms email

/-! ## Reading and archiving -/

def markRead (now : ℤ) (row : NotificationRow) : NotificationRow :=
  { row with readAt := some now }

def archive (now : ℤ) (row : NotificationRow) : NotificationRow :=
  { row with archivedAt := some now }

/-- An `UPDATE … RETURNING` of notifications: the rows that it met, and the table after it. -/
def updateReturning (world : World) (p : NotificationRow → Bool)
    (f : NotificationRow → NotificationRow) (id : ∀ row, (f row).id = row.id) :
    Throwing Sending Thrown (List NotificationRow) :=
  statement world.write fun t =>
    .ok ((t.notifications.filter p).map f, t.updateNotifications p f id)

def markAsRead (world : World) (id userId : String) :
    Throwing Sending Thrown NotificationRow := do
  let rows ← updateReturning world (fun row => row.id = id && row.userId = userId)
    (markRead world.now) fun _ => rfl
  match rows.head? with
  | none => throw (.http ⟨404, "No such notification for this user.", none⟩)
  | some row => return row

def markAllAsRead (world : World) (userId : String) : Throwing Sending Thrown ℕ := do
  let rows ← updateReturning world
    (fun row => row.userId = userId && row.readAt.isNone && row.archivedAt.isNone)
    (markRead world.now) fun _ => rfl
  return rows.length

def archiveAll (world : World) (userId : String) : Throwing Sending Thrown ℕ := do
  let rows ← updateReturning world (fun row => row.userId = userId && row.archivedAt.isNone)
    (archive world.now) fun _ => rfl
  return rows.length

/-! ## Calls -/

end NotificationService

inductive NotificationCall
  | registerDeviceToken (userId : String) (dto : RegisterDeviceTokenDto)
  | unregisterDeviceToken (userId token : String)
  | sendToUser (userId : String) (payload : PushPayload)
  | markAsRead (id userId : String)
  | markAllAsRead (userId : String)
  | archiveAll (userId : String)

inductive NotificationAnswer
  | deviceToken (row : Option DeviceTokenRow)
  | unregistered (done : Unit)
  | sent (outcome : SendOutcome)
  | read (row : NotificationRow)
  | updated (count : ℕ)
  | archived (count : ℕ)

/-- A call, what it met, and what came of it. -/
structure NotificationEvent where
  world : World
  call : NotificationCall
  answer : Except Thrown NotificationAnswer
  attempted : List Attempt

namespace NotificationService

def handle (world : World) : NotificationCall → Throwing Sending Thrown NotificationAnswer
  | .registerDeviceToken userId dto => do
    return .deviceToken (← registerDeviceToken world userId dto)
  | .unregisterDeviceToken userId token => do
    return .unregistered (← unregisterDeviceToken world userId token)
  | .sendToUser userId payload => do return .sent (← sendToUser world userId payload)
  | .markAsRead id userId => do return .read (← markAsRead world id userId)
  | .markAllAsRead userId => do return .updated (← markAllAsRead world userId)
  | .archiveAll userId => do return .archived (← archiveAll world userId)

end NotificationService

/-- The calls come one after the other. -/
def NotificationStep (t : NotificationTables) (e : NotificationEvent) (t' : NotificationTables) :
    Prop :=
  (NotificationService.handle e.world e.call).eval { tables := t } = (e.answer, ⟨t', e.attempted⟩)

end ElectroSync
