import ElectroSync.Notification.NotificationService

/-!
# The channels of a notification

A text and a mail that fail are reported in the outcome. A batch of the push that throws is not
caught: it ends the send, with the report of the batches before it.
-/

namespace ElectroSync
open Throwing Batches Rows

variable {world : World} {userId token : String} {payload : PushPayload} {t t₁ : NotificationTables}
  {s s' : Sending} {recipient : Recipient} {batch : List String}

namespace NotificationService

/-! ## Statements -/

section Statement
variable {α : Type} {run : NotificationTables → Except String (α × NotificationTables)}
  {reached : Except String Unit} {r : Except Thrown α} {a : α}

theorem eval_statement_ok (done : run s.tables = .ok (a, t)) :
    (statement (.ok ()) run).eval s = (.ok a, { s with tables := t }) := by
  simp only [statement, eval_bind, eval_ofExcept, eval_read, eval_update, eval_pure,
    Except.mapError, done]

theorem eval_statement_error (e : String) :
    (statement (.error e) run).eval s = (.error (.error e), s) := rfl

theorem eval_statement_refused (refused : run s.tables = .error e) :
    (statement (.ok ()) run).eval s = (.error (.error e), s) := by
  simp only [statement, eval_bind, eval_ofExcept, eval_read, Except.mapError, refused]

/-- A statement does all of its work or none of it. -/
theorem statement_cases (h : (statement reached run).eval s = (r, s')) :
    (∃ e, r = .error e ∧ s' = s) ∨
      ∃ a t, r = .ok a ∧ run s.tables = .ok (a, t) ∧ s' = { s with tables := t } := by
  rcases reached with e | _
  · cases h
    exact .inl ⟨.error e, rfl, rfl⟩
  · rcases done : run s.tables with e | ⟨a, t⟩
    · rw [eval_statement_refused done] at h
      cases h
      exact .inl ⟨.error e, rfl, rfl⟩
    · rw [eval_statement_ok done] at h
      cases h
      exact .inr ⟨a, t, rfl, rfl, rfl⟩

end Statement

/-! ## Texts and mails -/

/-- What the service knows of a user. -/
def recipientOf (t : NotificationTables) (userId : String) : Recipient :=
  let row := t.users.find? (·.id = userId)
  { userId
    mobile := row.bind (·.mobile)
    email := row.map (·.email)
    settings := overDefaults (row.bind (·.settings)) }

/-- The text that the settings and the number of a user ask for. -/
def textFor (world : World) (recipient : Recipient) (payload : PushPayload) : Option OutboundSms :=
  if world.sms.isConfigured && truthy recipient.settings.smsAlerts then
    (toBangladeshMsisdn (recipient.settings.smsNumber <|> recipient.mobile)).map
      (⟨·, payload.title ++ ": " ++ payload.body⟩)
  else none

/-- The mail that the settings and the address of a user ask for. -/
def mailFor (world : World) (recipient : Recipient) (payload : PushPayload) :
    Option OutboundMail :=
  if world.mail.isConfigured && truthy recipient.settings.emailAlerts then
    (nonempty (recipient.email.map JsString.trim)).map fun address =>
      alertMail ⟨address, payload.title, payload.body, recipient.settings.language.getD .en⟩
  else none

/-- Whatever the gateway answers, the text channel returns, and tries the text asked for. -/
theorem deliverSms_eval (world : World) (recipient : Recipient) (payload : PushPayload)
    (s : Sending) :
    ∃ outcome, (deliverSms world recipient payload).eval s = (.ok outcome, { s with
      attempted := s.attempted ++ (textFor world recipient payload).toList.map .sms }) := by
  simp only [deliverSms, textFor]
  rcases configured : world.sms.isConfigured with _ | _
  · exact ⟨.skipped .providerNotConfigured, by simp⟩
  rcases on : truthy recipient.settings.smsAlerts with _ | _
  · exact ⟨.skipped .channelDisabled, by simp⟩
  rcases toBangladeshMsisdn (recipient.settings.smsNumber <|> recipient.mobile) with _ | number
  · exact ⟨.skipped .noUsableNumber, by simp⟩
  rcases answer : world.sms.send ⟨number, payload.title ++ ": " ++ payload.body⟩ with e | result
  · exact ⟨.failed e, by simp [eval_tryCatch, eval_bind, answer]; rfl⟩
  · exact ⟨.sent result.number result.segments, by simp [eval_tryCatch, eval_bind, answer]; rfl⟩

/-- Whatever the transport answers, the mail channel returns, and tries the mail asked for. -/
theorem deliverEmail_eval (world : World) (recipient : Recipient) (payload : PushPayload)
    (s : Sending) :
    ∃ outcome, (deliverEmail world recipient payload).eval s = (.ok outcome,
      { s with
        attempted := s.attempted ++ (mailFor world recipient payload).toList.map .email }) := by
  simp only [deliverEmail, mailFor]
  rcases on : truthy recipient.settings.emailAlerts with _ | _
  · exact ⟨.skipped .channelDisabled, by simp⟩
  rcases configured : world.mail.isConfigured with _ | _
  · exact ⟨.skipped .providerNotConfigured, by simp⟩
  rcases nonempty (recipient.email.map JsString.trim) with _ | address
  · exact ⟨.skipped .noUsableAddress, by simp⟩
  rcases answer : world.mail.send (alertMail ⟨address, payload.title, payload.body,
    recipient.settings.language.getD .en⟩) with e | _
  · exact ⟨.failed e, by simp [eval_tryCatch, eval_bind, answer]; rfl⟩
  · exact ⟨.sent address, by simp [eval_tryCatch, eval_bind, answer]; rfl⟩

/-! ## The push -/

/-- The batches in which the tokens of a user are pushed to. -/
def batchesFor (t : NotificationTables) (userId : String) : List (List String) :=
  batches fcmMulticastBatchLimit (activeTokensFor t userId)

theorem flatten_batchesFor (t : NotificationTables) (userId : String) :
    (batchesFor t userId).flatten = activeTokensFor t userId :=
  flatten_batches (by decide) _

theorem foldl_attempt (bs : List (List String)) (s : Sending) :
    bs.foldl (fun s b => Sending.attempt (.push b) s) s =
      { s with attempted := s.attempted ++ bs.map .push } := by
  induction bs generalizing s with
  | nil => simp
  | cons b bs ih =>
    rw [List.foldl_cons, ih]
    simp [Sending.attempt]

theorem deactivateWhere_of_none {p : DeviceTokenRow → Bool} (now : ℤ)
    (none : ∀ row ∈ t.deviceTokens, p row = false) : deactivateWhere t now p = t := by
  have same : updateWhere p (deactivate now) t.deviceTokens = t.deviceTokens :=
    updateWhere_of_none none
  cases t
  simp only [deactivateWhere, NotificationTables.updateDeviceTokens, same]

/-- The last statement of a push. -/
def afterPush (world : World) (unpushed : SendOutcome) (delivery : FcmSendResult) :
    Throwing Sending Thrown SendOutcome := do
  if !delivery.invalidTokens.isEmpty then deactivateTokens world delivery.invalidTokens
  return { unpushed with pushAttempted := true, delivery }

def unpushed (world : World) (sms : SmsOutcome) (email : EmailOutcome) : SendOutcome where
  notificationId := world.id
  pushAttempted := false
  delivery := ⟨0, 0, []⟩
  sms
  email

variable {sms : SmsOutcome} {email : EmailOutcome} {r : Except Thrown SendOutcome}

theorem deliverPush_of_unconfigured (off : world.fcm.isConfigured = false) :
    (deliverPush world userId payload sms email).eval s = (.ok (unpushed world sms email), s) := by
  simp only [deliverPush, off]
  rfl

theorem deliverPush_of_unlisted (on : world.fcm.isConfigured = true)
    (unlisted : world.tokensRead = .error e) :
    (deliverPush world userId payload sms email).eval s = (.error (.error e), s) := by
  simp only [deliverPush, on, unlisted]
  rfl

theorem deliverPush_of_nil (on : world.fcm.isConfigured = true)
    (listed : world.tokensRead = .ok ()) (none : activeTokensFor s.tables userId = []) :
    (deliverPush world userId payload sms email).eval s = (.ok (unpushed world sms email), s) := by
  simp only [deliverPush, on, listed, eval_bind, Except.mapError, eval_ofExcept, eval_read, none,
    Bool.not_true, Bool.false_eq_true, if_false]
  rfl

theorem deliverPush_of_tokens (on : world.fcm.isConfigured = true)
    (listed : world.tokensRead = .ok ()) (some_ : activeTokensFor s.tables userId ≠ []) :
    (deliverPush world userId payload sms email).eval s =
      (do
        let delivery ← world.fcm.sendBatches (fun batch => Sending.attempt (.push batch)) payload
          (batchesFor s.tables userId) ⟨0, 0, []⟩
        afterPush world (unpushed world sms email) delivery).eval s := by
  have filled : (activeTokensFor s.tables userId).isEmpty = false :=
    List.isEmpty_eq_false_iff.mpr some_
  simp only [deliverPush, on, listed, eval_bind, Except.mapError, eval_ofExcept, eval_read,
    FcmService.sendToTokens, filled, Bool.not_true, Bool.false_eq_true, if_false]
  rfl

theorem afterPush_of_nil {delivery : FcmSendResult} (none : delivery.invalidTokens = [])
    (outcome : SendOutcome) :
    ∃ outcome', (afterPush world outcome delivery).eval s = (.ok outcome', s) := by
  simp only [afterPush, none]
  exact ⟨_, rfl⟩

theorem afterPush_of_error {delivery : FcmSendResult} (some_ : delivery.invalidTokens ≠ [])
    (refused : world.deactivation = .error e) (outcome : SendOutcome) :
    (afterPush world outcome delivery).eval s = (.error (.error e), s) := by
  have filled : delivery.invalidTokens.isEmpty = false := List.isEmpty_eq_false_iff.mpr some_
  simp only [afterPush, filled, deactivateTokens, refused]
  exact eval_bind_error (eval_statement_error e)

theorem afterPush_of_ok {delivery : FcmSendResult} (some_ : delivery.invalidTokens ≠ [])
    (reached : world.deactivation = .ok ()) (outcome : SendOutcome) :
    ∃ outcome', (afterPush world outcome delivery).eval s = (.ok outcome',
      { s with tables := deactivateWhere s.tables world.now fun row =>
        delivery.invalidTokens.contains row.token }) := by
  have filled : delivery.invalidTokens.isEmpty = false := List.isEmpty_eq_false_iff.mpr some_
  simp only [afterPush, filled, deactivateTokens, reached]
  exact ⟨_, eval_bind_ok (eval_statement_ok rfl)⟩

/-- FCM reports the token in one of the batches. -/
def Reported (world : World) (payload : PushPayload) (bs : List (List String)) (token : String) :
    Prop :=
  ∃ b ∈ bs, world.fcm.Rejects payload b token

/-- What a push can do: each way it ends, with what brings it there. -/
inductive Pushes (world : World) (userId : String) (payload : PushPayload) (s : Sending) :
    Except Thrown SendOutcome → Sending → Prop
  | idle (none : world.fcm.isConfigured = true → batchesFor s.tables userId = []) :
    Pushes world userId payload s (.ok outcome) s
  | unlisted (unlisted : world.tokensRead = .error e) :
    Pushes world userId payload s (.error e') s
  | threw (on : world.fcm.isConfigured = true)
    (throws : ∃ b ∈ batchesFor s.tables userId, ¬ world.fcm.Completes payload b)
    (front : out <+: batchesFor s.tables userId) :
    Pushes world userId payload s (.error e)
      { s with attempted := s.attempted ++ out.map .push }
  | refused (on : world.fcm.isConfigured = true)
    (reported : ∃ token, Reported world payload (batchesFor s.tables userId) token)
    (refused : world.deactivation = .error e) :
    Pushes world userId payload s (.error e')
      { s with attempted := s.attempted ++ (batchesFor s.tables userId).map .push }
  | pushed (on : world.fcm.isConfigured = true)
    (completes : ∀ b ∈ batchesFor s.tables userId, world.fcm.Completes payload b)
    (rejected : ∀ token, token ∈ tokens ↔ Reported world payload (batchesFor s.tables userId) token)
    (deactivated : tokens ≠ [] → world.deactivation = .ok ()) :
    Pushes world userId payload s (.ok outcome) {
      tables := deactivateWhere s.tables world.now fun row => tokens.contains row.token
      attempted := s.attempted ++ (batchesFor s.tables userId).map .push }

theorem deliverPush_pushes (h : (deliverPush world userId payload sms email).eval s = (r, s')) :
    Pushes world userId payload s r s' := by
  rcases on : world.fcm.isConfigured with _ | _
  · rw [deliverPush_of_unconfigured on] at h
    cases h
    exact .idle fun on' => absurd (on.symm.trans on') (by decide)
  rcases listed : world.tokensRead with e | _
  · rw [deliverPush_of_unlisted on listed] at h
    cases h
    exact .unlisted listed
  rcases eq_or_ne (activeTokensFor s.tables userId) [] with none | some_
  · rw [deliverPush_of_nil on listed none] at h
    cases h
    exact .idle fun _ => by rw [batchesFor, none, batches_nil]
  rw [deliverPush_of_tokens on listed some_] at h
  by_cases throws : ∃ b ∈ batchesFor s.tables userId, ¬ world.fcm.Completes payload b
  · obtain ⟨e, out, sent, front⟩ := FcmService.sendBatches_error
      (fun batch => Sending.attempt (.push batch)) throws ⟨0, 0, []⟩ s
    rw [eval_bind_error sent, foldl_attempt] at h
    cases h
    exact .threw on throws front
  have completes : ∀ b ∈ batchesFor s.tables userId, world.fcm.Completes payload b :=
    fun b member => by_contra fun incomplete => throws ⟨b, member, incomplete⟩
  obtain ⟨delivery, sent, collected⟩ := FcmService.sendBatches_ok
    (fun batch => Sending.attempt (.push batch)) completes ⟨0, 0, []⟩ s
  simp only [List.not_mem_nil, false_or] at collected
  rw [eval_bind_ok sent, foldl_attempt] at h
  rcases eq_or_ne delivery.invalidTokens [] with none | some_
  · obtain ⟨outcome, done⟩ := afterPush_of_nil none (unpushed world sms email)
    rw [done] at h
    cases h
    have same : deactivateWhere s.tables world.now
        (fun row => delivery.invalidTokens.contains row.token) = s.tables := by
      rw [none]
      exact deactivateWhere_of_none _ fun _ _ => rfl
    have pushed : Pushes world userId payload s (.ok outcome) {
        tables := deactivateWhere s.tables world.now
          fun row => delivery.invalidTokens.contains row.token
        attempted := s.attempted ++ (batchesFor s.tables userId).map .push } :=
      .pushed on completes collected fun some_ => absurd none some_
    rwa [same] at pushed
  rcases reached : world.deactivation with e | _
  · rw [afterPush_of_error some_ reached] at h
    cases h
    obtain ⟨token, member⟩ := List.exists_mem_of_ne_nil _ some_
    exact .refused on ⟨token, (collected token).mp member⟩ reached
  · obtain ⟨outcome, done⟩ := afterPush_of_ok some_ reached (unpushed world sms email)
    rw [done] at h
    cases h
    exact .pushed on completes collected fun _ => reached

/-- FCM is off, or it answers all batches and what it reports can be deactivated. -/
def Pushable (world : World) (userId : String) (payload : PushPayload) (t : NotificationTables) :
    Prop :=
  world.fcm.isConfigured = true →
    (∀ b ∈ batchesFor t userId, world.fcm.Completes payload b) ∧
      ((∃ token, Reported world payload (batchesFor t userId) token) →
        world.deactivation = .ok ())

theorem Pushes.returns_iff (pushes : Pushes world userId payload s r s')
    (listed : world.tokensRead = .ok ()) :
    (∃ outcome, r = .ok outcome) ↔ Pushable world userId payload s.tables := by
  cases pushes with
  | idle none =>
    refine iff_of_true ⟨_, rfl⟩ fun on => ?_
    rw [none on]
    exact ⟨by simp, by simp [Reported]⟩
  | unlisted unlisted =>
    rw [unlisted] at listed
    cases listed
  | threw on throws front =>
    obtain ⟨b, member, incomplete⟩ := throws
    refine iff_of_false ?_ fun pushable => incomplete ((pushable on).1 b member)
    rintro ⟨_, ⟨⟩⟩
  | refused on reported refused =>
    refine iff_of_false ?_ fun pushable => ?_
    · rintro ⟨_, ⟨⟩⟩
    · have reached := (pushable on).2 reported
      rw [refused] at reached
      cases reached
  | pushed on completes rejected deactivated =>
    refine iff_of_true ⟨_, rfl⟩ fun _ => ⟨completes, ?_⟩
    rintro ⟨token, reported⟩
    exact deactivated (List.ne_nil_of_mem ((rejected token).mpr reported))

/-- The batches that go out when FCM is on. -/
def pushesFor (world : World) (userId : String) (t : NotificationTables) : List Attempt :=
  if world.fcm.isConfigured then (batchesFor t userId).map .push else []

/-- A push that returns has tried all tokens, and deactivates what was reported. -/
theorem Pushes.of_ok (pushes : Pushes world userId payload s (.ok outcome) s') :
    s'.attempted = s.attempted ++ pushesFor world userId s.tables ∧
      ∃ rejected : List String, s'.tables =
          deactivateWhere s.tables world.now (fun row => rejected.contains row.token) ∧
        ∀ token, token ∈ rejected ↔ world.fcm.isConfigured = true ∧
          Reported world payload (batchesFor s.tables userId) token := by
  rw [pushesFor]
  cases pushes with
  | idle none =>
    refine ⟨?_, [], (deactivateWhere_of_none _ fun _ _ => rfl).symm, fun token => ?_⟩
    · split
      · next on => rw [none on, List.map_nil, List.append_nil]
      · rw [List.append_nil]
    · refine iff_of_false List.not_mem_nil ?_
      rintro ⟨on, b, member, -⟩
      rw [none on] at member
      cases member
  | pushed on _ rejected =>
    rw [if_pos on]
    exact ⟨rfl, _, rfl, fun token => (rejected token).trans (and_iff_right on).symm⟩

theorem Pushes.of_error {err : Thrown} (pushes : Pushes world userId payload s (.error err) s') :
    s'.tables = s.tables := by
  cases pushes with
  | unlisted => rfl
  | threw => rfl
  | refused => rfl

/-- What is pushed is never more than the tokens of the user. -/
theorem Pushes.attempted (pushes : Pushes world userId payload s r s') :
    ∃ out, s'.attempted = s.attempted ++ out.map .push ∧ out <+: batchesFor s.tables userId := by
  cases pushes with
  | idle => exact ⟨[], by simp, List.nil_prefix⟩
  | unlisted => exact ⟨[], by simp, List.nil_prefix⟩
  | threw _ _ front => exact ⟨_, rfl, front⟩
  | refused => exact ⟨_, rfl, List.prefix_rfl⟩
  | pushed => exact ⟨_, rfl, List.prefix_rfl⟩

theorem isActive_deactivateWhere {p : DeviceTokenRow → Bool} {now : ℤ} {row : DeviceTokenRow}
    (member : row ∈ (deactivateWhere t now p).deviceTokens)
    (meets : ∀ old ∈ t.deviceTokens, old.token = row.token → p old = true) :
    row.isActive = false := by
  obtain ⟨old, member', rfl⟩ := mem_updateWhere.mp member
  have same : (if p old then deactivate now old else old).token = old.token :=
    keeps_ite (f := deactivate now) (fun _ => rfl) old
  rw [if_pos (meets old member' same.symm)]
  rfl

/-! ## All channels -/

theorem insertNotification_ok {row : NotificationRow}
    (inserted : t.insertNotification row = .ok t₁) :
    t₁.users = t.users ∧ t₁.deviceTokens = t.deviceTokens ∧
      t₁.notifications = t.notifications ++ [row] := by
  rw [NotificationTables.insertNotification] at inserted
  split at inserted
  · cases inserted
  split at inserted
  · cases inserted
  · cases inserted
    exact ⟨rfl, rfl, rfl⟩

theorem recipientFor_eval (known : world.recipientRead = .ok ()) (s : Sending) :
    (recipientFor world userId).eval s = (.ok (recipientOf s.tables userId), s) := by
  simp only [recipientFor, known]
  rfl

theorem recipientOf_congr (same : t₁.users = t.users) :
    recipientOf t₁ userId = recipientOf t userId := by
  rw [recipientOf, same]
  rfl

theorem batchesFor_congr (same : t₁.deviceTokens = t.deviceTokens) :
    batchesFor t₁ userId = batchesFor t userId := by
  rw [batchesFor, activeTokensFor, same]
  rfl

/-- What is texted and mailed, whatever comes of it. -/
def textsAndMails (world : World) (userId : String) (payload : PushPayload)
    (t : NotificationTables) : List Attempt :=
  (textFor world (recipientOf t userId) payload).toList.map .sms ++
    (mailFor world (recipientOf t userId) payload).toList.map .email

/-- The first statement of a send. -/
def store (world : World) (userId : String) (payload : PushPayload) :
    Throwing Sending Thrown Unit :=
  statement world.write fun t => do
    return ((), ← t.insertNotification (newNotification world userId payload))

theorem store_eval (written : world.write = .ok ())
    (inserted : t.insertNotification (newNotification world userId payload) = .ok t₁) :
    (store world userId payload).eval { tables := t } = (.ok (), { tables := t₁ }) := by
  rw [store, written]
  apply eval_statement_ok
  change (t.insertNotification _ >>= _) = _
  rw [inserted]
  rfl

/-- Once the notification is stored and the user is read, the three channels run in turn. -/
theorem sendToUser_eval (written : world.write = .ok ())
    (inserted : t.insertNotification (newNotification world userId payload) = .ok t₁)
    (known : world.recipientRead = .ok ()) :
    ∃ sms email, (sendToUser world userId payload).eval { tables := t } =
      (deliverPush world userId payload sms email).eval
        ⟨t₁, textsAndMails world userId payload t⟩ := by
  obtain ⟨sms, texted⟩ := deliverSms_eval world (recipientOf t₁ userId) payload ⟨t₁, []⟩
  obtain ⟨email, mailed⟩ := deliverEmail_eval world (recipientOf t₁ userId) payload
    ⟨t₁, (textFor world (recipientOf t₁ userId) payload).toList.map .sms⟩
  have stored := store_eval written inserted
  rw [store] at stored
  refine ⟨sms, email, ?_⟩
  rw [sendToUser, eval_bind_ok stored, eval_bind_ok (recipientFor_eval known _),
    eval_bind_ok texted]
  rw [List.nil_append, eval_bind_ok mailed, textsAndMails,
    ← recipientOf_congr (insertNotification_ok inserted).1]

/-- Each channel runs as its own configuration, settings and addresses have it; the send returns,
and what FCM reports as permanently invalid is deactivated. -/
structure FansOut (world : World) (userId : String) (payload : PushPayload)
    (t : NotificationTables) (r : Except Thrown SendOutcome) (s' : Sending) : Prop where
  returns : ∃ outcome, r = .ok outcome
  attempted : s'.attempted =
    (textFor world (recipientOf t userId) payload).toList.map .sms ++
      (mailFor world (recipientOf t userId) payload).toList.map .email ++
      pushesFor world userId t
  deactivated : ∀ b token, Attempt.push b ∈ s'.attempted → world.fcm.Rejects payload b token →
    ∀ row ∈ s'.tables.deviceTokens, row.token = token → row.isActive = false

/-- The channels fail independently, but for a batch of the push that throws, and the update that
deactivates what was reported. -/
theorem channels_independent_iff (written : world.write = .ok ())
    (inserted : t.insertNotification (newNotification world userId payload) = .ok t₁)
    (known : world.recipientRead = .ok ()) (listed : world.tokensRead = .ok ())
    (h : (sendToUser world userId payload).eval { tables := t } = (r, s')) :
    FansOut world userId payload t r s' ↔ Pushable world userId payload t := by
  obtain ⟨sms, email, same⟩ := sendToUser_eval written inserted known
  rw [same] at h
  have pushes := deliverPush_pushes h
  have tokens : batchesFor t₁ userId = batchesFor t userId :=
    batchesFor_congr (insertNotification_ok inserted).2.1
  have returns := pushes.returns_iff listed
  rw [Pushable, tokens] at returns
  refine ⟨fun fansOut => returns.mp fansOut.returns, fun pushable => ?_⟩
  obtain ⟨outcome, rfl⟩ := returns.mpr pushable
  obtain ⟨attempted, rejected, tables, reported⟩ := pushes.of_ok
  rw [pushesFor, tokens, ← pushesFor, textsAndMails] at attempted
  refine ⟨⟨outcome, rfl⟩, attempted, fun b token sent rejects row member same => ?_⟩
  rw [tables] at member
  apply isActive_deactivateWhere member
  rintro old - same'
  rw [List.contains_iff_mem, same', same, reported, tokens]
  have out : world.fcm.isConfigured = true ∧ b ∈ batchesFor t userId := by
    simpa [attempted, pushesFor] using sent
  exact ⟨out.1, b, out.2, rejects⟩

/-! ## A send -/

/-- A user with all channels on, and one device. -/
def ayeshaTables : NotificationTables where
  users := [⟨"ayesha", some "01700000000", "ayesha@example.com",
    some { smsAlerts := .value true, emailAlerts := .value true }⟩]
  deviceTokens := [⟨"d1", "ayesha", "t1", .android, none, true, 0, 0, 0⟩]
  notifications := []
  device_token_pk := List.nodup_singleton _
  device_token_token_unique := List.nodup_singleton _
  notification_pk := List.nodup_nil

def lowBalance : PushPayload := ⟨"Low meter balance", "Shop: 40 taka left", none⟩

/-- An FCM that knows none of the tokens. -/
def fcmUnregistered : FcmService where
  isConfigured := true
  sendEachForMulticast tokens _ := .ok {
    successCount := 0
    failureCount := tokens.length
    responses := tokens.map fun _ => ⟨false, some "messaging/registration-token-not-registered"⟩
    aligned := List.length_map _ }

/-- An FCM that is out of reach. -/
def fcmUnreachable : FcmService where
  isConfigured := true
  sendEachForMulticast _ _ := .error "messaging/internal-error"

/-- A world in which everything but FCM works. -/
def worldWith (fcm : FcmService) (now : ℤ) (id : String) : World where
  now
  id
  write := .ok ()
  recipientRead := .ok ()
  tokensRead := .ok ()
  deactivation := .ok ()
  sms := ⟨true, fun text => .ok ⟨text.number, 1⟩⟩
  mail := ⟨true, fun _ => .ok ()⟩
  fcm

theorem insertNotification_ayesha (fcm : FcmService) :
    ∃ t₁, ayeshaTables.insertNotification
      (newNotification (worldWith fcm 0 "n1") "ayesha" lowBalance) = .ok t₁ :=
  ⟨_, rfl⟩

theorem channels_independent_iff_unregistered :
    ∃ s', FansOut (worldWith fcmUnregistered 0 "n1") "ayesha" lowBalance ayeshaTables
      ((sendToUser (worldWith fcmUnregistered 0 "n1") "ayesha" lowBalance).eval
        { tables := ayeshaTables }).1 s' ∧
      s'.attempted.length = 3 ∧ s'.tables.deviceTokens.map (·.isActive) = [false] := by
  obtain ⟨t₁, inserted⟩ := insertNotification_ayesha fcmUnregistered
  refine ⟨_, (channels_independent_iff rfl inserted rfl rfl Prod.mk.eta.symm).mpr
    fun _ => ⟨?_, fun _ => rfl⟩, by decide +kernel, by decide +kernel⟩
  intro b _
  exact ⟨_, rfl⟩

/-- A batch that throws escapes: the alert counts as failed, though it was texted and mailed. -/
theorem channels_independent_fails :
    ¬ ∀ world userId payload t t₁ r s', world.write = .ok () →
      t.insertNotification (newNotification world userId payload) = .ok t₁ →
      world.recipientRead = .ok () → world.tokensRead = .ok () →
      (sendToUser world userId payload).eval { tables := t } = (r, s') →
      FansOut world userId payload t r s' := by
  intro fansOut
  obtain ⟨t₁, inserted⟩ := insertNotification_ayesha fcmUnreachable
  obtain ⟨outcome, returned⟩ :=
    (fansOut (worldWith fcmUnreachable 0 "n1") _ _ _ _ _ _ rfl inserted rfl rfl
      Prod.mk.eta.symm).returns
  have threw : ((sendToUser (worldWith fcmUnreachable 0 "n1") "ayesha" lowBalance).eval
      { tables := ayeshaTables }).1 = .error (.error "messaging/internal-error") := by
    decide +kernel
  rw [threw] at returned
  cases returned

end NotificationService

end ElectroSync
