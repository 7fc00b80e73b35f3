import ElectroSync.Notification.Channels

/-!
# What the calls do to the tables

One inversion for each call of the service: either it throws, and of the tables at most a stored
notification is new, or it does all of its work.
-/

namespace ElectroSync
open Throwing Transition Rows NotificationService

namespace NotificationEvent

def Succeeds (e : NotificationEvent) : Prop := ∃ answer, e.answer = .ok answer

/-- The call registers the token for the user. -/
def Registers (e : NotificationEvent) (userId token : String) : Prop :=
  ∃ dto, e.call = .registerDeviceToken userId dto ∧ dto.token = token ∧ e.Succeeds

/-- The user takes the token back. -/
def Unregisters (e : NotificationEvent) (userId token : String) : Prop :=
  e.call = .unregisterDeviceToken userId token ∧ e.Succeeds

/-- A send to the user completes, and FCM reports the token as permanently invalid in it. -/
def Rejects (e : NotificationEvent) (userId token : String) : Prop :=
  ∃ payload, e.call = .sendToUser userId payload ∧ e.Succeeds ∧
    ∃ b, Attempt.push b ∈ e.attempted ∧ e.world.fcm.Rejects payload b token

end NotificationEvent

variable {t t' : NotificationTables} {e : NotificationEvent} {userId token id : String}
  {dto : RegisterDeviceTokenDto} {payload : PushPayload}

/-- A step is a run of the function that its call names. -/
theorem NotificationStep.of_wrapped {x : Throwing Sending Thrown α} {g : α → NotificationAnswer}
    (step : NotificationStep t e t')
    (call : handle e.world e.call = (do return g (← x))) :
    ∃ r, x.eval { tables := t } = (r, ⟨t', e.attempted⟩) ∧ (e.Succeeds ↔ ∃ a, r = .ok a) := by
  rw [NotificationStep, call, eval_bind_pure, Prod.mk.injEq] at step
  obtain ⟨answer, state⟩ := step
  rcases run : x.eval { tables := t } with ⟨r, s⟩
  rw [run] at answer state
  refine ⟨r, Prod.ext rfl state, ?_⟩
  rw [NotificationEvent.Succeeds, ← answer]
  cases r with
  | error err => exact iff_of_false (by rintro ⟨_, ⟨⟩⟩) (by rintro ⟨_, ⟨⟩⟩)
  | ok a => exact iff_of_true ⟨_, rfl⟩ ⟨_, rfl⟩

theorem register_step (step : NotificationStep t e t')
    (call : e.call = .registerDeviceToken userId dto) :
    ¬ e.Succeeds ∧ t' = t ∨
      e.Succeeds ∧ upsertDeviceToken t userId dto e.world.now e.world.id = .ok t' := by
  obtain ⟨r, run, succeeds⟩ := step.of_wrapped (by rw [call]; rfl)
  rw [succeeds]
  rcases statement_cases run with ⟨err, rfl, same⟩ | ⟨row, t₁, rfl, done, same⟩
  · exact .inl ⟨by rintro ⟨_, ⟨⟩⟩, congrArg Sending.tables same⟩
  · obtain rfl : t' = t₁ := congrArg Sending.tables same
    refine .inr ⟨⟨_, rfl⟩, ?_⟩
    rcases upserted : upsertDeviceToken t userId dto e.world.now e.world.id with err | t₂
    · simp [upserted, bind, Except.bind] at done
    · simp only [upserted, bind, Except.bind, pure, Except.pure, Except.ok.injEq,
        Prod.mk.injEq] at done
      rw [done.2]

/-- The rows that a call of a user to unregister a token meets. -/
def ownToken (userId token : String) (row : DeviceTokenRow) : Bool :=
  row.token = token && row.userId = userId

theorem unregister_step (step : NotificationStep t e t')
    (call : e.call = .unregisterDeviceToken userId token) :
    ¬ e.Succeeds ∧ t' = t ∨
      e.Succeeds ∧ (∃ row ∈ t.deviceTokens, ownToken userId token row = true) ∧
        t' = deactivateWhere t e.world.now (ownToken userId token) := by
  obtain ⟨r, run, succeeds⟩ := step.of_wrapped (by rw [call]; rfl)
  rw [succeeds]
  rcases reached : e.world.write with err | _
  · rw [unregisterDeviceToken, reached, eval_bind_error (eval_statement_error err)] at run
    obtain ⟨rfl, same⟩ := Prod.mk.inj run
    exact .inl ⟨by rintro ⟨_, ⟨⟩⟩, (congrArg Sending.tables same).symm⟩
  rw [unregisterDeviceToken, reached, eval_bind_ok (eval_statement_ok rfl)] at run
  change (if (t.deviceTokens.filter (ownToken userId token)).isEmpty then throw _
    else pure () : Throwing Sending Thrown Unit).eval ⟨deactivateWhere t e.world.now
      (ownToken userId token), []⟩ = _ at run
  split at run
  · next none =>
    obtain ⟨rfl, same⟩ := Prod.mk.inj run
    have unmet := List.filter_eq_nil_iff.mp (List.isEmpty_iff.mp none)
    refine .inl ⟨by rintro ⟨_, ⟨⟩⟩, (congrArg Sending.tables same).symm.trans ?_⟩
    exact deactivateWhere_of_none _ fun row member => Bool.eq_false_iff.mpr (unmet row member)
  · next some_ =>
    obtain ⟨rfl, same⟩ := Prod.mk.inj run
    obtain ⟨row, member⟩ := List.exists_mem_of_ne_nil _ (mt List.isEmpty_iff.mpr some_)
    obtain ⟨member, meets⟩ := List.mem_filter.mp member
    exact .inr ⟨⟨_, rfl⟩, ⟨row, member, meets⟩, (congrArg Sending.tables same).symm⟩

/-- The pushes among what leaves the server. -/
def pushed (attempted : List Attempt) : List (List String) :=
  attempted.filterMap fun
    | .push b => some b
    | _ => none

theorem mem_pushed {attempted : List Attempt} {b : List String} :
    b ∈ pushed attempted ↔ .push b ∈ attempted := by
  rw [pushed, List.mem_filterMap]
  constructor
  · rintro ⟨a, member, found⟩
    cases a with
    | push b' =>
      cases found
      exact member
    | sms => cases found
    | email => cases found
  · exact fun member => ⟨_, member, rfl⟩

theorem pushed_textsAndMails (world : World) (userId : String) (payload : PushPayload)
    (t : NotificationTables) (out : List (List String)) :
    pushed (textsAndMails world userId payload t ++ out.map .push) = out := by
  have texts (text : Option OutboundSms) : pushed (text.toList.map .sms) = [] := by
    cases text <;> rfl
  have mails (mail : Option OutboundMail) : pushed (mail.toList.map .email) = [] := by
    cases mail <;> rfl
  have pushes : pushed (out.map .push) = out := by
    rw [pushed, List.filterMap_map]
    exact List.filterMap_some
  rw [pushed, List.filterMap_append, textsAndMails, List.filterMap_append]
  change (pushed _ ++ pushed _) ++ pushed _ = _
  rw [texts, mails, pushes]
  rfl

/-- What a send does: it pushes batches of the user's tokens, stores at most the notification, and
deactivates what is reported when it completes. -/
structure SendStep (t : NotificationTables) (e : NotificationEvent) (t' : NotificationTables)
    (userId : String) (payload : PushPayload) : Prop where
  front : pushed e.attempted <+: batchesFor t userId
  stored : t'.notifications = t.notifications ∨
    t'.notifications = t.notifications ++ [newNotification e.world userId payload]
  tokens : ¬ e.Succeeds ∧ t'.deviceTokens = t.deviceTokens ∨
    e.Succeeds ∧ (e.world.fcm.isConfigured = true → pushed e.attempted = batchesFor t userId) ∧
      ∃ rejected : List String,
        t'.deviceTokens = updateWhere (fun row => rejected.contains row.token)
          (deactivate e.world.now) t.deviceTokens ∧
        ∀ token, token ∈ rejected ↔ ∃ b ∈ pushed e.attempted, e.world.fcm.Rejects payload b token

/-- A send that throws before anything leaves. -/
theorem SendStep.of_throw {r : Except Thrown SendOutcome} {err : Thrown} {t₁ : NotificationTables}
    (succeeds : e.Succeeds ↔ ∃ a, r = .ok a)
    (run : ((.error err, { tables := t₁ }) : Except Thrown SendOutcome × Sending) =
      (r, ⟨t', e.attempted⟩))
    (stored : t₁.notifications = t.notifications ∨
      t₁.notifications = t.notifications ++ [newNotification e.world userId payload])
    (tokens : t₁.deviceTokens = t.deviceTokens) : SendStep t e t' userId payload := by
  obtain ⟨rfl, state⟩ := Prod.mk.inj run
  obtain ⟨rfl, quiet⟩ := Sending.mk.inj state
  refine ⟨?_, stored, .inl ⟨?_, tokens⟩⟩
  · rw [← quiet]
    exact List.nil_prefix
  · rw [succeeds]
    rintro ⟨_, ⟨⟩⟩

/-- A send that has stored the notification, and comes to the push. -/
theorem SendStep.of_pushes {r : Except Thrown SendOutcome} {t₁ : NotificationTables}
    (succeeds : e.Succeeds ↔ ∃ a, r = .ok a) (tokens : t₁.deviceTokens = t.deviceTokens)
    (stored : t₁.notifications =
      t.notifications ++ [newNotification e.world userId payload])
    (pushes : Pushes e.world userId payload ⟨t₁, textsAndMails e.world userId payload t⟩ r
      ⟨t', e.attempted⟩) : SendStep t e t' userId payload := by
  have batches : batchesFor t₁ userId = batchesFor t userId := batchesFor_congr tokens
  obtain ⟨out, sent, front⟩ := pushes.attempted
  have same : pushed e.attempted = out := by
    change e.attempted = _ at sent
    rw [sent, pushed_textsAndMails]
  have front : pushed e.attempted <+: batchesFor t userId := by
    rw [same, ← batches]
    exact front
  cases r with
  | error err =>
    have unchanged : t' = t₁ := pushes.of_error
    refine ⟨front, .inr ?_, .inl ⟨?_, ?_⟩⟩
    · rw [unchanged, stored]
    · rw [succeeds]
      rintro ⟨_, ⟨⟩⟩
    · rw [unchanged, tokens]
  | ok outcome =>
    obtain ⟨all, rejected, tables, reported⟩ := pushes.of_ok
    change e.attempted = _ at all
    change t' = _ at tables
    have sends : pushed e.attempted =
        if e.world.fcm.isConfigured then batchesFor t userId else [] := by
      rw [all, pushesFor, batches, ← pushed_textsAndMails e.world userId payload t
        (if e.world.fcm.isConfigured then batchesFor t userId else [])]
      split
      · rfl
      · rfl
    refine ⟨front, .inr ?_, .inr ⟨succeeds.mpr ⟨_, rfl⟩, fun on => sends.trans (if_pos on),
      rejected, ?_, fun token => ?_⟩⟩
    · rw [tables, ← stored]
      rfl
    · rw [tables, ← tokens]
      rfl
    · rw [reported, Reported, batches, sends]
      split
      · next on => exact and_iff_right on
      · next off => exact iff_of_false (fun reported => off reported.1) (by simp)

theorem send_step (step : NotificationStep t e t') (call : e.call = .sendToUser userId payload) :
    SendStep t e t' userId payload := by
  obtain ⟨r, run, succeeds⟩ := step.of_wrapped (by rw [call]; rfl)
  rcases written : e.world.write with err | _
  · rw [sendToUser, written, eval_bind_error (eval_statement_error err)] at run
    exact .of_throw succeeds run (.inl rfl) rfl
  rcases inserted : t.insertNotification (newNotification e.world userId payload) with err | t₁
  · have refused : (statement (.ok ()) fun t => do
        return ((), ← t.insertNotification (newNotification e.world userId payload))).eval
          { tables := t } = (.error (.error err), { tables := t }) := by
      apply eval_statement_refused
      change (t.insertNotification _ >>= _) = _
      rw [inserted]
      rfl
    rw [sendToUser, written, eval_bind_error refused] at run
    exact .of_throw succeeds run (.inl rfl) rfl
  obtain ⟨-, tokens, stored⟩ := insertNotification_ok inserted
  rcases known : e.world.recipientRead with err | _
  · have unknown : (recipientFor e.world userId).eval { tables := t₁ } =
        (.error (.error err), { tables := t₁ }) := by
      simp only [recipientFor, known]
      rfl
    have first := store_eval written inserted
    rw [store] at first
    rw [sendToUser, eval_bind_ok first, eval_bind_error unknown] at run
    exact .of_throw succeeds run (.inr stored) tokens
  obtain ⟨sms, email, channels⟩ := sendToUser_eval written inserted known
  rw [channels] at run
  exact .of_pushes succeeds tokens stored (deliverPush_pushes run)

/-! ## Reading and archiving -/

/-- An update of notifications, and what a call makes of the rows it returns. -/
theorem update_cases {p : NotificationRow → Bool} {f : NotificationRow → NotificationRow}
    {keeps : ∀ row, (f row).id = row.id} {k : List NotificationRow → Throwing Sending Thrown α}
    {r : Except Thrown α} {world : World} {attempted : List Attempt}
    (pure_ : ∀ rows s, ((k rows).eval s).2 = s)
    (run : (updateReturning world p f keeps >>= k).eval { tables := t } = (r, ⟨t', attempted⟩)) :
    (∃ err, world.write = .error err) ∧ t' = t ∨
      world.write = .ok () ∧ t' = t.updateNotifications p f keeps := by
  rcases written : world.write with err | _
  · rw [updateReturning, written, eval_bind_error (eval_statement_error err)] at run
    exact .inl ⟨⟨err, rfl⟩, (congrArg (Sending.tables ∘ Prod.snd) run).symm⟩
  · rw [updateReturning, written, eval_bind_ok (eval_statement_ok rfl)] at run
    have state := congrArg Prod.snd run
    rw [pure_] at state
    exact .inr ⟨rfl, (congrArg Sending.tables state).symm⟩

def unreadOf (userId : String) (row : NotificationRow) : Bool :=
  row.userId = userId && row.readAt.isNone && row.archivedAt.isNone

def unarchivedOf (userId : String) (row : NotificationRow) : Bool :=
  row.userId = userId && row.archivedAt.isNone

theorem markAsRead_step (step : NotificationStep t e t') (call : e.call = .markAsRead id userId) :
    (∃ err, e.world.write = .error err) ∧ t' = t ∨
      e.world.write = .ok () ∧ t' = t.updateNotifications
        (fun row => row.id = id && row.userId = userId) (markRead e.world.now) fun _ => rfl := by
  obtain ⟨r, run, -⟩ := step.of_wrapped (by rw [call]; rfl)
  refine update_cases (fun rows s => ?_) run
  cases rows <;> rfl

theorem markAllAsRead_step (step : NotificationStep t e t')
    (call : e.call = .markAllAsRead userId) :
    (∃ err, e.world.write = .error err) ∧ t' = t ∨
      e.world.write = .ok () ∧ t' = t.updateNotifications (unreadOf userId)
        (markRead e.world.now) fun _ => rfl := by
  obtain ⟨r, run, -⟩ := step.of_wrapped (by rw [call]; rfl)
  exact update_cases (fun _ _ => rfl) run

theorem archiveAll_step (step : NotificationStep t e t') (call : e.call = .archiveAll userId) :
    (∃ err, e.world.write = .error err) ∧ t' = t ∨
      e.world.write = .ok () ∧ t' = t.updateNotifications (unarchivedOf userId)
        (archive e.world.now) fun _ => rfl := by
  obtain ⟨r, run, -⟩ := step.of_wrapped (by rw [call]; rfl)
  exact update_cases (fun _ _ => rfl) run

/-! ## Runs -/

/-- Makes the calls one after the other. -/
def runCalls : List (World × NotificationCall) → NotificationTables →
    List NotificationEvent × NotificationTables
  | [], t => ([], t)
  | (world, call) :: calls, t =>
    let (answer, s) := (handle world call).eval { tables := t }
    let (trace, t) := runCalls calls s.tables
    (⟨world, call, answer, s.attempted⟩ :: trace, t)

theorem runCalls_run (calls : List (World × NotificationCall)) (t : NotificationTables) :
    Run NotificationStep t (runCalls calls t).1 (runCalls calls t).2 := by
  induction calls generalizing t with
  | nil => exact .nil
  | cons head calls ih => exact Run.cons_iff.mpr ⟨_, rfl, ih _⟩

theorem runCalls_append (calls calls' : List (World × NotificationCall)) (t : NotificationTables) :
    (runCalls (calls ++ calls') t).1 =
      (runCalls calls t).1 ++ (runCalls calls' (runCalls calls t).2).1 := by
  induction calls generalizing t with
  | nil => rfl
  | cons head calls ih => exact congrArg (List.cons _) (ih _)

end ElectroSync
