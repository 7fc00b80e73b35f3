import ElectroSync.Library.Alike
import ElectroSync.Library.KeySort
import ElectroSync.Notification.ReadTimes

/-!
# The inbox of a user (`listForUser` of `notification/notification.service.ts`)

Clearing the list archives its rows. To an app that shows the list, this is a delete: every run in
which nobody asks for archived rows, or reads one of them, is a run of a server that deletes, with
the same answers.
-/

namespace ElectroSync
open Throwing Transition Rows NotificationService

structure ListNotificationsQueryDto where
  includeArchived : Option Bool := none
  limit : Option ℕ := none
  deriving DecidableEq

namespace NotificationService

/-- The conditions of `listForUser`. -/
def inList (userId : String) (query : ListNotificationsQueryDto) (row : NotificationRow) : Bool :=
  row.userId = userId && (query.includeArchived.getD false || row.archivedAt.isNone)

/-- One of the answers of `listForUser`. -/
def listForUser (t : NotificationTables) (userId : String) (query : ListNotificationsQueryDto) :
    List NotificationRow :=
  (KeySort.sortBy (fun row => -row.sentAt) (t.notifications.filter (inList userId query))).take
    (query.limit.getD 50)

end NotificationService

/-- `ORDER BY sent_at DESC` leaves the order of rows of one time to the database. -/
def ListsForUser (t : NotificationTables) (userId : String) (query : ListNotificationsQueryDto)
    (rows : List NotificationRow) : Prop :=
  ∃ sorted : List NotificationRow, sorted.Perm (t.notifications.filter (inList userId query)) ∧
    sorted.Pairwise (fun a b => b.sentAt ≤ a.sentAt) ∧ rows = sorted.take (query.limit.getD 50)

theorem listsForUser_listForUser (t : NotificationTables) (userId : String)
    (query : ListNotificationsQueryDto) :
    ListsForUser t userId query (listForUser t userId query) := by
  refine ⟨_, KeySort.perm_sortBy _ _, ?_, rfl⟩
  exact (KeySort.pairwise_sortBy _ _).imp neg_le_neg_iff.mp

/-! ## A server that deletes -/

namespace NotificationTables

/-- Without the archived rows. -/
def erase (t : NotificationTables) : NotificationTables :=
  { t with
    notifications := t.notifications.filter (·.archivedAt.isNone)
    notification_pk := t.notification_pk.sublist (List.filter_sublist.map _) }

def deleteNotifications (t : NotificationTables) (p : NotificationRow → Bool) :
    NotificationTables :=
  { t with
    notifications := t.notifications.filter fun row => !p row
    notification_pk := t.notification_pk.sublist (List.filter_sublist.map _) }

end NotificationTables

namespace NotificationService

/-- What clearing the list looks like: its rows are gone. -/
def deleteAll (world : World) (userId : String) : Throwing Sending Thrown ℕ := do
  let rows ← statement world.write fun t =>
    .ok (t.notifications.filter (·.userId = userId), t.deleteNotifications (·.userId = userId))
  return rows.length

def handleDeleting (world : World) : NotificationCall → Throwing Sending Thrown NotificationAnswer
  | .archiveAll userId => do return .archived (← deleteAll world userId)
  | call => handle world call

end NotificationService

inductive InboxEvent
  | call (e : NotificationEvent)
  | listed (userId : String) (query : ListNotificationsQueryDto) (rows : List NotificationRow)

/-- The calls and the lists come one after the other. -/
def InboxStep (handle : World → NotificationCall → Throwing Sending Thrown NotificationAnswer)
    (t : NotificationTables) : InboxEvent → NotificationTables → Prop
  | .call e, t' => (handle e.world e.call).eval { tables := t } = (e.answer, ⟨t', e.attempted⟩)
  | .listed userId query rows, t' => t' = t ∧ ListsForUser t userId query rows

/-- What an app does that shows the list: it does not ask for archived rows, and reads none of them.
The id of a new row is no id of an archived one. -/
def Plain (t : NotificationTables) : InboxEvent → Prop
  | .listed _ query _ => query.includeArchived.getD false = false
  | .call e =>
    match e.call with
    | .markAsRead id userId =>
      ∀ row ∈ t.notifications, row.id = id → row.userId = userId → row.archivedAt = none
    | .sendToUser _ _ => ∀ row ∈ t.notifications, row.archivedAt ≠ none → row.id ≠ e.world.id
    | _ => True

/-! ## Calls run alike -/

/-- The same, but for the archived rows. -/
def Erased (s s' : Sending) : Prop := s' = ⟨s.tables.erase, s.attempted⟩

variable {t t' : NotificationTables} {s s' : Sending} {world : World} {userId : String}
  {payload : PushPayload} {e : InboxEvent}

theorem statement_alike_at {run run' : NotificationTables → Except String (α × NotificationTables)}
    (erased : Erased s s') (reached : Except String Unit)
    (same : run' s.tables.erase = (run s.tables).map fun done => (done.1, done.2.erase)) :
    ((statement reached run).eval s).1 = ((statement reached run').eval s').1 ∧
      Erased ((statement reached run).eval s).2 ((statement reached run').eval s').2 := by
  obtain rfl := erased
  rcases reached with err | _
  · exact ⟨rfl, rfl⟩
  rcases done : run s.tables with err | ⟨a, t'⟩
  · rw [done] at same
    rw [eval_statement_refused done, eval_statement_refused same]
    exact ⟨rfl, rfl⟩
  · rw [done] at same
    rw [eval_statement_ok done, eval_statement_ok same]
    exact ⟨rfl, rfl⟩

theorem statement_alike {run run' : NotificationTables → Except String (α × NotificationTables)}
    (reached : Except String Unit)
    (same : ∀ t : NotificationTables,
      run' t.erase = (run t).map fun done => (done.1, done.2.erase)) :
    Alike Erased (statement reached run) (statement reached run') :=
  fun s _ erased => statement_alike_at erased reached (same s.tables)

theorem tables_ext (users : t.users = t'.users) (tokens : t.deviceTokens = t'.deviceTokens)
    (notifications : t.notifications = t'.notifications) : t = t' := by
  cases t
  cases t'
  cases users
  cases tokens
  cases notifications
  rfl

/-! ### Device tokens -/

theorem upsertDeviceToken_erase (t : NotificationTables) (userId : String)
    (dto : RegisterDeviceTokenDto) (now : ℤ) (id : String) :
    upsertDeviceToken t.erase userId dto now id =
      (upsertDeviceToken t userId dto now id).map NotificationTables.erase := by
  unfold upsertDeviceToken NotificationTables.insertDeviceToken
  change (if (!t.users.any _) = true then _ else if _ : dto.token ∉ t.deviceTokens.map _ then
    (if _ : _ ∈ t.deviceTokens.map _ then _ else _) else _) = _
  split
  · rfl
  split
  · split
    · rfl
    · rfl
  · rfl

theorem registerDeviceToken_alike (world : World) (userId : String)
    (dto : RegisterDeviceTokenDto) :
    Alike Erased (registerDeviceToken world userId dto) (registerDeviceToken world userId dto) := by
  refine statement_alike _ fun t => ?_
  rw [upsertDeviceToken_erase]
  cases upsertDeviceToken t userId dto world.now world.id with
  | error err => rfl
  | ok t' => rfl

theorem unregisterDeviceToken_alike (world : World) (userId token : String) :
    Alike Erased (unregisterDeviceToken world userId token)
      (unregisterDeviceToken world userId token) := by
  refine .bind (statement_alike _ fun _ => rfl) fun rows => ?_
  exact .ite (fun _ => .throw _) fun _ => .pure _

theorem deactivateTokens_alike (world : World) (tokens : List String) :
    Alike Erased (deactivateTokens world tokens) (deactivateTokens world tokens) :=
  statement_alike _ fun _ => rfl

/-! ### A send -/

theorem attempt_alike (a : Attempt) :
    Alike Erased (Throwing.update (Sending.attempt a) : Throwing Sending Thrown Unit)
      (Throwing.update (Sending.attempt a)) := by
  refine .update ?_
  rintro s _ rfl
  rfl

theorem insertNotification_erase {row : NotificationRow}
    (fresh : ∀ old ∈ t.notifications, old.archivedAt ≠ none → old.id ≠ row.id)
    (unarchived : row.archivedAt = none) :
    t.erase.insertNotification row = (t.insertNotification row).map NotificationTables.erase := by
  have taken : row.id ∈ t.erase.notifications.map (·.id) ↔ row.id ∈ t.notifications.map (·.id) := by
    constructor
    · exact fun mem => (List.filter_sublist.map _).subset mem
    · intro mem
      obtain ⟨old, mem, same⟩ := List.mem_map.mp mem
      have kept : old.archivedAt.isNone := by
        rw [Option.isNone_iff_eq_none]
        by_contra archived
        exact fresh old mem archived same
      exact List.mem_map.mpr ⟨old, List.mem_filter.mpr ⟨mem, kept⟩, same⟩
  unfold NotificationTables.insertNotification
  change (if (!t.users.any _) = true then _ else _) = _
  split
  · rfl
  by_cases known : row.id ∈ t.notifications.map (·.id)
  · rw [dif_pos known, dif_pos (taken.mpr known)]
    rfl
  · rw [dif_neg known, dif_neg (mt taken.mp known)]
    refine congrArg Except.ok (tables_ext rfl rfl ?_)
    change t.notifications.filter _ ++ [row] = (t.notifications ++ [row]).filter _
    rw [List.filter_append, List.filter_singleton, unarchived]
    rfl

theorem recipientFor_alike (world : World) (userId : String) :
    Alike Erased (recipientFor world userId) (recipientFor world userId) := by
  refine .bind (.ofExcept _) fun _ => .bind (.read ?_) fun _ => .pure _
  rintro s _ rfl
  rfl

theorem deliverSms_alike (world : World) (recipient : Recipient) (payload : PushPayload) :
    Alike Erased (deliverSms world recipient payload) (deliverSms world recipient payload) := by
  refine .ite (fun _ => .pure _) fun _ => .ite (fun _ => .pure _) fun _ => ?_
  split
  · exact .pure _
  · exact .tryCatch (.bind (attempt_alike _) fun _ => .bind (.ofExcept _) fun _ => .pure _)
      fun _ => .pure _

theorem deliverEmail_alike (world : World) (recipient : Recipient) (payload : PushPayload) :
    Alike Erased (deliverEmail world recipient payload) (deliverEmail world recipient payload) := by
  refine .ite (fun _ => .pure _) fun _ => .ite (fun _ => .pure _) fun _ => ?_
  split
  · exact .pure _
  · exact .tryCatch (.bind (attempt_alike _) fun _ => .bind (.ofExcept _) fun _ => .pure _)
      fun _ => .pure _

theorem sendBatches_alike (fcm : FcmService) (payload : PushPayload) (bs : List (List String))
    (sent : FcmSendResult) :
    Alike Erased (fcm.sendBatches (fun batch => Sending.attempt (.push batch)) payload bs sent)
      (fcm.sendBatches (fun batch => Sending.attempt (.push batch)) payload bs sent) := by
  induction bs generalizing sent with
  | nil => exact .pure _
  | cons batch rest ih =>
    exact .bind (attempt_alike _) fun _ => .bind (.ofExcept _) fun _ => ih _

theorem sendToTokens_alike (fcm : FcmService) (tokens : List String) (payload : PushPayload) :
    Alike Erased (fcm.sendToTokens (fun batch => Sending.attempt (.push batch)) tokens payload)
      (fcm.sendToTokens (fun batch => Sending.attempt (.push batch)) tokens payload) := by
  refine .ite (fun _ => .throw _) fun _ => .ite (fun _ => .pure _) fun _ => ?_
  exact sendBatches_alike fcm payload _ _

theorem deliverPush_alike (world : World) (userId : String) (payload : PushPayload)
    (sms : SmsOutcome) (email : EmailOutcome) :
    Alike Erased (deliverPush world userId payload sms email)
      (deliverPush world userId payload sms email) := by
  refine .ite (fun _ => .pure _) fun _ => .bind (.ofExcept _) fun _ => .bind (.read ?_) fun _ => ?_
  · rintro s _ rfl
    rfl
  refine .ite (fun _ => .pure _) fun _ => .bind (sendToTokens_alike _ _ _) fun delivery => ?_
  exact .ite (fun _ => .bind (deactivateTokens_alike _ _) fun _ => .pure _) fun _ => .pure _

theorem sendToUser_alike_at
    (fresh : ∀ old ∈ t.notifications, old.archivedAt ≠ none → old.id ≠ world.id) :
    ((sendToUser world userId payload).eval { tables := t }).1 =
        ((sendToUser world userId payload).eval { tables := t.erase }).1 ∧
      Erased ((sendToUser world userId payload).eval { tables := t }).2
        ((sendToUser world userId payload).eval { tables := t.erase }).2 := by
  have inserted : t.erase.insertNotification (newNotification world userId payload) =
      (t.insertNotification (newNotification world userId payload)).map
        NotificationTables.erase := insertNotification_erase fresh rfl
  refine Alike.bind_at (statement_alike_at rfl _ ?_) fun _ => ?_
  · change (t.erase.insertNotification _ >>= _) = Except.map _ (t.insertNotification _ >>= _)
    rw [inserted]
    cases t.insertNotification (newNotification world userId payload) with
    | error err => rfl
    | ok t' => rfl
  exact .bind (recipientFor_alike _ _) fun _ => .bind (deliverSms_alike _ _ _) fun _ =>
    .bind (deliverEmail_alike _ _ _) fun _ => deliverPush_alike _ _ _ _ _

/-! ### Reading and clearing -/

/-- An update of rows that are not archived, and that archives none. -/
theorem updateReturning_alike_at {p : NotificationRow → Bool}
    {f : NotificationRow → NotificationRow} {keeps : ∀ row, (f row).id = row.id}
    (erased : Erased s s')
    (visible : ∀ row ∈ s.tables.notifications, p row = true → row.archivedAt = none)
    (archivedAt : ∀ row, (f row).archivedAt = row.archivedAt) :
    ((updateReturning world p f keeps).eval s).1 = ((updateReturning world p f keeps).eval s').1 ∧
      Erased ((updateReturning world p f keeps).eval s).2
        ((updateReturning world p f keeps).eval s').2 := by
  have met : s.tables.erase.notifications.filter p = s.tables.notifications.filter p := by
    change (s.tables.notifications.filter _).filter p = _
    rw [List.filter_filter]
    refine List.filter_congr fun row mem => ?_
    cases meets : p row with
    | false => rfl
    | true => rw [visible row mem meets]; rfl
  refine statement_alike_at erased _ ?_
  rw [met]
  refine congrArg Except.ok (Prod.ext rfl (tables_ext rfl rfl ?_))
  exact (filter_updateWhere (fun row => by rw [archivedAt]) _).symm

theorem markAsRead_alike_at {id : String} (erased : Erased s s')
    (visible : ∀ row ∈ s.tables.notifications, row.id = id → row.userId = userId →
      row.archivedAt = none) :
    ((markAsRead world id userId).eval s).1 = ((markAsRead world id userId).eval s').1 ∧
      Erased ((markAsRead world id userId).eval s).2 ((markAsRead world id userId).eval s').2 := by
  refine Alike.bind_at (updateReturning_alike_at erased (fun row mem meets => ?_) fun _ => rfl) ?_
  · rw [Bool.and_eq_true, decide_eq_true_eq, decide_eq_true_eq] at meets
    exact visible row mem meets.1 meets.2
  · intro rows
    cases rows with
    | nil => exact .throw _
    | cons row rows => exact .pure _

theorem markAllAsRead_alike (world : World) (userId : String) :
    Alike Erased (markAllAsRead world userId) (markAllAsRead world userId) := by
  intro s s' erased
  refine Alike.bind_at (updateReturning_alike_at erased (fun row _ meets => ?_) fun _ => rfl)
    fun _ => .pure _
  rw [Bool.and_eq_true] at meets
  exact Option.isNone_iff_eq_none.mp meets.2

/-- Clearing the list looks like deleting it: as many rows are met, and the rest is the same. -/
theorem archiveAll_alike (world : World) (userId : String) :
    Alike Erased (archiveAll world userId) (deleteAll world userId) := by
  rintro s _ rfl
  unfold archiveAll deleteAll updateReturning
  rcases world.write with err | _
  · exact ⟨rfl, rfl⟩
  rw [eval_bind_ok (eval_statement_ok rfl), eval_bind_ok (eval_statement_ok rfl)]
  constructor
  · change Except.ok (List.length _) = Except.ok (List.length ((List.filter _ _).filter _))
    rw [List.length_map, List.filter_filter]
  · refine congrArg (Sending.mk · s.attempted) (tables_ext rfl rfl ?_)
    change (List.filter _ _).filter _ = (updateWhere _ _ _).filter _
    rw [filter_updateWhere_of_leaves]
    · rw [List.filter_filter, List.filter_filter]
      refine List.filter_congr fun row _ => ?_
      cases row.archivedAt <;> simp
    · exact fun row _ => rfl

/-! ## Steps and runs -/

theorem call_step {e : NotificationEvent} (step : InboxStep handle t (.call e) t')
    (plain : Plain t (.call e)) : InboxStep handleDeleting t.erase (.call e) t'.erase := by
  suffices alike : ((handle e.world e.call).eval { tables := t }).1 =
        ((handleDeleting e.world e.call).eval { tables := t.erase }).1 ∧
      Erased ((handle e.world e.call).eval { tables := t }).2
        ((handleDeleting e.world e.call).eval { tables := t.erase }).2 by
    change (handle e.world e.call).eval _ = _ at step
    rw [step] at alike
    exact Prod.ext alike.1.symm alike.2
  obtain ⟨world, call, answer, attempted⟩ := e
  cases call with
  | registerDeviceToken userId dto =>
    exact Alike.bind_at (registerDeviceToken_alike world userId dto _ _ rfl) fun _ => .pure _
  | unregisterDeviceToken userId token =>
    exact Alike.bind_at (unregisterDeviceToken_alike world userId token _ _ rfl) fun _ => .pure _
  | sendToUser userId payload =>
    exact Alike.bind_at (sendToUser_alike_at plain) fun _ => .pure _
  | markAsRead id userId =>
    exact Alike.bind_at (markAsRead_alike_at rfl plain) fun _ => .pure _
  | markAllAsRead userId =>
    exact Alike.bind_at (markAllAsRead_alike world userId _ _ rfl) fun _ => .pure _
  | archiveAll userId =>
    exact Alike.bind_at (archiveAll_alike world userId _ _ rfl) fun _ => .pure _

theorem listsForUser_erase {query : ListNotificationsQueryDto} {rows : List NotificationRow}
    (visible : query.includeArchived.getD false = false)
    (lists : ListsForUser t userId query rows) : ListsForUser t.erase userId query rows := by
  have same : t.erase.notifications.filter (inList userId query) =
      t.notifications.filter (inList userId query) := by
    change (t.notifications.filter _).filter _ = _
    rw [List.filter_filter]
    refine List.filter_congr fun row _ => ?_
    rw [inList, visible]
    cases row.archivedAt <;> simp
  obtain ⟨sorted, perm, times, front⟩ := lists
  exact ⟨sorted, same ▸ perm, times, front⟩

theorem inbox_step (step : InboxStep handle t e t') (plain : Plain t e) :
    InboxStep handleDeleting t.erase e t'.erase := by
  cases e with
  | call e => exact call_step step plain
  | listed userId query rows =>
    obtain ⟨rfl, lists⟩ := step
    exact ⟨rfl, listsForUser_erase plain lists⟩

/-- The notifications are still there, but for what their users did with them. -/
def Survives (t t' : NotificationTables) : Prop :=
  ∀ row ∈ t.notifications, ∃ readAt archivedAt,
    { row with readAt, archivedAt } ∈ t'.notifications

theorem RowStep.content {e : NotificationEvent} {row row' : NotificationRow}
    (h : RowStep e row row') : ∃ readAt archivedAt, { row with readAt, archivedAt } = row' := by
  cases h with
  | kept => exact ⟨_, _, rfl⟩
  | read => exact ⟨_, _, rfl⟩
  | archived => exact ⟨_, _, rfl⟩

theorem survives_step (step : InboxStep handle t e t') : Survives t t' := by
  cases e with
  | call e =>
    obtain ⟨g, new, rows, steps, -⟩ := history_step step
    intro row mem
    obtain ⟨readAt, archivedAt, content⟩ := (steps row mem).content
    refine ⟨readAt, archivedAt, ?_⟩
    rw [content, rows]
    exact List.mem_append_left _ (List.mem_map_of_mem mem)
  | listed =>
    obtain ⟨rfl, -⟩ := step
    exact fun row mem => ⟨_, _, mem⟩

theorem Survives.trans {u : NotificationTables} (h : Survives t t') (h' : Survives t' u) :
    Survives t u := by
  intro row mem
  obtain ⟨_, _, mem'⟩ := h row mem
  obtain ⟨readAt, archivedAt, mem''⟩ := h' _ mem'
  exact ⟨readAt, archivedAt, mem''⟩

/-- To an app that shows the list, clearing it is a delete: its run is a run of the server that
deletes, answer for answer, and each list is one that this server may give. The history survives. -/
theorem archive_looks_deleted {t₀ : NotificationTables} {trace : List InboxEvent}
    (run : Run (Guarded (InboxStep handle) Plain) t₀ trace t) :
    Run (InboxStep handleDeleting) t₀.erase trace t.erase ∧ Survives t₀ t := by
  constructor
  · exact run.simulate fun step => inbox_step step.1 step.2
  · exact run.invariant (P := Survives t₀) (fun row mem => ⟨_, _, mem⟩)
      fun survives step => survives.trans (survives_step step.1)

/-! ## A run -/

inductive InboxRequest
  | call (world : World) (call : NotificationCall)
  | list (userId : String) (query : ListNotificationsQueryDto)

/-- Meets the requests one after the other. -/
def runInbox : List InboxRequest → NotificationTables → List InboxEvent × NotificationTables
  | [], t => ([], t)
  | .call world call :: requests, t =>
    let (answer, s) := (handle world call).eval { tables := t }
    let (trace, t) := runInbox requests s.tables
    (.call ⟨world, call, answer, s.attempted⟩ :: trace, t)
  | .list userId query :: requests, t =>
    let (trace, t') := runInbox requests t
    (.listed userId query (listForUser t userId query) :: trace, t')

/-- A notification is sent, shown and cleared, and so is the list after it; another one is sent. -/
def clearedInbox : List InboxRequest :=
  [.call (worldWith fcmUnregistered 0 "n1") (.sendToUser "ayesha" lowBalance),
    .list "ayesha" {},
    .call (worldWith fcmUnregistered 1 "n2") (.archiveAll "ayesha"),
    .list "ayesha" {},
    .call (worldWith fcmUnregistered 2 "n3") (.sendToUser "ayesha" lowBalance),
    .list "ayesha" {}]

theorem archive_looks_deleted_cleared :
    let (trace, t) := runInbox clearedInbox ayeshaTables
    Run (InboxStep handleDeleting) ayeshaTables.erase trace t.erase ∧ Survives ayeshaTables t := by
  have fresh : ∀ row ∈ (runInbox (clearedInbox.take 4) ayeshaTables).2.notifications,
      row.archivedAt ≠ none → row.id ≠ "n3" := by decide +kernel
  have lists (t : NotificationTables) :
      Guarded (InboxStep handle) Plain t (.listed "ayesha" {} (listForUser t "ayesha" {})) t :=
    ⟨⟨rfl, listsForUser_listForUser t "ayesha" {}⟩, rfl⟩
  refine archive_looks_deleted ?_
  refine Run.cons_iff.mpr ⟨_, ⟨rfl, fun row mem => absurd mem (List.not_mem_nil)⟩, ?_⟩
  refine Run.cons_iff.mpr ⟨_, lists _, ?_⟩
  refine Run.cons_iff.mpr ⟨_, ⟨rfl, trivial⟩, ?_⟩
  refine Run.cons_iff.mpr ⟨_, lists _, ?_⟩
  refine Run.cons_iff.mpr ⟨_, ⟨rfl, fresh⟩, ?_⟩
  refine Run.cons_iff.mpr ⟨_, lists _, ?_⟩
  exact .nil

example : (runInbox clearedInbox ayeshaTables).1.map
    (fun | .listed _ _ rows => some (rows.map (·.id)) | .call _ => none) =
      [none, some ["n1"], none, some [], none, some ["n3"]] := by decide +kernel

end ElectroSync
