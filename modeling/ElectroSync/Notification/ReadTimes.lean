import ElectroSync.Notification.Calls

/-!
# When a notification was read and archived

`markAllAsRead` and `archiveAll` write only where nothing is written yet. `markAsRead` writes
whatever is there, so that reading a notification once more moves the time of its first reading.
-/

namespace ElectroSync
open Transition Rows NotificationService

/-- The user of a call. -/
def NotificationCall.userId : NotificationCall → String
  | registerDeviceToken userId _ => userId
  | unregisterDeviceToken userId _ => userId
  | sendToUser userId _ => userId
  | markAsRead _ userId => userId
  | markAllAsRead userId => userId
  | archiveAll userId => userId

/-- What a step does to a stored notification. -/
inductive RowStep (e : NotificationEvent) (row : NotificationRow) : NotificationRow → Prop
  | kept : RowStep e row row
  | read (own : row.userId = e.call.userId) (written : e.world.write = .ok ())
    (unread : row.readAt = none ∨ e.call = .markAsRead row.id row.userId) :
    RowStep e row (markRead e.world.now row)
  | archived (own : row.userId = e.call.userId) (unarchived : row.archivedAt = none) :
    RowStep e row (archive e.world.now row)

/-- What a step does to the notifications: each row takes a step of its own, and those that are new
are unread notifications of the user. -/
structure HistoryStep (t : NotificationTables) (e : NotificationEvent) (t' : NotificationTables)
    (g : NotificationRow → NotificationRow) (new : List NotificationRow) : Prop where
  rows : t'.notifications = t.notifications.map g ++ new
  steps : ∀ row ∈ t.notifications, RowStep e row (g row)
  fresh : ∀ row ∈ new, row.userId = e.call.userId ∧ row.readAt = none ∧ row.archivedAt = none

/-- The call marks a notification as read that its user has read before. -/
def Rereads (t : NotificationTables) (e : NotificationEvent) : Prop :=
  ∃ row ∈ t.notifications, e.call = .markAsRead row.id row.userId ∧ e.world.write = .ok () ∧
    row.readAt ≠ none

/-- The times in a column stay what they are. -/
def Kept (column : NotificationRow → Option ℤ) (t t' : NotificationTables) : Prop :=
  ∀ row ∈ t.notifications, column row ≠ none →
    ∃ row' ∈ t'.notifications, row'.id = row.id ∧ column row' = column row

/-- From any state of the run to any later one, the times in the column stay what they are. -/
def WrittenOnce (column : NotificationRow → Option ℤ) (t₀ : NotificationTables)
    (trace : List NotificationEvent) : Prop :=
  ∀ pre mid post t t', trace = pre ++ mid ++ post → Run NotificationStep t₀ pre t →
    Run NotificationStep t mid t' → Kept column t t'

variable {t t' t₀ : NotificationTables} {e : NotificationEvent} {row row' : NotificationRow}
  {trace : List NotificationEvent} {column : NotificationRow → Option ℤ}

/-! ## Steps -/

theorem HistoryStep.of_same (same : t'.notifications = t.notifications) :
    HistoryStep t e t' (fun row => row) [] where
  rows := by rw [same, List.map_id', List.append_nil]
  steps _ _ := .kept
  fresh := by simp

theorem HistoryStep.of_update {p : NotificationRow → Bool} {f : NotificationRow → NotificationRow}
    (rows : t'.notifications = updateWhere p f t.notifications)
    (steps : ∀ row ∈ t.notifications, p row = true → RowStep e row (f row)) :
    HistoryStep t e t' (fun row => if p row then f row else row) [] where
  rows := by rw [rows, List.append_nil, updateWhere]
  steps row member := by
    split
    · exact steps row member ‹_›
    · exact .kept
  fresh := by simp

theorem notifications_upsert {userId id : String} {dto : RegisterDeviceTokenDto} {now : ℤ}
    (upserted : upsertDeviceToken t userId dto now id = .ok t') :
    t'.notifications = t.notifications := by
  rw [upsertDeviceToken] at upserted
  split at upserted
  · cases upserted
  split at upserted
  · unfold NotificationTables.insertDeviceToken at upserted
    split at upserted
    · cases upserted
    · cases upserted
      rfl
  · cases upserted
    rfl

theorem history_step (step : NotificationStep t e t') : ∃ g new, HistoryStep t e t' g new := by
  rcases call : e.call with
    ⟨userId, dto⟩ | ⟨userId, token⟩ | ⟨userId, payload⟩ | ⟨id, userId⟩ | userId | userId
  · rcases register_step step call with ⟨-, rfl⟩ | ⟨-, upserted⟩
    · exact ⟨_, _, .of_same rfl⟩
    · exact ⟨_, _, .of_same (notifications_upsert upserted)⟩
  · rcases unregister_step step call with ⟨-, rfl⟩ | ⟨-, -, rfl⟩
    · exact ⟨_, _, .of_same rfl⟩
    · exact ⟨_, _, .of_same rfl⟩
  · rcases (send_step step call).stored with same | stored
    · exact ⟨_, _, .of_same same⟩
    · refine ⟨fun row => row, [newNotification e.world userId payload], ?_, fun _ _ => .kept, ?_⟩
      · rw [List.map_id', stored]
      · intro row member
        cases List.mem_singleton.mp member
        exact ⟨by rw [call]; rfl, rfl, rfl⟩
  · rcases markAsRead_step step call with ⟨-, rfl⟩ | ⟨written, rfl⟩
    · exact ⟨_, _, .of_same rfl⟩
    · refine ⟨_, _, .of_update rfl fun row _ meets => ?_⟩
      obtain ⟨rfl, rfl⟩ : row.id = id ∧ row.userId = userId := by simpa using meets
      exact .read (by rw [call]; rfl) written (.inr call)
  · rcases markAllAsRead_step step call with ⟨-, rfl⟩ | ⟨written, rfl⟩
    · exact ⟨_, _, .of_same rfl⟩
    · refine ⟨_, _, .of_update rfl fun row _ meets => ?_⟩
      obtain ⟨⟨rfl, unread⟩, -⟩ :
          (row.userId = userId ∧ row.readAt = none) ∧ row.archivedAt = none := by
        simpa [unreadOf] using meets
      exact .read (by rw [call]; rfl) written (.inl unread)
  · rcases archiveAll_step step call with ⟨-, rfl⟩ | ⟨-, rfl⟩
    · exact ⟨_, _, .of_same rfl⟩
    · refine ⟨_, _, .of_update rfl fun row _ meets => ?_⟩
      obtain ⟨rfl, unarchived⟩ : row.userId = userId ∧ row.archivedAt = none := by
        simpa [unarchivedOf] using meets
      exact .archived (by rw [call]; rfl) unarchived

/-! ## Times that are kept -/

theorem RowStep.id_eq (h : RowStep e row row') : row'.id = row.id := by
  cases h <;> rfl

theorem RowStep.userId_eq (h : RowStep e row row') : row'.userId = row.userId := by
  cases h <;> rfl

theorem RowStep.eq_of_foreign (h : RowStep e row row') (foreign : row.userId ≠ e.call.userId) :
    row' = row := by
  cases h with
  | kept => rfl
  | read own => exact absurd own foreign
  | archived own => exact absurd own foreign

theorem RowStep.readAt_eq (h : RowStep e row row')
    (unmoved : e.call ≠ .markAsRead row.id row.userId ∨ e.world.write ≠ .ok ())
    (read : row.readAt ≠ none) : row'.readAt = row.readAt := by
  cases h with
  | kept => rfl
  | read _ written unread =>
    rcases unread with unread | call
    · exact absurd unread read
    · exact absurd ⟨call, written⟩ (not_and_or.mpr unmoved)
  | archived => rfl

theorem RowStep.archivedAt_eq (h : RowStep e row row') (archived : row.archivedAt ≠ none) :
    row'.archivedAt = row.archivedAt := by
  cases h with
  | kept => rfl
  | read => rfl
  | archived _ unarchived => exact absurd unarchived archived

theorem Kept.refl (column : NotificationRow → Option ℤ) (t : NotificationTables) :
    Kept column t t :=
  fun row member _ => ⟨row, member, rfl, rfl⟩

theorem Kept.trans {u : NotificationTables} (h : Kept column t t') (h' : Kept column t' u) :
    Kept column t u := by
  intro row member written
  obtain ⟨row', member', same, time⟩ := h row member written
  obtain ⟨row'', member'', same', time'⟩ := h' row' member' (by rwa [time])
  exact ⟨row'', member'', same'.trans same, time'.trans time⟩

/-- A step that keeps the column of each row it finds. -/
theorem NotificationStep.kept (step : NotificationStep t e t')
    (column_eq : ∀ row ∈ t.notifications, ∀ row', RowStep e row row' → column row ≠ none →
      column row' = column row) : Kept column t t' := by
  obtain ⟨g, new, rows, steps, -⟩ := history_step step
  intro row member written
  refine ⟨g row, ?_, (steps row member).id_eq, column_eq row member _ (steps row member) written⟩
  rw [rows]
  exact List.mem_append_left _ (List.mem_map_of_mem member)

theorem NotificationStep.archivedAt_kept (step : NotificationStep t e t') :
    Kept (·.archivedAt) t t' :=
  step.kept fun _ _ _ rowStep => rowStep.archivedAt_eq

theorem NotificationStep.readAt_kept (step : NotificationStep t e t') (first : ¬ Rereads t e) :
    Kept (·.readAt) t t' := by
  refine step.kept fun row member row' rowStep read => rowStep.readAt_eq ?_ read
  rw [← not_and_or]
  rintro ⟨call, written⟩
  exact first ⟨row, member, call, written, read⟩

/-- A step leaves the notifications of all other users alone. -/
theorem NotificationStep.frame (step : NotificationStep t e t') :
    (t'.notifications.filter fun row => row.userId ≠ e.call.userId) =
      t.notifications.filter fun row => row.userId ≠ e.call.userId := by
  obtain ⟨g, new, rows, steps, fresh⟩ := history_step step
  have none : (new.filter fun row => row.userId ≠ e.call.userId) = [] := by
    apply List.filter_eq_nil_iff.mpr
    intro row member
    simp [(fresh row member).1]
  rw [rows, List.filter_append, none, List.append_nil]
  apply filter_map_of_fixed
  · intro row member
    rw [(steps row member).userId_eq]
  · intro row member foreign
    exact (steps row member).eq_of_foreign (by simpa using foreign)

/-! ## Runs -/

theorem notificationStep_unique {u : NotificationTables} (step : NotificationStep t e t')
    (step' : NotificationStep t e u) : t' = u := by
  rw [NotificationStep, step, Prod.mk.injEq] at step'
  exact congrArg Sending.tables step'.2

/-- The times of reading are times of calls. -/
theorem readAt_mem_times (run : Run NotificationStep t₀ trace t) (fresh : t₀.notifications = []) :
    ∀ row ∈ t.notifications, ∀ time ∈ row.readAt, time ∈ trace.map (·.world.now) := by
  induction run with
  | nil =>
    rw [fresh]
    simp
  | @snoc trace t e t' _ step ih =>
    obtain ⟨g, new, rows, steps, unread⟩ := history_step step
    intro row' member time read
    rw [List.map_append, List.mem_append]
    rw [rows] at member
    rcases List.mem_append.mp member with old | new
    · obtain ⟨row, here, rfl⟩ := List.mem_map.mp old
      have rowStep := steps row here
      generalize g row = row' at rowStep read
      cases rowStep with
      | kept => exact .inl (ih row here time read)
      | read =>
        cases read
        exact .inr (List.mem_singleton_self _)
      | archived => exact .inl (ih row here time read)
    · rw [(unread row' new).2.1] at read
      cases read

/-- A second reading moves the time. -/
theorem NotificationStep.readAt_moves (step : NotificationStep t e t') (rereads : Rereads t e)
    (earlier : ∀ row ∈ t.notifications, ∀ time ∈ row.readAt, time < e.world.now) :
    ¬ Kept (·.readAt) t t' := by
  intro kept
  obtain ⟨row, member, call, written, read⟩ := rereads
  obtain ⟨time, stored⟩ := Option.ne_none_iff_exists'.mp read
  obtain ⟨row', member', same, unmoved⟩ := kept row member read
  rcases markAsRead_step step call with ⟨⟨err, failed⟩, -⟩ | ⟨-, updated⟩
  · rw [failed] at written
    cases written
  have moved : markRead e.world.now row ∈ t'.notifications := by
    rw [updated]
    exact mem_updateWhere.mpr ⟨row, member, if_pos (by simp)⟩
  have unique : markRead e.world.now row = row' :=
    List.inj_on_of_nodup_map t'.notification_pk moved member' same.symm
  rw [← unique] at unmoved
  have now : some e.world.now = some time := unmoved.trans stored
  exact (earlier row member time stored).ne (Option.some.inj now).symm

/-- The times of first reading are written once exactly when no notification is marked as read a
second time; the times of archiving always are, and no call changes a notification of another
user. -/
theorem written_once_iff (run : Run NotificationStep t₀ trace t) (fresh : t₀.notifications = [])
    (clock : (trace.map (·.world.now)).Pairwise (· < ·)) :
    (WrittenOnce (·.readAt) t₀ trace ↔ ∀ pre e post s, trace = pre ++ e :: post →
        Run NotificationStep t₀ pre s → ¬ Rereads s e) ∧
      WrittenOnce (·.archivedAt) t₀ trace ∧
      ∀ pre e post s s', trace = pre ++ e :: post → Run NotificationStep t₀ pre s →
        NotificationStep s e s' → (s'.notifications.filter fun row => row.userId ≠ e.call.userId) =
          s.notifications.filter fun row => row.userId ≠ e.call.userId := by
  refine ⟨⟨?_, ?_⟩, ?_, fun _ _ _ _ _ _ _ step => step.frame⟩
  · rintro once pre e post s rfl before rereads
    obtain ⟨u, s', before', step, -⟩ := run.split_at
    cases Run.unique (R := NotificationStep) notificationStep_unique before before'
    refine step.readAt_moves rereads ?_
      (once pre [e] post s s' (by simp) before (.single step))
    intro row member time read
    rw [List.map_append, List.map_cons, List.pairwise_append] at clock
    exact clock.2.2 time (readAt_mem_times before fresh row member time read) _
      List.mem_cons_self
  · rintro first pre mid post s s' rfl before run'
    have guarded : Run (Guarded NotificationStep fun t e => ¬ Rereads t e) s mid s' := by
      refine run'.guard ?_
      rintro pre' e post' u u' rfl run'' step
      exact first (pre ++ pre') e (post' ++ post) u (by simp) (before.trans run'')
    exact guarded.invariant (P := Kept (·.readAt) s) (.refl _ s)
      fun kept step => kept.trans (step.1.readAt_kept step.2)
  · rintro pre mid post s s' rfl before run'
    exact run'.invariant (P := Kept (·.archivedAt) s) (.refl _ s)
      fun kept step => kept.trans step.archivedAt_kept

/-- A notification is sent and read. -/
def sentAndRead : List (World × NotificationCall) :=
  [(worldWith fcmUnregistered 0 "n1", .sendToUser "ayesha" lowBalance),
    (worldWith fcmUnregistered 1 "n2", .markAsRead "n1" "ayesha")]

/-- It is read once more. -/
def readAgain : List (World × NotificationCall) :=
  [(worldWith fcmUnregistered 2 "n3", .markAsRead "n1" "ayesha")]

theorem clock_readAgain :
    ((runCalls (sentAndRead ++ readAgain) ayeshaTables).1.map (·.world.now)).Pairwise (· < ·) := by
  decide +kernel

theorem written_once_iff_readAgain :
    let trace := (runCalls (sentAndRead ++ readAgain) ayeshaTables).1
    (WrittenOnce (·.readAt) ayeshaTables trace ↔ ∀ pre e post s, trace = pre ++ e :: post →
        Run NotificationStep ayeshaTables pre s → ¬ Rereads s e) ∧
      WrittenOnce (·.archivedAt) ayeshaTables trace := by
  obtain ⟨read, archived, -⟩ := written_once_iff
    (runCalls_run (sentAndRead ++ readAgain) ayeshaTables) rfl clock_readAgain
  exact ⟨read, archived⟩

/-- The second reading replaces the time of the first. -/
theorem written_once_fails :
    ¬ ∀ t₀ trace t, Run NotificationStep t₀ trace t → t₀.notifications = [] →
      (trace.map (·.world.now)).Pairwise (· < ·) →
      WrittenOnce (·.readAt) t₀ trace ∧ WrittenOnce (·.archivedAt) t₀ trace := by
  intro once
  have split := runCalls_append sentAndRead readAgain ayeshaTables
  have kept := (once _ _ _ (runCalls_run (sentAndRead ++ readAgain) ayeshaTables) rfl
    clock_readAgain).1 _ _ [] _ _ (split.trans (List.append_nil _).symm)
    (runCalls_run sentAndRead ayeshaTables) (runCalls_run readAgain _)
  have first : (runCalls sentAndRead ayeshaTables).2.notifications.map (fun row =>
      (row.id, row.readAt)) = [("n1", some 1)] := by decide +kernel
  have second : (runCalls readAgain (runCalls sentAndRead ayeshaTables).2).2.notifications.map
      (·.readAt) = [some 2] := by decide +kernel
  obtain ⟨row, member, read⟩ : ∃ row ∈ (runCalls sentAndRead ayeshaTables).2.notifications,
      (row.id, row.readAt) = ("n1", some 1) := by
    rw [← List.mem_map, first]
    exact List.mem_singleton_self _
  obtain ⟨-, read⟩ := Prod.mk.inj read
  have set : row.readAt ≠ none := by
    rw [read]
    simp
  obtain ⟨row', member', -, same⟩ := kept row member set
  change row'.readAt = row.readAt at same
  have moved : row'.readAt ∈ [some 2] := second ▸ List.mem_map_of_mem member'
  rw [same, read] at moved
  simp at moved

end ElectroSync
