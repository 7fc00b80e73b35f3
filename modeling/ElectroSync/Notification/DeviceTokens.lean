import ElectroSync.Notification.Calls

/-!
# Who a device token is pushed for

The table of device tokens is a register: for each token its owner, and whether the token is live.
A registration sets both, the owner and FCM can end a token's life, and no one else changes either.
-/

namespace ElectroSync
open Transition Rows NotificationService

/-- What the table says of a token. -/
structure Registration where
  owner : String
  live : Bool
  deriving DecidableEq

def registration (t : NotificationTables) (token : String) : Option Registration :=
  (t.deviceToken token).map fun row => ⟨row.userId, row.isActive⟩

/-- What a step does to what the table says of one token. -/
inductive TokenStep (e : NotificationEvent) (token : String) :
    Option Registration → Option Registration → Prop
  | registered (registers : e.Registers userId token) :
    TokenStep e token before (some ⟨userId, true⟩)
  | ended (unregistered : ∀ u, ¬ e.Registers u token)
    (ends : e.Unregisters userId token ∨ e.Rejects userId token) :
    TokenStep e token (some ⟨userId, live⟩) (some ⟨userId, false⟩)
  | kept (unregistered : ∀ u, ¬ e.Registers u token)
    (idle : ∀ u, ¬ (e.Unregisters u token ∨ e.Rejects u token)) :
    TokenStep e token reg reg

variable {t t' : NotificationTables} {e : NotificationEvent} {userId token : String}
  {row : DeviceTokenRow} {dto : RegisterDeviceTokenDto} {payload : PushPayload}

/-! ## The rows of a token -/

theorem deviceToken_eq_some_iff :
    t.deviceToken token = some row ↔ row ∈ t.deviceTokens ∧ row.token = token := by
  constructor
  · intro found
    exact ⟨List.mem_of_find?_eq_some found, by simpa using List.find?_some found⟩
  · rintro ⟨member, rfl⟩
    rcases found : t.deviceToken row.token with _ | row'
    · exact absurd (decide_eq_true rfl) (List.find?_eq_none.mp found row member)
    · have same : row'.token = row.token := by simpa using List.find?_some found
      rw [List.inj_on_of_nodup_map t.device_token_token_unique
        (List.mem_of_find?_eq_some found) member same]

/-- The tokens that are pushed to for a user are the live ones that the user owns. -/
theorem mem_activeTokensFor :
    token ∈ activeTokensFor t userId ↔ registration t token = some ⟨userId, true⟩ := by
  simp only [activeTokensFor, registration, List.mem_map, List.mem_filter, Option.map_eq_some_iff,
    deviceToken_eq_some_iff, Registration.mk.injEq, Bool.and_eq_true, decide_eq_true_eq]
  constructor
  · rintro ⟨row, ⟨member, owner, live⟩, same⟩
    exact ⟨row, ⟨member, same⟩, owner, live⟩
  · rintro ⟨row, ⟨member, same⟩, owner, live⟩
    exact ⟨row, ⟨member, owner, live⟩, same⟩

/-- A token whose row is deactivated keeps its owner. -/
theorem registration_deactivate {p : DeviceTokenRow → Bool} {now : ℤ}
    (updated : t'.deviceTokens = updateWhere p (deactivate now) t.deviceTokens) :
    registration t' token = (t.deviceToken token).map fun row =>
      ⟨row.userId, row.isActive && !p row⟩ := by
  rw [registration, NotificationTables.deviceToken, updated,
    find?_updateWhere fun row => (rfl : (deactivate now row).token = row.token), Option.map_map]
  congr 1
  funext row
  rw [Function.comp_apply]
  split
  · next meets => simp [deactivate, meets]
  · next unmet => simp [unmet]

theorem registration_deactivate_of_met {p : DeviceTokenRow → Bool} {now : ℤ}
    (updated : t'.deviceTokens = updateWhere p (deactivate now) t.deviceTokens)
    (found : t.deviceToken token = some row) (meets : p row = true) :
    registration t' token = some ⟨row.userId, false⟩ := by
  rw [registration_deactivate updated, found, Option.map_some, meets, Bool.not_true, Bool.and_false]

theorem registration_deactivate_of_unmet {p : DeviceTokenRow → Bool} {now : ℤ}
    (updated : t'.deviceTokens = updateWhere p (deactivate now) t.deviceTokens)
    (unmet : ∀ row : DeviceTokenRow, row.token = token → p row = false) :
    registration t' token = registration t token := by
  rw [registration_deactivate updated]
  apply Option.map_congr
  intro row found
  rw [unmet row (deviceToken_eq_some_iff.mp found).2, Bool.not_false, Bool.and_true]

/-! ## Steps -/

/-- A registration gives the token to the user, and changes no other token. -/
theorem registration_upsert {now : ℤ} {id : String}
    (upserted : upsertDeviceToken t userId dto now id = .ok t') :
    registration t' token =
      if token = dto.token then some ⟨userId, true⟩ else registration t token := by
  rw [upsertDeviceToken] at upserted
  split at upserted
  · cases upserted
  split at upserted
  · next fresh =>
    unfold NotificationTables.insertDeviceToken at upserted
    split at upserted
    · cases upserted
    cases upserted
    rw [registration, NotificationTables.deviceToken, List.find?_append]
    split
    · next same =>
      subst same
      have none : t.deviceTokens.find? (·.token = dto.token) = none := by
        rw [List.find?_eq_none]
        intro row member same
        exact fresh (List.mem_map.mpr ⟨row, member, of_decide_eq_true same⟩)
      rw [none]
      simp [newToken]
    · next other =>
      have later : [newToken userId dto now id].find? (·.token = token) = none := by
        simp [newToken, Ne.symm other]
      rw [later, Option.or_none]
      rfl
  · next known =>
    cases upserted
    change ((updateWhere _ _ t.deviceTokens).find? _).map _ = _
    rw [find?_updateWhere fun row => (rfl : (refreshToken userId dto now row).token = row.token),
      Option.map_map]
    split
    · next same =>
      subst same
      obtain ⟨row, member, same⟩ := List.mem_map.mp (not_not.mp known)
      have found : t.deviceToken dto.token = some row := deviceToken_eq_some_iff.mpr ⟨member, same⟩
      rw [NotificationTables.deviceToken] at found
      rw [found]
      simp [refreshToken, same]
    · next other =>
      apply Option.map_congr
      intro row found
      have same := (deviceToken_eq_some_iff.mp found).2
      rw [Function.comp_apply, if_neg (by simpa [same] using other)]

namespace NotificationEvent

theorem Registers.unique {u u' : String} (h : e.Registers u token) (h' : e.Registers u' token) :
    u = u' := by
  obtain ⟨_, call, -⟩ := h
  obtain ⟨_, call', -⟩ := h'
  rw [call] at call'
  cases call'
  rfl

/-- A call that throws does nothing to a token. -/
theorem idle_of_failed (failed : ¬ e.Succeeds) :
    (∀ u, ¬ e.Registers u token) ∧ ∀ u, ¬ (e.Unregisters u token ∨ e.Rejects u token) := by
  refine ⟨fun u => ?_, fun u => ?_⟩
  · rintro ⟨_, -, -, succeeds⟩
    exact failed succeeds
  · rintro (⟨-, succeeds⟩ | ⟨_, -, succeeds, -⟩)
    · exact failed succeeds
    · exact failed succeeds

/-- The calls that are about stored notifications. -/
def ofHistory (e : NotificationEvent) : Prop :=
  (∃ id userId, e.call = .markAsRead id userId) ∨ (∃ userId, e.call = .markAllAsRead userId) ∨
    ∃ userId, e.call = .archiveAll userId

theorem idle_of_ofHistory (h : e.ofHistory) :
    (∀ u, ¬ e.Registers u token) ∧ ∀ u, ¬ (e.Unregisters u token ∨ e.Rejects u token) := by
  obtain ⟨call, same, other⟩ : ∃ call, e.call = call ∧
      (∀ u dto, call ≠ .registerDeviceToken u dto) ∧
      (∀ u token, call ≠ .unregisterDeviceToken u token) ∧ ∀ u p, call ≠ .sendToUser u p := by
    rcases h with ⟨id, userId, same⟩ | ⟨userId, same⟩ | ⟨userId, same⟩
    · exact ⟨_, same, by simp, by simp, by simp⟩
    · exact ⟨_, same, by simp, by simp, by simp⟩
    · exact ⟨_, same, by simp, by simp, by simp⟩
  refine ⟨fun u => ?_, fun u => ?_⟩
  · rintro ⟨dto, call', -⟩
    exact other.1 u dto (same.symm.trans call')
  · rintro (⟨call', -⟩ | ⟨payload, call', -⟩)
    · exact other.2.1 u token (same.symm.trans call')
    · exact other.2.2 u payload (same.symm.trans call')

end NotificationEvent

theorem registration_congr (same : t'.deviceTokens = t.deviceTokens) :
    registration t' token = registration t token := by
  rw [registration, NotificationTables.deviceToken, same]
  rfl

theorem TokenStep.of_register (step : NotificationStep t e t')
    (call : e.call = .registerDeviceToken userId dto) :
    TokenStep e token (registration t token) (registration t' token) := by
  rcases register_step step call with ⟨failed, rfl⟩ | ⟨succeeds, upserted⟩
  · obtain ⟨unregistered, idle⟩ := NotificationEvent.idle_of_failed failed
    exact .kept unregistered idle
  · rw [registration_upsert upserted]
    split
    · next same => exact .registered ⟨dto, call, same.symm, succeeds⟩
    · next other =>
      refine .kept (fun u => ?_) fun u => ?_
      · rintro ⟨dto', call', same, -⟩
        cases call.symm.trans call'
        exact other same.symm
      · rintro (⟨call', -⟩ | ⟨_, call', -⟩)
        · cases call.symm.trans call'
        · cases call.symm.trans call'

theorem TokenStep.of_unregister {token' : String} (step : NotificationStep t e t')
    (call : e.call = .unregisterDeviceToken userId token') :
    TokenStep e token (registration t token) (registration t' token) := by
  rcases unregister_step step call with ⟨failed, rfl⟩ | ⟨succeeds, ⟨row, member, own⟩, updated⟩
  · obtain ⟨unregistered, idle⟩ := NotificationEvent.idle_of_failed failed
    exact .kept unregistered idle
  have unregistered (u : String) : ¬ e.Registers u token := by
    rintro ⟨_, call', -⟩
    cases call.symm.trans call'
  have updated := congrArg NotificationTables.deviceTokens updated
  obtain ⟨same, owner⟩ : row.token = token' ∧ row.userId = userId := by
    simpa [ownToken] using own
  by_cases here : token = token'
  · subst here
    have found := deviceToken_eq_some_iff.mpr ⟨member, same⟩
    rw [registration_deactivate_of_met updated found own, registration, found, Option.map_some,
      owner]
    exact .ended unregistered (.inl ⟨call, succeeds⟩)
  · have unmet (row : DeviceTokenRow) (same : row.token = token) :
        ownToken userId token' row = false := by
      simp [ownToken, same, here]
    rw [registration_deactivate_of_unmet updated unmet]
    refine .kept unregistered fun u => ?_
    rintro (⟨call', -⟩ | ⟨_, call', -⟩)
    · cases call.symm.trans call'
      exact here rfl
    · cases call.symm.trans call'

theorem TokenStep.of_send (step : NotificationStep t e t')
    (call : e.call = .sendToUser userId payload) :
    TokenStep e token (registration t token) (registration t' token) := by
  have unregistered (u : String) : ¬ e.Registers u token := by
    rintro ⟨_, call', -⟩
    cases call.symm.trans call'
  obtain ⟨front, -, ⟨failed, same⟩ | ⟨succeeds, -, rejected, updated, reported⟩⟩ :=
    send_step step call
  · rw [registration_congr same]
    obtain ⟨-, idle⟩ := NotificationEvent.idle_of_failed failed
    exact .kept unregistered idle
  by_cases here : token ∈ rejected
  · obtain ⟨b, sent, rejects⟩ := (reported token).mp here
    -- only the user's own live tokens are pushed to
    have listed : token ∈ activeTokensFor t userId := by
      rw [← flatten_batchesFor]
      exact List.mem_flatten.mpr ⟨b, front.subset sent, rejects.mem⟩
    have owned := mem_activeTokensFor.mp listed
    obtain ⟨row, found, owner⟩ := Option.map_eq_some_iff.mp owned
    obtain ⟨rfl, live⟩ := Registration.mk.inj owner
    have meets : rejected.contains row.token = true := by
      rw [(deviceToken_eq_some_iff.mp found).2]
      exact List.contains_iff_mem.mpr here
    rw [owned, registration_deactivate_of_met updated found meets]
    exact .ended unregistered (.inr ⟨payload, call, succeeds, b, mem_pushed.mp sent, rejects⟩)
  · have unmet (row : DeviceTokenRow) (same : row.token = token) :
        rejected.contains row.token = false := by
      simp [same, here]
    rw [registration_deactivate_of_unmet updated unmet]
    refine .kept unregistered fun u => ?_
    rintro (⟨call', -⟩ | ⟨payload', call', -, b, sent, rejects⟩)
    · cases call.symm.trans call'
    · cases call.symm.trans call'
      exact here ((reported token).mpr ⟨b, mem_pushed.mpr sent, rejects⟩)

/-- A step registers a token, ends its life, or leaves it as it is. -/
theorem token_step (step : NotificationStep t e t') (token : String) :
    TokenStep e token (registration t token) (registration t' token) := by
  have untouched (h : e.ofHistory) (same : t'.deviceTokens = t.deviceTokens) :
      TokenStep e token (registration t token) (registration t' token) := by
    obtain ⟨unregistered, idle⟩ := NotificationEvent.idle_of_ofHistory h
    rw [registration_congr same]
    exact .kept unregistered idle
  rcases call : e.call with
    ⟨userId, dto⟩ | ⟨userId, token'⟩ | ⟨userId, payload⟩ | ⟨id, userId⟩ | userId | userId
  · exact .of_register step call
  · exact .of_unregister step call
  · exact .of_send step call
  · rcases markAsRead_step step call with ⟨-, rfl⟩ | ⟨-, rfl⟩
    · exact untouched (.inl ⟨id, userId, call⟩) rfl
    · exact untouched (.inl ⟨id, userId, call⟩) rfl
  · rcases markAllAsRead_step step call with ⟨-, rfl⟩ | ⟨-, rfl⟩
    · exact untouched (.inr (.inl ⟨userId, call⟩)) rfl
    · exact untouched (.inr (.inl ⟨userId, call⟩)) rfl
  · rcases archiveAll_step step call with ⟨-, rfl⟩ | ⟨-, rfl⟩
    · exact untouched (.inr (.inr ⟨userId, call⟩)) rfl
    · exact untouched (.inr (.inr ⟨userId, call⟩)) rfl

/-- Nothing has taken the token from the user since the user registered it. -/
def StillLive (userId token : String) (trace : List NotificationEvent) : Prop :=
  Since (·.Registers userId token) (fun e => (∃ u, e.Registers u token) ∨
    e.Unregisters userId token ∨ e.Rejects userId token) trace

/-- The last registration of the token was by the user. -/
def LastRegisteredBy (userId token : String) (trace : List NotificationEvent) : Prop :=
  Since (·.Registers userId token) (fun e => ∃ u, e.Registers u token) trace

/-! ## Runs -/

variable {t₀ : NotificationTables} {trace : List NotificationEvent}

/-- What the table says of a token that steps start, stop or keep saying. -/
theorem registration_since_iff {P : Option Registration → Prop}
    {start stop : NotificationEvent → Prop} (run : Run NotificationStep t₀ trace t)
    (fresh : t₀.deviceTokens = []) (init : ¬ P none)
    (step : ∀ {e before after}, TokenStep e token before after →
      (P after ↔ start e ∨ P before ∧ ¬ stop e)) :
    P (registration t token) ↔ Since start stop trace := by
  refine run.since_iff (P := fun t => P (registration t token)) ?_ fun taken =>
    step (token_step taken token)
  rwa [registration, NotificationTables.deviceToken, fresh]

/-- The table says that a token is live for a user exactly when the history does. -/
theorem live_iff (run : Run NotificationStep t₀ trace t) (fresh : t₀.deviceTokens = []) :
    registration t token = some ⟨userId, true⟩ ↔ StillLive userId token trace := by
  refine registration_since_iff (P := (· = some ⟨userId, true⟩)) run fresh (by simp) ?_
  intro e before after tokenStep
  cases tokenStep with
  | @registered u before registers =>
    constructor
    · rintro ⟨rfl⟩
      exact .inl registers
    · rintro (registers' | ⟨-, quiet⟩)
      · rw [registers.unique registers']
      · exact absurd (.inl ⟨u, registers⟩) quiet
  | @ended u live unregistered ends =>
    refine iff_of_false (by rintro ⟨⟩) ?_
    rintro (registers | ⟨⟨⟩, quiet⟩)
    · exact unregistered _ registers
    · exact quiet (.inr ends)
  | kept unregistered idle =>
    rw [or_iff_right (unregistered _), iff_self_and]
    rintro - (⟨u, registers⟩ | ends)
    · exact unregistered u registers
    · exact idle _ ends

/-- The owner of a token is the user who registered it last. -/
theorem owner_iff (run : Run NotificationStep t₀ trace t) (fresh : t₀.deviceTokens = []) :
    (registration t token).map (·.owner) = some userId ↔ LastRegisteredBy userId token trace := by
  refine registration_since_iff (P := fun reg => reg.map (·.owner) = some userId) run fresh
    (by simp) ?_
  intro e before after tokenStep
  cases tokenStep with
  | @registered u before registers =>
    constructor
    · rintro ⟨rfl⟩
      exact .inl registers
    · rintro (registers' | ⟨-, quiet⟩)
      · rw [registers.unique registers']
        rfl
      · exact absurd ⟨u, registers⟩ quiet
  | ended unregistered ends =>
    rw [or_iff_right (unregistered _)]
    exact (and_iff_left fun ⟨u, registers⟩ => unregistered u registers).symm
  | kept unregistered idle =>
    rw [or_iff_right (unregistered _)]
    exact (and_iff_left fun ⟨u, registers⟩ => unregistered u registers).symm

/-- Pushes go only to the live tokens of their user: those that the user registered last and that
nothing has taken since. Only the owner of a token can unregister it. -/
theorem pushes_reach_owners (run : Run NotificationStep t₀ trace t)
    (fresh : t₀.deviceTokens = []) :
    (∀ userId token, token ∈ activeTokensFor t userId ↔ StillLive userId token trace) ∧
      (∀ e t' userId payload, NotificationStep t e t' → e.call = .sendToUser userId payload →
        (pushed e.attempted).flatten <+: activeTokensFor t userId ∧
          (e.Succeeds → e.world.fcm.isConfigured = true →
            (pushed e.attempted).flatten = activeTokensFor t userId)) ∧
      ∀ e t' userId token, NotificationStep t e t' →
        e.call = .unregisterDeviceToken userId token → ¬ LastRegisteredBy userId token trace →
        ¬ e.Succeeds ∧ t' = t := by
  refine ⟨fun userId token => mem_activeTokensFor.trans (live_iff run fresh), ?_, ?_⟩
  · intro e t' userId payload step call
    obtain ⟨front, -, tokens⟩ := send_step step call
    rw [← flatten_batchesFor]
    refine ⟨front.flatten, fun succeeds on => ?_⟩
    obtain ⟨failed, -⟩ | ⟨-, complete, -⟩ := tokens
    · exact absurd succeeds failed
    · rw [complete on]
  · intro e t' userId token step call foreign
    obtain unchanged | ⟨-, ⟨row, member, own⟩, -⟩ := unregister_step step call
    · exact unchanged
    obtain ⟨same, owner⟩ : row.token = token ∧ row.userId = userId := by
      simpa [ownToken] using own
    refine absurd ((owner_iff run fresh).mp ?_) foreign
    rw [registration, deviceToken_eq_some_iff.mpr ⟨member, same⟩, Option.map_some, Option.map_some,
      owner]

def twoUsers : NotificationTables where
  users := [⟨"ayesha", none, "ayesha@example.com", none⟩,
    ⟨"babul", none, "babul@example.com", none⟩]
  deviceTokens := []
  notifications := []
  device_token_pk := List.nodup_nil
  device_token_token_unique := List.nodup_nil
  notification_pk := List.nodup_nil

/-- A phone changes hands, its first user tries to take the token back, and FCM drops the token of
another phone. -/
def handedOver : List (World × NotificationCall) :=
  [(worldWith fcmUnregistered 0 "d1", .registerDeviceToken "ayesha" ⟨"t1", .android, .absent⟩),
    (worldWith fcmUnregistered 1 "d2", .registerDeviceToken "ayesha" ⟨"t2", .web, .absent⟩),
    (worldWith fcmUnregistered 2 "d3", .registerDeviceToken "babul" ⟨"t1", .android, .absent⟩),
    (worldWith fcmUnregistered 3 "d4", .unregisterDeviceToken "ayesha" "t1"),
    (worldWith fcmUnregistered 4 "n1", .sendToUser "ayesha" lowBalance)]

theorem pushes_reach_owners_handedOver :
    let run := runCalls handedOver twoUsers
    StillLive "babul" "t1" run.1 ∧ ¬ StillLive "ayesha" "t1" run.1 ∧
      ¬ StillLive "ayesha" "t2" run.1 := by
  obtain ⟨live, -⟩ := pushes_reach_owners (runCalls_run handedOver twoUsers) rfl
  refine ⟨(live _ _).mp ?_, mt (live _ _).mpr ?_, mt (live _ _).mpr ?_⟩
  · decide +kernel
  · decide +kernel
  · decide +kernel

end ElectroSync
