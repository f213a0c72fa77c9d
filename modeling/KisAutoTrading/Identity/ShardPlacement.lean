/-
# Identity.ShardPlacement — every row on the shard of its user

`signup` places a user once, by `_shard_id_for`. From there the shard id is copied: into the
session by `login`, into the target of every handler, into the subscription event, the
projection, the delivery intent, and at last into the target of the worker's notification.
The system below runs all of it. Any number of clients log in, authenticate and call, a
transaction or a session-store command at a time, and a worker takes the events of the
outboxes in any order and as often as it likes.

`rows_on_user_shard`: every row of an account shard that carries a user id is of a user of
that shard. So the shard a notification is on is the one `list_user_notifications` reads for
its user, and the worker takes every delivery intent it has enqueued. Nothing is assumed of
the ids: two users whose rows collide under one `uuid5` are on one shard.
-/
import KisAutoTrading.Handlers.Atomicity
import KisAutoTrading.Identity.OperatorGrant
import KisAutoTrading.Modules.Notification
import KisAutoTrading.Worker.MessageHandler

namespace KisAutoTrading.Identity.ShardPlacement

open Theory Theory.Runs Handlers.Atomicity Identity.OperatorGrant

set_option autoImplicit false

/-! ## The system -/

/-- What an authenticated client asks for. -/
inductive Request where
  | updateProfile (request : UpdateProfileRequest)
  | subscribe (request : SubscribeRequest)
  | unsubscribe (request : UnsubscribeRequest)
  | linkDefaultConnection
  | capturePortfolioSnapshot (connection : BrokerageAccountConnection) (idempotencyKey : String)
  | listUserNotifications
  | markUserNotificationRead (notificationId : Uuid)

inductive Outbox where
  | automation
  | account (shardId : String)

structure State where
  now : Instant
  identity : IdentityStore
  keys : SessionKeys
  dbs : Databases
  logins : Nat → Login
  /-- The session a client's request came with. -/
  clients : Nat → Option SessionData

inductive Action where
  | wait (duration : Nat)
  | signup (request : SignupRequest) (userId : Uuid) (salt : List UInt8)
  /-- The transaction of a `login`. -/
  | login (client : Nat) (request : LoginRequest)
  /-- The rest of it; the secret of the session id is drawn. -/
  | createSession (client : Nat) (secret : String)
  /-- `get_current_session`. -/
  | authenticate (client : Nat) (sessionId : String)
  | call (client : Nat) (request : Request) (environ : Environ) (met : Circumstances)
  | recordSignal (signal : SignalEvent) (eventId : String)
  /-- The worker handles the message of a record that was enqueued. -/
  | work (outbox : Outbox) (position : Nat) (newId : Uuid → String)

section Step

variable (P : Platform) (R : Runtime)

/-- The databases after a request of the session. -/
def serve (environ : Environ) (met : Circumstances) (session : SessionData) (dbs : Databases) :
    Request → Databases
  | .updateProfile request => (perform P environ met dbs (.updateProfile request session)).2
  | .subscribe request => (perform P environ met dbs (.subscribe request session)).2
  | .unsubscribe request => (perform P environ met dbs (.unsubscribe request session)).2
  | .linkDefaultConnection => (perform P environ met dbs (.linkDefaultConnection session)).2
  | .capturePortfolioSnapshot connection idempotencyKey =>
      (perform P environ met dbs
        (.capturePortfolioSnapshot session connection idempotencyKey)).2
  | .listUserNotifications => dbs.commit (listUserNotifications session dbs)
  | .markUserNotificationRead notificationId =>
      dbs.commit (markUserNotificationRead notificationId session met.now dbs)

def records (dbs : Databases) : Outbox → List OutboxEventRecord
  | .automation => dbs.automation.outbox
  | .account shardId => (dbs.account shardId).outbox

def step (s : State) : Action → State
  | .wait duration => { s with now := s.now + duration }
  | .signup request userId salt =>
      match R.signup request userId salt s.now s.identity with
      | .ok (_, identity) => { s with identity }
      | .error _ => s
  | .login client request =>
      match s.identity.findByEmail (R.normalizeEmail request.email) with
      | .ok found =>
          { s with logins := Function.update s.logins client (.read request.password found) }
      | .error _ => s
  | .createSession client secret =>
      match s.logins client with
      | .idle => s
      | .read password found =>
          match afterRead R s.now s.keys secret password found with
          | .ok keys => { s with keys }
          | .error _ => s
  | .authenticate client sessionId =>
      match RedisSessionStore.get s.now s.keys sessionId with
      | .ok found => { s with clients := Function.update s.clients client found }
      | .error _ => s
  | .call client request environ met =>
      match s.clients client with
      | some session => { s with dbs := serve P environ met session s.dbs request }
      | none => s
  | .recordSignal signal eventId =>
      { s with dbs := s.dbs.commit (P.recordSignal signal eventId s.now s.dbs) }
  | .work outbox position newId =>
      match (records s.dbs outbox)[position]? with
      | some record =>
          { s with dbs := s.dbs.commit (P.handleMessage record.message s.now newId s.dbs) }
      | none => s

end Step

/-- Nobody has signed up yet. -/
def start (now : Instant) : State where
  now := now
  identity := .empty
  keys := ⟨Expiring.empty, Expiring.empty⟩
  dbs := .empty
  logins := fun _ => .idle
  clients := fun _ => none

/-! ## Placement -/

/-- Every row of the shard that carries a user id is of a user of the shard. -/
structure Resident (shardId : String) (shard : AccountShard) : Prop where
  profiles : shard.profiles.All fun row => shardIdFor row.userId = shardId
  connections : shard.connections.All fun row => shardIdFor row.userId = shardId
  snapshots : shard.snapshots.All fun row => shardIdFor row.userId = shardId
  positions : shard.positions.All fun row => shardIdFor row.userId = shardId
  subscriptions : shard.subscriptions.All fun row => shardIdFor row.userId = shardId
  notifications : shard.notifications.All fun row => shardIdFor row.userId = shardId

/-- The session can be had from the store, or a client has it. -/
def Authenticated (s : State) (session : SessionData) : Prop :=
  (∃ sessionId, RedisSessionStore.get s.now s.keys sessionId = .ok (some session)) ∨
    ∃ client, s.clients client = some session

structure Placement (P : Platform) (s : State) : Prop where
  rows : ∀ shardId, Resident shardId (s.dbs.account shardId)
  /-- `list_user_notifications` reads the shard that a notification of its user is on. -/
  listed : ∀ session, Authenticated s session → ∀ shardId,
    ∀ notification ∈ (s.dbs.account shardId).notifications.rows,
      session.userId = notification.userId.str →
      listUserNotifications session s.dbs =
        .ok ((s.dbs.account shardId).listByUserId notification.userId, s.dbs)
  /-- A delivery intent that was enqueued goes through, and its notification is on the shard of
  its user. -/
  accepted : ∀ record ∈ s.dbs.automation.outbox,
    record.eventType = "signal.delivery-intent.created" → ∀ now newId, ∃ made after,
      P.handleMessage record.message now newId s.dbs = .ok (made, after) ∧
      ∀ notification, made = some notification → notification ∈
        (after.account (shardIdFor notification.userId)).notifications.rows

/-! ## The copies of the shard id -/

/-- The account is placed as `signup` places it. -/
def Assigned (account : LoginAccount) : Prop := account.shardId = shardIdFor account.userId

/-- An event that names a shard names the one of its user, and a delivery intent can be read. -/
structure Routed (P : Platform) (record : OutboxEventRecord) : Prop where
  update : record.eventType = "signal.subscription.updated" → ∀ projection,
    P.subscriptionProjectionFromPayload record.payload = .ok projection →
      shardIdFor projection.userId = projection.shardId
  intent : record.eventType = "signal.delivery-intent.created" → ∃ intent,
    P.deliveryIntentFromPayload record.payload = .ok intent ∧
      shardIdFor intent.userId = intent.shardId

structure ShardPlaced (P : Platform) (shardId : String) (shard : AccountShard) : Prop
    extends Resident shardId shard where
  announced : ∀ record ∈ shard.outbox, Routed P record

structure AutomationPlaced (P : Platform) (store : AutomationStore) : Prop where
  projections : store.subscriptionProjections.All fun row => shardIdFor row.userId = row.shardId
  enqueued : ∀ record ∈ store.outbox, Routed P record

structure Placed (P : Platform) (dbs : Databases) : Prop where
  shards : ∀ shardId, ShardPlaced P shardId (dbs.account shardId)
  automation : AutomationPlaced P dbs.automation

structure Inv (P : Platform) (s : State) : Prop where
  accounts : s.identity.loginAccounts.All Assigned
  logins : ∀ client password account,
    s.logins client = .read password (some account) → Assigned account
  sessions : ∀ key payload last, s.keys.sessions key = some (payload, last) → ∀ sessionId,
    ∃ user, LoginSession ⟨sessionId, payload.userId, payload.data⟩ user
  clients : ∀ client session, s.clients client = some session → ∃ user, LoginSession session user
  placed : Placed P s.dbs

/-! ## Events -/

section Events

variable {P : Platform} {shardId eventId : String} {now : Instant} {record : OutboxEventRecord}

theorem routed_other (notUpdate : record.eventType ≠ "signal.subscription.updated")
    (notIntent : record.eventType ≠ "signal.delivery-intent.created") : Routed P record :=
  ⟨fun same => absurd same notUpdate, fun same => absurd same notIntent⟩

theorem routed_update {row : SignalSubscription} (mine : shardIdFor row.userId = shardId) :
    Routed P (recordSubscriptionUpdate row ⟨"account", some shardId⟩ eventId now) := by
  refine ⟨fun _ projection read => ?_, fun same => ?_⟩
  · rw [Platform.subscriptionProjectionFromPayload, validateProjection_of_update] at read
    simp only at read
    split at read
    · cases read
    · cases read
      exact mine
  · simp [recordSubscriptionUpdate, outboxRecord] at same

theorem routed_intent {intent : SignalDeliveryIntent}
    (normal : normalizeDomesticStockCode intent.stockCode = some intent.stockCode)
    (mine : shardIdFor intent.userId = intent.shardId) :
    Routed P (outboxRecord (P.deliveryIntentMessage intent eventId now)) := by
  refine ⟨fun same => ?_, fun _ => ?_⟩
  · simp [outboxRecord, Platform.deliveryIntentMessage] at same
  · exact ⟨intent, deliveryIntent_of_message P eventId now normal, mine⟩

theorem routed_append {events : List OutboxEventRecord} (all : ∀ record ∈ events, Routed P record)
    (new : Routed P record) : ∀ event ∈ events ++ [record], Routed P event := by
  intro event member
  rcases List.mem_append.mp member with old | last
  · exact all event old
  · rw [List.mem_singleton.mp last]
    exact new

end Events

/-! ## The handlers -/

section Handlers

variable {P : Platform} {environ : Environ} {met : Circumstances} {session : SessionData}
  {user : Uuid} {dbs after : Databases}

theorem Placed.commitShard (placed : Placed P dbs) {shardId : String} {shard : AccountShard}
    (kept : ShardPlaced P shardId shard) :
    Placed P { dbs with account := Function.update dbs.account shardId shard } := by
  refine ⟨fun other => ?_, placed.automation⟩
  by_cases same : other = shardId
  · subst same
    simpa using kept
  · simpa [Function.update_of_ne same] using placed.shards other

theorem Placed.commitStore (placed : Placed P dbs) {store : AutomationStore}
    (kept : AutomationPlaced P store) : Placed P { dbs with automation := store } :=
  ⟨placed.shards, kept⟩

/-- Every handler goes where the session says, which is the shard of its user. -/
theorem located_at_home (login : LoginSession session user) {userId : Uuid} {shardId : String}
    (located : sessionLocation session = .ok (userId, ⟨"account", some shardId⟩)) :
    userId = user ∧ shardIdFor user = shardId := by
  rw [login.location] at located
  cases located
  exact ⟨rfl, rfl⟩

theorem placed_updateProfile (placed : Placed P dbs) (login : LoginSession session user)
    {request : UpdateProfileRequest} {profile : UserProfile}
    (answered : updateProfile request session met.eventId met.now dbs = .ok (profile, after)) :
    Placed P after := by
  obtain ⟨userId, shardId, shard, located, rfl, -, wrote⟩ := updateProfile_cases answered
  obtain ⟨rfl, mine⟩ := located_at_home login located
  have shards := placed.shards shardId
  apply placed.commitShard
  rcases wrote with rfl | ⟨-, rfl⟩
  · exact shards
  · exact { shards with
      profiles := shards.profiles.put _ mine
      announced := routed_append shards.announced
        (routed_other (by simp [profileUpdated, outboxRecord])
          (by simp [profileUpdated, outboxRecord])) }

/-- What is written is the user's, or a row that was read before. -/
def KeepsOwner
    (decide : Uuid → Uuid → String → Option SignalSubscription → Decision SignalSubscription) :
    Prop :=
  ∀ id user code existing row, decide id user code existing = .write row →
    row.userId = user ∨ ∃ old, existing = some old ∧ row.userId = old.userId

theorem subscribe_keepsOwner : KeepsOwner subscribeDecision := by
  intro id user code existing row written
  exact .inl (subscribe_continues written).userId_eq

theorem unsubscribe_keepsOwner : KeepsOwner unsubscribeDecision := by
  intro id user code existing row written
  cases existing with
  | none => cases written
  | some old =>
      simp only [unsubscribeDecision] at written
      split at written
      · cases written
        exact .inr ⟨old, rfl, rfl⟩
      · cases written

theorem placed_changeSubscription (placed : Placed P dbs) (login : LoginSession session user)
    {decide : Uuid → Uuid → String → Option SignalSubscription → Decision SignalSubscription}
    (keeps : KeepsOwner decide) {stockCode : String} {row : SignalSubscription}
    (answered : P.changeSubscription decide stockCode session met.eventId met.now dbs =
      .ok (row, after)) : Placed P after := by
  obtain ⟨userId, shardId, code, shard, located, -, rfl, applied⟩ :=
    changeSubscription_cases answered
  obtain ⟨rfl, mine⟩ := located_at_home login located
  have shards := placed.shards shardId
  apply placed.commitShard
  cases decided : decide (P.subscriptionId userId code) userId code
      ((dbs.account shardId).subscriptions.find (P.subscriptionId userId code)) with
  | keep kept =>
      rw [decided] at applied
      cases applied
      exact shards
  | write written =>
      rw [decided] at applied
      cases applied
      have here : shardIdFor row.userId = shardId := by
        rcases keeps _ _ _ _ _ decided with owner | ⟨old, found, owner⟩
        · rw [owner, mine]
        · rw [owner]
          exact shards.subscriptions.find found
      exact { shards with
        subscriptions := shards.subscriptions.put _ here
        announced := routed_append shards.announced (routed_update here) }

theorem placed_linkDefaultConnection (placed : Placed P dbs) (login : LoginSession session user)
    {connection : BrokerageAccountConnection}
    (answered : P.linkDefaultConnection environ session met.eventId met.now dbs =
      .ok (connection, after)) : Placed P after := by
  obtain ⟨userId, shardId, credentials, shard, located, -, rfl, linked⟩ :=
    linkDefaultConnection_cases answered
  obtain ⟨rfl, mine⟩ := located_at_home login (connectionLocation_ok located)
  obtain ⟨-, owner, -, wrote⟩ := linkConnection_effect linked
  have shards := placed.shards shardId
  apply placed.commitShard
  rcases wrote with rfl | ⟨-, -, rfl⟩
  · exact shards
  · have here : shardIdFor connection.userId = shardId := by rw [owner, mine]
    exact { shards with
      connections := shards.connections.put _ here
      announced := routed_append shards.announced
        (routed_other (by simp [connectionLinked, outboxRecord])
          (by simp [connectionLinked, outboxRecord])) }

theorem placed_capture (placed : Placed P dbs) (login : LoginSession session user)
    {connection : BrokerageAccountConnection} {idempotencyKey : String}
    {capture : PortfolioSnapshotCapture}
    (answered : P.capturePortfolioSnapshot session connection met.holdings idempotencyKey
      met.eventId met.capturedAt met.now dbs = .ok (capture, after)) : Placed P after := by
  obtain ⟨userId, shardId, snapshotId, located, -, ⟨rfl, -⟩ |
    ⟨snapshot, positions, shard, rfl, owner, owners, -, absent, rfl, saved⟩⟩ :=
    capture_cases answered
  · exact placed
  · obtain ⟨rfl, mine⟩ := located_at_home login (snapshotLocation_ok located)
    rw [storeCapture_absent positions _ met.eventId met.now absent] at saved
    cases saved
    have shards := placed.shards shardId
    have here : shardIdFor snapshot.userId = shardId := by rw [owner, mine]
    refine placed.commitShard { shards with
      snapshots := shards.snapshots.put _ here
      positions := shards.positions.foldl_put fun position member => ?_
      announced := routed_append shards.announced
        (routed_other (by simp [snapshotCaptured, outboxRecord])
          (by simp [snapshotCaptured, outboxRecord])) }
    rw [owners position member, mine]

theorem placed_markRead (placed : Placed P dbs) (notificationId : Uuid) (session : SessionData)
    (now : Instant) :
    Placed P (dbs.commit (markUserNotificationRead notificationId session now dbs)) := by
  rcases markRead_cases notificationId session now dbs with
    same | ⟨shardId, row, found, -, written⟩
  · rw [same]
    exact placed
  · rw [written]
    have shards := placed.shards shardId
    have here : shardIdFor row.userId = shardId := shards.notifications.find found
    exact placed.commitShard { shards with notifications := shards.notifications.put _ here }

theorem placed_performed (placed : Placed P dbs) {call : Call}
    (handled : ∀ response committed, handle P environ met dbs call = .ok (response, committed) →
      Placed P committed) : Placed P (perform P environ met dbs call).2 := by
  have refines := perform_refines P met environ dbs call
  cases answer : (perform P environ met dbs call).1 with
  | error failure =>
      rw [refines.failed failure answer]
      exact placed
  | ok response => exact handled _ _ (refines.answered response answer)

theorem placed_serve (placed : Placed P dbs) (login : LoginSession session user)
    (request : Request) : Placed P (serve P environ met session dbs request) := by
  cases request with
  | updateProfile request =>
      refine placed_performed placed fun response committed answered => ?_
      obtain ⟨profile, handled⟩ := map_ok answered
      exact placed_updateProfile placed login handled
  | subscribe request =>
      refine placed_performed placed fun response committed answered => ?_
      obtain ⟨row, handled⟩ := map_ok answered
      exact placed_changeSubscription placed login subscribe_keepsOwner handled
  | unsubscribe request =>
      refine placed_performed placed fun response committed answered => ?_
      obtain ⟨row, handled⟩ := map_ok answered
      exact placed_changeSubscription placed login unsubscribe_keepsOwner handled
  | linkDefaultConnection =>
      refine placed_performed placed fun response committed answered => ?_
      obtain ⟨connection, handled⟩ := map_ok answered
      exact placed_linkDefaultConnection placed login handled
  | capturePortfolioSnapshot connection idempotencyKey =>
      refine placed_performed placed fun response committed answered => ?_
      obtain ⟨capture, handled⟩ := map_ok answered
      exact placed_capture placed login handled
  | listUserNotifications =>
      simp only [serve]
      cases answered : listUserNotifications session dbs with
      | error failure => exact placed
      | ok answer =>
          obtain ⟨location, located, read⟩ := bind_ok answered
          rw [← accountSession_reads read] at placed
          exact placed
  | markUserNotificationRead notificationId =>
      exact placed_markRead placed notificationId session met.now

end Handlers

/-! ## The worker -/

section Worker

variable {P : Platform} {dbs after : Databases} {now : Instant} {newId : Uuid → String}

theorem placed_recordSignal (placed : Placed P dbs) (signal : SignalEvent) (eventId : String) :
    Placed P (dbs.commit (P.recordSignal signal eventId now dbs)) := by
  cases answered : P.recordSignal signal eventId now dbs with
  | error failure => exact placed
  | ok answer =>
      obtain ⟨store, ran, committed⟩ := Databases.automationSession_commits answered
      rw [show dbs.commit (.ok answer) = { dbs with automation := store } from committed]
      apply placed.commitStore
      have automation := placed.automation
      split at ran
      · cases ran
        exact automation
      · split at ran
        · cases ran
          exact { automation with
            enqueued := routed_append automation.enqueued
              (routed_other (by simp [Platform.signalCreated, outboxRecord])
                (by simp [Platform.signalCreated, outboxRecord])) }
        · cases ran
          exact { automation with }

theorem AutomationPlaced.materialize {store : AutomationStore} (placed : AutomationPlaced P store)
    {intents : List SignalDeliveryIntent}
    (fit : ∀ intent ∈ intents, normalizeDomesticStockCode intent.stockCode = some intent.stockCode ∧
      shardIdFor intent.userId = intent.shardId) :
    AutomationPlaced P (intents.foldl (P.materializeIntent newId now) store) := by
  induction intents generalizing store with
  | nil => exact placed
  | cons intent rest ih =>
      refine ih ?_ fun other member => fit other (by simp [member])
      obtain ⟨normal, mine⟩ := fit intent (by simp)
      unfold Platform.materializeIntent
      split
      · exact placed
      · exact { placed with
          enqueued := routed_append placed.enqueued (routed_intent normal mine) }

theorem placed_signalCreated (placed : Placed P dbs) {message : EventMessage} {value : Unit}
    (answered : dbs.automationSession (P.handleSignalCreated message now newId) =
      .ok (value, after)) : Placed P after := by
  obtain ⟨store, handled, rfl⟩ := Databases.automationSession_commits answered
  obtain ⟨signal, expiresAt, processedMessages, projections, read, stored, rfl⟩ :=
    handleSignalCreated_cases handled
  have automation := placed.automation
  have claimed : AutomationPlaced P { dbs.automation with processedMessages } :=
    { automation with }
  refine placed.commitStore (claimed.materialize ?_)
  intro intent member
  obtain ⟨projection, here, rfl⟩ := List.mem_map.mp member
  exact ⟨signalFromPayload_normal read, automation.projections _ (stored projection here)⟩

theorem placed_subscriptionUpdate (placed : Placed P dbs) {message : EventMessage} {value : Unit}
    (routed : ∀ projection, P.subscriptionProjectionFromPayload message.payload = .ok projection →
      shardIdFor projection.userId = projection.shardId)
    (answered : dbs.automationSession (P.handleSignalSubscriptionUpdate message) =
      .ok (value, after)) : Placed P after := by
  obtain ⟨store, handled, rfl⟩ := Databases.automationSession_commits answered
  obtain ⟨projection, processedMessages, projections, read, rfl, wrote⟩ :=
    handleSignalSubscriptionUpdate_cases handled
  have automation := placed.automation
  refine placed.commitStore { automation with projections := ?_ }
  rcases wrote with rfl | rfl
  · exact automation.projections
  · exact automation.projections.put _ (routed projection read)

theorem placed_profileUpdate (placed : Placed P dbs) {message : EventMessage} {value : Unit}
    (answered : handleProfileUpdate message dbs = .ok (value, after)) : Placed P after := by
  obtain ⟨shardId, processedMessages, rfl⟩ := handleProfileUpdate_commits answered
  exact placed.commitShard { placed.shards shardId with }

/-- A delivery intent that is routed goes through, whatever the shard holds. -/
theorem intentCreated_ok {message : EventMessage} {intent : SignalDeliveryIntent}
    (read : P.deliveryIntentFromPayload message.payload = .ok intent)
    (mine : shardIdFor intent.userId = intent.shardId) (now : Instant) (dbs : Databases) :
    ∃ made shard, P.materializeNotification message.eventId intent now
        (dbs.account (shardIdFor intent.userId)) = (made, shard) ∧
      P.handleSignalDeliveryIntentCreated message now dbs = .ok (made, { dbs with
        account := Function.update dbs.account (shardIdFor intent.userId) shard }) := by
  have configured := shardIdFor_configured intent.userId
  refine ⟨_, _, rfl, ?_⟩
  rw [Platform.handleSignalDeliveryIntentCreated, read]
  simp only [bind, Except.bind, ← mine, if_pos configured]
  exact Databases.accountSession_ok dbs configured fun shard =>
    P.materializeNotification message.eventId intent now shard

theorem placed_intentCreated (placed : Placed P dbs) {message : EventMessage}
    {intent : SignalDeliveryIntent}
    (read : P.deliveryIntentFromPayload message.payload = .ok intent)
    (mine : shardIdFor intent.userId = intent.shardId) :
    Placed P (dbs.commit (P.handleSignalDeliveryIntentCreated message now dbs)) := by
  obtain ⟨made, shard, materialized, handled⟩ := intentCreated_ok read mine now dbs
  rw [handled]
  have shards := placed.shards (shardIdFor intent.userId)
  refine placed.commitShard ?_
  rcases materializeNotification_cases P message.eventId intent now
      (dbs.account (shardIdFor intent.userId)) with
    ⟨processedMessages, same⟩ | ⟨-, processedMessages, created⟩
  · cases materialized.symm.trans same
    exact { shards with }
  · cases materialized.symm.trans created
    exact { shards with notifications := shards.notifications.put _ rfl }

theorem placed_handleMessage (placed : Placed P dbs) {record : OutboxEventRecord}
    (routed : Routed P record) :
    Placed P (dbs.commit (P.handleMessage record.message now newId dbs)) := by
  unfold Platform.handleMessage
  split
  · cases handled : handleProfileUpdate record.message dbs with
    | error failure => exact placed
    | ok answer => exact placed_profileUpdate placed handled
  · split
    · rename_i kind
      cases handled : dbs.automationSession (P.handleSignalSubscriptionUpdate record.message) with
      | error failure => exact placed
      | ok answer => exact placed_subscriptionUpdate placed (routed.update kind) handled
    · split
      · cases handled : dbs.automationSession
            (P.handleSignalCreated record.message now newId) with
        | error failure => exact placed
        | ok answer => exact placed_signalCreated placed handled
      · split
        · rename_i kind
          obtain ⟨intent, read, mine⟩ := routed.intent kind
          exact placed_intentCreated placed read mine
        · exact placed

end Worker

/-! ## One step -/

section Steps

variable {P : Platform} {R : Runtime} {s : State}

/-- An account that is read is one of the table. -/
theorem assigned_of_findByEmail {store : IdentityStore} {email : String} {account : LoginAccount}
    (accounts : store.loginAccounts.All Assigned)
    (found : store.findByEmail email = .ok (some account)) : Assigned account :=
  accounts account (IdentityStore.findByEmail_some found).1

theorem assigned_signup {request : SignupRequest} {userId : Uuid} {salt : List UInt8}
    {now : Instant} {store after : IdentityStore} {response : SignupResponse}
    (accounts : store.loginAccounts.All Assigned)
    (signed : R.signup request userId salt now store = .ok (response, after)) :
    after.loginAccounts.All Assigned := by
  obtain ⟨found, -, rest⟩ := bind_ok signed
  cases found with
  | some account => cases rest
  | none =>
      obtain ⟨saved, save, answer⟩ := bind_ok rest
      cases answer
      rw [IdentityStore.saveAccount_ok save]
      exact accounts.put _ rfl

/-- The session of an account is placed as the account is. -/
theorem afterRead_sessions {now : Instant} {keys after : SessionKeys} {secret password : String}
    {found : Option LoginAccount} (created : afterRead R now keys secret password found = .ok after) :
    ∃ account key last, found = some account ∧
      after.sessions = keys.sessions.set key account.payload last := by
  obtain ⟨account, logged, rest⟩ := bind_ok created
  obtain ⟨session, made, stored⟩ := bind_ok rest
  obtain ⟨-, owner, data⟩ := account.session_ok made
  obtain ⟨key, same⟩ := RedisSessionStore.create_sessions stored
  refine ⟨account, key, now + seconds RedisSessionStore.ttlSeconds, accepted_ok logged, ?_⟩
  rw [same, owner, data]
  rfl

theorem login_payload {account : LoginAccount} (assigned : Assigned account) (sessionId : String) :
    LoginSession ⟨sessionId, account.payload.userId, account.payload.data⟩ account.userId := by
  refine ⟨rfl, ?_⟩
  rw [← assigned]
  rfl

/-- A session that can be had from the store is a login's. -/
theorem Inv.login_get (inv : Inv P s) {sessionId : String} {session : SessionData}
    (got : RedisSessionStore.get s.now s.keys sessionId = .ok (some session)) :
    ∃ user, LoginSession session user := by
  obtain ⟨key, -, answer⟩ := bind_ok got
  cases found : s.keys.sessions.get s.now key with
  | none =>
      rw [found] at answer
      cases answer
  | some payload =>
      rw [found] at answer
      cases answer
      obtain ⟨last, entry, -⟩ := (Expiring.get_eq_some _ _).mp found
      exact inv.sessions key payload last entry sessionId

theorem Inv.routed (inv : Inv P s) {outbox : Outbox} {record : OutboxEventRecord}
    (member : record ∈ records s.dbs outbox) : Routed P record := by
  cases outbox with
  | automation => exact inv.placed.automation.enqueued record member
  | account shardId => exact (inv.placed.shards shardId).announced record member

theorem inv_step (action : Action) (inv : Inv P s) : Inv P (step P R s action) := by
  cases action with
  | wait duration => exact { inv with }
  | signup request userId salt =>
      simp only [step]
      cases signed : R.signup request userId salt s.now s.identity with
      | error failure => exact inv
      | ok answer => exact { inv with accounts := assigned_signup inv.accounts signed }
  | login client request =>
      simp only [step]
      cases found : s.identity.findByEmail (R.normalizeEmail request.email) with
      | error failure => exact inv
      | ok answer =>
          refine { inv with logins := fun other password account held => ?_ }
          simp only [Function.update_apply] at held
          split at held
          · cases held
            exact assigned_of_findByEmail inv.accounts found
          · exact inv.logins other password account held
  | createSession client secret =>
      simp only [step]
      cases held : s.logins client with
      | idle => exact inv
      | read password found =>
          simp only
          cases created : afterRead R s.now s.keys secret password found with
          | error failure => exact inv
          | ok keys =>
              obtain ⟨account, key, last, rfl, stored⟩ := afterRead_sessions created
              refine { inv with sessions := fun other payload bound entry sessionId => ?_ }
              simp only [stored] at entry
              by_cases same : other = key
              · subst same
                rw [Expiring.set_self] at entry
                cases entry
                exact ⟨account.userId, login_payload (inv.logins client password account held) _⟩
              · rw [Expiring.set_of_ne _ _ same] at entry
                exact inv.sessions other payload bound entry sessionId
  | authenticate client sessionId =>
      simp only [step]
      cases got : RedisSessionStore.get s.now s.keys sessionId with
      | error failure => exact inv
      | ok found =>
          refine { inv with clients := fun other session held => ?_ }
          simp only [Function.update_apply] at held
          split at held
          · subst held
            exact inv.login_get got
          · exact inv.clients other session held
  | call client request environ met =>
      simp only [step]
      cases held : s.clients client with
      | none => exact inv
      | some session =>
          obtain ⟨user, login⟩ := inv.clients client session held
          exact { inv with placed := placed_serve inv.placed login request }
  | recordSignal signal eventId =>
      exact { inv with placed := placed_recordSignal inv.placed signal eventId }
  | work outbox position newId =>
      simp only [step]
      cases taken : (records s.dbs outbox)[position]? with
      | none => exact inv
      | some record =>
          have routed := inv.routed (List.mem_of_getElem? taken)
          exact { inv with placed := placed_handleMessage inv.placed routed }

theorem inv_start (P : Platform) (now : Instant) : Inv P (start now) := by
  refine ⟨Table.all_empty, nofun, nofun, nofun, ?_, Table.all_empty, nofun⟩
  intro shardId
  exact ⟨⟨Table.all_empty, Table.all_empty, Table.all_empty, Table.all_empty, Table.all_empty,
    Table.all_empty⟩, nofun⟩

end Steps

/-! ## Whole runs -/

section Runs

variable {P : Platform} {s : State}

theorem Inv.login_authenticated (inv : Inv P s) {session : SessionData}
    (authenticated : Authenticated s session) : ∃ user, LoginSession session user := by
  rcases authenticated with ⟨sessionId, got⟩ | ⟨client, held⟩
  · exact inv.login_get got
  · exact inv.clients client session held

theorem Inv.listed (inv : Inv P s) {session : SessionData}
    (authenticated : Authenticated s session) {shardId : String} {notification : InAppNotification}
    (stored : notification ∈ (s.dbs.account shardId).notifications.rows)
    (mine : session.userId = notification.userId.str) :
    listUserNotifications session s.dbs =
      .ok ((s.dbs.account shardId).listByUserId notification.userId, s.dbs) := by
  obtain ⟨user, login⟩ := inv.login_authenticated authenticated
  obtain rfl : user = notification.userId := Uuid.str_inj.mp (login.userId.symm.trans mine)
  obtain rfl := (inv.placed.shards shardId).notifications notification stored
  rw [listUserNotifications, notificationLocation, login.location]
  simp only [bind, Except.bind]
  rw [s.dbs.accountSession_ok (shardIdFor_configured _) fun shard =>
    (shard.listByUserId notification.userId, shard)]
  simp

theorem Inv.accepted (inv : Inv P s) {record : OutboxEventRecord}
    (enqueued : record ∈ s.dbs.automation.outbox)
    (kind : record.eventType = "signal.delivery-intent.created") (now : Instant)
    (newId : Uuid → String) :
    ∃ made after, P.handleMessage record.message now newId s.dbs = .ok (made, after) ∧
      ∀ notification, made = some notification → notification ∈
        (after.account (shardIdFor notification.userId)).notifications.rows := by
  obtain ⟨intent, read, mine⟩ := (inv.placed.automation.enqueued record enqueued).intent kind
  have decoded : P.deliveryIntentFromPayload record.message.payload = .ok intent := read
  obtain ⟨made, shard, materialized, handled⟩ := intentCreated_ok decoded mine now s.dbs
  have dispatched : P.handleMessage record.message now newId s.dbs =
      P.handleSignalDeliveryIntentCreated record.message now s.dbs := by
    rw [Platform.handleMessage, show record.message.eventType = _ from kind]
    rfl
  refine ⟨made, _, dispatched.trans handled, ?_⟩
  rintro notification rfl
  rcases materializeNotification_cases P record.message.eventId intent now
      (s.dbs.account (shardIdFor intent.userId)) with
    ⟨processedMessages, same⟩ | ⟨-, processedMessages, created⟩
  · cases materialized.symm.trans same
  · cases materialized.symm.trans created
    rw [show (P.notification intent now).userId = intent.userId from rfl]
    simp only [Function.update_self]
    exact Table.mem_rows.mpr ⟨_, Table.find_put_self _ _ _⟩

theorem Inv.placement (inv : Inv P s) : Placement P s where
  rows shardId := (inv.placed.shards shardId).toResident
  listed _ authenticated _ _ stored mine := inv.listed authenticated stored mine
  accepted _ enqueued kind now newId := inv.accepted enqueued kind now newId

/-- **In every run every row is on the shard of its user, where `list_user_notifications` looks
for his notifications, and the worker takes every delivery intent it has enqueued.** -/
theorem rows_on_user_shard (P : Platform) (R : Runtime) (now : Instant) (trace : List Action) :
    Placement P (exec (step P R) (start now) trace) := by
  have inv : Inv P (exec (step P R) (start now) trace) :=
    exec_invariant (fun _ action inv _ => inv_step action inv) (inv_start P now)
      (admissible_true (start now) trace)
  exact inv.placement

end Runs

/-! ## From signup to a notification -/

namespace Delivered

def request : LoginRequest := ⟨"user@example.com", "secret"⟩

def signal : SignalEvent where
  signalId := 5
  stockCode := "005930"
  direction := "buy"
  price := "71000"
  confidence := .finite 1
  observedAt := .aware 0
  expiresAt := some (.aware (seconds 60))

def trace : List Action := [
  .signup ⟨"user@example.com", "secret"⟩ Sample.user [],
  .login 0 request,
  .createSession 0 "drawn",
  .authenticate 0 (RedisSessionStore.tagOf Sample.user.str ++ ".drawn"),
  .call 0 (.subscribe ⟨"005930"⟩) (fun _ => none) Sample.calm,
  .work (.account "2") 0 Uuid.str,
  .recordSignal signal "f1f3b2f4-6b0c-4d5e-9a57-0d7c5f0f7f11",
  .work .automation 0 Uuid.str,
  .work .automation 1 Uuid.str]

example : ["1", "2"].map (fun shardId => ((exec (step Sample.platform Slow.runtime) (start 0)
      trace).dbs.account shardId).notifications.rows.map (·.userId)) = [[], [Sample.user]] := by
  decide +kernel

end Delivered

end KisAutoTrading.Identity.ShardPlacement
