/-
# Worker.MessageHandler — the application message handler

`scripts/run_message_worker.py`: decoding an event payload back into a model, and
the four handlers. Each handler is a function of the message and of the one store
its transaction runs on; an exception is an `.error`, which rolls the transaction
back and sends the message to the dead-letter queue. Values drawn while handling
(the clock, the ids of new outbox rows) are arguments.

`_handle_signal_delivery_intent_created` publishes its realtime hint after the
commit, so its function returns the committed shard together with the hint that
is still to be published.
-/
import KisAutoTrading.Modules.Signal
import Mathlib.Data.List.Sort

namespace KisAutoTrading

open Theory

set_option autoImplicit false

/-! ## Decoding payloads -/

/-- `SignalSubscriptionProjection.model_validate`. -/
def Platform.validateProjection (P : Platform) (payload : Dict) :
    Option SignalSubscriptionProjection := do
  let subscriptionId ← (payload.get "subscription_id").bind P.validateUuid
  let userId ← (payload.get "user_id").bind P.validateUuid
  let shardId ← (payload.get "shard_id").bind validateStr
  let stockCode ← (payload.get "stock_code").bind validateStr
  let enabled ← (payload.get "enabled").bind P.validateBool
  let revision ← (payload.get "revision").bind P.validateInt
  return { subscriptionId, userId, shardId, stockCode, enabled, revision }

/-- A `datetime | None` field: absent and `None` are both accepted. -/
def Platform.validateOptionalDatetime (P : Platform) : Option Json → Option (Option Datetime)
  | none => some none
  | some .null => some none
  | some value => (P.validateDatetime value).map some

/-- `SignalEvent.model_validate`. -/
def Platform.validateSignalEvent (P : Platform) (payload : Dict) : Option SignalEvent := do
  let signalId ← (payload.get "signal_id").bind P.validateUuid
  let stockCode ← (payload.get "stock_code").bind validateStr
  let direction ← (payload.get "direction").bind validateStr
  let price ← (payload.get "price").bind validateStr
  let confidence ← (payload.get "confidence").bind P.validateFloat
  let observedAt ← (payload.get "observed_at").bind P.validateDatetime
  let expiresAt ← P.validateOptionalDatetime (payload.get "expires_at")
  return { signalId, stockCode, direction, price, confidence, observedAt, expiresAt }

/-- `SignalDeliveryIntent.model_validate`, with the default of `status`. -/
def Platform.validateDeliveryIntent (P : Platform) (payload : Dict) :
    Option SignalDeliveryIntent := do
  let intentId ← (payload.get "intent_id").bind P.validateUuid
  let signalId ← (payload.get "signal_id").bind P.validateUuid
  let subscriptionId ← (payload.get "subscription_id").bind P.validateUuid
  let userId ← (payload.get "user_id").bind P.validateUuid
  let shardId ← (payload.get "shard_id").bind validateStr
  let stockCode ← (payload.get "stock_code").bind validateStr
  let expiresAt ← (payload.get "expires_at").bind P.validateDatetime
  let status ← ((payload.get "status").map validateStr).getD (some "pending")
  return { intentId, signalId, subscriptionId, userId, shardId, stockCode, expiresAt, status }

/-- `_subscription_projection_from_payload`. -/
def Platform.subscriptionProjectionFromPayload (P : Platform) (payload : Dict) :
    Except Failure SignalSubscriptionProjection :=
  match P.validateProjection payload with
  | none => .error (.raised .valueError "Invalid signal subscription event payload")
  | some projection =>
      match normalizeDomesticStockCode projection.stockCode with
      | none => .error (.raised .valueError "Invalid signal subscription event payload")
      | some stockCode => .ok { projection with stockCode }

/-- `_signal_from_payload`. -/
def Platform.signalFromPayload (P : Platform) (payload : Dict) : Except Failure SignalEvent :=
  match P.validateSignalEvent payload with
  | none => .error (.raised .valueError "Invalid signal event payload")
  | some signal =>
      match normalizeDomesticStockCode signal.stockCode with
      | none => .error (.raised .valueError "Invalid signal event payload")
      | some stockCode => .ok { signal with stockCode }

/-- `_delivery_intent_from_payload`. -/
def Platform.deliveryIntentFromPayload (P : Platform) (payload : Dict) :
    Except Failure SignalDeliveryIntent :=
  match P.validateDeliveryIntent payload with
  | none => .error (.raised .valueError "Invalid signal delivery intent event payload")
  | some intent =>
      match normalizeDomesticStockCode intent.stockCode with
      | none => .error (.raised .valueError "Invalid signal delivery intent event payload")
      | some stockCode => .ok { intent with stockCode }

/-! ## Profile and subscription events -/

/-- `_handle_profile_update`: the shard named by the payload claims the event. -/
def handleProfileUpdate (message : EventMessage) (dbs : Databases) :
    Except Failure (Unit × Databases) :=
  match message.payload.get "shard_id" with
  | some (.str shardId) =>
      if shardId ∈ accountShardIds then
        dbs.accountSession ⟨"account", some shardId⟩ fun shard =>
          .ok ((), { shard with
            processedMessages := (shard.processedMessages.claim message.eventId).2 })
      else .error (.raised .valueError "Invalid account shard")
  | _ => .error (.raised .valueError "Invalid account shard")

theorem handleProfileUpdate_commits {message : EventMessage} {dbs after : Databases} {value : Unit}
    (handled : handleProfileUpdate message dbs = .ok (value, after)) :
    ∃ shardId processedMessages, after = { dbs with
      account := Function.update dbs.account shardId
        { dbs.account shardId with processedMessages } } := by
  unfold handleProfileUpdate at handled
  split at handled
  · rename_i shardId _
    split at handled
    · rename_i configured
      rw [Databases.accountSession_ok dbs configured fun shard => ((), { shard with
        processedMessages := (shard.processedMessages.claim message.eventId).2 })] at handled
      cases handled
      exact ⟨shardId, _, rfl⟩
    · cases handled
  · cases handled

/-- The stale test and the save of `_handle_signal_subscription_update`, given the
projection row that was read: `none` when the event is skipped. -/
def projectionWrite (projection : SignalSubscriptionProjection)
    (existing : Option SignalSubscriptionProjection) : Option SignalSubscriptionProjection :=
  match existing with
  | some row => if row.revision ≥ projection.revision then none else some projection
  | none => some projection

theorem projectionWrite_none {p : SignalSubscriptionProjection}
    {existing : Option SignalSubscriptionProjection} (skipped : projectionWrite p existing = none) :
    ∃ old, existing = some old ∧ p.revision ≤ old.revision := by
  cases existing with
  | none => cases skipped
  | some old =>
      by_cases stale : old.revision ≥ p.revision
      · exact ⟨old, rfl, stale⟩
      · simp [projectionWrite, stale] at skipped

theorem projectionWrite_some {p row : SignalSubscriptionProjection}
    {existing : Option SignalSubscriptionProjection}
    (written : projectionWrite p existing = some row) :
    row = p ∧ ∀ old, existing = some old → old.revision < p.revision := by
  cases existing with
  | none => exact ⟨(Option.some.inj written).symm, fun old found => by cases found⟩
  | some old =>
      by_cases stale : old.revision ≥ p.revision
      · simp [projectionWrite, stale] at written
      · simp only [projectionWrite, stale, if_false, Option.some.injEq] at written
        refine ⟨written.symm, ?_⟩
        rintro _ ⟨⟩
        omega

/-- `_handle_signal_subscription_update`. -/
def Platform.handleSignalSubscriptionUpdate (P : Platform) (message : EventMessage)
    (store : AutomationStore) : Except Failure (Unit × AutomationStore) := do
  let projection ← P.subscriptionProjectionFromPayload message.payload
  let (claimed, processedMessages) := store.processedMessages.claim message.eventId
  if claimed then
    let store := { store with processedMessages }
    let existing := store.subscriptionProjections.find projection.subscriptionId
    match projectionWrite projection existing with
    | none => .ok ((), store)
    | some row =>
        .ok ((), { store with
          subscriptionProjections := store.subscriptionProjections.put row.subscriptionId row })
  else .ok ((), store)

/-- All a subscription event can do to the store. -/
theorem handleSignalSubscriptionUpdate_cases {P : Platform} {message : EventMessage}
    {store after : AutomationStore} {value : Unit}
    (handled : P.handleSignalSubscriptionUpdate message store = .ok (value, after)) :
    ∃ projection processedMessages subscriptionProjections,
      P.subscriptionProjectionFromPayload message.payload = .ok projection ∧
      after = { store with processedMessages, subscriptionProjections } ∧
      (subscriptionProjections = store.subscriptionProjections ∨
        subscriptionProjections =
          store.subscriptionProjections.put projection.subscriptionId projection) := by
  unfold Platform.handleSignalSubscriptionUpdate at handled
  cases read : P.subscriptionProjectionFromPayload message.payload with
  | error failure => simp [read, bind, Except.bind] at handled
  | ok projection =>
      simp only [read, bind, Except.bind] at handled
      split at handled
      · split at handled
        · cases handled
          exact ⟨projection, _, _, rfl, rfl, .inl rfl⟩
        · rename_i row written
          obtain ⟨rfl, -⟩ := projectionWrite_some written
          cases handled
          exact ⟨row, _, _, rfl, rfl, .inr rfl⟩
      · cases handled
        exact ⟨projection, store.processedMessages, _, rfl, rfl, .inl rfl⟩

/-! ## Signal events: fan-out to delivery intents -/

/-- The query of `list_enabled_signal_subscriptions`: the enabled projections of a
stock code in the order of their subscription ids, at most `limit` of them. -/
def selectEnabled (projections : Table Uuid SignalSubscriptionProjection) (stockCode : String)
    (limit : Nat) : List SignalSubscriptionProjection :=
  ((projections.rows.filter fun row => row.stockCode = stockCode ∧ row.enabled = true).insertionSort
    fun a b => a.subscriptionId ≤ b.subscriptionId).take limit

/-- `list_enabled_signal_subscriptions`. -/
def listEnabledSignalSubscriptions (projections : Table Uuid SignalSubscriptionProjection)
    (stockCode : String) (limit : Nat) : Except Failure (List SignalSubscriptionProjection) :=
  match normalizeDomesticStockCode stockCode with
  | none => .error (.raised .valueError stockCodeError)
  | some normalized => .ok (selectEnabled projections normalized limit)

def intentName (signalId subscriptionId : Uuid) : String :=
  signalId.str ++ (":" ++ subscriptionId.str)

/-- The intent the loop builds for one projection. -/
def Platform.deliveryIntent (P : Platform) (signal : SignalEvent) (expiresAt : Datetime)
    (projection : SignalSubscriptionProjection) : SignalDeliveryIntent where
  intentId := P.uuid5 namespaceUrl (intentName signal.signalId projection.subscriptionId)
  signalId := signal.signalId
  subscriptionId := projection.subscriptionId
  userId := projection.userId
  shardId := projection.shardId
  stockCode := signal.stockCode
  expiresAt := expiresAt

/-- `intent.model_dump(mode="json")`. -/
def Platform.dumpDeliveryIntent (P : Platform) (intent : SignalDeliveryIntent) : Dict := [
  ("intent_id", .str intent.intentId.str),
  ("signal_id", .str intent.signalId.str),
  ("subscription_id", .str intent.subscriptionId.str),
  ("user_id", .str intent.userId.str),
  ("shard_id", .str intent.shardId),
  ("stock_code", .str intent.stockCode),
  ("expires_at", P.dumpDatetime intent.expiresAt),
  ("status", .str intent.status)]

def Platform.deliveryIntentMessage (P : Platform) (intent : SignalDeliveryIntent)
    (eventId : String) (now : Instant) : EventMessage where
  eventType := "signal.delivery-intent.created"
  aggregateId := intent.intentId.str
  routingKey := inAppNotificationRoutingKey
  payload := P.dumpDeliveryIntent intent
  eventId := eventId
  occurredAt := now

/-- One pass of the loop: an intent that is not stored yet is saved with its event. -/
def Platform.materializeIntent (P : Platform) (newId : Uuid → String) (now : Instant)
    (store : AutomationStore) (intent : SignalDeliveryIntent) : AutomationStore :=
  match store.deliveryIntents.find intent.intentId with
  | some _ => store
  | none =>
      { store with
        deliveryIntents := store.deliveryIntents.put intent.intentId intent
        outbox := store.outbox ++
          [outboxRecord (P.deliveryIntentMessage intent (newId intent.intentId) now)] }

/-- The limit `_handle_signal_created` passes to the subscriber query. -/
def fanOutLimit : Nat := 1000

/-- `_handle_signal_created`. The query runs in a session of its own and sees the
committed projections. `newId` gives the event id of each new outbox row. -/
def Platform.handleSignalCreated (P : Platform) (message : EventMessage) (now : Instant)
    (newId : Uuid → String) (store : AutomationStore) :
    Except Failure (Unit × AutomationStore) := do
  let signal ← P.signalFromPayload message.payload
  let (claimed, processedMessages) := store.processedMessages.claim message.eventId
  if claimed then
    let claimedStore := { store with processedMessages }
    match signal.expiresAt with
    | none => .ok ((), claimedStore)
    | some (.naive _) =>
        .error (.raised .typeError "can't compare offset-naive and offset-aware datetimes")
    | some (.aware expiry) =>
        if expiry ≤ now then .ok ((), claimedStore)
        else do
          let projections ←
            listEnabledSignalSubscriptions store.subscriptionProjections signal.stockCode fanOutLimit
          .ok ((), (projections.map (P.deliveryIntent signal (.aware expiry))).foldl
            (P.materializeIntent newId now) claimedStore)
  else .ok ((), store)

theorem signalFromPayload_normal {P : Platform} {payload : Dict} {signal : SignalEvent}
    (read : P.signalFromPayload payload = .ok signal) :
    normalizeDomesticStockCode signal.stockCode = some signal.stockCode := by
  unfold Platform.signalFromPayload at read
  split at read
  · cases read
  · split at read
    · cases read
    · rename_i normalized
      cases read
      exact normalize_idem normalized

/-- The subscriber query of a signal that was decoded: its code is normal already. -/
theorem listEnabledSignalSubscriptions_ok (projections : Table Uuid SignalSubscriptionProjection)
    {stockCode : String} (normal : normalizeDomesticStockCode stockCode = some stockCode)
    (limit : Nat) :
    listEnabledSignalSubscriptions projections stockCode limit =
      .ok (selectEnabled projections stockCode limit) := by
  rw [listEnabledSignalSubscriptions, normal]

/-- All a signal event can do to the store: intents of some projections are materialized. -/
theorem handleSignalCreated_cases {P : Platform} {message : EventMessage} {now : Instant}
    {newId : Uuid → String} {store after : AutomationStore} {value : Unit}
    (handled : P.handleSignalCreated message now newId store = .ok (value, after)) :
    ∃ signal expiresAt processedMessages, ∃ projections : List SignalSubscriptionProjection,
      P.signalFromPayload message.payload = .ok signal ∧
      (∀ projection ∈ projections, projection ∈ store.subscriptionProjections.rows) ∧
      after = (projections.map (P.deliveryIntent signal expiresAt)).foldl
        (P.materializeIntent newId now) { store with processedMessages } := by
  unfold Platform.handleSignalCreated at handled
  cases read : P.signalFromPayload message.payload with
  | error failure => simp [read, bind, Except.bind] at handled
  | ok signal =>
      simp only [read, bind, Except.bind] at handled
      split at handled
      · split at handled
        · cases handled
          exact ⟨signal, .aware now, _, [], rfl, by simp, rfl⟩
        · cases handled
        · rename_i expiry _
          rw [listEnabledSignalSubscriptions_ok _ (signalFromPayload_normal read)] at handled
          split at handled
          · cases handled
            exact ⟨signal, .aware now, _, [], rfl, by simp, rfl⟩
          · cases handled
            refine ⟨signal, .aware expiry, _, _, rfl, ?_, rfl⟩
            intro projection member
            have sorted := List.mem_of_mem_take member
            rw [List.mem_insertionSort] at sorted
            exact (List.mem_filter.mp sorted).1
      · cases handled
        exact ⟨signal, .aware now, store.processedMessages, [], rfl, by simp, rfl⟩

/-! ## Delivery intents: in-app notifications -/

def notificationName (intentId : Uuid) : String := "in-app-notification:" ++ intentId.str

/-- The notification built for an intent. -/
def Platform.notification (P : Platform) (intent : SignalDeliveryIntent) (now : Instant) :
    InAppNotification where
  notificationId := P.uuid5 namespaceUrl (notificationName intent.intentId)
  deliveryIntentId := intent.intentId
  userId := intent.userId
  signalId := intent.signalId
  stockCode := intent.stockCode
  createdAt := now

/-- The transaction of `_handle_signal_delivery_intent_created` on the shard the
intent names; the notification is returned when it was created. -/
def Platform.materializeNotification (P : Platform) (eventId : String)
    (intent : SignalDeliveryIntent) (now : Instant) (shard : AccountShard) :
    Option InAppNotification × AccountShard :=
  let (claimed, processedMessages) := shard.processedMessages.claim eventId
  if claimed then
    let shard := { shard with processedMessages }
    let notification := P.notification intent now
    match shard.notifications.find notification.notificationId with
    | some _ => (none, shard)
    | none =>
        (some notification, { shard with
          notifications := shard.notifications.put notification.notificationId notification })
  else (none, shard)

/-- All a delivery intent can do to the shard. -/
theorem materializeNotification_cases (P : Platform) (eventId : String)
    (intent : SignalDeliveryIntent) (now : Instant) (shard : AccountShard) :
    (∃ processedMessages, P.materializeNotification eventId intent now shard =
        (none, { shard with processedMessages })) ∨
      shard.notifications.find (P.notification intent now).notificationId = none ∧
        ∃ processedMessages, P.materializeNotification eventId intent now shard =
          (some (P.notification intent now), { shard with
            processedMessages
            notifications := shard.notifications.put (P.notification intent now).notificationId
              (P.notification intent now) }) := by
  unfold Platform.materializeNotification Inbox.claim
  by_cases seen : eventId ∈ shard.processedMessages
  · simp only [seen, if_true, Bool.false_eq_true, if_false]
    exact .inl ⟨shard.processedMessages, rfl⟩
  · simp only [seen, if_true, if_false]
    cases found : shard.notifications.find (P.notification intent now).notificationId with
    | some other => exact .inl ⟨_, rfl⟩
    | none => exact .inr ⟨rfl, _, rfl⟩

/-- `_handle_signal_delivery_intent_created` up to the commit: the databases after
it, and the notification whose hint is to be published. -/
def Platform.handleSignalDeliveryIntentCreated (P : Platform) (message : EventMessage)
    (now : Instant) (dbs : Databases) : Except Failure (Option InAppNotification × Databases) := do
  let intent ← P.deliveryIntentFromPayload message.payload
  if intent.shardId ∈ accountShardIds then
    dbs.accountSession ⟨"account", some intent.shardId⟩ fun shard =>
      .ok (P.materializeNotification message.eventId intent now shard)
  else .error (.raised .valueError "Invalid account shard")

/-- `ApplicationMessageHandler.handle`. -/
def Platform.handleMessage (P : Platform) (message : EventMessage) (now : Instant)
    (newId : Uuid → String) (dbs : Databases) :
    Except Failure (Option InAppNotification × Databases) :=
  if message.eventType = "account.profile.updated" then
    (handleProfileUpdate message dbs).map fun (_, dbs) => (none, dbs)
  else if message.eventType = "signal.subscription.updated" then
    (dbs.automationSession (P.handleSignalSubscriptionUpdate message)).map
      fun (_, dbs) => (none, dbs)
  else if message.eventType = "signal.created" then
    (dbs.automationSession (P.handleSignalCreated message now newId)).map
      fun (_, dbs) => (none, dbs)
  else if message.eventType = "signal.delivery-intent.created" then
    P.handleSignalDeliveryIntentCreated message now dbs
  else .error (.raised .valueError ("Unsupported event type: " ++ message.eventType))

/-! ## Round trips of the payloads the program writes -/

theorem validateProjection_of_update (P : Platform) (subscription : SignalSubscription)
    (shardId eventId : String) (now : Instant) :
    P.validateProjection
        (recordSubscriptionUpdate subscription ⟨"account", some shardId⟩ eventId now).payload =
      some ⟨subscription.subscriptionId, subscription.userId, shardId, subscription.stockCode,
        subscription.enabled, subscription.revision⟩ := by
  simp [Platform.validateProjection, recordSubscriptionUpdate, outboxRecord, Dict.get,
    List.lookup_cons, validateStr, P.validateUuid_str, P.validateBool_bool, P.validateInt_int]

theorem subscriptionProjection_of_update (P : Platform) {subscription : SignalSubscription}
    (shardId eventId : String) (now : Instant)
    (normal : normalizeDomesticStockCode subscription.stockCode = some subscription.stockCode) :
    P.subscriptionProjectionFromPayload
        (recordSubscriptionUpdate subscription ⟨"account", some shardId⟩ eventId now).payload =
      .ok ⟨subscription.subscriptionId, subscription.userId, shardId, subscription.stockCode,
        subscription.enabled, subscription.revision⟩ := by
  simp [Platform.subscriptionProjectionFromPayload, validateProjection_of_update, normal]

theorem deliveryIntent_of_message (P : Platform) {intent : SignalDeliveryIntent}
    (eventId : String) (now : Instant)
    (normal : normalizeDomesticStockCode intent.stockCode = some intent.stockCode) :
    P.deliveryIntentFromPayload (P.deliveryIntentMessage intent eventId now).payload =
      .ok intent := by
  simp [Platform.deliveryIntentFromPayload, Platform.validateDeliveryIntent,
    Platform.deliveryIntentMessage, Platform.dumpDeliveryIntent, Dict.get, List.lookup_cons, validateStr,
    P.validateUuid_str, P.validateDatetime_dump, normal]

end KisAutoTrading
