/-
# Signal.Delivery — from signals to notifications, at most once

A run mixes every step of the pipeline in any order: signals are recorded,
subscription, signal and delivery-intent events are handled (again and again, or
not to the end), notifications are marked read, and the realtime hint of a
notification is published some time after its commit or never. Messages of the
first two kinds may carry anything; delivery-intent events are those the fan-out
has enqueued. What counts as published is the worker's call of `publish`, not the copies
of it on the topic: one call may put two there, when the answer of the first attempt is lost.

Three facts carry everything. An intent sits under the name-based id of its signal
and subscription and is never written twice (`Grows`), so its event is enqueued
once. A notification sits under the name-based id of its intent on the shard that
intent names. A hint becomes due only in the transaction that inserts its
notification. None of them needs `uuid5` to be injective: a collision would lose a
delivery, not repeat one.
-/
import KisAutoTrading.Modules.Notification
import KisAutoTrading.Theory.Runs
import KisAutoTrading.Worker.MessageHandler

namespace KisAutoTrading.Signal.Delivery

open Theory Theory.Runs

set_option autoImplicit false

/-- A committed notification with the shard it is on. -/
abbrev Hint : Type := String × InAppNotification

/-- The databases, the hints still to be published, and those the worker has called `publish` with. -/
structure State where
  dbs : Databases
  due : List Hint
  published : List Hint

def State.empty : State := ⟨.empty, [], []⟩

inductive Action where
  | recordSignal (signal : SignalEvent) (eventId : String) (now : Instant)
  | subscriptionUpdated (message : EventMessage)
  | signalCreated (message : EventMessage) (now : Instant) (newId : Uuid → String)
  | intentCreated (message : EventMessage) (now : Instant)
  /-- The handler raises or its process stops before the commit. -/
  | handlerFails (message : EventMessage)
  | publishHint (hint : Hint)
  /-- Redis refuses the hint, or the process stops after the commit. -/
  | loseHint (hint : Hint)
  | markRead (notificationId : Uuid) (session : SessionData) (now : Instant)

/-- The hint a handled delivery-intent event leaves due. -/
def dueHint (P : Platform) (message : EventMessage) :
    Except Failure (Option InAppNotification × Databases) → List Hint
  | .ok (some notification, _) =>
      match P.deliveryIntentFromPayload message.payload with
      | .ok intent => [(intent.shardId, notification)]
      | .error _ => []
  | _ => []

def step (P : Platform) (s : State) : Action → State
  | .recordSignal signal eventId now =>
      { s with dbs := s.dbs.commit (P.recordSignal signal eventId now s.dbs) }
  | .subscriptionUpdated message =>
      { s with
        dbs := s.dbs.commit (s.dbs.automationSession (P.handleSignalSubscriptionUpdate message)) }
  | .signalCreated message now newId =>
      { s with
        dbs := s.dbs.commit (s.dbs.automationSession (P.handleSignalCreated message now newId)) }
  | .intentCreated message now =>
      let result := P.handleSignalDeliveryIntentCreated message now s.dbs
      { s with dbs := s.dbs.commit result, due := s.due ++ dueHint P message result }
  | .handlerFails _ => s
  | .publishHint hint =>
      if hint ∈ s.due then
        { s with due := s.due.erase hint, published := s.published ++ [hint] }
      else s
  | .loseHint hint => { s with due := s.due.erase hint }
  | .markRead notificationId session now =>
      { s with dbs := s.dbs.commit (markUserNotificationRead notificationId session now s.dbs) }

def run (P : Platform) (trace : List Action) : State := exec (step P) .empty trace

def deliveryIntentEvent : String := "signal.delivery-intent.created"

/-- The delivery-intent events among the outbox records. -/
def Allowed (s : State) : Action → Prop
  | .intentCreated message _ => ∃ record ∈ s.dbs.automation.outbox,
      record.eventType = deliveryIntentEvent ∧ message = record.message
  | _ => True

/-- The events enqueued for one intent. -/
def intentEvents (store : AutomationStore) (id : Uuid) : List OutboxEventRecord :=
  store.outbox.filter fun record =>
    record.eventType = deliveryIntentEvent ∧ record.aggregateId = id.str

/-- The committed notification on a shard. -/
def State.notification (s : State) (shardId : String) (id : Uuid) : Option InAppNotification :=
  (s.dbs.account shardId).notifications.find id

/-! ## Intents and their events -/

structure IntentInv (P : Platform) (store : AutomationStore) : Prop where
  named : ∀ id intent, store.deliveryIntents.find id = some intent →
    intent.intentId = id ∧
      id = P.uuid5 namespaceUrl (intentName intent.signalId intent.subscriptionId)
  enqueued : ∀ id intent, store.deliveryIntents.find id = some intent →
    ∃ record, intentEvents store id = [record] ∧
      P.deliveryIntentFromPayload record.payload = .ok intent
  /-- Every delivery-intent event decodes to the stored intent it names. -/
  origin : ∀ record ∈ store.outbox, record.eventType = deliveryIntentEvent →
    ∃ intent, store.deliveryIntents.find intent.intentId = some intent ∧
      record.aggregateId = intent.intentId.str ∧
      P.deliveryIntentFromPayload record.payload = .ok intent

/-- A transaction that keeps the invariant and every stored intent. -/
structure Grows (P : Platform) (store store' : AutomationStore) : Prop where
  keeps : IntentInv P store → IntentInv P store'
  extends_ : ∀ id intent, store.deliveryIntents.find id = some intent →
    store'.deliveryIntents.find id = some intent

section Intents

variable {P : Platform} {store store' : AutomationStore}

theorem Grows.trans {store'' : AutomationStore} (first : Grows P store store')
    (second : Grows P store' store'') : Grows P store store'' :=
  ⟨fun inv => second.keeps (first.keeps inv),
    fun id intent found => second.extends_ id intent (first.extends_ id intent found)⟩

/-- Records of other kinds do not matter. -/
theorem Grows.of_same (intents : store'.deliveryIntents = store.deliveryIntents)
    (records : ∃ others, store'.outbox = store.outbox ++ others ∧
      ∀ record ∈ others, record.eventType ≠ deliveryIntentEvent) : Grows P store store' := by
  obtain ⟨others, outbox, kinds⟩ := records
  have events : ∀ id, intentEvents store' id = intentEvents store id := by
    intro id
    have none : others.filter (fun record =>
        record.eventType = deliveryIntentEvent ∧ record.aggregateId = id.str) = [] := by
      rw [List.filter_eq_nil_iff]
      intro record member
      simp [kinds record member]
    simp only [intentEvents, outbox, List.filter_append, none, List.append_nil]
  refine ⟨fun inv => ⟨?_, ?_, ?_⟩, ?_⟩
  · rw [intents]
    exact inv.named
  · intro id intent found
    rw [intents] at found
    rw [events]
    exact inv.enqueued id intent found
  · intro record member kind
    rw [outbox] at member
    rw [intents]
    rcases List.mem_append.mp member with old | new
    · exact inv.origin record old kind
    · exact absurd kind (kinds record new)
  · intro id intent found
    rw [intents]
    exact found

theorem IntentInv.no_events (inv : IntentInv P store) {id : Uuid}
    (absent : store.deliveryIntents.find id = none) : intentEvents store id = [] := by
  rw [intentEvents, List.filter_eq_nil_iff]
  intro record member matching
  simp only [decide_eq_true_eq] at matching
  obtain ⟨intent, found, names, -⟩ := inv.origin record member matching.1
  have same : id = intent.intentId := Uuid.str_inj.mp (matching.2.symm.trans names)
  rw [← same, absent] at found
  cases found

/-- What the loop builds is under the id of its signal and subscription. -/
structure WellNamed (P : Platform) (intent : SignalDeliveryIntent) : Prop where
  intentId_eq : intent.intentId =
    P.uuid5 namespaceUrl (intentName intent.signalId intent.subscriptionId)
  normal : normalizeDomesticStockCode intent.stockCode = some intent.stockCode

theorem materializeIntent_grows (newId : Uuid → String) (now : Instant) (store : AutomationStore)
    {intent : SignalDeliveryIntent} (wellNamed : WellNamed P intent) :
    Grows P store (P.materializeIntent newId now store intent) := by
  unfold Platform.materializeIntent
  cases absent : store.deliveryIntents.find intent.intentId with
  | some other => exact .of_same rfl ⟨[], by simp⟩
  | none =>
      have decoded := deliveryIntent_of_message P (newId intent.intentId) now wellNamed.normal
      refine ⟨fun inv => ⟨?_, ?_, ?_⟩, ?_⟩
      · intro id other found
        rw [Table.find_put] at found
        split at found
        · rename_i same
          cases found
          exact ⟨same.symm, same.trans wellNamed.intentId_eq⟩
        · exact inv.named id other found
      · intro id other found
        have events := inv.no_events absent
        rw [Table.find_put] at found
        simp only [intentEvents, List.filter_append] at events ⊢
        split at found
        · rename_i same
          subst same
          cases found
          refine ⟨outboxRecord (P.deliveryIntentMessage intent (newId intent.intentId) now), ?_,
            decoded⟩
          rw [events]
          simp [outboxRecord, Platform.deliveryIntentMessage, deliveryIntentEvent]
        · rename_i different
          obtain ⟨record, single, reads⟩ := inv.enqueued id other found
          refine ⟨record, ?_, reads⟩
          rw [intentEvents] at single
          rw [single]
          have apart : intent.intentId.str ≠ id.str := fun same =>
            different (Uuid.str_inj.mp same).symm
          simp [outboxRecord, Platform.deliveryIntentMessage, apart]
      · intro record member kind
        rcases List.mem_append.mp member with old | new
        · obtain ⟨other, found, names, reads⟩ := inv.origin record old kind
          refine ⟨other, ?_, names, reads⟩
          rw [Table.find_put_of_ne _ _ fun same => ?_]
          · exact found
          · rw [same, absent] at found
            cases found
        · obtain rfl := List.mem_singleton.mp new
          exact ⟨intent, by simp, rfl, decoded⟩
      · intro id other found
        rw [Table.find_put_of_ne _ _ fun same => ?_]
        · exact found
        · rw [same, absent] at found
          cases found

theorem foldl_materializeIntent_grows (newId : Uuid → String) (now : Instant)
    {intents : List SignalDeliveryIntent} (wellNamed : ∀ intent ∈ intents, WellNamed P intent)
    (store : AutomationStore) :
    Grows P store (intents.foldl (P.materializeIntent newId now) store) := by
  induction intents generalizing store with
  | nil => exact .of_same rfl ⟨[], by simp⟩
  | cons intent rest ih =>
      exact (materializeIntent_grows newId now store (wellNamed intent (by simp))).trans
        (ih (fun other member => wellNamed other (by simp [member])) _)

theorem deliveryIntent_wellNamed {signal : SignalEvent} (expiresAt : Datetime)
    (normal : normalizeDomesticStockCode signal.stockCode = some signal.stockCode)
    (projection : SignalSubscriptionProjection) :
    WellNamed P (P.deliveryIntent signal expiresAt projection) :=
  ⟨rfl, normal⟩

theorem handleSignalCreated_grows {message : EventMessage} {now : Instant} {newId : Uuid → String}
    {value : Unit} (handled : P.handleSignalCreated message now newId store = .ok (value, store')) :
    Grows P store store' := by
  obtain ⟨signal, expiresAt, processedMessages, projections, read, -, rfl⟩ :=
    handleSignalCreated_cases handled
  have claimed : Grows P store { store with processedMessages } := .of_same rfl ⟨[], by simp⟩
  refine claimed.trans (foldl_materializeIntent_grows newId now ?_ _)
  intro intent member
  obtain ⟨projection, -, rfl⟩ := List.mem_map.mp member
  exact deliveryIntent_wellNamed _ (signalFromPayload_normal read) projection

theorem handleSignalSubscriptionUpdate_grows {message : EventMessage} {value : Unit}
    (handled : P.handleSignalSubscriptionUpdate message store = .ok (value, store')) :
    Grows P store store' := by
  obtain ⟨projection, processedMessages, subscriptionProjections, -, rfl, -⟩ :=
    handleSignalSubscriptionUpdate_cases handled
  exact .of_same rfl ⟨[], by simp⟩

/-- A transaction on the automation store that grows it, seen from all databases. -/
theorem commit_grows {α : Type} (dbs : Databases)
    (body : AutomationStore → Except Failure (α × AutomationStore))
    (grows : ∀ value store', body dbs.automation = .ok (value, store') →
      Grows P dbs.automation store') :
    Grows P dbs.automation (dbs.commit (dbs.automationSession body)).automation ∧
      (dbs.commit (dbs.automationSession body)).account = dbs.account := by
  unfold Databases.automationSession
  cases handled : body dbs.automation with
  | error failure => exact ⟨.of_same rfl ⟨[], by simp [Databases.commit]⟩, rfl⟩
  | ok result => exact ⟨grows result.1 result.2 handled, rfl⟩

theorem recordSignal_grows (signal : SignalEvent) (eventId : String) (now : Instant)
    (dbs : Databases) :
    Grows P dbs.automation (dbs.commit (P.recordSignal signal eventId now dbs)).automation ∧
      (dbs.commit (P.recordSignal signal eventId now dbs)).account = dbs.account := by
  refine commit_grows dbs _ fun value store' recorded => ?_
  dsimp only at recorded
  split at recorded
  · cases recorded
    exact .of_same rfl ⟨[], by simp⟩
  · split at recorded
    · cases recorded
      refine .of_same rfl ⟨_, rfl, ?_⟩
      intro record member
      obtain rfl := List.mem_singleton.mp member
      simp [Platform.signalCreated, outboxRecord, deliveryIntentEvent]
    · cases recorded
      exact .of_same rfl ⟨[], by simp⟩

end Intents

/-! ## Notifications and hints -/

/-- The row a hint is about. -/
def hintRow (hint : Hint) : String × Uuid := (hint.1, hint.2.notificationId)

structure Inv (P : Platform) (s : State) : Prop where
  intents : IntentInv P s.dbs.automation
  notifications : ∀ shardId id notification, s.notification shardId id = some notification →
    notification.notificationId = id ∧
      id = P.uuid5 namespaceUrl (notificationName notification.deliveryIntentId) ∧
      ∃ intent, s.dbs.automation.deliveryIntents.find notification.deliveryIntentId = some intent ∧
        intent.shardId = shardId
  hintsOnce : ((s.published ++ s.due).map hintRow).Nodup
  hintsCommitted : ∀ hint ∈ s.published ++ s.due,
    (s.notification hint.1 hint.2.notificationId).isSome

/-- How one step may change a committed notification: not at all, or its `read_at`
from unset to set when it is a request to mark it read. -/
def Preserves (s s' : State) (markedRead : Bool) : Prop :=
  ∀ shardId id notification, s.notification shardId id = some notification →
    s'.notification shardId id = some notification ∨
      markedRead = true ∧ notification.readAt = none ∧
        ∃ now, s'.notification shardId id = some { notification with readAt := some now }

def Action.isMarkRead : Action → Bool
  | .markRead _ _ _ => true
  | _ => false

section Steps

variable {P : Platform} {s s' : State}

theorem Preserves.trans {s'' : State} (first : Preserves s s' true)
    (second : Preserves s' s'' true) : Preserves s s'' true := by
  intro shardId id notification found
  rcases first shardId id notification found with same | ⟨-, unread, now, marked⟩
  · exact second shardId id notification same
  · rcases second shardId id _ marked with same | ⟨-, impossible, -⟩
    · exact .inr ⟨rfl, unread, now, same⟩
    · cases impossible

theorem Preserves.mono {markedRead : Bool} (preserves : Preserves s s' markedRead) :
    Preserves s s' true := by
  intro shardId id notification found
  rcases preserves shardId id notification found with same | ⟨-, changed⟩
  · exact .inl same
  · exact .inr ⟨rfl, changed⟩

theorem Preserves.of_same {markedRead : Bool} (same : s'.dbs.account = s.dbs.account) :
    Preserves s s' markedRead := by
  intro shardId id notification found
  rw [State.notification, same]
  exact .inl found

/-- A step of the automation store leaves notifications and hints alone. -/
theorem Inv.of_grows (inv : Inv P s) {dbs : Databases}
    (grows : Grows P s.dbs.automation dbs.automation ∧ dbs.account = s.dbs.account) :
    Inv P { s with dbs } := by
  obtain ⟨grows, account⟩ := grows
  have same : ∀ shardId id, State.notification { s with dbs } shardId id =
      s.notification shardId id := by
    intro shardId id
    simp only [State.notification, account]
  refine ⟨grows.keeps inv.intents, ?_, inv.hintsOnce, ?_⟩
  · intro shardId id notification found
    rw [same] at found
    obtain ⟨key, named, intent, stored, shard⟩ := inv.notifications shardId id notification found
    exact ⟨key, named, intent, grows.extends_ _ _ stored, shard⟩
  · intro hint member
    rw [same]
    exact inv.hintsCommitted hint member

/-- Everything handling a delivery-intent event can do: nothing to the notifications,
or insert the one of its intent, whose hint becomes due. -/
theorem intentCreated_cases {message : EventMessage} {intent : SignalDeliveryIntent}
    (read : P.deliveryIntentFromPayload message.payload = .ok intent) (now : Instant)
    (dbs : Databases) :
    let result := P.handleSignalDeliveryIntentCreated message now dbs
    let notification := P.notification intent now
    (dbs.commit result).automation = dbs.automation ∧
      (dueHint P message result = [] ∧
          (∀ shardId, ((dbs.commit result).account shardId).notifications =
            (dbs.account shardId).notifications) ∨
        (dbs.account intent.shardId).notifications.find notification.notificationId = none ∧
          dueHint P message result = [(intent.shardId, notification)] ∧
          ∀ shardId id, ((dbs.commit result).account shardId).notifications.find id =
            if shardId = intent.shardId ∧ id = notification.notificationId then some notification
            else (dbs.account shardId).notifications.find id) := by
  intro result notification
  have result_eq : result = P.handleSignalDeliveryIntentCreated message now dbs := rfl
  simp only [Platform.handleSignalDeliveryIntentCreated, read, bind, Except.bind] at result_eq
  by_cases configured : intent.shardId ∈ accountShardIds
  · rw [if_pos configured, Databases.accountSession_ok dbs configured] at result_eq
    -- The shard is rewritten in every case; only its notifications matter here.
    have untouched : ∀ shard : AccountShard,
        shard.notifications = (dbs.account intent.shardId).notifications →
          ∀ shardId, (Function.update dbs.account intent.shardId shard shardId).notifications =
            (dbs.account shardId).notifications := by
      intro shard same shardId
      rw [Function.update_apply]
      split
      · rename_i here
        rw [same, here]
      · rfl
    rcases materializeNotification_cases P message.eventId intent now
      (dbs.account intent.shardId) with ⟨inbox, same⟩ | ⟨absent, inbox, made⟩
    · rw [same] at result_eq
      rw [result_eq]
      exact ⟨rfl, .inl ⟨rfl, untouched _ rfl⟩⟩
    · rw [made] at result_eq
      rw [result_eq]
      refine ⟨rfl, .inr ⟨absent, ?_, ?_⟩⟩
      · simp only [dueHint, read]
        rfl
      · intro shardId id
        simp only [Databases.commit, Function.update_apply]
        split
        · rename_i here
          simp [here, Table.find_put, notification]
        · rename_i elsewhere
          simp [elsewhere]
  · rw [if_neg configured] at result_eq
    rw [result_eq]
    exact ⟨rfl, .inl ⟨rfl, fun _ => rfl⟩⟩

/-- Inserting the notification of a stored intent keeps the invariant. -/
theorem intentCreated_step (inv : Inv P s) {message : EventMessage} {now : Instant}
    (allowed : Allowed s (.intentCreated message now)) :
    Inv P (step P s (.intentCreated message now)) ∧
      Preserves s (step P s (.intentCreated message now)) false := by
  obtain ⟨record, enqueued, kind, rfl⟩ := allowed
  obtain ⟨intent, stored, -, read⟩ := inv.intents.origin record enqueued kind
  obtain ⟨automation, same | ⟨absent, due, inserted⟩⟩ :=
    @intentCreated_cases P record.message intent read now s.dbs
  · obtain ⟨none, same⟩ := same
    have notification : ∀ shardId id,
        (step P s (.intentCreated record.message now)).notification shardId id =
          s.notification shardId id := by
      intro shardId id
      simp only [step, State.notification, same]
    refine ⟨⟨?_, ?_, ?_, ?_⟩, ?_⟩
    · simp only [step, automation]
      exact inv.intents
    · intro shardId id n found
      simp only [step, automation]
      rw [notification] at found
      exact inv.notifications shardId id n found
    · simp only [step, none, List.append_nil]
      exact inv.hintsOnce
    · intro hint member
      rw [notification]
      simp only [step, none, List.append_nil] at member
      exact inv.hintsCommitted hint member
    · intro shardId id n found
      exact .inl ((notification shardId id).trans found)
  · have kept : ∀ shardId id n, s.notification shardId id = some n →
        (step P s (.intentCreated record.message now)).notification shardId id = some n := by
      intro shardId id n found
      simp only [step, State.notification, inserted]
      rw [if_neg]
      · exact found
      · rintro ⟨rfl, rfl⟩
        rw [State.notification, absent] at found
        cases found
    have new : (step P s (.intentCreated record.message now)).notification intent.shardId
        (P.notification intent now).notificationId = some (P.notification intent now) := by
      exact (inserted _ _).trans (if_pos ⟨rfl, rfl⟩)
    refine ⟨⟨?_, ?_, ?_, ?_⟩, fun shardId id n found => .inl (kept shardId id n found)⟩
    · simp only [step, automation]
      exact inv.intents
    · intro shardId id n found
      simp only [step, State.notification, inserted, automation] at found ⊢
      split at found
      · rename_i here
        cases found
        exact ⟨here.2.symm, here.2, intent, stored, here.1.symm⟩
      · exact inv.notifications shardId id n found
    · simp only [step, due, ← List.append_assoc, List.map_append]
      refine List.nodup_append.mpr ⟨?_, List.nodup_singleton _, ?_⟩
      · rw [← List.map_append]
        exact inv.hintsOnce
      · rintro _ member _ last rfl
        rw [← List.map_append, List.mem_map] at member
        obtain ⟨hint, earlier, row⟩ := member
        obtain rfl := List.mem_singleton.mp last
        have committed := inv.hintsCommitted hint earlier
        simp only [hintRow, Prod.mk.injEq] at row
        rw [row.1, row.2, State.notification, absent] at committed
        cases committed
    · intro hint member
      simp only [step, due, ← List.append_assoc] at member
      rcases List.mem_append.mp member with earlier | last
      · obtain ⟨n, found⟩ := Option.isSome_iff_exists.mp (inv.hintsCommitted hint earlier)
        rw [kept _ _ n found]
        rfl
      · obtain rfl := List.mem_singleton.mp last
        rw [new]
        rfl

/-- Marking read changes one unread notification in its `read_at` only. -/
theorem markRead_step (inv : Inv P s) (notificationId : Uuid) (session : SessionData)
    (now : Instant) :
    Inv P (step P s (.markRead notificationId session now)) ∧
      Preserves s (step P s (.markRead notificationId session now)) true := by
  rcases markRead_cases notificationId session now s.dbs with same | ⟨shardId, n, found, unread, same⟩
  · have idle : step P s (.markRead notificationId session now) = s := by
      simp only [step, same]
    rw [idle]
    exact ⟨inv, .of_same rfl⟩
  · obtain ⟨key, named, origin⟩ := inv.notifications shardId notificationId n found
    have notification : ∀ shardId' id,
        (step P s (.markRead notificationId session now)).notification shardId' id =
          if shardId' = shardId ∧ id = notificationId then some { n with readAt := some now }
          else s.notification shardId' id := by
      intro shardId' id
      simp only [step, State.notification, same, Databases.putNotification_find, key]
    have automation : (step P s (.markRead notificationId session now)).dbs.automation =
        s.dbs.automation := by
      simp only [step, same, Databases.putNotification_automation]
    refine ⟨⟨?_, ?_, inv.hintsOnce, ?_⟩, ?_⟩
    · rw [automation]
      exact inv.intents
    · intro shardId' id m stored
      rw [notification] at stored
      rw [automation]
      split at stored
      · rename_i here
        cases stored
        rw [here.1, here.2]
        exact ⟨key, named, origin⟩
      · exact inv.notifications shardId' id m stored
    · intro hint member
      rw [notification]
      split
      · rfl
      · exact inv.hintsCommitted hint member
    · intro shardId' id m stored
      rw [notification]
      split
      · rename_i here
        rw [here.1, here.2, State.notification, found] at stored
        cases stored
        exact .inr ⟨rfl, unread, now, rfl⟩
      · exact .inl stored

/-- **Every step keeps the invariant and every committed notification.** -/
theorem inv_step (s : State) (a : Action) (inv : Inv P s) (allowed : Allowed s a) :
    Inv P (step P s a) ∧ Preserves s (step P s a) a.isMarkRead := by
  cases a with
  | recordSignal signal eventId now =>
      have grows := recordSignal_grows (P := P) signal eventId now s.dbs
      exact ⟨inv.of_grows grows, .of_same grows.2⟩
  | subscriptionUpdated message =>
      have grows := commit_grows s.dbs (P.handleSignalSubscriptionUpdate message)
        fun _ _ handled => handleSignalSubscriptionUpdate_grows handled
      exact ⟨inv.of_grows grows, .of_same grows.2⟩
  | signalCreated message now newId =>
      have grows := commit_grows s.dbs (P.handleSignalCreated message now newId)
        fun _ _ handled => handleSignalCreated_grows handled
      exact ⟨inv.of_grows grows, .of_same grows.2⟩
  | intentCreated message now => exact intentCreated_step inv allowed
  | handlerFails message => exact ⟨inv, .of_same rfl⟩
  | publishHint hint =>
      simp only [step]
      split
      · rename_i due
        have moved : (s.published ++ s.due).Perm (s.published ++ [hint] ++ s.due.erase hint) := by
          rw [List.append_assoc]
          exact (List.perm_cons_erase due).append_left s.published
        exact ⟨⟨inv.intents, inv.notifications, (moved.map hintRow).nodup_iff.mp inv.hintsOnce,
          fun other member => inv.hintsCommitted other (moved.mem_iff.mpr member)⟩, .of_same rfl⟩
      · exact ⟨inv, .of_same rfl⟩
  | loseHint hint =>
      have fewer : (s.published ++ s.due.erase hint).Sublist (s.published ++ s.due) :=
        List.Sublist.append_left List.erase_sublist s.published
      exact ⟨⟨inv.intents, inv.notifications, inv.hintsOnce.sublist (fewer.map hintRow),
        fun other member => inv.hintsCommitted other (fewer.subset member)⟩, .of_same rfl⟩
  | markRead notificationId session now => exact markRead_step inv notificationId session now

end Steps

theorem inv_empty (P : Platform) : Inv P .empty := by
  refine ⟨⟨?_, ?_, ?_⟩, ?_, List.nodup_nil, ?_⟩
  · intro id intent found
    simp [State.empty, Databases.empty, AutomationStore.empty] at found
  · intro id intent found
    simp [State.empty, Databases.empty, AutomationStore.empty] at found
  · intro record member
    simp [State.empty, Databases.empty, AutomationStore.empty] at member
  · intro shardId id notification found
    simp [State.notification, State.empty, Databases.empty, AccountShard.empty] at found
  · intro hint member
    simp [State.empty] at member

/-- **Delivery is at most once.** In every run: a signal and a subscription have at
most one intent, and each intent exactly one event in the outbox, which decodes to
it; an intent has at most one notification over all shards; a hint is published at
most once for a notification, which is committed by then; and no step but a request
to mark it read changes a committed notification, whose `read_at` never changes
again once it is set. -/
theorem delivery_at_most_once (P : Platform) (trace : List Action)
    (admissible : Admissible (step P) Allowed .empty trace) :
    (∀ id intent id' intent',
      (run P trace).dbs.automation.deliveryIntents.find id = some intent →
      (run P trace).dbs.automation.deliveryIntents.find id' = some intent' →
      intent.signalId = intent'.signalId → intent.subscriptionId = intent'.subscriptionId →
        id = id' ∧ intent = intent') ∧
    (∀ id intent, (run P trace).dbs.automation.deliveryIntents.find id = some intent →
      ∃ record, intentEvents (run P trace).dbs.automation id = [record] ∧
        P.deliveryIntentFromPayload record.payload = .ok intent) ∧
    (∀ record ∈ (run P trace).dbs.automation.outbox, record.eventType = deliveryIntentEvent →
      ∃ intent, (run P trace).dbs.automation.deliveryIntents.find intent.intentId = some intent ∧
        record.aggregateId = intent.intentId.str) ∧
    (∀ shardId id n shardId' id' n', (run P trace).notification shardId id = some n →
      (run P trace).notification shardId' id' = some n' →
      n.deliveryIntentId = n'.deliveryIntentId → shardId = shardId' ∧ id = id' ∧ n = n') ∧
    ((run P trace).published.map hintRow).Nodup ∧
    (∀ front, front <+: trace → ∀ hint ∈ (run P front).published,
      ((run P front).notification hint.1 hint.2.notificationId).isSome) ∧
    (∀ front a, front ++ [a] <+: trace → a.isMarkRead = false → ∀ shardId id n,
      (run P front).notification shardId id = some n →
        (run P (front ++ [a])).notification shardId id = some n) ∧
    (∀ front, front <+: trace → Preserves (run P front) (run P trace) true) := by
  have invariant : ∀ {front}, front <+: trace → Inv P (run P front) := fun isPrefix =>
    exec_invariant (fun s a inv allowed => (inv_step s a inv allowed).1) (inv_empty P)
      (admissible.of_prefix isPrefix)
  have inv := invariant List.prefix_rfl
  refine ⟨?_, inv.intents.enqueued, ?_, ?_, ?_, ?_, ?_, ?_⟩
  · intro id intent id' intent' found found' signal subscription
    have same : id = id' := by
      rw [(inv.intents.named id intent found).2, (inv.intents.named id' intent' found').2, signal,
        subscription]
    subst same
    exact ⟨rfl, Option.some.inj (found.symm.trans found')⟩
  · intro record member kind
    obtain ⟨intent, stored, names, -⟩ := inv.intents.origin record member kind
    exact ⟨intent, stored, names⟩
  · intro shardId id n shardId' id' n' found found' origin
    obtain ⟨-, named, intent, stored, shard⟩ := inv.notifications shardId id n found
    obtain ⟨-, named', intent', stored', shard'⟩ := inv.notifications shardId' id' n' found'
    have same : id = id' := by rw [named, named', origin]
    have sameIntent : intent = intent' := by
      rw [origin, stored'] at stored
      exact (Option.some.inj stored).symm
    subst same sameIntent
    subst shard shard'
    exact ⟨rfl, rfl, Option.some.inj (found.symm.trans found')⟩
  · have once := inv.hintsOnce
    rw [List.map_append] at once
    exact once.of_append_left
  · intro front isPrefix hint member
    exact (invariant isPrefix).hintsCommitted hint (List.mem_append_left _ member)
  · intro front a isPrefix delivery shardId id n found
    obtain ⟨frontOk, allowed⟩ := (admissible_snoc _ _ _ _ _).mp (admissible.of_prefix isPrefix)
    have holds := invariant ((List.prefix_append front [a]).trans isPrefix)
    rw [run, exec_snoc]
    rcases (inv_step _ a holds allowed).2 shardId id n found with same | ⟨marked, -⟩
    · exact same
    · rw [delivery] at marked
      cases marked
  · rintro front ⟨back, rfl⟩
    rw [admissible_append] at admissible
    rw [run, run, exec_append]
    refine exec_monotone (R := fun s t => Preserves s t true) (fun s => .of_same rfl)
      (fun _ _ _ first second => first.trans second)
      (fun s a inv allowed => (inv_step s a inv allowed).1)
      (fun s a inv allowed => (inv_step s a inv allowed).2.mono)
      (invariant (List.prefix_append front back)) admissible.2

namespace Sample

def user : Uuid := 0x8e0228d4762a4ccf90f9fd8db616364f
def subscriptionId : Uuid := 0x3a702bf2f2ae5f31adbd91fb90161447
def signalId : Uuid := 0x6f1d3f0a6f0e4f559f571f6f0d3b7c21
def intentId : Uuid := 0xdb287e55cb025f159ae2cb129f824588
def notificationId : Uuid := 0x776bfedf102452dba809b587766c8c03

/-- `uuid5` on the two names the run below hands to it. -/
def platform : Platform :=
  .reference (fun _ name => if name = notificationName intentId then notificationId else intentId)
    (.aware 0) "1970-01-01T00:00:00Z"

def session : SessionData :=
  ⟨"sample", user.str, [("shard_id", .str "2"), ("access_level", .str "user")]⟩

def signal : SignalEvent :=
  ⟨signalId, "005930", "buy", "71000", .finite 1, .aware 0, some (.aware (seconds 60))⟩

def subscribed : EventMessage :=
  (recordSubscriptionUpdate ⟨subscriptionId, user, "005930", true, 1⟩ ⟨"account", some "2"⟩
    "0d0c8a52-3d4f-4f0c-8f55-6a7d5f9b1a01" 0).message

def signalCreated : EventMessage where
  eventType := "signal.created"
  aggregateId := signalId.str
  payload := platform.dumpSignalEvent signal
  routingKey := "signal.created"
  eventId := "0d0c8a52-3d4f-4f0c-8f55-6a7d5f9b1a02"
  occurredAt := 0

def intent : SignalDeliveryIntent :=
  ⟨intentId, signalId, subscriptionId, user, "2", "005930", .aware (seconds 60), "pending"⟩

def intentRecord : OutboxEventRecord :=
  outboxRecord (platform.deliveryIntentMessage intent "0d0c8a52-3d4f-4f0c-8f55-6a7d5f9b1a03" 1)

def notification : InAppNotification :=
  ⟨notificationId, intentId, user, signalId, "005930", 2, none⟩

def fanOut : Action := .signalCreated signalCreated 1 fun _ => "0d0c8a52-3d4f-4f0c-8f55-6a7d5f9b1a03"

/-- Every event is delivered twice, the last one also after the user has read. -/
def trace : List Action :=
  [.recordSignal signal signalCreated.eventId 0, .subscriptionUpdated subscribed, fanOut, fanOut,
    .handlerFails intentRecord.message, .intentCreated intentRecord.message 2,
    .publishHint ("2", notification), .markRead notificationId session 3] ++
    [.intentCreated intentRecord.message 4]

set_option maxRecDepth 4000 in
theorem enqueued_at_first : (run platform (trace.take 5)).dbs.automation.outbox =
    [outboxRecord signalCreated, intentRecord] := by
  rfl

set_option maxRecDepth 4000 in
theorem enqueued_at_last : (run platform (trace.take 8)).dbs.automation.outbox =
    [outboxRecord signalCreated, intentRecord] := by
  rfl

/-- The redelivery after the user has read leaves the notification as it is. -/
theorem redelivery_keeps_read_at :
    Admissible (step platform) Allowed .empty trace ∧
      (run platform trace).notification "2" notificationId =
        some { notification with readAt := some 3 } := by
  have first : Allowed (run platform (trace.take 5)) (.intentCreated intentRecord.message 2) :=
    ⟨intentRecord, by rw [enqueued_at_first]; simp, rfl, rfl⟩
  have last : Allowed (run platform (trace.take 8)) (.intentCreated intentRecord.message 4) :=
    ⟨intentRecord, by rw [enqueued_at_last]; simp, rfl, rfl⟩
  have admissible : Admissible (step platform) Allowed .empty trace :=
    ⟨trivial, trivial, trivial, trivial, trivial, first, trivial, trivial, last, trivial⟩
  have read : ((run platform (trace.take 8)).notification "2" notificationId) =
      some { notification with readAt := some 3 } := by
    decide +kernel
  refine ⟨admissible, ?_⟩
  exact (delivery_at_most_once platform trace admissible).2.2.2.2.2.2.1 (trace.take 8) _
    List.prefix_rfl rfl "2" notificationId _ read

end Sample

end KisAutoTrading.Signal.Delivery
