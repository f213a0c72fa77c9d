/-
# Signal.Replication — account-shard subscriptions and their automation projection

The subscription rows live on the account shards; the fan-out reads a projection
of them in the automation store, fed by `signal.subscription.updated` events. A
run is any sequence of `subscribe` and `unsubscribe` calls and of deliveries of
enqueued events, in any order and any number of times, each one transaction.

`view` reads the two stores as the source and the replica of `Theory.Replica`:
`step_view` shows that every step is a write of the source, a receipt of the
replica, or nothing, so `Replica.Sync` holds along every run. `Placed` is the
invariant of the shards themselves: a row sits under the id and on the shard of
its owner, and it is enabled exactly at odd revisions.

`uuid5` need not be injective; it must separate the names one run uses.
-/
import KisAutoTrading.Theory.Replica
import KisAutoTrading.Theory.Runs
import KisAutoTrading.Worker.MessageHandler

namespace KisAutoTrading.Signal.Replication

open Theory Theory.Runs

set_option autoImplicit false

inductive Action where
  | subscribe (request : SubscribeRequest) (session : SessionData) (eventId : String)
      (now : Instant)
  | unsubscribe (request : UnsubscribeRequest) (session : SessionData) (eventId : String)
      (now : Instant)
  | deliver (message : EventMessage)

def step (P : Platform) (dbs : Databases) : Action → Databases
  | .subscribe request session eventId now =>
      dbs.commit (P.subscribe request session eventId now dbs)
  | .unsubscribe request session eventId now =>
      dbs.commit (P.unsubscribe request session eventId now dbs)
  | .deliver message =>
      dbs.commit (dbs.automationSession (P.handleSignalSubscriptionUpdate message))

/-- `uuid4` drew an id that nothing carries yet. -/
def FreshEventId (dbs : Databases) (eventId : String) : Prop :=
  (∀ shardId, ∀ record ∈ (dbs.account shardId).outbox, record.eventId ≠ eventId) ∧
    eventId ∉ dbs.automation.processedMessages

/-- Calls come with a session made by `login`; only enqueued events are delivered. -/
def Allowed (dbs : Databases) : Action → Prop
  | .subscribe _ session eventId _ => (∃ user, LoginSession session user) ∧ FreshEventId dbs eventId
  | .unsubscribe _ session eventId _ =>
      (∃ user, LoginSession session user) ∧ FreshEventId dbs eventId
  | .deliver message => ∃ shardId, ∃ record ∈ (dbs.account shardId).outbox, message = record.message

/-- The name a call by this session for this code hands to `uuid5`. -/
def callNames (stockCode : String) (session : SessionData) : Set String :=
  { name | ∃ user code, LoginSession session user ∧
    normalizeDomesticStockCode stockCode = some code ∧ name = subscriptionName user code }

def Action.names : Action → Set String
  | .subscribe request session _ _ => callNames request.stockCode session
  | .unsubscribe request session _ _ => callNames request.stockCode session
  | .deliver _ => ∅

def namesUsed (trace : List Action) : Set String := { name | ∃ a ∈ trace, name ∈ a.names }

/-- The databases after a run from empty stores. -/
def run (P : Platform) (trace : List Action) : Databases := exec (step P) .empty trace

/-! ## Source and replica -/

/-- The account-shard row a projection is a copy of. -/
def rowOf (p : SignalSubscriptionProjection) : SignalSubscription :=
  ⟨p.subscriptionId, p.userId, p.stockCode, p.enabled, p.revision⟩

def projectionOf (shardId : String) (row : SignalSubscription) : SignalSubscriptionProjection :=
  ⟨row.subscriptionId, row.userId, shardId, row.stockCode, row.enabled, row.revision⟩

@[simp] theorem projectionOf_rowOf (p : SignalSubscriptionProjection) :
    projectionOf p.shardId (rowOf p) = p := rfl

def view (P : Platform) (dbs : Databases) : Replica Uuid String SignalSubscriptionProjection where
  current := { p | (dbs.account p.shardId).subscriptions.find p.subscriptionId = some (rowOf p) }
  sent := { m | ∃ record ∈ (dbs.account m.2.shardId).outbox,
    record.eventId = m.1 ∧ P.subscriptionProjectionFromPayload record.payload = .ok m.2 }
  stored := dbs.automation.subscriptionProjections.find
  seen := { eventId | eventId ∈ dbs.automation.processedMessages }

/-- Where the rows and events of the account shards are, for the names in `used`. -/
structure Placed (P : Platform) (used : Set String) (dbs : Databases) : Prop where
  rows : ∀ shardId id row, (dbs.account shardId).subscriptions.find id = some row →
    ∃ user code, subscriptionName user code ∈ used ∧ id = P.subscriptionId user code ∧
      shardId = shardIdFor user ∧ normalizeDomesticStockCode code = some code ∧
      Owned id user code row ∧ (row.enabled = true ↔ row.revision % 2 = 1)
  records : ∀ shardId, ∀ record ∈ (dbs.account shardId).outbox, ∃ row eventId now,
    record = recordSubscriptionUpdate row ⟨"account", some shardId⟩ eventId now ∧
      normalizeDomesticStockCode row.stockCode = some row.stockCode

theorem placed_empty (P : Platform) (used : Set String) : Placed P used .empty := by
  constructor
  · intro shardId id row found
    simp [Databases.empty, AccountShard.empty] at found
  · intro shardId record member
    simp [Databases.empty, AccountShard.empty] at member

/-! ## One call -/

/-- The write of a call: the row and its event, in one commit. -/
def writeSubscription (dbs : Databases) (shardId : String) (row : SignalSubscription)
    (eventId : String) (now : Instant) : Databases :=
  let shard := dbs.account shardId
  let written : AccountShard :=
    { shard with
      subscriptions := shard.subscriptions.put row.subscriptionId row
      outbox := shard.outbox ++
        [recordSubscriptionUpdate row ⟨"account", some shardId⟩ eventId now] }
  { dbs with account := Function.update dbs.account shardId written }

/-- A call by a logged-in user for a proper code leaves what was decided. -/
theorem commit_changeSubscription (P : Platform)
    (choose : Uuid → Uuid → String → Option SignalSubscription → Decision SignalSubscription)
    {text code : String} {session : SessionData} {user : Uuid} (login : LoginSession session user)
    (normalized : normalizeDomesticStockCode text = some code) (eventId : String) (now : Instant)
    (dbs : Databases) :
    dbs.commit (P.changeSubscription choose text session eventId now dbs) =
      match choose (P.subscriptionId user code) user code
          ((dbs.account (shardIdFor user)).subscriptions.find (P.subscriptionId user code)) with
      | .keep _ => dbs
      | .write row => writeSubscription dbs (shardIdFor user) row eventId now := by
  have result : P.changeSubscription choose text session eventId now dbs =
      dbs.accountSession ⟨"account", some (shardIdFor user)⟩ fun shard =>
        .ok (shard.applyDecision ⟨"account", some (shardIdFor user)⟩ eventId now
          (choose (P.subscriptionId user code) user code
            (shard.subscriptions.find (P.subscriptionId user code)))) := by
    simp [Platform.changeSubscription, subscriptionLocation, login.location, stockCodeOr422,
      normalized, bind, Except.bind]
  rw [result, Databases.accountSession_ok dbs (shardIdFor_configured user)]
  cases choose (P.subscriptionId user code) user code
      ((dbs.account (shardIdFor user)).subscriptions.find (P.subscriptionId user code)) with
  | keep row => simp [AccountShard.applyDecision, Databases.commit]
  | write row => rfl

/-- What a call by a logged-in user can do: nothing, or write what was decided. -/
theorem changeSubscription_cases (P : Platform)
    (choose : Uuid → Uuid → String → Option SignalSubscription → Decision SignalSubscription)
    {text : String} {session : SessionData} {user : Uuid} (login : LoginSession session user)
    (eventId : String) (now : Instant) (dbs : Databases) :
    dbs.commit (P.changeSubscription choose text session eventId now dbs) = dbs ∨
      ∃ code row, normalizeDomesticStockCode text = some code ∧
        choose (P.subscriptionId user code) user code
          ((dbs.account (shardIdFor user)).subscriptions.find (P.subscriptionId user code)) =
            .write row ∧
        dbs.commit (P.changeSubscription choose text session eventId now dbs) =
          writeSubscription dbs (shardIdFor user) row eventId now := by
  cases normalized : normalizeDomesticStockCode text with
  | none =>
      refine .inl ?_
      simp [Platform.changeSubscription, subscriptionLocation, login.location, stockCodeOr422,
        normalized, Databases.commit, bind, Except.bind]
  | some code =>
      have result := commit_changeSubscription P choose login normalized eventId now dbs
      cases decided : choose (P.subscriptionId user code) user code
          ((dbs.account (shardIdFor user)).subscriptions.find (P.subscriptionId user code)) with
      | keep row => exact .inl (by rw [result, decided])
      | write row => exact .inr ⟨code, row, rfl, decided, by rw [result, decided]⟩

section Write

variable {P : Platform} {used : Set String} {dbs : Databases} {user : Uuid} {code : String}
  {row : SignalSubscription} {eventId : String} {now : Instant}

theorem writeSubscription_find (shardId' : String) (id : Uuid) :
    ((writeSubscription dbs (shardIdFor user) row eventId now).account shardId').subscriptions.find
        id =
      if shardId' = shardIdFor user ∧ id = row.subscriptionId then some row
      else (dbs.account shardId').subscriptions.find id := by
  by_cases shard : shardId' = shardIdFor user
  · subst shard
    simp [writeSubscription, Table.find_put]
  · simp [writeSubscription, shard]

theorem mem_writeSubscription_outbox {shardId' : String} {record : OutboxEventRecord} :
    record ∈ ((writeSubscription dbs (shardIdFor user) row eventId now).account shardId').outbox ↔
      record ∈ (dbs.account shardId').outbox ∨ shardId' = shardIdFor user ∧
        record = recordSubscriptionUpdate row ⟨"account", some shardId'⟩ eventId now := by
  by_cases shard : shardId' = shardIdFor user
  · subst shard
    simp [writeSubscription]
  · simp [writeSubscription, shard]

/-- A stored row under a used name's id belongs to that name. -/
theorem Placed.owner (placed : Placed P used dbs) (inj : Set.InjOn (P.uuid5 namespaceUrl) used)
    (name : subscriptionName user code ∈ used) {shardId : String} {old : SignalSubscription}
    (found : (dbs.account shardId).subscriptions.find (P.subscriptionId user code) = some old) :
    shardId = shardIdFor user ∧ Owned (P.subscriptionId user code) user code old := by
  obtain ⟨user', code', name', same, shard, -, owned, -⟩ := placed.rows _ _ _ found
  obtain ⟨rfl, rfl⟩ := subscriptionName_inj (inj name name' same)
  exact ⟨shard, owned⟩

theorem placed_write (placed : Placed P used dbs) (name : subscriptionName user code ∈ used)
    (normal : normalizeDomesticStockCode code = some code)
    (continues : Continues (P.subscriptionId user code) user code
      ((dbs.account (shardIdFor user)).subscriptions.find (P.subscriptionId user code)) row) :
    Placed P used (writeSubscription dbs (shardIdFor user) row eventId now) := by
  constructor
  · intro shardId id stored found
    rw [writeSubscription_find] at found
    split at found
    · rename_i here
      obtain ⟨rfl, rfl⟩ := here
      cases found
      refine ⟨user, code, name, continues.subscriptionId_eq, rfl, normal, ?_, ?_⟩
      · rw [continues.subscriptionId_eq]
        exact continues.owned
      · rw [continues.enabled_eq, continues.revision_eq]
        cases old : (dbs.account (shardIdFor user)).subscriptions.find (P.subscriptionId user code) with
        | none => simp
        | some previous =>
            obtain ⟨_, _, _, _, _, _, _, parity⟩ := placed.rows _ _ _ old
            cases flag : previous.enabled <;> simp [flag] at parity ⊢ <;> omega
    · exact placed.rows shardId id stored found
  · intro shardId record member
    rcases mem_writeSubscription_outbox.mp member with old | ⟨-, rfl⟩
    · exact placed.records shardId record old
    · exact ⟨row, eventId, now, rfl, by rw [continues.stockCode_eq]; exact normal⟩

/-- A committed write is a write of the source. -/
theorem view_write (placed : Placed P used dbs) (inj : Set.InjOn (P.uuid5 namespaceUrl) used)
    (name : subscriptionName user code ∈ used)
    (normal : normalizeDomesticStockCode code = some code)
    (owned : Owned (P.subscriptionId user code) user code row) :
    view P (writeSubscription dbs (shardIdFor user) row eventId now) =
      (view P dbs).write (·.subscriptionId) eventId (projectionOf (shardIdFor user) row) := by
  have decoded : ∀ id t, P.subscriptionProjectionFromPayload
      (recordSubscriptionUpdate row ⟨"account", some (shardIdFor user)⟩ id t).payload =
        .ok (projectionOf (shardIdFor user) row) := fun id t =>
    subscriptionProjection_of_update P _ id t (by rw [owned.2.2]; exact normal)
  simp only [view, Replica.write, Replica.mk.injEq]
  refine ⟨?_, ?_, rfl, rfl⟩
  · ext p
    simp only [Set.mem_ofPred_eq, Set.mem_insert_iff, writeSubscription_find]
    constructor
    · intro current
      split at current
      · rename_i here
        cases current
        exact .inl (by rw [← projectionOf_rowOf p, here.1]; rfl)
      · rename_i elsewhere
        refine .inr ⟨current, fun same => elsewhere ⟨?_, same⟩⟩
        rw [same, show (projectionOf (shardIdFor user) row).subscriptionId =
          P.subscriptionId user code from owned.1] at current
        exact (placed.owner inj name current).1
    · rintro (rfl | ⟨current, different⟩)
      · rw [if_pos ⟨rfl, rfl⟩]
        rfl
      · rw [if_neg fun here => different here.2]
        exact current
  · ext ⟨id, p⟩
    simp only [Set.mem_ofPred_eq, Set.mem_insert_iff, mem_writeSubscription_outbox, Prod.mk.injEq]
    constructor
    · rintro ⟨record, old | ⟨shard, rfl⟩, rfl, read⟩
      · exact .inr ⟨record, old, rfl, read⟩
      · rw [shard, decoded] at read
        exact .inl ⟨rfl, (Except.ok.inj read).symm⟩
    · rintro (⟨rfl, rfl⟩ | ⟨record, old, same, read⟩)
      · exact ⟨_, .inr ⟨rfl, rfl⟩, rfl, decoded _ _⟩
      · exact ⟨record, .inl old, same, read⟩

end Write

/-! ## One delivery -/

/-- What handling a decodable event does to the databases. -/
theorem deliver_eq (P : Platform) (dbs : Databases) {message : EventMessage}
    {p : SignalSubscriptionProjection}
    (decoded : P.subscriptionProjectionFromPayload message.payload = .ok p) :
    step P dbs (.deliver message) =
      if message.eventId ∈ dbs.automation.processedMessages then dbs
      else
        { dbs with automation :=
          { dbs.automation with
            processedMessages := insert message.eventId dbs.automation.processedMessages
            subscriptionProjections :=
              match projectionWrite p
                  (dbs.automation.subscriptionProjections.find p.subscriptionId) with
              | none => dbs.automation.subscriptionProjections
              | some row => dbs.automation.subscriptionProjections.put row.subscriptionId row } } := by
  simp only [step, Databases.automationSession, Platform.handleSignalSubscriptionUpdate, decoded,
    bind, Except.bind, Inbox.claim]
  by_cases seen : message.eventId ∈ dbs.automation.processedMessages
  · simp [seen, Databases.commit]
  · simp only [seen, if_false, if_true]
    cases projectionWrite p (dbs.automation.subscriptionProjections.find p.subscriptionId) <;> rfl

/-- Deliveries leave the account shards alone. -/
@[simp] theorem deliver_account (P : Platform) (dbs : Databases) (message : EventMessage) :
    (step P dbs (.deliver message)).account = dbs.account := by
  simp only [step, Databases.automationSession]
  cases P.handleSignalSubscriptionUpdate message dbs.automation <;> rfl

theorem projectionWrite_absorb (p : SignalSubscriptionProjection)
    (existing : Option SignalSubscriptionProjection) :
    (match projectionWrite p existing with
      | none => existing
      | some row => some row) = Replica.absorb (·.revision) existing p := by
  cases existing with
  | none => rfl
  | some row => by_cases stale : row.revision ≥ p.revision <;> simp [projectionWrite, Replica.absorb, stale]

/-- A first delivery is a receipt of the replica. -/
theorem view_deliver (P : Platform) {dbs : Databases} {message : EventMessage}
    {p : SignalSubscriptionProjection}
    (decoded : P.subscriptionProjectionFromPayload message.payload = .ok p)
    (unseen : message.eventId ∉ dbs.automation.processedMessages) :
    view P (step P dbs (.deliver message)) =
      (view P dbs).receive (·.subscriptionId) (·.revision) message.eventId p := by
  rw [deliver_eq P dbs decoded, if_neg unseen]
  simp only [view, Replica.receive, Replica.mk.injEq, true_and]
  constructor
  · funext id
    have absorbed := projectionWrite_absorb p
      (dbs.automation.subscriptionProjections.find p.subscriptionId)
    rw [Function.update_apply, ← absorbed]
    cases written : projectionWrite p
        (dbs.automation.subscriptionProjections.find p.subscriptionId) with
    | none =>
        simp only
        split
        · rename_i same; rw [same]
        · rfl
    | some row =>
        obtain ⟨rfl, -⟩ := projectionWrite_some written
        exact Table.find_put _ _ _ _
  · ext eventId
    simp

/-! ## Every step -/

/-- Everything a step can do, read as the source and the replica. -/
inductive Advances (P : Platform) (dbs dbs' : Databases) : Prop where
  | idle (same : dbs' = dbs)
  | wrote (id : String) (p : SignalSubscriptionProjection) (fresh : FreshEventId dbs id)
      (raises : ∀ c ∈ (view P dbs).current, c.subscriptionId = p.subscriptionId →
        c.revision < p.revision)
      (same : view P dbs' = (view P dbs).write (·.subscriptionId) id p)
  | received (id : String) (p : SignalSubscriptionProjection) (sent : (id, p) ∈ (view P dbs).sent)
      (same : view P dbs' = (view P dbs).receive (·.subscriptionId) (·.revision) id p)

section Steps

variable {P : Platform} {used : Set String} {dbs : Databases}

/-- `subscribe` and `unsubscribe` alike: a decision that continues the row it is
given, made by a logged-in user under names in `used`. -/
theorem call_advances (inj : Set.InjOn (P.uuid5 namespaceUrl) used) (placed : Placed P used dbs)
    (choose : Uuid → Uuid → String → Option SignalSubscription → Decision SignalSubscription)
    (continuing : ∀ id user code existing row,
      (∀ old, existing = some old → Owned id user code old) →
        choose id user code existing = .write row → Continues id user code existing row)
    {text : String} {session : SessionData} {eventId : String} (now : Instant)
    (login : ∃ user, LoginSession session user) (fresh : FreshEventId dbs eventId)
    (names : callNames text session ⊆ used) :
    Placed P used (dbs.commit (P.changeSubscription choose text session eventId now dbs)) ∧
      Advances P dbs (dbs.commit (P.changeSubscription choose text session eventId now dbs)) := by
  obtain ⟨user, login⟩ := login
  rcases changeSubscription_cases P choose login eventId now dbs with
    same | ⟨code, row, normalized, written, same⟩
  · rw [same]
    exact ⟨placed, .idle rfl⟩
  · have name : subscriptionName user code ∈ used := names ⟨user, code, login, normalized, rfl⟩
    have normal := normalize_idem normalized
    have continues := continuing _ _ _ _ _ (fun old found => (placed.owner inj name found).2) written
    rw [same]
    refine ⟨placed_write placed name normal continues, .wrote eventId _ fresh ?_
      (view_write placed inj name normal continues.owned)⟩
    intro c current sameId
    have found : (dbs.account c.shardId).subscriptions.find (P.subscriptionId user code) =
        some (rowOf c) := by
      rw [← continues.subscriptionId_eq, ← show c.subscriptionId = row.subscriptionId from sameId]
      exact current
    rw [(placed.owner inj name found).1] at found
    have next := continues.revision_eq
    rw [found] at next
    change c.revision < row.revision
    simp only [Option.elim, rowOf] at next
    omega

theorem deliver_advances (placed : Placed P used dbs) {shardId : String}
    {record : OutboxEventRecord} (member : record ∈ (dbs.account shardId).outbox) :
    Placed P used (step P dbs (.deliver record.message)) ∧
      Advances P dbs (step P dbs (.deliver record.message)) := by
  obtain ⟨row, eventId, now, rfl, normal⟩ := placed.records shardId record member
  have decoded := subscriptionProjection_of_update P shardId eventId now normal
  constructor
  · rw [deliver_eq P dbs decoded]
    split
    · exact placed
    · exact ⟨placed.rows, placed.records⟩
  · by_cases seen : eventId ∈ dbs.automation.processedMessages
    · refine .idle ?_
      rw [deliver_eq P dbs decoded]
      exact if_pos seen
    · exact .received eventId _ ⟨_, member, rfl, decoded⟩ (view_deliver P decoded seen)

theorem step_advances (inj : Set.InjOn (P.uuid5 namespaceUrl) used) (placed : Placed P used dbs)
    {a : Action} (allowed : Allowed dbs a) (names : a.names ⊆ used) :
    Placed P used (step P dbs a) ∧ Advances P dbs (step P dbs a) := by
  cases a with
  | subscribe request session eventId now =>
      exact call_advances inj placed subscribeDecision
        (fun _ _ _ _ _ _ written => subscribe_continues written) now allowed.1 allowed.2 names
  | unsubscribe request session eventId now =>
      exact call_advances inj placed unsubscribeDecision
        (fun _ _ _ _ _ owned written => unsubscribe_continues owned written)
        now allowed.1 allowed.2 names
  | deliver message =>
      obtain ⟨shardId, record, member, rfl⟩ := allowed
      exact deliver_advances placed member

end Steps

/-! ## Every run -/

/-- What holds of the databases after every admissible trace. -/
structure InSync (P : Platform) (used : Set String) (dbs : Databases) : Prop where
  placed : Placed P used dbs
  sync : Replica.Sync (·.subscriptionId) (·.revision) (view P dbs)

/-- The guard of a run whose calls use names in `used` only. -/
def AllowedIn (used : Set String) (dbs : Databases) (a : Action) : Prop :=
  Allowed dbs a ∧ a.names ⊆ used

section Runs

variable {P : Platform} {used : Set String}

theorem inSync_empty : InSync P used .empty := by
  have start : view P .empty = ⟨∅, ∅, fun _ => none, ∅⟩ := by
    simp [view, Databases.empty, AccountShard.empty, AutomationStore.empty]
    rfl
  exact ⟨placed_empty P used, start ▸ Replica.Sync.empty⟩

theorem inSync_step (inj : Set.InjOn (P.uuid5 namespaceUrl) used) (dbs : Databases) (a : Action)
    (inSync : InSync P used dbs) (allowed : AllowedIn used dbs a) :
    InSync P used (step P dbs a) := by
  obtain ⟨placed, advances⟩ := step_advances inj inSync.placed allowed.1 allowed.2
  refine ⟨placed, ?_⟩
  cases advances with
  | idle same => rw [same]; exact inSync.sync
  | wrote id p fresh raises same =>
      rw [same]
      refine inSync.sync.write ?_ fresh.2 raises
      rintro ⟨id', p'⟩ ⟨record, member, rfl, -⟩
      exact fresh.1 _ record member
  | received id p sent same => rw [same]; exact inSync.sync.receive sent

/-- A step never lowers the revision of a projection row. -/
theorem Advances.stored_mono {dbs dbs' : Databases} (advances : Advances P dbs dbs') {id : Uuid}
    {p : SignalSubscriptionProjection} (found : (view P dbs).stored id = some p) :
    ∃ p', (view P dbs').stored id = some p' ∧ p.revision ≤ p'.revision := by
  cases advances with
  | idle same => rw [same]; exact ⟨p, found, le_rfl⟩
  | wrote _ _ _ _ same => rw [same]; exact ⟨p, found, le_rfl⟩
  | received _ q _ same =>
      rw [same]
      simp only [Replica.receive, Function.update_apply]
      split
      · rename_i here
        exact Replica.le_absorb_stored (·.revision) (here ▸ found) q
      · exact ⟨p, found, le_rfl⟩

/-- Every sent event carries a row its shard held when it was enqueued. -/
theorem Advances.sent_or_current {dbs dbs' : Databases} (advances : Advances P dbs dbs')
    {m : String × SignalSubscriptionProjection} (sent : m ∈ (view P dbs').sent) :
    m ∈ (view P dbs).sent ∨ m.2 ∈ (view P dbs').current := by
  cases advances with
  | idle same => rw [same] at sent; exact .inl sent
  | wrote id p _ _ same =>
      rw [same] at sent ⊢
      rcases sent with rfl | old
      · exact .inr (.inl rfl)
      · exact .inl old
  | received _ _ _ same => rw [same] at sent; exact .inl sent

theorem stored_mono_of_prefix (inj : Set.InjOn (P.uuid5 namespaceUrl) used)
    {front trace : List Action} (isPrefix : front <+: trace)
    (admissible : Admissible (step P) (AllowedIn used) .empty trace) {id : Uuid}
    {p : SignalSubscriptionProjection} (found : (view P (run P front)).stored id = some p) :
    ∃ p', (view P (run P trace)).stored id = some p' ∧ p.revision ≤ p'.revision := by
  obtain ⟨back, rfl⟩ := isPrefix
  rw [admissible_append] at admissible
  have inSync := exec_invariant (inSync_step inj) inSync_empty admissible.1
  rw [run, exec_append]
  refine exec_monotone (R := fun s t => ∀ id p, (view P s).stored id = some p →
      ∃ p', (view P t).stored id = some p' ∧ p.revision ≤ p'.revision)
    (fun s id p h => ⟨p, h, le_rfl⟩) ?_ (inSync_step inj) ?_ inSync admissible.2 id p found
  · intro a b c ab bc id p h
    obtain ⟨p', h', le⟩ := ab id p h
    obtain ⟨p'', h'', le'⟩ := bc id p' h'
    exact ⟨p'', h'', le.trans le'⟩
  · intro s a holds allowed id p h
    exact (step_advances inj holds.placed allowed.1 allowed.2).2.stored_mono h

/-- Every sent event carries a row its shard held after some prefix of the run. -/
theorem sent_was_current (inj : Set.InjOn (P.uuid5 namespaceUrl) used) {trace : List Action}
    (admissible : Admissible (step P) (AllowedIn used) .empty trace) :
    ∀ m ∈ (view P (run P trace)).sent,
      ∃ front, front <+: trace ∧ m.2 ∈ (view P (run P front)).current := by
  refine trace_induction (motive := fun trace dbs => ∀ m ∈ (view P dbs).sent,
    ∃ front, front <+: trace ∧ m.2 ∈ (view P (run P front)).current) ?_ ?_ admissible
  · intro m sent
    simp [view, Databases.empty, AccountShard.empty] at sent
  · intro trace a admissible ih allowed m sent
    have inSync := exec_invariant (inSync_step inj) inSync_empty admissible
    have advances := (step_advances inj inSync.placed allowed.1 allowed.2).2
    rcases advances.sent_or_current sent with old | current
    · obtain ⟨front, isPrefix, here⟩ := ih m old
      exact ⟨front, isPrefix.trans (List.prefix_append _ _), here⟩
    · exact ⟨trace ++ [a], List.prefix_rfl, by rw [run, exec_snoc]; exact current⟩

/-- A delivered event has been seen. -/
theorem delivered_seen (inj : Set.InjOn (P.uuid5 namespaceUrl) used) {trace : List Action}
    (admissible : Admissible (step P) (AllowedIn used) .empty trace) :
    ∀ message, Action.deliver message ∈ trace → message.eventId ∈ (view P (run P trace)).seen := by
  refine trace_induction (motive := fun trace dbs => ∀ message, Action.deliver message ∈ trace →
    message.eventId ∈ (view P dbs).seen) ?_ ?_ admissible
  · intro message member
    simp at member
  · intro trace a admissible ih allowed message member
    have inSync := exec_invariant (inSync_step inj) inSync_empty admissible
    rcases List.mem_append.mp member with old | last
    · have seen := ih message old
      cases (step_advances inj inSync.placed allowed.1 allowed.2).2 with
      | idle same => rw [same]; exact seen
      | wrote _ _ _ _ same => rw [same]; exact seen
      | received _ _ _ same => rw [same]; exact .inr seen
    · obtain rfl := List.mem_singleton.mp last
      obtain ⟨⟨shardId, record, enqueued, rfl⟩, -⟩ := allowed
      obtain ⟨row, eventId, now, rfl, normal⟩ := inSync.placed.records shardId record enqueued
      have decoded := subscriptionProjection_of_update P shardId eventId now normal
      rw [deliver_eq P _ decoded]
      split
      · assumption
      · exact Finset.mem_insert_self _ _

/-- Once every enqueued event has been delivered, the projection is the row. -/
theorem projection_eq_of_delivered (inj : Set.InjOn (P.uuid5 namespaceUrl) used)
    {trace : List Action} (admissible : Admissible (step P) (AllowedIn used) .empty trace)
    (delivered : ∀ shardId, ∀ record ∈ ((run P trace).account shardId).outbox,
      Action.deliver record.message ∈ trace)
    {shardId : String} {id : Uuid} {row : SignalSubscription}
    (found : ((run P trace).account shardId).subscriptions.find id = some row) :
    (run P trace).automation.subscriptionProjections.find id =
      some ⟨id, row.userId, shardId, row.stockCode, row.enabled, row.revision⟩ := by
  have inSync := exec_invariant (inSync_step inj) inSync_empty admissible
  obtain ⟨_, _, _, _, _, _, owned, _⟩ := inSync.placed.rows _ _ _ found
  have current : projectionOf shardId row ∈ (view P (run P trace)).current := by
    change ((run P trace).account shardId).subscriptions.find row.subscriptionId = some row
    rw [owned.1]
    exact found
  have allSeen : ∀ m ∈ (view P (run P trace)).sent, m.1 ∈ (view P (run P trace)).seen := by
    rintro ⟨eventId, p⟩ ⟨record, member, rfl, -⟩
    exact delivered_seen inj admissible record.message (delivered _ record member)
  rw [← owned.1]
  exact inSync.sync.agree allSeen current

end Runs

/-- **The projection follows the account shards.** In every run: a projection row
is a state its account-shard row had at an earlier commit, and its revision never
decreases; once every enqueued event has been delivered, every account-shard row
has its projection with the same owner, shard, code, flag and revision; and a row
is enabled exactly when its revision is odd. -/
theorem projection_follows_subscriptions (P : Platform) (trace : List Action)
    (admissible : Admissible (step P) Allowed .empty trace)
    (inj : Set.InjOn (P.uuid5 namespaceUrl) (namesUsed trace)) :
    (∀ front, front <+: trace → ∀ id p,
      (run P front).automation.subscriptionProjections.find id = some p →
        (∃ earlier, earlier <+: front ∧
          ((run P earlier).account p.shardId).subscriptions.find id =
            some ⟨id, p.userId, p.stockCode, p.enabled, p.revision⟩) ∧
        ∃ p', (run P trace).automation.subscriptionProjections.find id = some p' ∧
          p.revision ≤ p'.revision) ∧
    ((∀ shardId, ∀ record ∈ ((run P trace).account shardId).outbox,
        Action.deliver record.message ∈ trace) →
      ∀ shardId id row, ((run P trace).account shardId).subscriptions.find id = some row →
        (run P trace).automation.subscriptionProjections.find id =
          some ⟨id, row.userId, shardId, row.stockCode, row.enabled, row.revision⟩) ∧
    (∀ shardId id row, ((run P trace).account shardId).subscriptions.find id = some row →
      (row.enabled = true ↔ row.revision % 2 = 1)) ∧
    ∀ id p, (run P trace).automation.subscriptionProjections.find id = some p →
      (p.enabled = true ↔ p.revision % 2 = 1) := by
  have within : Admissible (step P) (AllowedIn (namesUsed trace)) .empty trace :=
    admissible.and_forall fun a member name used => ⟨a, member, used⟩
  have inSync : ∀ {front}, front <+: trace → InSync P (namesUsed trace) (run P front) :=
    fun isPrefix => exec_invariant (inSync_step inj) inSync_empty (within.of_prefix isPrefix)
  -- The state a stored projection copies, found through the event it was read from.
  have history : ∀ front, front <+: trace → ∀ id p,
      (run P front).automation.subscriptionProjections.find id = some p →
        ∃ earlier, earlier <+: front ∧
          ((run P earlier).account p.shardId).subscriptions.find id =
            some ⟨id, p.userId, p.stockCode, p.enabled, p.revision⟩ := by
    intro front isPrefix id p found
    obtain ⟨rfl, eventId, sent⟩ := (inSync isPrefix).sync.storedSent id p found
    obtain ⟨earlier, before, current⟩ :=
      sent_was_current inj (within.of_prefix isPrefix) (eventId, p) sent
    exact ⟨earlier, before, current⟩
  refine ⟨fun front isPrefix id p found => ⟨history front isPrefix id p found,
    stored_mono_of_prefix inj isPrefix within found⟩, ?_, ?_, ?_⟩
  · intro delivered shardId id row found
    exact projection_eq_of_delivered inj within delivered found
  · intro shardId id row found
    obtain ⟨_, _, _, _, _, _, _, parity⟩ := (inSync List.prefix_rfl).placed.rows _ _ _ found
    exact parity
  · intro id p found
    obtain ⟨earlier, before, row⟩ := history trace List.prefix_rfl id p found
    obtain ⟨_, _, _, _, _, _, _, parity⟩ := (inSync before).placed.rows _ _ _ row
    exact parity

namespace Sample

def user : Uuid := 0x8e0228d4762a4ccf90f9fd8db616364f

/-- `subscription_id(user, "005930")`. -/
def subscription : Uuid := 0x3a702bf2f2ae5f31adbd91fb90161447

def platform : Platform :=
  .reference (fun _ name => if name = subscriptionName user "005930" then subscription else 0)
    (.aware 0) "1970-01-01T00:00:00Z"

def session : SessionData :=
  ⟨"sample", user.str, [("shard_id", .str "2"), ("access_level", .str "user")]⟩

def subscribedId : String := "4a1fb8bc-c45f-42cc-8a49-30ec6f436f53"

def unsubscribedId : String := "b3f1a0a2-5a0e-4f0e-9d6c-0f7a1c5c9e11"

/-- The row at a revision. -/
def row (revision : Nat) : SignalSubscription := ⟨subscription, user, "005930", revision = 1, revision⟩

def record (revision : Nat) (eventId : String) : OutboxEventRecord :=
  recordSubscriptionUpdate (row revision) ⟨"account", some "2"⟩ eventId 0

/-- A subscription and its end, whose event overtakes the first one and is delivered twice. -/
def trace : List Action :=
  [.subscribe ⟨" 005930 "⟩ session subscribedId 0, .unsubscribe ⟨"005930"⟩ session unsubscribedId 0,
    .deliver (record 2 unsubscribedId).message, .deliver (record 1 subscribedId).message,
    .deliver (record 2 unsubscribedId).message]

theorem login : LoginSession session user := ⟨rfl, by rfl⟩

/-- The databases behind the first call and behind both. -/
def once : Databases := writeSubscription .empty (shardIdFor user) (row 1) subscribedId 0

def twice : Databases := writeSubscription once (shardIdFor user) (row 2) unsubscribedId 0

theorem subscribed : step platform .empty (.subscribe ⟨" 005930 "⟩ session subscribedId 0) = once := rfl

theorem unsubscribed : step platform once (.unsubscribe ⟨"005930"⟩ session unsubscribedId 0) = twice := rfl

theorem mem_once {shardId : String} {r : OutboxEventRecord} (member : r ∈ (once.account shardId).outbox) :
    r = record 1 subscribedId := by
  rcases mem_writeSubscription_outbox.mp member with old | ⟨rfl, rfl⟩
  · exact absurd old (by simp [Databases.empty, AccountShard.empty])
  · rfl

theorem mem_twice {shardId : String} {r : OutboxEventRecord} (member : r ∈ (twice.account shardId).outbox) :
    r = record 1 subscribedId ∨ r = record 2 unsubscribedId := by
  rcases mem_writeSubscription_outbox.mp member with old | ⟨rfl, rfl⟩
  · exact .inl (mem_once old)
  · exact .inr rfl

theorem enqueued : record 1 subscribedId ∈ (twice.account "2").outbox ∧
    record 2 unsubscribedId ∈ (twice.account "2").outbox :=
  ⟨mem_writeSubscription_outbox.mpr (.inl (mem_writeSubscription_outbox.mpr (.inr ⟨rfl, rfl⟩))),
    mem_writeSubscription_outbox.mpr (.inr ⟨rfl, rfl⟩)⟩

theorem admissible : Admissible (step platform) Allowed .empty trace := by
  have fresh : FreshEventId .empty subscribedId := by
    refine ⟨fun shardId r member => ?_, Finset.notMem_empty _⟩
    simp [Databases.empty, AccountShard.empty] at member
  have fresh' : FreshEventId once unsubscribedId := by
    refine ⟨fun shardId r member => ?_, Finset.notMem_empty _⟩
    rw [mem_once member]
    decide
  refine ⟨⟨⟨user, login⟩, fresh⟩, ⟨⟨user, login⟩, fresh'⟩, ⟨"2", _, enqueued.2, rfl⟩, ⟨"2", _, ?_, rfl⟩,
    ⟨"2", _, ?_, rfl⟩, trivial⟩
  · rw [deliver_account]
    exact enqueued.1
  · rw [deliver_account, deliver_account]
    exact enqueued.2

/-- The run is admissible, its names are apart, and the projection is the row: the end of the
subscription, though its event came first. -/
theorem projection_is_row :
    Admissible (step platform) Allowed .empty trace ∧
      Set.InjOn (platform.uuid5 namespaceUrl) (namesUsed trace) ∧
      (run platform trace).automation.subscriptionProjections.find subscription =
        some ⟨subscription, user, "2", "005930", false, 2⟩ := by
  have inj : Set.InjOn (platform.uuid5 namespaceUrl) (namesUsed trace) := by
    have code : ∀ text ∈ [" 005930 ", "005930"], normalizeDomesticStockCode text = some "005930" := by
      decide
    have only : ∀ name ∈ namesUsed trace, name = subscriptionName user "005930" := by
      rintro name ⟨a, member, used⟩
      simp only [trace, List.mem_cons, List.not_mem_nil, or_false] at member
      rcases member with rfl | rfl | rfl | rfl | rfl
      · obtain ⟨user', code', login', normalized, rfl⟩ := used
        obtain rfl : user = user' := Uuid.str_inj.mp login'.userId
        rw [code _ (by simp)] at normalized
        rw [Option.some.inj normalized]
      · obtain ⟨user', code', login', normalized, rfl⟩ := used
        obtain rfl : user = user' := Uuid.str_inj.mp login'.userId
        rw [code _ (by simp)] at normalized
        rw [Option.some.inj normalized]
      all_goals exact absurd used (Set.notMem_empty _)
    intro a ha b hb _
    rw [only a ha, only b hb]
  have accounts : (run platform trace).account = twice.account := by
    simp only [run, trace, exec_cons, exec_nil, deliver_account]
    rw [subscribed, unsubscribed]
  refine ⟨admissible, inj, ?_⟩
  refine (projection_follows_subscriptions platform trace admissible inj).2.1 ?_ "2" subscription
    (row 2) ?_
  · intro shardId r member
    rw [accounts] at member
    rcases mem_twice member with rfl | rfl <;> simp [trace]
  · rw [accounts]
    rfl

end Sample

end KisAutoTrading.Signal.Replication
