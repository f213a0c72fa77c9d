/-
# Modules.Signal — subscription policy and the signal handlers

`normalize_domestic_stock_code`, `subscription_id` and the three handlers of the
signal module. What `subscribe` and `unsubscribe` do with the row they read is a
`Decision` of its own (`subscribeDecision`, `unsubscribeDecision`): the atomic
handlers here and the interleaved transactions elsewhere share it, and
`Continues` is all that later proofs need to know of it: a write comes
out of the row read with the opposite flag and the next revision.
-/
import KisAutoTrading.Infrastructure.Database

namespace KisAutoTrading

open Theory

set_option autoImplicit false

/-! ## Policy -/

def stockCodeError : String := "stock_code must be a six-digit domestic stock code"

/-- `normalize_domestic_stock_code`; `none` is its `ValueError(stockCodeError)`. -/
def normalizeDomesticStockCode (stockCode : String) : Option String :=
  let normalized := pyStrip stockCode
  if normalized.toList.length ≠ 6 ∨ isAsciiDecimal normalized = false then none
  else some normalized

def subscriptionName (userId : Uuid) (stockCode : String) : String :=
  "kis-auto-trading:signal-subscription:" ++ (userId.str ++ (":" ++ stockCode))

/-- `subscription_id`. -/
def Platform.subscriptionId (P : Platform) (userId : Uuid) (stockCode : String) : Uuid :=
  P.uuid5 namespaceUrl (subscriptionName userId stockCode)

theorem normalize_isAsciiDecimal {text code : String}
    (normalized : normalizeDomesticStockCode text = some code) : isAsciiDecimal code = true := by
  simp only [normalizeDomesticStockCode] at normalized
  split at normalized
  · cases normalized
  · rename_i accepted
    cases normalized
    simpa using (not_or.mp accepted).2

/-- A normalized code is its own normal form. -/
theorem normalize_idem {text code : String}
    (normalized : normalizeDomesticStockCode text = some code) :
    normalizeDomesticStockCode code = some code := by
  have plain := pyStrip_of_isAsciiDecimal (normalize_isAsciiDecimal normalized)
  simp only [normalizeDomesticStockCode] at normalized ⊢
  split at normalized
  · cases normalized
  · rename_i accepted
    cases normalized
    rw [plain, if_neg accepted]

theorem string_append_right_inj {a s t : String} (same : a ++ s = a ++ t) : s = t := by
  have chars := congrArg String.toList same
  simp only [String.toList_append, List.append_cancel_left_eq] at chars
  exact String.toList_inj.mp chars

theorem subscriptionName_inj {u v : Uuid} {c d : String}
    (same : subscriptionName u c = subscriptionName v d) : u = v ∧ c = d := by
  obtain ⟨users, rest⟩ := Uuid.str_append_inj (string_append_right_inj same)
  exact ⟨users, string_append_right_inj rest⟩

/-! ## Subscribe and unsubscribe -/

structure SubscribeRequest where
  stockCode : String

structure UnsubscribeRequest where
  stockCode : String

/-- What a request does with the row it read: answer it, or write a new one. -/
inductive Decision (α : Type) where
  | keep (row : α)
  | write (row : α)
  deriving DecidableEq

def subscribeDecision (subscriptionId userId : Uuid) (stockCode : String)
    (existing : Option SignalSubscription) : Decision SignalSubscription :=
  match existing with
  | some row =>
      if row.enabled then .keep row
      else .write ⟨subscriptionId, userId, stockCode, true, row.revision + 1⟩
  | none => .write ⟨subscriptionId, userId, stockCode, true, 0 + 1⟩

def unsubscribeDecision (subscriptionId userId : Uuid) (stockCode : String)
    (existing : Option SignalSubscription) : Decision SignalSubscription :=
  match existing with
  | some row =>
      if row.enabled then .write { row with enabled := false, revision := row.revision + 1 }
      else .keep row
  | none => .keep { subscriptionId, userId, stockCode, enabled := false }

/-- `_record_subscription_update`. -/
def recordSubscriptionUpdate (subscription : SignalSubscription) (target : ShardTarget)
    (eventId : String) (now : Instant) : OutboxEventRecord :=
  outboxRecord {
    eventType := "signal.subscription.updated"
    aggregateId := subscription.subscriptionId.str
    routingKey := "signal.subscription.updated"
    payload := [
      ("subscription_id", .str subscription.subscriptionId.str),
      ("user_id", .str subscription.userId.str),
      ("shard_id", .str (target.shardId.getD "")),
      ("stock_code", .str subscription.stockCode),
      ("enabled", .bool subscription.enabled),
      ("revision", .int subscription.revision)]
    eventId
    occurredAt := now }

/-- `_stock_code_or_422`. -/
def stockCodeOr422 (stockCode : String) : Except Failure String :=
  match normalizeDomesticStockCode stockCode with
  | some code => .ok code
  | none => .error (.http 422 stockCodeError)

/-- `_subscription_location`. -/
def subscriptionLocation (session : SessionData) : Except Failure (Uuid × ShardTarget) :=
  sessionLocation session

/-- The body of the transaction: what the decision leaves in the shard. -/
def AccountShard.applyDecision (shard : AccountShard) (target : ShardTarget) (eventId : String)
    (now : Instant) : Decision SignalSubscription → SignalSubscription × AccountShard
  | .keep row => (row, shard)
  | .write row =>
      (row, { shard with
        subscriptions := shard.subscriptions.put row.subscriptionId row
        outbox := shard.outbox ++ [recordSubscriptionUpdate row target eventId now] })

/-- The common frame of `subscribe` and `unsubscribe`. -/
def Platform.changeSubscription (P : Platform)
    (decide : Uuid → Uuid → String → Option SignalSubscription → Decision SignalSubscription)
    (stockCode : String) (session : SessionData) (eventId : String) (now : Instant)
    (dbs : Databases) : Except Failure (SignalSubscription × Databases) := do
  let (userId, target) ← subscriptionLocation session
  let stockCode ← stockCodeOr422 stockCode
  let deterministicId := P.subscriptionId userId stockCode
  dbs.accountSession target fun shard =>
    let existing := shard.subscriptions.find deterministicId
    .ok (shard.applyDecision target eventId now (decide deterministicId userId stockCode existing))

def Platform.subscribe (P : Platform) (request : SubscribeRequest) (session : SessionData)
    (eventId : String) (now : Instant) (dbs : Databases) :
    Except Failure (SignalSubscription × Databases) :=
  P.changeSubscription subscribeDecision request.stockCode session eventId now dbs

def Platform.unsubscribe (P : Platform) (request : UnsubscribeRequest) (session : SessionData)
    (eventId : String) (now : Instant) (dbs : Databases) :
    Except Failure (SignalSubscription × Databases) :=
  P.changeSubscription unsubscribeDecision request.stockCode session eventId now dbs

/-! ### What a decision writes -/

/-- The row written continues the row read: same owner and code where there was a
row, the flag reversed, the revision one higher; a first row is enabled, at 1. -/
structure Continues (subscriptionId userId : Uuid) (stockCode : String)
    (existing : Option SignalSubscription) (row : SignalSubscription) : Prop where
  subscriptionId_eq : row.subscriptionId = subscriptionId
  userId_eq : row.userId = userId
  stockCode_eq : row.stockCode = stockCode
  revision_eq : row.revision = (existing.elim 0 (·.revision)) + 1
  enabled_eq : row.enabled = !(existing.elim false (·.enabled))

/-- A row that belongs where it is stored. -/
def Owned (subscriptionId userId : Uuid) (stockCode : String) (row : SignalSubscription) : Prop :=
  row.subscriptionId = subscriptionId ∧ row.userId = userId ∧ row.stockCode = stockCode

theorem Continues.owned {id user : Uuid} {code : String} {existing : Option SignalSubscription}
    {row : SignalSubscription} (continues : Continues id user code existing row) :
    Owned id user code row :=
  ⟨continues.subscriptionId_eq, continues.userId_eq, continues.stockCode_eq⟩

theorem subscribe_continues {id user : Uuid} {code : String}
    {existing : Option SignalSubscription} {row : SignalSubscription}
    (written : subscribeDecision id user code existing = .write row) :
    Continues id user code existing row := by
  cases existing with
  | none =>
      simp only [subscribeDecision, Decision.write.injEq] at written
      subst written
      exact ⟨rfl, rfl, rfl, rfl, rfl⟩
  | some old =>
      simp only [subscribeDecision] at written
      split at written
      · cases written
      · rename_i disabled
        cases written
        exact ⟨rfl, rfl, rfl, rfl, by simpa using disabled⟩

theorem unsubscribe_continues {id user : Uuid} {code : String}
    {existing : Option SignalSubscription} {row : SignalSubscription}
    (owned : ∀ old, existing = some old → Owned id user code old)
    (written : unsubscribeDecision id user code existing = .write row) :
    Continues id user code existing row := by
  cases existing with
  | none => cases written
  | some old =>
      simp only [unsubscribeDecision] at written
      split at written
      · rename_i enabled
        cases written
        obtain ⟨ids, users, codes⟩ := owned old rfl
        exact ⟨ids, users, codes, rfl, by simpa using enabled⟩
      · cases written

/-! ## Recording a signal -/

/-- `signal.model_dump(mode="json")`. -/
def Platform.dumpSignalEvent (P : Platform) (signal : SignalEvent) : Dict := [
  ("signal_id", .str signal.signalId.str),
  ("stock_code", .str signal.stockCode),
  ("direction", .str signal.direction),
  ("price", .str signal.price),
  ("confidence", P.dumpFloat signal.confidence),
  ("observed_at", P.dumpDatetime signal.observedAt),
  ("expires_at", (signal.expiresAt.map P.dumpDatetime).getD .null)]

/-- The event `record_signal` enqueues. -/
def Platform.signalCreated (P : Platform) (signal : SignalEvent) (eventId : String) (now : Instant) :
    OutboxEventRecord :=
  outboxRecord {
    eventType := "signal.created"
    aggregateId := signal.signalId.str
    routingKey := "signal.created"
    payload := P.dumpSignalEvent signal
    eventId
    occurredAt := now }

/-- `record_signal`. -/
def Platform.recordSignal (P : Platform) (signal : SignalEvent) (eventId : String) (now : Instant)
    (dbs : Databases) : Except Failure (SignalEvent × Databases) :=
  dbs.automationSession fun store =>
    match store.signalEvents.find signal.signalId with
    | some existing => .ok (existing, store)
    | none =>
        let stored := { store with signalEvents := store.signalEvents.put signal.signalId signal }
        match signal.expiresAt with
        | some _ =>
            .ok (signal, { stored with
              outbox := stored.outbox ++ [P.signalCreated signal eventId now] })
        | none => .ok (signal, stored)

end KisAutoTrading
