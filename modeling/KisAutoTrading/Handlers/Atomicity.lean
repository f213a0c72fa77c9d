/-
# Handlers.Atomicity — the business handlers and their one transaction

The six handlers that write, statement by statement: each lookup, each `save`, the event
and the commit may fail where the `faults` say, and the KIS call where `holdings` is an
error. `perform_refines` connects them with the handlers of the modules: a call that fails
leaves every table as it was, and one that answers did what the module's handler does.

From there `handlers_atomic`: an answered call changed nothing, or its rows together with
one event about the rows as they are stored (`Effect`), and asking again changes nothing.
A signal without expiry is stored without an event.
-/
import KisAutoTrading.Modules.Account
import KisAutoTrading.Modules.BrokerageAccount
import KisAutoTrading.Modules.Portfolio
import KisAutoTrading.Modules.Signal
import KisAutoTrading.Theory.Transaction

namespace KisAutoTrading.Handlers.Atomicity

open Theory

set_option autoImplicit false

/-! ## Transactions on the databases -/

section Transactions

variable {α β : Type}

/-- `AsyncSessionRegistry.session` on an account shard, with failures. -/
def accountTransaction (dbs : Databases) (target : ShardTarget) (plan : Plan Failure)
    (script : Script Failure AccountShard α) : Except Failure α × Databases :=
  match target.shardId with
  | some shardId =>
      if target.store = "account" ∧ shardId ∈ accountShardIds then
        let (answer, shard) := script.transaction plan (dbs.account shardId)
        (answer, { dbs with account := Function.update dbs.account shardId shard })
      else (.error (.raised .shardRoutingError "Database engine is not configured"), dbs)
  | none => (.error (.raised .shardRoutingError "Database engine is not configured"), dbs)

/-- `AsyncSessionRegistry.session` on the automation store, with failures. -/
def automationTransaction (dbs : Databases) (plan : Plan Failure)
    (script : Script Failure AutomationStore α) : Except Failure α × Databases :=
  let (answer, store) := script.transaction plan dbs.automation
  (answer, { dbs with automation := store })

/-- What comes before the transaction: nothing is read yet when it raises. -/
def validated (dbs : Databases) (check : Except Failure β)
    (rest : β → Except Failure α × Databases) : Except Failure α × Databases :=
  match check with
  | .ok value => rest value
  | .error failure => (.error failure, dbs)

end Transactions

/-! ## The handlers -/

/-- What a call meets: which statements fail, by transaction, what KIS answers, and what is
drawn on the way. -/
structure Circumstances where
  faults : Nat → Plan Failure
  holdings : Except Failure (List KisDomesticStockHolding)
  eventId : String
  capturedAt : Instant
  now : Instant

section Handlers

variable (P : Platform) (environ : Environ) (met : Circumstances) (dbs : Databases)

/-- `update_profile`, its transaction. -/
def profileScript (profile : UserProfile) (target : ShardTarget) :
    Script Failure AccountShard UserProfile :=
  .query fun shard =>
    if shard.holdsProfile profile then .done profile
    else .writes [
        fun shard => { shard with profiles := shard.profiles.put profile.userId profile },
        fun shard => { shard with
          outbox := shard.outbox ++ [profileUpdated profile target met.eventId met.now] }]
      (match flushProfile profile with
      | .ok _ => .done profile
      | .error failure => .raise failure)

def Faulty.updateProfile (request : UpdateProfileRequest) (session : SessionData) :
    Except Failure UserProfile × Databases :=
  validated dbs (profileLocation session) fun (userId, target) =>
    accountTransaction dbs target (met.faults 0)
      (profileScript met (request.profile userId) target)

/-- The transaction of `subscribe` and `unsubscribe`. -/
def subscriptionScript
    (decide : Uuid → Uuid → String → Option SignalSubscription → Decision SignalSubscription)
    (subscriptionId userId : Uuid) (stockCode : String) (target : ShardTarget) :
    Script Failure AccountShard SignalSubscription :=
  .query fun shard =>
    match decide subscriptionId userId stockCode (shard.subscriptions.find subscriptionId) with
    | .keep row => .done row
    | .write row => .writes [
        fun shard => { shard with
          subscriptions := shard.subscriptions.put row.subscriptionId row },
        fun shard => { shard with
          outbox := shard.outbox ++ [recordSubscriptionUpdate row target met.eventId met.now] }]
      (.done row)

def Faulty.changeSubscription
    (decide : Uuid → Uuid → String → Option SignalSubscription → Decision SignalSubscription)
    (stockCode : String) (session : SessionData) : Except Failure SignalSubscription × Databases :=
  validated dbs (subscriptionLocation session) fun (userId, target) =>
    validated dbs (stockCodeOr422 stockCode) fun stockCode =>
      accountTransaction dbs target (met.faults 0)
        (subscriptionScript met decide (P.subscriptionId userId stockCode) userId stockCode target)

/-- `link_default_connection`, its transaction. -/
def connectionScript (credentials : KisAccountCredentials) (connectionId userId : Uuid)
    (target : ShardTarget) : Script Failure AccountShard BrokerageAccountConnection :=
  let write (createdAt : Instant) : Script Failure AccountShard BrokerageAccountConnection :=
    let connection : BrokerageAccountConnection :=
      ⟨connectionId, userId, provider, credentials.environment, displayName,
        credentials.accountMask, credentialRef, "active", createdAt, met.now⟩
    .writes [
        fun shard => { shard with connections := shard.connections.put connectionId connection },
        fun shard => { shard with
          outbox := shard.outbox ++ [connectionLinked connection target met.eventId met.now] }]
      (.done connection)
  .query fun shard =>
    match shard.connections.find connectionId with
    | some existing =>
        if existing.userId ≠ userId then
          .raise (.http 409 "Brokerage account ownership conflicts")
        else if matchesDeployment existing credentials.environment credentials.accountMask then
          .done existing
        else write existing.createdAt
    | none => write met.now

def Faulty.linkDefaultConnection (session : SessionData) :
    Except Failure BrokerageAccountConnection × Databases :=
  validated dbs (connectionLocation environ session) fun (userId, target) =>
    validated dbs (accountCredentials environ) fun credentials =>
      accountTransaction dbs target (met.faults 0)
        (connectionScript met credentials (P.connectionId userId) userId target)

/-- `_find_capture`; the positions are read only where there is a snapshot. -/
def findCaptureScript (snapshotId : Uuid) :
    Script Failure AccountShard (Option PortfolioSnapshotCapture) :=
  .query fun shard =>
    match shard.snapshots.find snapshotId with
    | none => .done none
    | some snapshot => .query fun shard => .done (some ⟨snapshot, shard.listBySnapshotId snapshotId⟩)

/-- `save` of a position. -/
def savePosition (position : PortfolioPositionSnapshot) (shard : AccountShard) : AccountShard :=
  { shard with positions := shard.positions.put position.positionId position }

/-- The second transaction of `capture_portfolio_snapshot`. -/
def storeCaptureScript (snapshot : PortfolioSnapshot) (positions : List PortfolioPositionSnapshot)
    (target : ShardTarget) : Script Failure AccountShard PortfolioSnapshotCapture :=
  .query fun shard =>
    match shard.snapshots.find snapshot.snapshotId with
    | some existing =>
        .query fun shard => .done ⟨existing, shard.listBySnapshotId snapshot.snapshotId⟩
    | none => .writes
      ((fun shard => { shard with
          snapshots := shard.snapshots.put snapshot.snapshotId snapshot }) ::
        positions.map savePosition ++
        [fun shard => { shard with
          outbox := shard.outbox ++ [snapshotCaptured snapshot target met.eventId met.now] }])
      (.done ⟨snapshot, positions⟩)

def Faulty.capturePortfolioSnapshot (session : SessionData)
    (connection : BrokerageAccountConnection) (idempotencyKey : String) :
    Except Failure PortfolioSnapshotCapture × Databases :=
  validated dbs (snapshotLocation session connection) fun (userId, target) =>
    validated dbs (P.snapshotId userId connection.connectionId idempotencyKey) fun snapshotId =>
      match accountTransaction dbs target (met.faults 0) (findCaptureScript snapshotId) with
      | (.error failure, dbs) => (.error failure, dbs)
      | (.ok (some capture), dbs) => (.ok capture, dbs)
      | (.ok none, dbs) =>
          validated dbs met.holdings fun holdings =>
            let positions := P.positionModels snapshotId userId holdings
            accountTransaction dbs target (met.faults 1) (storeCaptureScript met
              ⟨snapshotId, connection.connectionId, userId, met.capturedAt, positions.length⟩
              positions target)

/-- `record_signal`, its transaction. -/
def signalScript (signal : SignalEvent) : Script Failure AutomationStore SignalEvent :=
  .query fun store =>
    match store.signalEvents.find signal.signalId with
    | some existing => .done existing
    | none =>
        .statement (fun store => { store with
          signalEvents := store.signalEvents.put signal.signalId signal }) fun _ =>
          match signal.expiresAt with
          | some _ => .writes [fun store => { store with
              outbox := store.outbox ++ [P.signalCreated signal met.eventId met.now] }] (.done signal)
          | none => .done signal

def Faulty.recordSignal (signal : SignalEvent) : Except Failure SignalEvent × Databases :=
  automationTransaction dbs (met.faults 0) (signalScript P met signal)

end Handlers

inductive Call where
  | updateProfile (request : UpdateProfileRequest) (session : SessionData)
  | subscribe (request : SubscribeRequest) (session : SessionData)
  | unsubscribe (request : UnsubscribeRequest) (session : SessionData)
  | linkDefaultConnection (session : SessionData)
  | capturePortfolioSnapshot (session : SessionData) (connection : BrokerageAccountConnection)
      (idempotencyKey : String)
  | recordSignal (signal : SignalEvent)

inductive Response where
  | profile (profile : UserProfile)
  | subscription (subscription : SignalSubscription)
  | connection (connection : BrokerageAccountConnection)
  | capture (capture : PortfolioSnapshotCapture)
  | signal (signal : SignalEvent)

section Calls

variable (P : Platform) (environ : Environ) (met : Circumstances) (dbs : Databases)

/-- A call with failures: its answer, and the databases after it. -/
def perform : Call → Except Failure Response × Databases
  | .updateProfile request session =>
      (Faulty.updateProfile met dbs request session).map (·.map .profile) id
  | .subscribe request session =>
      (Faulty.changeSubscription P met dbs subscribeDecision request.stockCode session).map
        (·.map .subscription) id
  | .unsubscribe request session =>
      (Faulty.changeSubscription P met dbs unsubscribeDecision request.stockCode session).map
        (·.map .subscription) id
  | .linkDefaultConnection session =>
      (Faulty.linkDefaultConnection P environ met dbs session).map (·.map .connection) id
  | .capturePortfolioSnapshot session connection idempotencyKey =>
      (Faulty.capturePortfolioSnapshot P met dbs session connection idempotencyKey).map
        (·.map .capture) id
  | .recordSignal signal => (Faulty.recordSignal P met dbs signal).map (·.map .signal) id

/-- The handler as its module has it. -/
def handle : Call → Except Failure (Response × Databases)
  | .updateProfile request session =>
      (updateProfile request session met.eventId met.now dbs).map (Prod.map .profile id)
  | .subscribe request session =>
      (P.subscribe request session met.eventId met.now dbs).map (Prod.map .subscription id)
  | .unsubscribe request session =>
      (P.unsubscribe request session met.eventId met.now dbs).map (Prod.map .subscription id)
  | .linkDefaultConnection session =>
      (P.linkDefaultConnection environ session met.eventId met.now dbs).map
        (Prod.map .connection id)
  | .capturePortfolioSnapshot session connection idempotencyKey =>
      (P.capturePortfolioSnapshot session connection met.holdings idempotencyKey met.eventId
        met.capturedAt met.now dbs).map (Prod.map .capture id)
  | .recordSignal signal =>
      (P.recordSignal signal met.eventId met.now dbs).map (Prod.map .signal id)

end Calls

/-! ## A call that answers did what its handler does -/

/-- A failure leaves the databases alone; an answer is the handler's. -/
structure Refines {α : Type} (dbs : Databases) (handled : Except Failure (α × Databases))
    (performed : Except Failure α × Databases) : Prop where
  failed : ∀ failure, performed.1 = .error failure → performed.2 = dbs
  answered : ∀ value, performed.1 = .ok value → handled = .ok (value, performed.2)

section Refinement

variable {α β : Type} {dbs : Databases}

theorem Refines.map {handled : Except Failure (α × Databases)}
    {performed : Except Failure α × Databases} (refines : Refines dbs handled performed)
    (f : α → β) : Refines dbs (handled.map (Prod.map f id)) (performed.map (·.map f) id) := by
  obtain ⟨answer, after⟩ := performed
  cases answer with
  | error failure =>
      refine ⟨fun _ _ => refines.failed failure rfl, ?_⟩
      intro result answered
      cases answered
  | ok value =>
      constructor
      · intro failure failed
        cases failed
      · intro result answered
        cases answered
        rw [refines.answered value rfl]
        rfl

theorem refines_validated (check : Except Failure β) {handled : β → Except Failure (α × Databases)}
    {rest : β → Except Failure α × Databases} (refines : ∀ value, Refines dbs (handled value) (rest value)) :
    Refines dbs (check >>= handled) (validated dbs check rest) := by
  cases check with
  | error failure => exact ⟨fun _ _ => rfl, fun _ answered => by cases answered⟩
  | ok value => exact refines value

theorem refines_account (dbs : Databases) (target : ShardTarget) (plan : Plan Failure)
    (script : Script Failure AccountShard α) :
    Refines dbs (dbs.accountSession target script.outcome)
      (accountTransaction dbs target plan script) := by
  obtain ⟨store, shardId⟩ := target
  cases shardId with
  | none => exact ⟨fun _ _ => rfl, fun _ answered => by cases answered⟩
  | some shardId =>
      by_cases configured : store = "account" ∧ shardId ∈ accountShardIds
      · simp only [accountTransaction, Databases.accountSession, if_pos configured]
        refine ⟨fun failure failed => ?_, fun value answered => ?_⟩
        · simp only [Script.transaction_error failed, Function.update_eq_self]
        · simp only [Script.transaction_ok answered]
      · simp only [accountTransaction, Databases.accountSession, if_neg configured]
        exact ⟨fun _ _ => rfl, fun _ answered => by cases answered⟩

theorem refines_automation (dbs : Databases) (plan : Plan Failure) (script : Script Failure AutomationStore α) :
    Refines dbs (dbs.automationSession script.outcome) (automationTransaction dbs plan script) := by
  unfold automationTransaction Databases.automationSession
  refine ⟨fun failure failed => ?_, fun value answered => ?_⟩
  · simp only [Script.transaction_error failed]
  · simp only [Script.transaction_ok answered]

end Refinement

section Outcomes

variable (P : Platform) (met : Circumstances)

theorem profileScript_outcome (profile : UserProfile) (target : ShardTarget) :
    (profileScript met profile target).outcome = fun shard => do
      if shard.holdsProfile profile then return (profile, shard)
      flushProfile profile
      return (profile, { shard with
        profiles := shard.profiles.put profile.userId profile
        outbox := shard.outbox ++ [profileUpdated profile target met.eventId met.now] }) := by
  funext shard
  rw [profileScript, Script.outcome_query]
  by_cases held : shard.holdsProfile profile = true
  · simp only [held, if_true, Script.outcome]
    rfl
  · simp only [held]
    cases flushProfile profile <;> rfl

theorem subscriptionScript_outcome
    (decide : Uuid → Uuid → String → Option SignalSubscription → Decision SignalSubscription)
    (subscriptionId userId : Uuid) (stockCode : String) (target : ShardTarget) :
    (subscriptionScript met decide subscriptionId userId stockCode target).outcome = fun shard =>
      .ok (shard.applyDecision target met.eventId met.now (decide subscriptionId userId stockCode
        (shard.subscriptions.find subscriptionId))) := by
  funext shard
  rw [subscriptionScript, Script.outcome_query]
  cases decide subscriptionId userId stockCode (shard.subscriptions.find subscriptionId) with
  | keep row => rfl
  | write row => rfl

theorem connectionScript_outcome (credentials : KisAccountCredentials)
    (connectionId userId : Uuid) (target : ShardTarget) :
    (connectionScript met credentials connectionId userId target).outcome = fun shard =>
      shard.linkConnection credentials connectionId userId target met.eventId met.now := by
  funext shard
  rw [connectionScript, Script.outcome_query]
  unfold AccountShard.linkConnection
  cases shard.connections.find connectionId with
  | none => rfl
  | some existing =>
      simp only
      by_cases foreign : existing.userId ≠ userId
      · simp only [if_pos foreign]
        rfl
      · simp only [if_neg foreign]
        split <;> rfl

theorem findCaptureScript_outcome (snapshotId : Uuid) :
    (findCaptureScript snapshotId).outcome = fun shard =>
      .ok (shard.findCapture snapshotId, shard) := by
  funext shard
  rw [findCaptureScript, Script.outcome_query]
  unfold AccountShard.findCapture
  cases shard.snapshots.find snapshotId with
  | none => rfl
  | some snapshot => rfl

/-- Saving the positions one by one leaves the rest of the shard alone. -/
theorem save_positions (positions : List PortfolioPositionSnapshot) (shard : AccountShard) :
    (positions.map savePosition).foldl (fun working effect => effect working) shard =
      { shard with
        positions := positions.foldl
          (fun table position => table.put position.positionId position) shard.positions } := by
  induction positions generalizing shard with
  | nil => rfl
  | cons position rest ih => exact ih _

theorem storeCaptureScript_outcome (snapshot : PortfolioSnapshot)
    (positions : List PortfolioPositionSnapshot) (target : ShardTarget) :
    (storeCaptureScript met snapshot positions target).outcome = fun shard =>
      .ok (shard.storeCapture snapshot positions target met.eventId met.now) := by
  funext shard
  rw [storeCaptureScript, Script.outcome_query]
  unfold AccountShard.storeCapture AccountShard.findCapture
  cases shard.snapshots.find snapshot.snapshotId with
  | some existing => rfl
  | none =>
      simp only [Script.outcome_writes, List.foldl_append, List.foldl_cons, save_positions]
      rfl

theorem signalScript_outcome (signal : SignalEvent) (dbs : Databases) :
    dbs.automationSession (signalScript P met signal).outcome =
      P.recordSignal signal met.eventId met.now dbs := by
  unfold Platform.recordSignal
  congr 1
  funext store
  rw [signalScript, Script.outcome_query]
  cases store.signalEvents.find signal.signalId with
  | some existing => rfl
  | none =>
      simp only [Script.outcome]
      cases signal.expiresAt with
      | none => rfl
      | some last => rfl

theorem subscription_refines
    (decide : Uuid → Uuid → String → Option SignalSubscription → Decision SignalSubscription)
    (stockCode : String) (session : SessionData) (dbs : Databases) :
    Refines dbs (P.changeSubscription decide stockCode session met.eventId met.now dbs)
      (Faulty.changeSubscription P met dbs decide stockCode session) := by
  refine refines_validated _ fun (userId, target) => refines_validated _ fun code => ?_
  have refines := refines_account dbs target (met.faults 0)
    (subscriptionScript met decide (P.subscriptionId userId code) userId code target)
  rw [subscriptionScript_outcome] at refines
  exact refines

/-- A transaction that only reads commits what was there. -/
theorem accountSession_reads {α : Type} {dbs after : Databases} {target : ShardTarget}
    {read : AccountShard → α} {value : α}
    (answered : dbs.accountSession target (fun shard => .ok (read shard, shard)) =
      .ok (value, after)) : after = dbs := by
  rcases dbs.accountSession_cases target (fun shard => .ok (read shard, shard)) with
    ⟨failure, failed⟩ | ⟨shardId, result, shard, -, -, ran, committed⟩
  · rw [failed] at answered
    cases answered
  · rw [committed] at answered
    cases answered
    cases ran
    simp

theorem capture_refines (session : SessionData) (connection : BrokerageAccountConnection)
    (idempotencyKey : String) (dbs : Databases) :
    Refines dbs
      (P.capturePortfolioSnapshot session connection met.holdings idempotencyKey met.eventId
        met.capturedAt met.now dbs)
      (Faulty.capturePortfolioSnapshot P met dbs session connection idempotencyKey) := by
  refine refines_validated _ fun (userId, target) => refines_validated _ fun snapshotId => ?_
  have looked := refines_account dbs target (met.faults 0) (findCaptureScript snapshotId)
  rw [findCaptureScript_outcome] at looked
  simp only
  revert looked
  cases accountTransaction dbs target (met.faults 0) (findCaptureScript snapshotId) with
  | mk answer after =>
      intro looked
      cases answer with
      | error failure =>
          refine ⟨fun _ _ => looked.failed failure rfl, ?_⟩
          intro value answered
          cases answered
      | ok found =>
          have read := looked.answered found rfl
          obtain rfl := accountSession_reads read
          rw [read]
          cases found with
          | some capture =>
              refine ⟨fun _ _ => rfl, ?_⟩
              intro value answered
              cases answered
              rfl
          | none =>
              simp only [bind, Except.bind]
              refine refines_validated met.holdings fun holdings => ?_
              have stored := refines_account after target (met.faults 1) (storeCaptureScript met
                ⟨snapshotId, connection.connectionId, userId, met.capturedAt,
                  (P.positionModels snapshotId userId holdings).length⟩
                (P.positionModels snapshotId userId holdings) target)
              rw [storeCaptureScript_outcome] at stored
              exact stored

/-- **A call that fails leaves the databases alone, one that answers did what its handler
does.** -/
theorem perform_refines (environ : Environ) (dbs : Databases) (call : Call) :
    Refines dbs (handle P environ met dbs call) (perform P environ met dbs call) := by
  cases call with
  | updateProfile request session =>
      refine Refines.map (refines_validated _ fun (userId, target) => ?_) _
      have refines := refines_account dbs target (met.faults 0)
        (profileScript met (request.profile userId) target)
      rw [profileScript_outcome] at refines
      exact refines
  | subscribe request session => exact (subscription_refines P met _ _ _ _).map _
  | unsubscribe request session => exact (subscription_refines P met _ _ _ _).map _
  | linkDefaultConnection session =>
      refine Refines.map (refines_validated _ fun (userId, target) =>
        refines_validated _ fun credentials => ?_) _
      have refines := refines_account dbs target (met.faults 0)
        (connectionScript met credentials (P.connectionId userId) userId target)
      rw [connectionScript_outcome] at refines
      exact refines
  | capturePortfolioSnapshot session connection idempotencyKey =>
      exact (capture_refines P met session connection idempotencyKey dbs).map _
  | recordSignal signal =>
      have refines := refines_automation dbs (met.faults 0) (signalScript P met signal)
      rw [signalScript_outcome] at refines
      exact refines.map _

end Outcomes

/-! ## What a call does to the rows and the outbox -/

/-- Only the one shard changed, and it changed like this. -/
def OnShard (before after : Databases) (shardId : String)
    (change : AccountShard → AccountShard → Prop) : Prop :=
  ∃ shard, after = { before with account := Function.update before.account shardId shard } ∧
    change (before.account shardId) shard

/-- The row under the key is a new one, and the one event added with it is the given. -/
structure Announced {R : Type} (table : AccountShard → Table Uuid R) (key : Uuid) (row : R)
    (record : OutboxEventRecord) (before after : AccountShard) : Prop where
  changed : (table before).find key ≠ some row
  stored : (table after).find key = some row
  outbox : after.outbox = before.outbox ++ [record]

section Effects

variable (P : Platform) (environ : Environ) (met : Circumstances)

/-- The rows a call changes, and the event that describes them. -/
def Effect (before after : Databases) : Call → Prop
  | .updateProfile request session =>
      ∃ userId shardId, profileLocation session = .ok (userId, ⟨"account", some shardId⟩) ∧
        OnShard before after shardId (Announced (·.profiles) userId (request.profile userId)
          (profileUpdated (request.profile userId) ⟨"account", some shardId⟩ met.eventId met.now))
  | .subscribe request session => Subscription request.stockCode session true
  | .unsubscribe request session => Subscription request.stockCode session false
  | .linkDefaultConnection session =>
      ∃ userId shardId connection,
        connectionLocation environ session = .ok (userId, ⟨"account", some shardId⟩) ∧
        connection.connectionId = P.connectionId userId ∧ connection.userId = userId ∧
        OnShard before after shardId (Announced (·.connections) (P.connectionId userId) connection
          (connectionLinked connection ⟨"account", some shardId⟩ met.eventId met.now))
  | .capturePortfolioSnapshot session connection idempotencyKey =>
      ∃ userId shardId snapshot, ∃ positions : List PortfolioPositionSnapshot,
        snapshotLocation session connection = .ok (userId, ⟨"account", some shardId⟩) ∧
        P.snapshotId userId connection.connectionId idempotencyKey = .ok snapshot.snapshotId ∧
        snapshot.positionCount = positions.length ∧
        OnShard before after shardId fun shard stored =>
          Announced (·.snapshots) snapshot.snapshotId snapshot
            (snapshotCaptured snapshot ⟨"account", some shardId⟩ met.eventId met.now) shard stored ∧
          stored.positions = positions.foldl
            (fun table position => table.put position.positionId position) shard.positions
  | .recordSignal signal =>
      before.automation.signalEvents.find signal.signalId = none ∧
        ∃ store, after = { before with automation := store } ∧
          store.signalEvents.find signal.signalId = some signal ∧
          store.outbox = before.automation.outbox ++
            if signal.expiresAt.isSome then [P.signalCreated signal met.eventId met.now] else []
where
  /-- The subscription is turned on or off. -/
  Subscription (stockCode : String) (session : SessionData) (enabled : Bool) : Prop :=
    ∃ userId shardId code row,
      subscriptionLocation session = .ok (userId, ⟨"account", some shardId⟩) ∧
      normalizeDomesticStockCode stockCode = some code ∧
      row.subscriptionId = P.subscriptionId userId code ∧ row.enabled = enabled ∧
      OnShard before after shardId (Announced (·.subscriptions) row.subscriptionId row
        (recordSubscriptionUpdate row ⟨"account", some shardId⟩ met.eventId met.now))

end Effects

/-! ### Lifting a fact about one shard -/

section Sessions

variable {α : Type} {dbs after : Databases} {target : ShardTarget}

theorem accountSession_commits {body : AccountShard → Except Failure (α × AccountShard)}
    {value : α} (answered : dbs.accountSession target body = .ok (value, after)) :
    ∃ shardId shard, target = ⟨"account", some shardId⟩ ∧
      body (dbs.account shardId) = .ok (value, shard) ∧
      after = { dbs with account := Function.update dbs.account shardId shard } := by
  rcases dbs.accountSession_cases target body with
    ⟨failure, failed⟩ | ⟨shardId, result, shard, isTarget, -, ran, committed⟩
  · rw [failed] at answered
    cases answered
  · rw [committed] at answered
    cases answered
    exact ⟨shardId, shard, isTarget, ran, rfl⟩

theorem map_ok {β : Type} {f : α → β} {handled : Except Failure (α × Databases)}
    {response : β} (answered : handled.map (Prod.map f id) = .ok (response, after)) :
    ∃ value, handled = .ok (value, after) := by
  cases handled with
  | error failure => cases answered
  | ok result =>
      cases answered
      exact ⟨result.1, rfl⟩

end Sessions

/-! ### The profile -/

section Profile

variable {request : UpdateProfileRequest} {session : SessionData} {met again : Circumstances}
  {dbs after after' : Databases} {profile other : UserProfile}

theorem pyEq_self (flushed : flushProfile profile = .ok ()) : profile.pyEq profile = true := by
  cases budget : profile.monthlyBudget with
  | finite value => simp [UserProfile.pyEq, PyFloat.pyEq, budget]
  | _ =>
      simp only [flushProfile, budget] at flushed
      split at flushed <;> cases flushed

/-- The body of `update_profile` keeps the shard, or stores and announces the profile. -/
theorem updateProfile_cases (answered : updateProfile request session met.eventId met.now dbs =
      .ok (profile, after)) :
    ∃ userId shardId shard,
      profileLocation session = .ok (userId, ⟨"account", some shardId⟩) ∧
      after = { dbs with account := Function.update dbs.account shardId shard } ∧
      shard.holdsProfile (request.profile userId) = true ∧
      (shard = dbs.account shardId ∨
        (dbs.account shardId).profiles.find userId ≠ some (request.profile userId) ∧
          shard = { dbs.account shardId with
            profiles := (dbs.account shardId).profiles.put userId (request.profile userId)
            outbox := (dbs.account shardId).outbox ++ [profileUpdated (request.profile userId)
              ⟨"account", some shardId⟩ met.eventId met.now] }) := by
  obtain ⟨⟨userId, target⟩, located, committed⟩ := bind_ok answered
  obtain ⟨shardId, shard, rfl, ran, rfl⟩ := accountSession_commits committed
  refine ⟨userId, shardId, shard, located, rfl, ?_⟩
  by_cases held : (dbs.account shardId).holdsProfile (request.profile userId) = true
  · simp only [held, if_true] at ran
    cases ran
    exact ⟨held, .inl rfl⟩
  · simp only [held] at ran
    cases flushed : flushProfile (request.profile userId) with
    | error failure =>
        rw [flushed] at ran
        cases ran
    | ok _ =>
        rw [flushed] at ran
        cases ran
        have same := pyEq_self flushed
        refine ⟨?_, .inr ⟨?_, rfl⟩⟩
        · simp [AccountShard.holdsProfile, UpdateProfileRequest.profile] at same ⊢
          exact same
        · intro stored
          apply held
          simp only [AccountShard.holdsProfile, UpdateProfileRequest.profile] at stored same ⊢
          rw [stored]
          exact same

theorem updateProfile_settled
    (answered : updateProfile request session met.eventId met.now dbs = .ok (profile, after))
    (repeated : updateProfile request session again.eventId again.now after = .ok (other, after')) :
    after' = after := by
  obtain ⟨userId, shardId, shard, located, rfl, holds, -⟩ := updateProfile_cases answered
  obtain ⟨⟨userId', target⟩, located', committed⟩ := bind_ok repeated
  rw [located] at located'
  cases located'
  obtain ⟨shardId', shard', isTarget, ran, rfl⟩ := accountSession_commits committed
  cases isTarget
  simp only [Function.update_self, holds, if_true] at ran
  cases ran
  simp

end Profile

/-! ### The subscription -/

section Subscription

/-- A decision that turns subscriptions on, or off: it writes a row that differs from the one
it saw, and leaves such a row alone. -/
structure Settles
    (decide : Uuid → Uuid → String → Option SignalSubscription → Decision SignalSubscription)
    (enabled : Bool) : Prop where
  writes : ∀ id user code existing row, (∀ old, existing = some old → old.subscriptionId = id) →
    decide id user code existing = .write row →
    row.subscriptionId = id ∧ row.enabled = enabled ∧ existing ≠ some row
  keeps : ∀ id user code row, row.enabled = enabled → decide id user code (some row) = .keep row

theorem subscribe_settles : Settles subscribeDecision true := by
  constructor
  · intro id user code existing row _ written
    cases existing with
    | none =>
        cases written
        exact ⟨rfl, rfl, nofun⟩
    | some old =>
        simp only [subscribeDecision] at written
        split at written
        · cases written
        · rename_i disabled
          cases written
          refine ⟨rfl, rfl, ?_⟩
          intro same
          rw [Option.some.inj same] at disabled
          exact disabled rfl
  · intro id user code row on
    simp [subscribeDecision, on]

theorem unsubscribe_settles : Settles unsubscribeDecision false := by
  constructor
  · intro id user code existing row keyed written
    cases existing with
    | none => cases written
    | some old =>
        simp only [unsubscribeDecision] at written
        split at written
        · rename_i enabled
          cases written
          refine ⟨keyed old rfl, rfl, ?_⟩
          intro same
          have flag := congrArg SignalSubscription.enabled (Option.some.inj same)
          rw [enabled] at flag
          cases flag
        · cases written
  · intro id user code row off
    simp [unsubscribeDecision, off]

variable {P : Platform} {session : SessionData} {stockCode : String} {met again : Circumstances}
  {dbs after after' : Databases} {row other : SignalSubscription} {enabled : Bool}
  {decide : Uuid → Uuid → String → Option SignalSubscription → Decision SignalSubscription}

theorem changeSubscription_cases
    (answered : P.changeSubscription decide stockCode session met.eventId met.now dbs =
      .ok (row, after)) :
    ∃ userId shardId code shard,
      subscriptionLocation session = .ok (userId, ⟨"account", some shardId⟩) ∧
      stockCodeOr422 stockCode = .ok code ∧
      after = { dbs with account := Function.update dbs.account shardId shard } ∧
      (dbs.account shardId).applyDecision ⟨"account", some shardId⟩ met.eventId met.now
        (decide (P.subscriptionId userId code) userId code
          ((dbs.account shardId).subscriptions.find (P.subscriptionId userId code))) =
        (row, shard) := by
  obtain ⟨⟨userId, target⟩, located, rest⟩ := bind_ok answered
  obtain ⟨code, normalized, committed⟩ := bind_ok rest
  obtain ⟨shardId, shard, rfl, ran, rfl⟩ := accountSession_commits committed
  exact ⟨userId, shardId, code, shard, located, normalized, rfl, Except.ok.inj ran⟩

theorem changeSubscription_effect (settles : Settles decide enabled)
    (keyed : ∀ shardId, Table.Keyed SignalSubscription.subscriptionId
      (dbs.account shardId).subscriptions)
    (answered : P.changeSubscription decide stockCode session met.eventId met.now dbs =
      .ok (row, after)) :
    after = dbs ∨ Effect.Subscription P met dbs after stockCode session enabled := by
  obtain ⟨userId, shardId, code, shard, located, normalized, rfl, applied⟩ :=
    changeSubscription_cases answered
  cases decided : decide (P.subscriptionId userId code) userId code
      ((dbs.account shardId).subscriptions.find (P.subscriptionId userId code)) with
  | keep kept =>
      rw [decided] at applied
      cases applied
      refine .inl ?_
      simp only [Function.update_eq_self]
  | write written =>
      rw [decided] at applied
      cases applied
      obtain ⟨sameId, flag, changed⟩ := settles.writes _ _ _ _ _
        (fun old found => keyed shardId _ old found) decided
      refine .inr ⟨userId, shardId, code, row, located, ?_, sameId, flag, _, rfl, ?_, ?_, rfl⟩
      · unfold stockCodeOr422 at normalized
        split at normalized
        · rename_i found
          cases normalized
          exact found
        · cases normalized
      · rw [sameId]
        exact changed
      · exact Table.find_put_self _ _ _

theorem changeSubscription_settled (settles : Settles decide enabled)
    (keyed : ∀ shardId, Table.Keyed SignalSubscription.subscriptionId
      (dbs.account shardId).subscriptions)
    (answered : P.changeSubscription decide stockCode session met.eventId met.now dbs =
      .ok (row, after))
    (repeated : P.changeSubscription decide stockCode session again.eventId again.now after =
      .ok (other, after')) : after' = after := by
  obtain ⟨userId, shardId, code, shard, located, normalized, rfl, applied⟩ :=
    changeSubscription_cases answered
  obtain ⟨userId', shardId', code', shard', located', normalized', rfl, applied'⟩ :=
    changeSubscription_cases repeated
  rw [located] at located'
  cases located'
  rw [normalized] at normalized'
  cases normalized'
  simp only [Function.update_self] at applied' ⊢
  have kept : ∃ kept, decide (P.subscriptionId userId code) userId code
      (shard.subscriptions.find (P.subscriptionId userId code)) = .keep kept := by
    cases decided : decide (P.subscriptionId userId code) userId code
        ((dbs.account shardId).subscriptions.find (P.subscriptionId userId code)) with
    | keep kept =>
        rw [decided] at applied
        cases applied
        exact ⟨_, decided⟩
    | write written =>
        obtain ⟨sameId, flag, -⟩ := settles.writes _ _ _ _ _
          (fun old found => keyed shardId _ old found) decided
        rw [decided] at applied
        cases applied
        rw [← sameId, Table.find_put_self]
        exact ⟨_, settles.keeps _ _ _ _ flag⟩
  obtain ⟨kept, keeps⟩ := kept
  rw [keeps] at applied'
  cases applied'
  simp

end Subscription

/-! ### The connection -/

section Connection

variable {P : Platform} {environ : Environ} {session : SessionData} {met again : Circumstances}
  {dbs after after' : Databases} {connection other : BrokerageAccountConnection}

/-- The connection answered is the one stored, belongs to the user and matches the
deployment; if the shard changed, it is new and announced. -/
theorem linkConnection_effect {shard stored : AccountShard} {credentials : KisAccountCredentials}
    {connectionId userId : Uuid} {target : ShardTarget}
    (answered : shard.linkConnection credentials connectionId userId target met.eventId met.now =
      .ok (connection, stored)) :
    stored.connections.find connectionId = some connection ∧ connection.userId = userId ∧
      matchesDeployment connection credentials.environment credentials.accountMask = true ∧
      (stored = shard ∨ connection.connectionId = connectionId ∧
        shard.connections.find connectionId ≠ some connection ∧
          stored = { shard with
            connections := shard.connections.put connectionId connection
            outbox := shard.outbox ++
              [connectionLinked connection target met.eventId met.now] }) := by
  unfold AccountShard.linkConnection at answered
  cases found : shard.connections.find connectionId with
  | none =>
      rw [found] at answered
      cases answered
      exact ⟨Table.find_put_self _ _ _, rfl, by simp [matchesDeployment],
        .inr ⟨rfl, nofun, rfl⟩⟩
  | some existing =>
      simp only [found] at answered
      split at answered
      · cases answered
      · rename_i owned
        split at answered
        · rename_i matching
          cases answered
          exact ⟨found, not_not.mp owned, matching, .inl rfl⟩
        · rename_i outdated
          cases answered
          refine ⟨Table.find_put_self _ _ _, rfl, by simp [matchesDeployment],
            .inr ⟨rfl, ?_, rfl⟩⟩
          intro same
          rw [Option.some.inj same] at outdated
          exact outdated (by simp [matchesDeployment])

theorem linkDefaultConnection_cases
    (answered : P.linkDefaultConnection environ session met.eventId met.now dbs =
      .ok (connection, after)) :
    ∃ userId shardId credentials shard,
      connectionLocation environ session = .ok (userId, ⟨"account", some shardId⟩) ∧
      accountCredentials environ = .ok credentials ∧
      after = { dbs with account := Function.update dbs.account shardId shard } ∧
      (dbs.account shardId).linkConnection credentials (P.connectionId userId) userId
        ⟨"account", some shardId⟩ met.eventId met.now = .ok (connection, shard) := by
  obtain ⟨⟨userId, target⟩, located, rest⟩ := bind_ok answered
  obtain ⟨credentials, configured, committed⟩ := bind_ok rest
  obtain ⟨shardId, shard, rfl, ran, rfl⟩ := accountSession_commits committed
  exact ⟨userId, shardId, credentials, shard, located, configured, rfl, ran⟩

theorem linkDefaultConnection_settled
    (answered : P.linkDefaultConnection environ session met.eventId met.now dbs =
      .ok (connection, after))
    (repeated : P.linkDefaultConnection environ session again.eventId again.now after =
      .ok (other, after')) : after' = after := by
  obtain ⟨userId, shardId, credentials, shard, located, configured, rfl, linked⟩ :=
    linkDefaultConnection_cases answered
  obtain ⟨userId', shardId', credentials', shard', located', configured', rfl, linked'⟩ :=
    linkDefaultConnection_cases repeated
  rw [located] at located'
  cases located'
  rw [configured] at configured'
  cases configured'
  obtain ⟨stored, owner, matching, -⟩ := linkConnection_effect linked
  simp only [AccountShard.linkConnection, Function.update_self, stored, owner, ne_eq,
    not_true_eq_false, if_false, matching, if_true] at linked'
  cases linked'
  simp

end Connection

/-! ### The snapshot -/

section Snapshot

variable {P : Platform} {session : SessionData} {connection : BrokerageAccountConnection}
  {idempotencyKey : String} {met again : Circumstances} {dbs after after' : Databases}
  {capture other : PortfolioSnapshotCapture}

/-- The call found the snapshot and changed nothing, or stored it and its positions. -/
theorem capture_cases (answered : P.capturePortfolioSnapshot session connection met.holdings
      idempotencyKey met.eventId met.capturedAt met.now dbs = .ok (capture, after)) :
    ∃ userId shardId snapshotId,
      snapshotLocation session connection = .ok (userId, ⟨"account", some shardId⟩) ∧
      P.snapshotId userId connection.connectionId idempotencyKey = .ok snapshotId ∧
      (after = dbs ∧ (dbs.account shardId).findCapture snapshotId = some capture ∨
        ∃ snapshot positions shard, snapshot.snapshotId = snapshotId ∧
          snapshot.userId = userId ∧ (∀ position ∈ positions, position.userId = userId) ∧
          snapshot.positionCount = positions.length ∧
          (dbs.account shardId).snapshots.find snapshotId = none ∧
          after = { dbs with account := Function.update dbs.account shardId shard } ∧
          (dbs.account shardId).storeCapture snapshot positions ⟨"account", some shardId⟩
            met.eventId met.now = (capture, shard)) := by
  obtain ⟨⟨userId, target⟩, located, rest⟩ := bind_ok answered
  obtain ⟨snapshotId, named, rest⟩ := bind_ok rest
  obtain ⟨⟨existing, before⟩, looked, rest⟩ := bind_ok rest
  obtain ⟨shardId, shard, rfl, ran, -⟩ := accountSession_commits looked
  obtain rfl := accountSession_reads looked
  refine ⟨userId, shardId, snapshotId, located, named, ?_⟩
  have found : (before.account shardId).findCapture snapshotId = existing :=
    congrArg Prod.fst (Except.ok.inj ran)
  cases existing with
  | some known =>
      cases rest
      exact .inl ⟨rfl, found⟩
  | none =>
      obtain ⟨fetched, -, committed⟩ := bind_ok rest
      obtain ⟨shardId', stored, isTarget, saved, rfl⟩ := accountSession_commits committed
      cases isTarget
      refine .inr ⟨_, _, stored, ?_, ?_, ?_, ?_, ?_, rfl, Except.ok.inj saved⟩
      · rfl
      · rfl
      · exact fun position member => P.positionModels_userId member
      · rfl
      · simpa [AccountShard.findCapture] using found

theorem storeCapture_absent {shard : AccountShard} {snapshot : PortfolioSnapshot}
    (positions : List PortfolioPositionSnapshot) (target : ShardTarget) (eventId : String)
    (now : Instant) (absent : shard.snapshots.find snapshot.snapshotId = none) :
    shard.storeCapture snapshot positions target eventId now =
      (⟨snapshot, positions⟩, { shard with
        snapshots := shard.snapshots.put snapshot.snapshotId snapshot
        positions := positions.foldl
          (fun table position => table.put position.positionId position) shard.positions
        outbox := shard.outbox ++ [snapshotCaptured snapshot target eventId now] }) := by
  simp only [AccountShard.storeCapture, AccountShard.findCapture, absent, Option.map_none]

theorem storeCapture_effect {shard stored : AccountShard} {snapshot : PortfolioSnapshot}
    {positions : List PortfolioPositionSnapshot} {target : ShardTarget}
    (absent : shard.snapshots.find snapshot.snapshotId = none)
    (saved : shard.storeCapture snapshot positions target met.eventId met.now = (capture, stored)) :
    Announced (·.snapshots) snapshot.snapshotId snapshot
        (snapshotCaptured snapshot target met.eventId met.now) shard stored ∧
      stored.positions = positions.foldl
        (fun table position => table.put position.positionId position) shard.positions := by
  rw [storeCapture_absent positions target met.eventId met.now absent] at saved
  cases saved
  exact ⟨⟨by simp [absent], Table.find_put_self _ _ _, rfl⟩, rfl⟩

theorem capture_settled
    (answered : P.capturePortfolioSnapshot session connection met.holdings idempotencyKey
      met.eventId met.capturedAt met.now dbs = .ok (capture, after))
    (repeated : P.capturePortfolioSnapshot session connection again.holdings idempotencyKey
      again.eventId again.capturedAt again.now after = .ok (other, after')) : after' = after := by
  obtain ⟨userId, shardId, snapshotId, located, named, first⟩ := capture_cases answered
  obtain ⟨userId', shardId', snapshotId', located', named', second⟩ := capture_cases repeated
  rw [located] at located'
  cases located'
  rw [named] at named'
  cases named'
  have present : (after.account shardId).snapshots.find snapshotId ≠ none := by
    rcases first with ⟨rfl, found⟩ |
      ⟨snapshot, positions, shard, rfl, -, -, -, absent, rfl, saved⟩
    · intro absent
      simp [AccountShard.findCapture, absent] at found
    · intro missing
      simp only [Function.update_self, (storeCapture_effect absent saved).1.stored] at missing
      cases missing
  rcases second with ⟨same, -⟩ | ⟨snapshot, positions, shard, rfl, -, -, -, absent, -⟩
  · exact same
  · exact absurd absent present

end Snapshot

/-! ### The signal -/

section Signal

variable {P : Platform} {met again : Circumstances} {dbs after after' : Databases}
  {signal recorded other : SignalEvent}

/-- The call found the signal and changed nothing, or stored it. -/
theorem recordSignal_cases
    (answered : P.recordSignal signal met.eventId met.now dbs = .ok (recorded, after)) :
    (after = dbs ∧ (dbs.automation.signalEvents.find signal.signalId).isSome) ∨
      Effect P (fun _ => none) met dbs after (.recordSignal signal) := by
  unfold Platform.recordSignal Databases.automationSession at answered
  cases found : dbs.automation.signalEvents.find signal.signalId with
  | some existing =>
      simp only [found] at answered
      cases answered
      exact .inl ⟨rfl, rfl⟩
  | none =>
      refine .inr ⟨found, ?_⟩
      cases expiry : signal.expiresAt with
      | none =>
          simp only [found, expiry] at answered
          cases answered
          exact ⟨_, rfl, Table.find_put_self _ _ _, by simp⟩
      | some last =>
          simp only [found, expiry] at answered
          cases answered
          exact ⟨_, rfl, Table.find_put_self _ _ _, by simp [Platform.signalCreated]⟩

theorem recordSignal_settled
    (answered : P.recordSignal signal met.eventId met.now dbs = .ok (recorded, after))
    (repeated : P.recordSignal signal again.eventId again.now after = .ok (other, after')) :
    after' = after := by
  have present : (after.automation.signalEvents.find signal.signalId).isSome := by
    rcases recordSignal_cases answered with ⟨rfl, known⟩ | ⟨-, store, rfl, stored, -⟩
    · exact known
    · simp [stored]
  rcases recordSignal_cases repeated with ⟨same, -⟩ | ⟨absent, -⟩
  · exact same
  · rw [absent] at present
    cases present

end Signal

/-! ## All six -/

section Atomic

variable {P : Platform} {environ : Environ} {met again : Circumstances}
  {dbs after after' : Databases} {call : Call} {response other : Response}

theorem handle_effect
    (keyed : ∀ shardId, Table.Keyed SignalSubscription.subscriptionId
      (dbs.account shardId).subscriptions)
    (answered : handle P environ met dbs call = .ok (response, after)) :
    after = dbs ∨ Effect P environ met dbs after call := by
  cases call with
  | updateProfile request session =>
      obtain ⟨profile, handled⟩ := map_ok answered
      obtain ⟨userId, shardId, shard, located, rfl, -, rfl | ⟨changed, rfl⟩⟩ :=
        updateProfile_cases handled
      · exact .inl (by simp)
      · exact .inr ⟨userId, shardId, located, _, rfl, changed, Table.find_put_self _ _ _, rfl⟩
  | subscribe request session =>
      obtain ⟨row, handled⟩ := map_ok answered
      exact changeSubscription_effect subscribe_settles keyed handled
  | unsubscribe request session =>
      obtain ⟨row, handled⟩ := map_ok answered
      exact changeSubscription_effect unsubscribe_settles keyed handled
  | linkDefaultConnection session =>
      obtain ⟨connection, handled⟩ := map_ok answered
      obtain ⟨userId, shardId, credentials, shard, located, -, rfl, linked⟩ :=
        linkDefaultConnection_cases handled
      obtain ⟨-, owner, -, rfl | ⟨named, changed, rfl⟩⟩ := linkConnection_effect linked
      · exact .inl (by simp)
      · exact .inr ⟨userId, shardId, connection, located, named, owner, _, rfl, changed,
          Table.find_put_self _ _ _, rfl⟩
  | capturePortfolioSnapshot session connection idempotencyKey =>
      obtain ⟨capture, handled⟩ := map_ok answered
      obtain ⟨userId, shardId, snapshotId, located, named, ⟨same, -⟩ |
        ⟨snapshot, positions, shard, rfl, -, -, counted, absent, rfl, saved⟩⟩ := capture_cases handled
      · exact .inl same
      · exact .inr ⟨userId, shardId, snapshot, positions, located, named, counted, shard, rfl,
          storeCapture_effect absent saved⟩
  | recordSignal signal =>
      obtain ⟨recorded, handled⟩ := map_ok answered
      rcases recordSignal_cases handled with ⟨same, -⟩ | effect
      · exact .inl same
      · exact .inr effect

theorem handle_settled
    (keyed : ∀ shardId, Table.Keyed SignalSubscription.subscriptionId
      (dbs.account shardId).subscriptions)
    (answered : handle P environ met dbs call = .ok (response, after))
    (repeated : handle P environ again after call = .ok (other, after')) : after' = after := by
  cases call with
  | updateProfile request session =>
      obtain ⟨profile, handled⟩ := map_ok answered
      obtain ⟨profile', handled'⟩ := map_ok repeated
      exact updateProfile_settled handled handled'
  | subscribe request session =>
      obtain ⟨row, handled⟩ := map_ok answered
      obtain ⟨row', handled'⟩ := map_ok repeated
      exact changeSubscription_settled subscribe_settles keyed handled handled'
  | unsubscribe request session =>
      obtain ⟨row, handled⟩ := map_ok answered
      obtain ⟨row', handled'⟩ := map_ok repeated
      exact changeSubscription_settled unsubscribe_settles keyed handled handled'
  | linkDefaultConnection session =>
      obtain ⟨connection, handled⟩ := map_ok answered
      obtain ⟨connection', handled'⟩ := map_ok repeated
      exact linkDefaultConnection_settled handled handled'
  | capturePortfolioSnapshot session connection idempotencyKey =>
      obtain ⟨capture, handled⟩ := map_ok answered
      obtain ⟨capture', handled'⟩ := map_ok repeated
      exact capture_settled handled handled'
  | recordSignal signal =>
      obtain ⟨recorded, handled⟩ := map_ok answered
      obtain ⟨recorded', handled'⟩ := map_ok repeated
      exact recordSignal_settled handled handled'

end Atomic

/-- What a call does, whatever fails on the way. -/
structure Atomic (P : Platform) (environ : Environ) (met : Circumstances) (dbs : Databases)
    (call : Call) : Prop where
  /-- A failure leaves every table as it was. -/
  failed : ∀ failure, (perform P environ met dbs call).1 = .error failure →
    (perform P environ met dbs call).2 = dbs
  /-- An answered call changed nothing, or its rows together with one event. -/
  answered : ∀ response, (perform P environ met dbs call).1 = .ok response →
    (perform P environ met dbs call).2 = dbs ∨
      Effect P environ met dbs (perform P environ met dbs call).2 call
  /-- Repeating an answered call changes nothing, whatever fails this time. -/
  repeated : ∀ response, (perform P environ met dbs call).1 = .ok response → ∀ again,
    (perform P environ again (perform P environ met dbs call).2 call).2 =
      (perform P environ met dbs call).2

/-- **The handlers are atomic.** A row's primary key is one of its columns, which is what
`keyed` says of the subscriptions. -/
theorem handlers_atomic (P : Platform) (environ : Environ) (met : Circumstances)
    {dbs : Databases} (keyed : ∀ shardId, Table.Keyed SignalSubscription.subscriptionId
      (dbs.account shardId).subscriptions) (call : Call) : Atomic P environ met dbs call := by
  have refines := perform_refines P met environ dbs call
  refine ⟨refines.failed, ?_, ?_⟩
  · intro response answered
    exact handle_effect keyed (refines.answered response answered)
  · intro response answered again
    have refinesAgain := perform_refines P again environ
      (perform P environ met dbs call).2 call
    cases second : (perform P environ again (perform P environ met dbs call).2 call).1 with
    | error failure => exact refinesAgain.failed failure second
    | ok other =>
        exact handle_settled keyed (refines.answered response answered)
          (refinesAgain.answered other second)

/-! ## A subscription whose commit fails once -/

namespace Sample

def user : Uuid := 0x8e0228d4762a4ccf90f9fd8db616364f

/-- `subscription_id(user, "005930")`. -/
def subscription : Uuid := 0x3a702bf2f2ae5f31adbd91fb90161447

def platform : Platform :=
  .reference (fun _ name => if name = subscriptionName user "005930" then subscription else 0)
    (.aware 0) "1970-01-01T00:00:00Z"

def session : SessionData :=
  ⟨"sample", user.str, [("shard_id", .str "2"), ("access_level", .str "user")]⟩

def call : Call := .subscribe ⟨"005930"⟩ session

def calm : Circumstances :=
  ⟨fun _ _ => none, .ok [], "4a1fb8bc-c45f-42cc-8a49-30ec6f436f53", 0, 0⟩

/-- The lookup, the row and the event go through, the commit does not. -/
def commitFails : Circumstances :=
  { calm with
    faults := fun _ position =>
      if position = 3 then some (.raised .integrityError "commit") else none }

theorem keyed (shardId : String) : Table.Keyed SignalSubscription.subscriptionId
    (Databases.empty.account shardId).subscriptions := Table.keyed_empty _

theorem subscribe_is_atomic :
    Atomic platform (fun _ => none) commitFails .empty call ∧
      Atomic platform (fun _ => none) calm .empty call ∧
      (perform platform (fun _ => none) commitFails .empty call).1 =
        .error (.raised .integrityError "commit") ∧
      (perform platform (fun _ => none) calm .empty call).1 =
        .ok (.subscription ⟨subscription, user, "005930", true, 1⟩) ∧
      ((perform platform (fun _ => none) calm .empty call).2.account "2").outbox.length = 1 :=
  ⟨handlers_atomic _ _ _ keyed _, handlers_atomic _ _ _ keyed _, rfl, rfl, rfl⟩

end Sample

end KisAutoTrading.Handlers.Atomicity
