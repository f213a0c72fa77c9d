/-
# Outbox.Routing — which enqueued events the broker can route

The writers of events are spread over seven modules, the bindings over three
processes. `Operation` is everything that writes an outbox, with the worker's handlers
and the relay; `AllRouted` says that every record in every outbox has a routing key
some declared binding admits.

Six of the writers use keys that are bound. Three do not: nothing binds
`brokerage.account.connection-linked`, `portfolio.snapshot.captured` or
`durable-job.status.changed`. `Announces` says when an operation takes the branch that
enqueues one of them, and `all_routed_iff` that a run keeps `AllRouted` exactly if no
step does. A record with such a key is returned by the broker on every attempt and
stays pending (`unrouted_stays_pending`).
-/
import KisAutoTrading.Infrastructure.DurableJobs
import KisAutoTrading.Infrastructure.OutboxRelay
import KisAutoTrading.Modules.Account
import KisAutoTrading.Modules.BrokerageAccount
import KisAutoTrading.Modules.Notification
import KisAutoTrading.Modules.Portfolio
import KisAutoTrading.Theory.Runs
import KisAutoTrading.Worker.MessageHandler

namespace KisAutoTrading.Outbox.Routing

open Theory Theory.Runs

set_option autoImplicit false

inductive Operation where
  | updateProfile (request : UpdateProfileRequest) (session : SessionData) (eventId : String)
      (now : Instant)
  | subscribe (request : SubscribeRequest) (session : SessionData) (eventId : String)
      (now : Instant)
  | unsubscribe (request : UnsubscribeRequest) (session : SessionData) (eventId : String)
      (now : Instant)
  | recordSignal (signal : SignalEvent) (eventId : String) (now : Instant)
  | signalCreated (message : EventMessage) (now : Instant) (newId : Uuid → String)
  | linkDefaultConnection (environ : Environ) (session : SessionData) (eventId : String)
      (now : Instant)
  | capturePortfolioSnapshot (session : SessionData) (connection : BrokerageAccountConnection)
      (holdings : Except Failure (List KisDomesticStockHolding))
      (idempotencyKey eventId : String) (capturedAt now : Instant)
  | requestJob (jobType runKey : String) (payload : Dict) (availableAt : Option Instant)
      (jobId eventId : String) (now : Instant)
  | transition (jobId : String) (expectedStatus status : DurableJobStatus)
      (result : Option Dict) (error : Option String) (eventId : String) (now : Instant)
  | profileUpdated (message : EventMessage)
  | subscriptionUpdated (message : EventMessage)
  | intentCreated (message : EventMessage) (now : Instant)
  | markRead (notificationId : Uuid) (session : SessionData) (now : Instant)
  | relayAutomation (publish : Publisher) (batchSize : Nat) (pass : Pass)
  | relayAccount (shardId : String) (publish : Publisher) (batchSize : Nat) (pass : Pass)

def step (P : Platform) (dbs : Databases) : Operation → Databases
  | .updateProfile request session eventId now =>
      dbs.commit (updateProfile request session eventId now dbs)
  | .subscribe request session eventId now =>
      dbs.commit (P.subscribe request session eventId now dbs)
  | .unsubscribe request session eventId now =>
      dbs.commit (P.unsubscribe request session eventId now dbs)
  | .recordSignal signal eventId now => dbs.commit (P.recordSignal signal eventId now dbs)
  | .signalCreated message now newId =>
      dbs.commit (dbs.automationSession (P.handleSignalCreated message now newId))
  | .linkDefaultConnection environ session eventId now =>
      dbs.commit (P.linkDefaultConnection environ session eventId now dbs)
  | .capturePortfolioSnapshot session connection holdings idempotencyKey eventId capturedAt now =>
      dbs.commit (P.capturePortfolioSnapshot session connection holdings idempotencyKey eventId
        capturedAt now dbs)
  | .requestJob jobType runKey payload availableAt jobId eventId now =>
      dbs.commit (dbs.automationSession
        (requestJob jobType runKey payload availableAt jobId eventId now))
  | .transition jobId expectedStatus status result error eventId now =>
      dbs.commit (dbs.automationSession fun store =>
        .ok (transition jobId expectedStatus status result error eventId now store))
  | .profileUpdated message => dbs.commit (handleProfileUpdate message dbs)
  | .subscriptionUpdated message =>
      dbs.commit (dbs.automationSession (P.handleSignalSubscriptionUpdate message))
  | .intentCreated message now =>
      dbs.commit (P.handleSignalDeliveryIntentCreated message now dbs)
  | .markRead notificationId session now =>
      dbs.commit (markUserNotificationRead notificationId session now dbs)
  | .relayAutomation publish batchSize pass =>
      let relayed : AutomationStore :=
        { dbs.automation with
          outbox := (publishPending publish batchSize pass dbs.automation.outbox).2 }
      { dbs with automation := relayed }
  | .relayAccount shardId publish batchSize pass =>
      let relayed : AccountShard :=
        { dbs.account shardId with
          outbox := (publishPending publish batchSize pass (dbs.account shardId).outbox).2 }
      { dbs with account := Function.update dbs.account shardId relayed }

/-- Some declared queue takes the record. -/
def Routed (record : OutboxEventRecord) : Prop := routable record.routingKey = true

structure AllRouted (dbs : Databases) : Prop where
  automation : ∀ record ∈ dbs.automation.outbox, Routed record
  account : ∀ shardId, ∀ record ∈ (dbs.account shardId).outbox, Routed record

/-! ## The operations that enqueue an unbound event -/

/-- The user has no connection yet, or one that is not the deployment's any more. -/
def Outdated (shard : AccountShard) (credentials : KisAccountCredentials)
    (connectionId userId : Uuid) : Prop :=
  ∀ existing, shard.connections.find connectionId = some existing →
    existing.userId = userId ∧
      matchesDeployment existing credentials.environment credentials.accountMask = false

/-- The operation links a connection, captures a new snapshot or moves a job. -/
def Announces (P : Platform) (dbs : Databases) : Operation → Prop
  | .linkDefaultConnection environ session _ _ =>
      ∃ userId shardId credentials,
        connectionLocation environ session = .ok (userId, ⟨"account", some shardId⟩) ∧
        shardId ∈ accountShardIds ∧ accountCredentials environ = .ok credentials ∧
        Outdated (dbs.account shardId) credentials (P.connectionId userId) userId
  | .capturePortfolioSnapshot session connection holdings idempotencyKey _ _ _ =>
      ∃ userId shardId snapshotId fetched,
        snapshotLocation session connection = .ok (userId, ⟨"account", some shardId⟩) ∧
        shardId ∈ accountShardIds ∧
        P.snapshotId userId connection.connectionId idempotencyKey = .ok snapshotId ∧
        holdings = .ok fetched ∧ (dbs.account shardId).snapshots.find snapshotId = none
  | .transition jobId expectedStatus _ _ _ _ _ =>
      ∃ job, dbs.automation.durableJobs.find jobId = some job ∧ job.status = expectedStatus
  | _ => False

/-! ## Outboxes -/

/-- Every record of the second outbox is routed, or has the key of a record of the
first. -/
def Extends (old new : List OutboxEventRecord) : Prop :=
  ∀ record ∈ new, Routed record ∨ ∃ before ∈ old, before.routingKey = record.routingKey

theorem Routed.of_key {a b : OutboxEventRecord} (routed : Routed a)
    (sameKey : a.routingKey = b.routingKey) : Routed b := by
  unfold Routed at routed ⊢
  rw [← sameKey]
  exact routed

theorem Extends.refl (outbox : List OutboxEventRecord) : Extends outbox outbox :=
  fun record member => .inr ⟨record, member, rfl⟩

theorem Extends.trans {a b c : List OutboxEventRecord} (first : Extends a b)
    (second : Extends b c) : Extends a c := by
  intro record member
  rcases second record member with routed | ⟨middle, inMiddle, sameKey⟩
  · exact .inl routed
  · rcases first middle inMiddle with routed | ⟨before, inFirst, beforeKey⟩
    · exact .inl (routed.of_key sameKey)
    · exact .inr ⟨before, inFirst, beforeKey.trans sameKey⟩

theorem extends_append {outbox : List OutboxEventRecord} {record : OutboxEventRecord}
    (routed : Routed record) : Extends outbox (outbox ++ [record]) := by
  intro other member
  rcases List.mem_append.mp member with old | new
  · exact .inr ⟨other, old, rfl⟩
  · rw [List.mem_singleton] at new
    subst new
    exact .inl routed

theorem extends_publishPending (publish : Publisher) (batchSize : Nat) (pass : Pass)
    (outbox : List OutboxEventRecord) :
    Extends outbox (publishPending publish batchSize pass outbox).2 := by
  intro record member
  obtain ⟨before, stored, rfl⟩ := List.mem_map.mp member
  refine .inr ⟨before, stored, ?_⟩
  have key := congrArg EventMessage.routingKey (attempt_message pass publish before)
  split
  · exact key.symm
  · rfl

section Transactions

variable {α : Type} {dbs : Databases}

theorem commit_accountSession_ok {shardId : String} (configured : shardId ∈ accountShardIds)
    {body : AccountShard → Except Failure (α × AccountShard)} {value : α} {after : AccountShard}
    (ran : body (dbs.account shardId) = .ok (value, after)) :
    dbs.commit (dbs.accountSession ⟨"account", some shardId⟩ body) =
      { dbs with account := Function.update dbs.account shardId after } := by
  simp [Databases.accountSession, configured, ran, Databases.commit]

theorem AllRouted.update (all : AllRouted dbs) {shardId : String} {after : AccountShard}
    (grows : Extends (dbs.account shardId).outbox after.outbox) :
    AllRouted { dbs with account := Function.update dbs.account shardId after } where
  automation := all.automation
  account := by
    intro other record member
    by_cases here : other = shardId
    · subst here
      rw [show ({ dbs with account := Function.update dbs.account other after } :
        Databases).account other = after from Function.update_self _ _ _] at member
      rcases grows record member with routed | ⟨before, stored, sameKey⟩
      · exact routed
      · exact (all.account other before stored).of_key sameKey
    · rw [show ({ dbs with account := Function.update dbs.account shardId after } :
        Databases).account other = dbs.account other from
          Function.update_of_ne here _ _] at member
      exact all.account other record member

theorem AllRouted.accountSession (all : AllRouted dbs) (target : ShardTarget)
    {body : AccountShard → Except Failure (α × AccountShard)}
    (grows : ∀ shard value after, body shard = .ok (value, after) →
      Extends shard.outbox after.outbox) :
    AllRouted (dbs.commit (dbs.accountSession target body)) := by
  rcases dbs.accountSession_cases target body with
    ⟨failure, raised⟩ | ⟨shardId, value, after, -, -, ran, new⟩
  · rw [raised]
    exact all
  · rw [new]
    exact all.update (grows _ value after ran)

theorem AllRouted.automation_update (all : AllRouted dbs) {store : AutomationStore}
    (grows : Extends dbs.automation.outbox store.outbox) :
    AllRouted { dbs with automation := store } where
  automation := by
    intro record member
    rcases grows record member with routed | ⟨before, stored, sameKey⟩
    · exact routed
    · exact (all.automation before stored).of_key sameKey
  account := all.account

theorem AllRouted.automationSession (all : AllRouted dbs)
    {body : AutomationStore → Except Failure (α × AutomationStore)}
    (grows : ∀ store value after, body store = .ok (value, after) →
      Extends store.outbox after.outbox) :
    AllRouted (dbs.commit (dbs.automationSession body)) := by
  unfold Databases.automationSession
  cases ran : body dbs.automation with
  | error failure => exact all
  | ok result => exact all.automation_update (grows _ result.1 result.2 ran)

/-- What comes before the transaction writes nothing. -/
theorem AllRouted.bind {β : Type} (all : AllRouted dbs) {first : Except Failure β}
    {next : β → Except Failure (α × Databases)}
    (routed : ∀ value, first = .ok value → AllRouted (dbs.commit (next value))) :
    AllRouted (dbs.commit (first >>= next)) := by
  cases ran : first with
  | error failure => exact all
  | ok value => exact routed value ran

end Transactions

/-! ## The writers whose keys are bound -/

/-- The keys the writers give, against the bindings. -/
theorem routable_keys :
    (∀ key ∈ ["account.profile.updated", "signal.subscription.updated", "signal.created",
      inAppNotificationRoutingKey], routable key = true) ∧
    (∀ definition ∈ jobDefinitions, routable definition.routingKey = true) ∧
    ∀ key ∈ ["brokerage.account.connection-linked", "portfolio.snapshot.captured",
      jobStatusRoutingKey], routable key = false := by
  decide +kernel

section Bound

variable {P : Platform} {dbs : Databases} (all : AllRouted dbs)

theorem routable_jobDefinition {jobType : String} {definition : DurableJobDefinition}
    (defined : jobDefinition jobType = some definition) :
    routable definition.routingKey = true :=
  routable_keys.2.1 definition (List.mem_of_find?_eq_some defined)

include all

theorem updateProfile_routed (request : UpdateProfileRequest) (session : SessionData)
    (eventId : String) (now : Instant) :
    AllRouted (dbs.commit (updateProfile request session eventId now dbs)) := by
  unfold updateProfile
  apply all.bind
  rintro ⟨userId, target⟩ -
  apply all.accountSession target
  intro shard value after ran
  simp only [bind, Except.bind, pure, Except.pure] at ran
  split at ran
  · cases ran
    exact .refl _
  · cases flushed : flushProfile (request.profile userId) with
    | error failure => simp [flushed] at ran
    | ok _ =>
        simp only [flushed, Except.ok.injEq, Prod.mk.injEq] at ran
        obtain ⟨-, rfl⟩ := ran
        apply extends_append
        show routable "account.profile.updated" = true
        exact routable_keys.1 _ (by simp)

theorem changeSubscription_routed
    (decide : Uuid → Uuid → String → Option SignalSubscription → Decision SignalSubscription)
    (stockCode : String) (session : SessionData) (eventId : String) (now : Instant) :
    AllRouted (dbs.commit (P.changeSubscription decide stockCode session eventId now dbs)) := by
  unfold Platform.changeSubscription
  apply all.bind
  rintro ⟨userId, target⟩ -
  apply all.bind
  rintro code -
  apply all.accountSession target
  intro shard value after ran
  simp only [Except.ok.injEq] at ran
  cases decided : decide (P.subscriptionId userId code) userId code
      (shard.subscriptions.find (P.subscriptionId userId code)) with
  | keep row =>
      simp only [decided, AccountShard.applyDecision, Prod.mk.injEq] at ran
      obtain ⟨-, rfl⟩ := ran
      exact .refl _
  | write row =>
      simp only [decided, AccountShard.applyDecision, Prod.mk.injEq] at ran
      obtain ⟨-, rfl⟩ := ran
      apply extends_append
      show routable "signal.subscription.updated" = true
      exact routable_keys.1 _ (by simp)

theorem recordSignal_routed (signal : SignalEvent) (eventId : String) (now : Instant) :
    AllRouted (dbs.commit (P.recordSignal signal eventId now dbs)) := by
  unfold Platform.recordSignal
  apply all.automationSession
  intro store value after ran
  split at ran
  · cases ran
    exact .refl _
  · split at ran
    · cases ran
      apply extends_append
      show routable "signal.created" = true
      exact routable_keys.1 _ (by simp)
    · cases ran
      exact .refl _

theorem requestJob_routed (jobType runKey : String) (payload : Dict)
    (availableAt : Option Instant) (jobId eventId : String) (now : Instant) :
    AllRouted (dbs.commit (dbs.automationSession
      (requestJob jobType runKey payload availableAt jobId eventId now))) := by
  apply all.automationSession
  intro store value after ran
  rcases request_cases jobType runKey payload availableAt jobId eventId now store with
    ⟨failure, raised⟩ | ⟨existing, -, found⟩ | ⟨definition, defined, -, -, inserted⟩
  · rw [raised] at ran
    cases ran
  · rw [found] at ran
    cases ran
    exact .refl _
  · rw [inserted] at ran
    cases ran
    exact extends_append (routable_jobDefinition defined)

omit all in
theorem materializeIntent_extends (newId : Uuid → String) (now : Instant) (store : AutomationStore)
    (intent : SignalDeliveryIntent) :
    Extends store.outbox (P.materializeIntent newId now store intent).outbox := by
  unfold Platform.materializeIntent
  split
  · exact .refl _
  · apply extends_append
    show routable inAppNotificationRoutingKey = true
    exact routable_keys.1 _ (by simp)

omit all in
theorem foldl_materializeIntent_extends (newId : Uuid → String) (now : Instant)
    (intents : List SignalDeliveryIntent) (store : AutomationStore) :
    Extends store.outbox (intents.foldl (P.materializeIntent newId now) store).outbox := by
  induction intents generalizing store with
  | nil => exact .refl _
  | cons intent rest ih =>
      exact (materializeIntent_extends newId now store intent).trans (ih _)

theorem signalCreated_routed (message : EventMessage) (now : Instant) (newId : Uuid → String) :
    AllRouted (dbs.commit (dbs.automationSession (P.handleSignalCreated message now newId))) := by
  apply all.automationSession
  intro store value after ran
  obtain ⟨signal, expiresAt, processedMessages, projections, -, -, rfl⟩ :=
    handleSignalCreated_cases ran
  exact foldl_materializeIntent_extends newId now _ _

/-! ### The worker's other handlers write no event -/

theorem profileUpdated_routed (message : EventMessage) :
    AllRouted (dbs.commit (handleProfileUpdate message dbs)) := by
  unfold handleProfileUpdate
  split
  · split
    · apply all.accountSession
      intro shard value after ran
      cases ran
      exact .refl _
    · exact all
  · exact all

theorem subscriptionUpdated_routed (message : EventMessage) :
    AllRouted (dbs.commit (dbs.automationSession (P.handleSignalSubscriptionUpdate message))) := by
  apply all.automationSession
  intro store value after ran
  obtain ⟨projection, processedMessages, subscriptionProjections, -, rfl, -⟩ :=
    handleSignalSubscriptionUpdate_cases ran
  exact .refl _

theorem intentCreated_routed (message : EventMessage) (now : Instant) :
    AllRouted (dbs.commit (P.handleSignalDeliveryIntentCreated message now dbs)) := by
  unfold Platform.handleSignalDeliveryIntentCreated
  apply all.bind
  intro intent _
  split
  · apply all.accountSession
    intro shard value after ran
    simp only [Except.ok.injEq] at ran
    rcases materializeNotification_cases P message.eventId intent now shard with
      ⟨inbox, same⟩ | ⟨-, inbox, made⟩
    · rw [same] at ran
      cases ran
      exact .refl _
    · rw [made] at ran
      cases ran
      exact .refl _
  · exact all

theorem markRead_routed (notificationId : Uuid) (session : SessionData) (now : Instant) :
    AllRouted (dbs.commit (markUserNotificationRead notificationId session now dbs)) := by
  rcases markRead_cases notificationId session now dbs with same | ⟨shardId, row, -, -, written⟩
  · rw [same]
    exact all
  · rw [written]
    exact all.update (.refl _)

end Bound

/-! ## The writers whose keys are not -/

section Unbound

variable {P : Platform} {dbs : Databases}

/-- An outbox of some shard holds a record no queue takes. -/
theorem not_allRouted_of_account {shardId : String} {record : OutboxEventRecord}
    (member : record ∈ (dbs.account shardId).outbox) (unbound : routable record.routingKey = false) :
    ¬ AllRouted dbs := by
  intro all
  have routed := all.account shardId record member
  rw [Routed, unbound] at routed
  cases routed

theorem linkConnection_cases (shard : AccountShard) (credentials : KisAccountCredentials)
    (connectionId userId : Uuid) (target : ShardTarget) (eventId : String) (now : Instant) :
    (Outdated shard credentials connectionId userId ∧ ∃ connection after,
      shard.linkConnection credentials connectionId userId target eventId now =
        .ok (connection, after) ∧
      after.outbox = shard.outbox ++ [connectionLinked connection target eventId now]) ∨
    ¬ Outdated shard credentials connectionId userId ∧
      ∀ connection after,
        shard.linkConnection credentials connectionId userId target eventId now =
          .ok (connection, after) → after = shard := by
  unfold AccountShard.linkConnection Outdated
  cases found : shard.connections.find connectionId with
  | none => exact .inl ⟨fun existing stored => (by cases stored), _, _, rfl, rfl⟩
  | some existing =>
      by_cases owned : existing.userId = userId
      · by_cases current : matchesDeployment existing credentials.environment
          credentials.accountMask = true
        · refine .inr ⟨?_, ?_⟩
          · intro outdated
            rw [(outdated existing rfl).2] at current
            cases current
          · intro connection after linked
            simp only [owned, current, ne_eq, not_true_eq_false, if_false, if_true,
              Except.ok.injEq, Prod.mk.injEq] at linked
            exact linked.2.symm
        · refine .inl ⟨?_, ?_⟩
          · rintro _ ⟨⟩
            exact ⟨owned, by simpa using current⟩
          · simp only [owned, current, ne_eq, not_true_eq_false, if_false]
            exact ⟨_, _, rfl, rfl⟩
      · refine .inr ⟨?_, ?_⟩
        · intro outdated
          exact owned (outdated existing rfl).1
        · intro connection after linked
          simp [owned] at linked

theorem link_announces {environ : Environ} {session : SessionData} {eventId : String}
    {now : Instant} (announces : Announces P dbs (.linkDefaultConnection environ session eventId now)) :
    ¬ AllRouted (dbs.commit (P.linkDefaultConnection environ session eventId now dbs)) := by
  obtain ⟨userId, shardId, credentials, located, configured, configuration, outdated⟩ := announces
  rcases linkConnection_cases (dbs.account shardId) credentials (P.connectionId userId) userId
    ⟨"account", some shardId⟩ eventId now with ⟨-, connection, after, linked, outbox⟩ | ⟨current, -⟩
  · have transaction : P.linkDefaultConnection environ session eventId now dbs =
        dbs.accountSession ⟨"account", some shardId⟩ fun shard =>
          shard.linkConnection credentials (P.connectionId userId) userId
            ⟨"account", some shardId⟩ eventId now := by
      simp only [Platform.linkDefaultConnection, located, configuration, bind, Except.bind]
    rw [transaction, commit_accountSession_ok configured linked]
    have member : connectionLinked connection ⟨"account", some shardId⟩ eventId now ∈
        (Function.update dbs.account shardId after shardId).outbox := by
      rw [Function.update_self, outbox]
      simp
    apply not_allRouted_of_account member
    show routable "brokerage.account.connection-linked" = false
    exact routable_keys.2.2 _ (by simp)
  · exact absurd outdated current

theorem link_routed (all : AllRouted dbs) {environ : Environ} {session : SessionData}
    {eventId : String} {now : Instant}
    (quiet : ¬ Announces P dbs (.linkDefaultConnection environ session eventId now)) :
    AllRouted (dbs.commit (P.linkDefaultConnection environ session eventId now dbs)) := by
  unfold Platform.linkDefaultConnection
  apply all.bind
  rintro ⟨userId, target⟩ located
  apply all.bind
  intro credentials configuration
  rcases dbs.accountSession_cases target (fun shard => shard.linkConnection credentials
    (P.connectionId userId) userId target eventId now) with
    ⟨failure, raised⟩ | ⟨shardId, connection, after, rfl, configured, linked, new⟩
  · rw [raised]
    exact all
  · rcases linkConnection_cases (dbs.account shardId) credentials (P.connectionId userId) userId
      ⟨"account", some shardId⟩ eventId now with ⟨outdated, -⟩ | ⟨-, kept⟩
    · exact absurd ⟨userId, shardId, credentials, located, configured, configuration, outdated⟩ quiet
    · rw [new, kept connection after linked]
      exact all.update (.refl _)

theorem storeCapture_none {shard : AccountShard} {snapshot : PortfolioSnapshot}
    (absent : shard.snapshots.find snapshot.snapshotId = none)
    (positions : List PortfolioPositionSnapshot) (target : ShardTarget) (eventId : String)
    (now : Instant) :
    (shard.storeCapture snapshot positions target eventId now).2.outbox =
      shard.outbox ++ [snapshotCaptured snapshot target eventId now] := by
  simp [AccountShard.storeCapture, AccountShard.findCapture, absent]

/-- The two transactions of a capture, once it is known where it goes. -/
theorem capture_eq {session : SessionData} {connection : BrokerageAccountConnection}
    {idempotencyKey : String} {userId snapshotId : Uuid} {shardId : String}
    (located : snapshotLocation session connection = .ok (userId, ⟨"account", some shardId⟩))
    (configured : shardId ∈ accountShardIds)
    (named : P.snapshotId userId connection.connectionId idempotencyKey = .ok snapshotId)
    (holdings : Except Failure (List KisDomesticStockHolding)) (eventId : String)
    (capturedAt now : Instant) :
    P.capturePortfolioSnapshot session connection holdings idempotencyKey eventId capturedAt now
        dbs =
      match (dbs.account shardId).findCapture snapshotId, holdings with
      | some capture, _ => .ok (capture, dbs)
      | none, .error failure => .error failure
      | none, .ok fetched =>
          let positions := P.positionModels snapshotId userId fetched
          dbs.accountSession ⟨"account", some shardId⟩ fun shard =>
            .ok (shard.storeCapture
              ⟨snapshotId, connection.connectionId, userId, capturedAt, positions.length⟩
              positions ⟨"account", some shardId⟩ eventId now) := by
  unfold Platform.capturePortfolioSnapshot
  rw [located]
  simp only [bind, Except.bind, named]
  rw [Databases.accountSession_ok dbs configured (fun shard => (shard.findCapture snapshotId, shard))]
  simp only [Function.update_eq_self]
  cases (dbs.account shardId).findCapture snapshotId with
  | some capture => rfl
  | none =>
      cases holdings with
      | error failure => rfl
      | ok fetched => rfl

theorem accountLocation_target {session : SessionData} {location : Uuid × ShardTarget}
    (located : accountLocation session = .ok location) :
    ∃ shardId, location.2 = ⟨"account", some shardId⟩ := by
  unfold accountLocation at located
  split at located
  · cases located
  · split at located
    · split at located
      · cases located
      · cases located
        exact ⟨_, rfl⟩
    · cases located

theorem snapshotLocation_target {session : SessionData} {connection : BrokerageAccountConnection}
    {userId : Uuid} {target : ShardTarget}
    (located : snapshotLocation session connection = .ok (userId, target)) :
    ∃ shardId, target = ⟨"account", some shardId⟩ := by
  unfold snapshotLocation at located
  cases account : accountLocation session with
  | error failure => simp [account, bind, Except.bind] at located
  | ok location =>
      obtain ⟨shardId, here⟩ := accountLocation_target account
      simp only [account, bind, Except.bind] at located
      split at located
      · cases located
      · cases located
        exact ⟨shardId, here⟩

theorem capture_announces {session : SessionData} {connection : BrokerageAccountConnection}
    {holdings : Except Failure (List KisDomesticStockHolding)} {idempotencyKey eventId : String}
    {capturedAt now : Instant}
    (announces : Announces P dbs (.capturePortfolioSnapshot session connection holdings
      idempotencyKey eventId capturedAt now)) :
    ¬ AllRouted (dbs.commit (P.capturePortfolioSnapshot session connection holdings
      idempotencyKey eventId capturedAt now dbs)) := by
  obtain ⟨userId, shardId, snapshotId, fetched, located, configured, named, rfl, absent⟩ := announces
  have missing : (dbs.account shardId).findCapture snapshotId = none := by
    simp [AccountShard.findCapture, absent]
  rw [capture_eq located configured named, missing]
  simp only
  rw [commit_accountSession_ok configured rfl]
  have member : snapshotCaptured ⟨snapshotId, connection.connectionId, userId, capturedAt,
      (P.positionModels snapshotId userId fetched).length⟩ ⟨"account", some shardId⟩ eventId now ∈
      (Function.update dbs.account shardId ((dbs.account shardId).storeCapture
        ⟨snapshotId, connection.connectionId, userId, capturedAt,
          (P.positionModels snapshotId userId fetched).length⟩
        (P.positionModels snapshotId userId fetched) ⟨"account", some shardId⟩ eventId now).2
        shardId).outbox := by
    rw [Function.update_self, storeCapture_none absent]
    simp
  apply not_allRouted_of_account member
  show routable "portfolio.snapshot.captured" = false
  exact routable_keys.2.2 _ (by simp)

theorem capture_routed (all : AllRouted dbs) {session : SessionData}
    {connection : BrokerageAccountConnection}
    {holdings : Except Failure (List KisDomesticStockHolding)} {idempotencyKey eventId : String}
    {capturedAt now : Instant}
    (quiet : ¬ Announces P dbs (.capturePortfolioSnapshot session connection holdings
      idempotencyKey eventId capturedAt now)) :
    AllRouted (dbs.commit (P.capturePortfolioSnapshot session connection holdings
      idempotencyKey eventId capturedAt now dbs)) := by
  cases located : snapshotLocation session connection with
  | error failure =>
      simp only [Platform.capturePortfolioSnapshot, located, bind, Except.bind]
      exact all
  | ok location =>
      obtain ⟨userId, target⟩ := location
      obtain ⟨shardId, rfl⟩ := snapshotLocation_target located
      cases named : P.snapshotId userId connection.connectionId idempotencyKey with
      | error failure =>
          simp only [Platform.capturePortfolioSnapshot, located, named, bind, Except.bind]
          exact all
      | ok snapshotId =>
          by_cases configured : shardId ∈ accountShardIds
          · rw [capture_eq located configured named]
            cases found : (dbs.account shardId).findCapture snapshotId with
            | some capture => exact all
            | none =>
                cases holdings with
                | error failure => exact all
                | ok fetched =>
                    have absent : (dbs.account shardId).snapshots.find snapshotId = none := by
                      simpa [AccountShard.findCapture] using found
                    exact absurd ⟨userId, shardId, snapshotId, fetched, located, configured, named,
                      rfl, absent⟩ quiet
          · simp only [Platform.capturePortfolioSnapshot, located, named, bind, Except.bind,
              Databases.accountSession, configured, and_false, if_false]
            exact all

theorem transition_announces {jobId : String} {expectedStatus status : DurableJobStatus}
    {result : Option Dict} {error : Option String} {eventId : String} {now : Instant}
    (announces : Announces P dbs (.transition jobId expectedStatus status result error eventId now)) :
    ¬ AllRouted (dbs.commit (dbs.automationSession fun store =>
      .ok (transition jobId expectedStatus status result error eventId now store))) := by
  obtain ⟨found, stored, expected⟩ := announces
  rcases transition_cases jobId expectedStatus status result error eventId now dbs.automation with
    ⟨job, -, -, moved⟩ | ⟨other, -⟩
  · intro all
    have member : outboxRecord (jobStatusMessage job.jobId status result error eventId now) ∈
        (transition jobId expectedStatus status result error eventId now
          dbs.automation).2.outbox := by
      rw [moved]
      simp [AutomationStore.moveJob, AutomationStore.insertJob]
    have unbound : ¬ Routed (outboxRecord
        (jobStatusMessage job.jobId status result error eventId now)) := by
      show ¬ routable jobStatusRoutingKey = true
      simp [routable_keys.2.2 jobStatusRoutingKey (by simp)]
    exact unbound (all.automation _ member)
  · exact absurd expected (other found stored)

theorem transition_routed (all : AllRouted dbs) {jobId : String}
    {expectedStatus status : DurableJobStatus} {result : Option Dict} {error : Option String}
    {eventId : String} {now : Instant}
    (quiet : ¬ Announces P dbs (.transition jobId expectedStatus status result error eventId now)) :
    AllRouted (dbs.commit (dbs.automationSession fun store =>
      .ok (transition jobId expectedStatus status result error eventId now store))) := by
  rcases transition_cases jobId expectedStatus status result error eventId now dbs.automation with
    ⟨job, stored, expected, -⟩ | ⟨-, kept⟩
  · exact absurd ⟨job, stored, expected⟩ quiet
  · simp only [Databases.automationSession, kept]
    exact all

end Unbound

/-! ## Runs -/

section Runs

variable {P : Platform}

/-- A step that announces nothing keeps every record routed. -/
theorem step_routed (dbs : Databases) (operation : Operation) (all : AllRouted dbs)
    (quiet : ¬ Announces P dbs operation) : AllRouted (step P dbs operation) := by
  cases operation with
  | updateProfile request session eventId now =>
      exact updateProfile_routed all request session eventId now
  | subscribe request session eventId now =>
      exact changeSubscription_routed all subscribeDecision _ session eventId now
  | unsubscribe request session eventId now =>
      exact changeSubscription_routed all unsubscribeDecision _ session eventId now
  | recordSignal signal eventId now => exact recordSignal_routed all signal eventId now
  | signalCreated message now newId => exact signalCreated_routed all message now newId
  | linkDefaultConnection environ session eventId now => exact link_routed all quiet
  | capturePortfolioSnapshot session connection holdings idempotencyKey eventId capturedAt now =>
      show AllRouted (dbs.commit (P.capturePortfolioSnapshot session connection holdings
        idempotencyKey eventId capturedAt now dbs))
      exact capture_routed all quiet
  | requestJob jobType runKey payload availableAt jobId eventId now =>
      exact requestJob_routed all jobType runKey payload availableAt jobId eventId now
  | transition jobId expectedStatus status result error eventId now =>
      exact transition_routed all quiet
  | profileUpdated message => exact profileUpdated_routed all message
  | subscriptionUpdated message => exact subscriptionUpdated_routed all message
  | intentCreated message now => exact intentCreated_routed all message now
  | markRead notificationId session now => exact markRead_routed all notificationId session now
  | relayAutomation publish batchSize pass =>
      exact all.automation_update (extends_publishPending publish batchSize pass _)
  | relayAccount shardId publish batchSize pass =>
      exact all.update (extends_publishPending publish batchSize pass _)

/-- A step that announces leaves a record no queue takes. -/
theorem step_announces (dbs : Databases) (operation : Operation)
    (announces : Announces P dbs operation) : ¬ AllRouted (step P dbs operation) := by
  cases operation with
  | linkDefaultConnection environ session eventId now => exact link_announces announces
  | capturePortfolioSnapshot session connection holdings idempotencyKey eventId capturedAt now =>
      show ¬ AllRouted (dbs.commit (P.capturePortfolioSnapshot session connection holdings
        idempotencyKey eventId capturedAt now dbs))
      exact capture_announces announces
  | transition jobId expectedStatus status result error eventId now =>
      exact transition_announces announces
  | _ => cases announces

theorem allRouted_empty : AllRouted .empty :=
  ⟨fun _ member => (by cases member), fun _ _ member => (by cases member)⟩

/-- **Every record of every state of a run is routable exactly if no step of the run
links a connection, captures a new snapshot or moves a job.** -/
theorem all_routed_iff (P : Platform) (trace : List Operation) :
    (∀ front, front <+: trace → AllRouted (exec (step P) .empty front)) ↔
      Admissible (step P) (fun dbs operation => ¬ Announces P dbs operation) .empty trace := by
  constructor
  · intro routed
    induction trace using List.reverseRecOn with
    | nil => trivial
    | append_singleton front operation ih =>
        refine (admissible_snoc _ _ _ _ _).mpr ⟨?_, ?_⟩
        · exact ih fun earlier before => routed earlier (before.trans (List.prefix_append _ _))
        · intro announces
          have after := routed (front ++ [operation]) (List.prefix_refl _)
          rw [exec_snoc] at after
          exact step_announces _ operation announces after
  · intro quiet front before
    exact exec_invariant step_routed allRouted_empty (quiet.of_prefix before)

end Runs

/-! ## What becomes of an unroutable record -/

/-- A message published as mandatory is returned when no queue takes it, and the
publisher raises. -/
def ReturnsUnroutable (publish : Publisher) : Prop :=
  ∀ message, routable message.routingKey = false → ∃ error, publish message = .error error

/-- The record of the event is pending and no queue takes it. -/
def Unsent (eventId : String) (outbox : List OutboxEventRecord) : Prop :=
  ∃ record ∈ outbox, record.eventId = eventId ∧ routable record.routingKey = false ∧
    record.status = .pending

/-- **However often the relay passes, a record that no queue takes stays pending.** -/
theorem unrouted_stays_pending {publish : Publisher} (returns : ReturnsUnroutable publish)
    {batchSize : Nat} {outbox : List OutboxEventRecord} {eventId : String}
    (unsent : Unsent eventId outbox) (passes : List Pass) :
    Unsent eventId
      (exec (fun table pass => (publishPending publish batchSize pass table).2) outbox passes) := by
  have keep : ∀ table pass, Unsent eventId table → True →
      Unsent eventId (publishPending publish batchSize pass table).2 := by
    rintro table pass ⟨record, stored, sameId, unbound, pending⟩ -
    refine ⟨_, List.mem_map.mpr ⟨record, stored, rfl⟩, ?_⟩
    split
    · obtain ⟨error, answer⟩ := returns record.message unbound
      have key := congrArg EventMessage.routingKey (attempt_message pass publish record)
      refine ⟨(attempt_eventId pass publish record).trans sameId, ?_, ?_⟩
      · rw [show (pass.attempt publish record).routingKey = record.routingKey from key]
        exact unbound
      · rw [(attempt_of_error pass answer).1]
        exact pending
    · exact ⟨sameId, unbound, pending⟩
  exact exec_invariant keep unsent (admissible_true _ _)

/-! ## A job that runs -/

namespace Sample

def platform : Platform := .reference (fun _ _ => 0) (.aware 0) "1970-01-01T00:00:00Z"

def jobId : String := "0d0c8a52-3d4f-4f0c-8f55-6a7d5f9b1a03"
def statusEventId : String := "91d5b0a3-6c0e-4f0d-9a54-0f2f3f4b1c77"

/-- A job is requested, and a worker starts on it. -/
def trace : List Operation := [
  .requestJob "news_collection" "daily" [] none jobId "4a1fb8bc-c45f-42cc-8a49-30ec6f436f53" 0,
  .transition jobId .requested .running none none statusEventId 1]

/-- The announcement that the job runs has a key no queue is bound to, and stays
pending whatever the relay does. -/
theorem running_job_unroutable :
    (exec (step platform) .empty trace).automation.outbox.map (·.routingKey) =
        ["news.collection.requested", "durable-job.status.changed"] ∧
      routable "durable-job.status.changed" = false ∧
      ¬ AllRouted (exec (step platform) .empty trace) ∧
      ∀ publish, ReturnsUnroutable publish → ∀ batchSize (passes : List Pass),
        Unsent statusEventId
          (exec (fun table pass => (publishPending publish batchSize pass table).2)
            (exec (step platform) .empty trace).automation.outbox passes) := by
  have unbound : routable "durable-job.status.changed" = false := by decide +kernel
  have stored : (exec (step platform) .empty trace).automation.outbox.getLast? =
      some (outboxRecord (jobStatusMessage jobId .running none none statusEventId 1)) := rfl
  have member := List.mem_of_getLast? stored
  have keys : (exec (step platform) .empty trace).automation.outbox.map (·.routingKey) =
      ["news.collection.requested", "durable-job.status.changed"] := by decide +kernel
  refine ⟨keys, unbound, ?_, ?_⟩
  · intro all
    have routed := all.automation _ member
    have unrouted : ¬ Routed (outboxRecord
        (jobStatusMessage jobId .running none none statusEventId 1)) := by
      show ¬ routable "durable-job.status.changed" = true
      rw [unbound]
      decide
    exact unrouted routed
  · intro publish returns batchSize passes
    exact unrouted_stays_pending returns ⟨_, member, rfl, unbound, rfl⟩ passes

end Sample

end KisAutoTrading.Outbox.Routing
