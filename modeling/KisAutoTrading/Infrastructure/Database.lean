/-
# Infrastructure.Database — the stores and their transactions

`AutomationStore` is the global automation database, `AccountShard` one account
shard, `Databases` all of them together. `accountSession` and `automationSession`
are `AsyncSessionRegistry.session`: a body that raises leaves every table as it
was, a body that returns commits its store as a whole. A shard without an engine
is refused before anything is read.
-/
import KisAutoTrading.Infrastructure.Outbox
import KisAutoTrading.Modules.Models
import KisAutoTrading.Theory.Table

namespace KisAutoTrading

open Theory

set_option autoImplicit false

structure AutomationStore where
  signalEvents : Table Uuid SignalEvent
  subscriptionProjections : Table Uuid SignalSubscriptionProjection
  deliveryIntents : Table Uuid SignalDeliveryIntent
  durableJobs : Table String DurableJobRecord
  outbox : List OutboxEventRecord
  processedMessages : Inbox

def AutomationStore.empty : AutomationStore := ⟨∅, ∅, ∅, ∅, [], ∅⟩

structure AccountShard where
  profiles : Table Uuid UserProfile
  connections : Table Uuid BrokerageAccountConnection
  snapshots : Table Uuid PortfolioSnapshot
  positions : Table Uuid PortfolioPositionSnapshot
  subscriptions : Table Uuid SignalSubscription
  notifications : Table Uuid InAppNotification
  outbox : List OutboxEventRecord
  processedMessages : Inbox

def AccountShard.empty : AccountShard := ⟨∅, ∅, ∅, ∅, ∅, ∅, [], ∅⟩

structure Databases where
  automation : AutomationStore
  account : String → AccountShard

def Databases.empty : Databases := ⟨.empty, fun _ => .empty⟩

/-- The account shards an engine is configured for (`SHARD_DATABASES`, and
`ACCOUNT_SHARD_URL_ENVS` in the message worker). -/
def accountShardIds : List String := ["1", "2"]

namespace Databases

variable {α : Type}

/-- One transaction on an account shard. -/
def accountSession (dbs : Databases) (target : ShardTarget)
    (body : AccountShard → Except Failure (α × AccountShard)) : Except Failure (α × Databases) :=
  match target.shardId with
  | some shardId =>
      if target.store = "account" ∧ shardId ∈ accountShardIds then
        match body (dbs.account shardId) with
        | .ok (value, shard) =>
            .ok (value, { dbs with account := Function.update dbs.account shardId shard })
        | .error failure => .error failure
      else .error (.raised .shardRoutingError "Database engine is not configured")
  | none => .error (.raised .shardRoutingError "Database engine is not configured")

/-- One transaction on the automation store. -/
def automationSession (dbs : Databases)
    (body : AutomationStore → Except Failure (α × AutomationStore)) :
    Except Failure (α × Databases) :=
  match body dbs.automation with
  | .ok (value, store) => .ok (value, { dbs with automation := store })
  | .error failure => .error failure

/-- The databases after a call: those it committed, or as they were if it raised. -/
def commit (dbs : Databases) : Except Failure (α × Databases) → Databases
  | .ok (_, committed) => committed
  | .error _ => dbs

/-- A transaction on an account shard raises, or it commits the shard its body leaves. -/
theorem accountSession_cases (dbs : Databases) (target : ShardTarget)
    (body : AccountShard → Except Failure (α × AccountShard)) :
    (∃ failure, dbs.accountSession target body = .error failure) ∨
      ∃ shardId value after, target = ⟨"account", some shardId⟩ ∧ shardId ∈ accountShardIds ∧
        body (dbs.account shardId) = .ok (value, after) ∧
        dbs.accountSession target body =
          .ok (value, { dbs with account := Function.update dbs.account shardId after }) := by
  obtain ⟨store, shardId⟩ := target
  cases shardId with
  | none => exact .inl ⟨_, rfl⟩
  | some shardId =>
      by_cases configured : store = "account" ∧ shardId ∈ accountShardIds
      · obtain ⟨rfl, known⟩ := configured
        cases ran : body (dbs.account shardId) with
        | error failure => exact .inl ⟨failure, by simp [accountSession, known, ran]⟩
        | ok result =>
            refine .inr ⟨shardId, result.1, result.2, rfl, known, ran, ?_⟩
            simp [accountSession, known, ran]
      · exact .inl ⟨_, by simp [accountSession, configured]; rfl⟩

/-- A transaction on a configured shard that does not raise. -/
theorem accountSession_ok (dbs : Databases) {shardId : String}
    (configured : shardId ∈ accountShardIds) (body : AccountShard → α × AccountShard) :
    dbs.accountSession ⟨"account", some shardId⟩ (fun shard => .ok (body shard)) =
      .ok ((body (dbs.account shardId)).1,
        { dbs with account := Function.update dbs.account shardId (body (dbs.account shardId)).2 }) := by
  simp [accountSession, configured]

/-- A transaction on the automation store that answers has committed what its body left. -/
theorem automationSession_commits {dbs after : Databases} {value : α}
    {body : AutomationStore → Except Failure (α × AutomationStore)}
    (answered : dbs.automationSession body = .ok (value, after)) :
    ∃ store, body dbs.automation = .ok (value, store) ∧ after = { dbs with automation := store } := by
  unfold automationSession at answered
  cases ran : body dbs.automation with
  | error failure =>
      rw [ran] at answered
      cases answered
  | ok result =>
      rw [ran] at answered
      cases answered
      exact ⟨result.2, rfl, rfl⟩

end Databases

theorem shardIdFor_configured (user : Uuid) : shardIdFor user ∈ accountShardIds := by
  rcases shardIdFor_cases user with h | h <;> rw [h] <;> decide

end KisAutoTrading
