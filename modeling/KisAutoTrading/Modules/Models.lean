/-
# Modules.Models — the stored aggregates

The pydantic models of the modules, field by field, each stored one-to-one by its
SQLAlchemy record. A status that the program compares against a fixed set of
texts is an enumeration. `DurableJobRecord` is the row of `durable_jobs`.
-/
import KisAutoTrading.Infrastructure.Messaging

namespace KisAutoTrading

open Theory

set_option autoImplicit false

/-! ## Signals -/

structure SignalEvent where
  signalId : Uuid
  stockCode : String
  direction : String
  price : String
  confidence : PyFloat
  observedAt : Datetime
  expiresAt : Option Datetime := none
  deriving DecidableEq

structure SignalDeliveryIntent where
  intentId : Uuid
  signalId : Uuid
  subscriptionId : Uuid
  userId : Uuid
  shardId : String
  stockCode : String
  expiresAt : Datetime
  status : String := "pending"
  deriving DecidableEq

structure SignalSubscription where
  subscriptionId : Uuid
  userId : Uuid
  stockCode : String
  enabled : Bool := true
  revision : Int := 1
  deriving DecidableEq

structure SignalSubscriptionProjection where
  subscriptionId : Uuid
  userId : Uuid
  shardId : String
  stockCode : String
  enabled : Bool
  revision : Int
  deriving DecidableEq

structure InAppNotification where
  notificationId : Uuid
  deliveryIntentId : Uuid
  userId : Uuid
  signalId : Uuid
  stockCode : String
  createdAt : Instant
  readAt : Option Instant := none
  deriving DecidableEq

/-! ## Accounts -/

structure UserProfile where
  userId : Uuid
  investmentExperience : String
  riskTolerance : String
  investmentGoal : String
  monthlyBudget : PyFloat
  profileCompleted : Bool
  deriving DecidableEq

structure BrokerageAccountConnection where
  connectionId : Uuid
  userId : Uuid
  provider : String
  environment : String
  displayName : String
  accountMask : String
  credentialRef : String
  status : String
  createdAt : Instant
  updatedAt : Instant
  deriving DecidableEq

structure PortfolioSnapshot where
  snapshotId : Uuid
  connectionId : Uuid
  userId : Uuid
  capturedAt : Instant
  positionCount : Nat
  deriving DecidableEq

structure PortfolioPositionSnapshot where
  positionId : Uuid
  snapshotId : Uuid
  userId : Uuid
  stockCode : String
  productName : String
  holdingQuantity : String
  orderableQuantity : String
  currentPrice : String
  deriving DecidableEq

/-! ## Durable jobs -/

inductive DurableJobStatus where
  | requested
  | running
  | succeeded
  | failed
  | cancelled
  deriving DecidableEq

def DurableJobStatus.value : DurableJobStatus → String
  | .requested => "requested"
  | .running => "running"
  | .succeeded => "succeeded"
  | .failed => "failed"
  | .cancelled => "cancelled"

structure DurableJobRecord where
  jobId : String
  jobType : String
  runKey : String
  status : DurableJobStatus
  payload : Dict
  result : Option Dict := none
  error : Option String := none
  requestedAt : Instant
  updatedAt : Instant

end KisAutoTrading
