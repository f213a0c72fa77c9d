/-
# Infrastructure.Messaging — domain events and the RabbitMQ topology

`EventMessage` is the event every writer enqueues and every consumer receives.
Its two defaults are drawn when it is built (`str(uuid4())` and the clock), so
the functions that build one take both as arguments.

The second half lists what the three processes declare: each call of
`declare_topology` binds one durable queue to the topic exchange, and a message
published with `mandatory` is returned unless some binding admits its routing key
(`routable`). The relay declares the default queue and the three signal queues,
the message worker consumes the same four, the durable-job worker one queue bound
to the five job events.
-/
import KisAutoTrading.Infrastructure.Platform
import KisAutoTrading.Theory.Topic

namespace KisAutoTrading

open Theory

set_option autoImplicit false

/-- A point in time in microseconds. -/
abbrev Instant : Type := Int

def seconds (n : Int) : Int := n * 1000000

structure EventMessage where
  eventType : String
  aggregateId : String
  payload : Dict
  routingKey : String
  eventId : String
  eventVersion : Int := 1
  occurredAt : Instant

/-! ## Topology -/

structure Binding where
  queueName : String
  routingKeys : List String

def queueName : String := "kis.profile.events"
def routingKey : String := "account.profile.#"

def subscriptionProjectionQueue : String := "kis.signal-subscription-projection.events"
def subscriptionProjectionRoutingKey : String := "signal.subscription.updated"
def deliveryIntentQueue : String := "kis.signal-delivery-intent.events"
def deliveryIntentRoutingKey : String := "signal.created"
def inAppNotificationQueue : String := "kis.in-app-notification.events"
def inAppNotificationRoutingKey : String := "signal.delivery-intent.created"

def durableJobQueue : String := "kis.profile.events.durable-jobs"
def durableJobEventTypes : List String :=
  ["news.collection.requested", "news.index.requested", "durable-job.history.index.requested",
    "market-price.snapshot.requested", "market-history.domestic-daily.collection.requested"]

/-- `declare_topology` with its two defaults. -/
def declareTopology (queue : String := queueName) (keys : List String := [routingKey]) : Binding :=
  ⟨queue, keys⟩

/-- `declare_user_message_topology`: the three `ensure_*_topology` calls. -/
def declareUserMessageTopology : List Binding :=
  [declareTopology subscriptionProjectionQueue [subscriptionProjectionRoutingKey],
    declareTopology deliveryIntentQueue [deliveryIntentRoutingKey],
    declareTopology inAppNotificationQueue [inAppNotificationRoutingKey]]

/-- `run_outbox_relay.main`: the publisher's start and the user topology. -/
def relayBindings : List Binding := declareTopology :: declareUserMessageTopology

/-- `run_message_worker.main`: the four `consume` calls. -/
def messageWorkerBindings : List Binding :=
  [declareTopology, declareTopology subscriptionProjectionQueue [subscriptionProjectionRoutingKey],
    declareTopology deliveryIntentQueue [deliveryIntentRoutingKey],
    declareTopology inAppNotificationQueue [inAppNotificationRoutingKey]]

/-- `run_durable_job_worker.main`. -/
def durableJobWorkerBindings : List Binding :=
  [declareTopology durableJobQueue durableJobEventTypes]

def declaredBindings : List Binding :=
  relayBindings ++ messageWorkerBindings ++ durableJobWorkerBindings

/-- Some declared queue is bound with a pattern that admits the key. -/
def routable (key : String) : Bool :=
  declaredBindings.any fun binding => binding.routingKeys.any fun pattern => Topic.admits pattern key

end KisAutoTrading
