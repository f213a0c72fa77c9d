/-
# Infrastructure.Outbox — the transactional outbox and the processed-message inbox

`outboxRecord` is `OutboxWriter.add`: the row a message becomes, pending, with no
attempts, available at once unless a later time is asked for. `Inbox` is the
`processed_messages` table, of which only the event ids matter; `Inbox.claim` is
the insert with `ON CONFLICT DO NOTHING` and tells whether it inserted.
-/
import KisAutoTrading.Infrastructure.Messaging
import Mathlib.Data.Finset.Insert

namespace KisAutoTrading

open Theory

set_option autoImplicit false

inductive OutboxStatus where
  | pending
  | published
  deriving DecidableEq

structure OutboxEventRecord where
  eventId : String
  eventType : String
  eventVersion : Int
  aggregateId : String
  routingKey : String
  payload : Dict
  status : OutboxStatus
  attempts : Nat
  availableAt : Instant
  occurredAt : Instant
  publishedAt : Option Instant
  lastError : Option String

/-- `OutboxWriter.add`. -/
def outboxRecord (message : EventMessage) (availableAt : Option Instant := none) :
    OutboxEventRecord where
  eventId := message.eventId
  eventType := message.eventType
  eventVersion := message.eventVersion
  aggregateId := message.aggregateId
  routingKey := message.routingKey
  payload := message.payload
  status := .pending
  attempts := 0
  availableAt := availableAt.getD message.occurredAt
  occurredAt := message.occurredAt
  publishedAt := none
  lastError := none

/-- The message the relay publishes for a record, which is also the message the
consumer decodes and hands to its handler. -/
def OutboxEventRecord.message (record : OutboxEventRecord) : EventMessage where
  eventType := record.eventType
  aggregateId := record.aggregateId
  payload := record.payload
  routingKey := record.routingKey
  eventId := record.eventId
  eventVersion := record.eventVersion
  occurredAt := record.occurredAt

/-- The event ids of the `processed_messages` table. -/
abbrev Inbox : Type := Finset String

/-- `ProcessedMessageInbox.claim`: whether the id was new, and the table after. -/
def Inbox.claim (inbox : Inbox) (eventId : String) : Bool × Inbox :=
  if eventId ∈ inbox then (false, inbox) else (true, insert eventId inbox)

end KisAutoTrading
