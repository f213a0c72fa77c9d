/-
# Infrastructure.RabbitMQ — the body of a message, written and read

`RabbitMQPublisher.publish` writes an event as a JSON object, `RabbitMQConsumer.consume`
reads it back into an `EventMessage`. What `json` and `datetime` of the standard library
do is `Wire`; that reading undoes writing is asked for value by value (`RoundTrips`), up to the
order of keys, and under it the consumer decodes the event the publisher was given (`decode_body`).
-/
import KisAutoTrading.Infrastructure.Outbox
import KisAutoTrading.Theory.JsonSorted

namespace KisAutoTrading

open Theory Theory.JsonSorted

set_option autoImplicit false

/-- `json.dumps` as the publisher calls it, `json.loads`, and the two ISO conversions of
`datetime`; `none` is an exception. -/
structure Wire where
  dumps : Json → String
  loads : String → Option Json
  isoformat : Instant → String
  fromisoformat : String → Option Instant

def Json.text : Json → Option String
  | .str value => some value
  | _ => none

def Json.integer : Json → Option Int
  | .int value => some value
  | _ => none

def Json.object : Json → Option Dict
  | .obj fields => some fields
  | _ => none

/-- The message with its payload in the order of the keys: two messages with one canonical message
are equal to Python. -/
def EventMessage.canonical (message : EventMessage) : EventMessage :=
  { message with payload := sortDict message.payload }

/-- What the broker is handed. -/
structure BrokerMessage where
  body : String
  messageId : String
  type : String
  routingKey : String
  deriving DecidableEq

namespace Wire

variable (W : Wire)

/-- The object of `RabbitMQPublisher.publish`. -/
def fields (message : EventMessage) : Json := .obj [
  ("event_id", .str message.eventId),
  ("event_type", .str message.eventType),
  ("event_version", .int message.eventVersion),
  ("aggregate_id", .str message.aggregateId),
  ("payload", .obj message.payload),
  ("routing_key", .str message.routingKey),
  ("occurred_at", .str (W.isoformat message.occurredAt))]

/-- The message `RabbitMQPublisher.publish` hands to the exchange. -/
def publish (message : EventMessage) : BrokerMessage where
  body := W.dumps (W.fields message)
  messageId := message.eventId
  type := message.eventType
  routingKey := message.routingKey

/-- `EventMessage.__post_init__`: an empty id is replaced by a fresh one. -/
def postInit (message : EventMessage) (freshId : String) : EventMessage :=
  if message.eventId = "" then { message with eventId := freshId } else message

/-- What the consumer builds from the decoded body; `none` where a key is missing or a
value is not of the type the publisher wrote. -/
def decodeFields (decoded : Dict) (freshId : String) : Option EventMessage := do
  let eventId ← (decoded.get "event_id").bind Json.text
  let eventType ← (decoded.get "event_type").bind Json.text
  let eventVersion ← (decoded.get "event_version").bind Json.integer
  let aggregateId ← (decoded.get "aggregate_id").bind Json.text
  let payload ← (decoded.get "payload").bind Json.object
  let routingKey ← (decoded.get "routing_key").bind Json.text
  let occurredAt ← ((decoded.get "occurred_at").bind Json.text).bind W.fromisoformat
  let message : EventMessage :=
    { eventType, aggregateId, payload, routingKey, eventId, eventVersion, occurredAt }
  return postInit message freshId

/-- `RabbitMQConsumer.consume` up to the handler. -/
def decode (body : String) (freshId : String) : Option EventMessage :=
  ((W.loads body).bind Json.object).bind fun decoded => W.decodeFields decoded freshId

/-- Reading undoes writing on what is written for this event. The keys may come back in another
order. -/
structure RoundTrips (message : EventMessage) : Prop where
  json : ∃ read : Dict, W.loads (W.dumps (W.fields message)) = some (.obj read) ∧
    sortKeys (.obj read) = sortKeys (W.fields message)
  time : W.fromisoformat (W.isoformat message.occurredAt) = some message.occurredAt

section Decode

variable {W : Wire} {message : EventMessage}

theorem bind_text_sortKeys (found : Option Json) :
    (found.map sortKeys).bind Json.text = found.bind Json.text := by
  rcases found with - | value
  · rfl
  · cases value <;> simp [sortKeys, Json.text]

theorem bind_integer_sortKeys (found : Option Json) :
    (found.map sortKeys).bind Json.integer = found.bind Json.integer := by
  rcases found with - | value
  · rfl
  · cases value <;> simp [sortKeys, Json.integer]

theorem bind_object_sortKeys (found : Option Json) :
    (found.map sortKeys).bind Json.object = (found.bind Json.object).map sortDict := by
  rcases found with - | value
  · rfl
  · cases value <;> simp [sortKeys, sortDict, Json.object]

/-- The consumer finds its seven fields by their names, in whatever order they are. -/
theorem decodeFields_of_get {decoded fields : Dict} (object : W.fields message = .obj fields)
    (get : ∀ key, (decoded.get key).map sortKeys = (fields.get key).map sortKeys)
    (time : W.fromisoformat (W.isoformat message.occurredAt) = some message.occurredAt)
    (named : message.eventId ≠ "") :
    ∃ payload, decoded.get "payload" = some (.obj payload) ∧
      sortDict payload = sortDict message.payload ∧
      ∀ freshId, W.decodeFields decoded freshId = some { message with payload } := by
  cases object
  have text (key : String) := congrArg (Option.bind · Json.text) (get key)
  have integer (key : String) := congrArg (Option.bind · Json.integer) (get key)
  have payload := congrArg (Option.bind · Json.object) (get "payload")
  simp only [bind_text_sortKeys, bind_integer_sortKeys, bind_object_sortKeys] at text integer payload
  have written : Dict.get [
      ("event_id", Json.str message.eventId), ("event_type", .str message.eventType),
      ("event_version", .int message.eventVersion), ("aggregate_id", .str message.aggregateId),
      ("payload", .obj message.payload), ("routing_key", .str message.routingKey),
      ("occurred_at", .str (W.isoformat message.occurredAt))] "payload" =
        some (.obj message.payload) := rfl
  rw [written] at payload
  obtain ⟨read, found, same⟩ := Option.map_eq_some_iff.mp payload
  obtain ⟨value, there, object⟩ := Option.bind_eq_some_iff.mp found
  obtain rfl : value = .obj read := by
    cases value <;> simp [Json.object] at object
    rw [object]
  refine ⟨read, there, same, fun freshId => ?_⟩
  simp only [decodeFields, text, integer, there]
  simp [Dict.get, List.lookup_cons, Json.text, Json.integer, Json.object, time, postInit, named]

theorem fields_distinct {fields : Dict} (object : W.fields message = .obj fields) :
    (fields.map (·.1)).Nodup := by
  cases object
  simp

/-- The consumer decodes the event that was published, with its payload in some order: in its own,
if the text keeps it. -/
theorem decode_body (trips : W.RoundTrips message) (named : message.eventId ≠ "") :
    ∃ decoded : EventMessage, (∀ freshId, W.decode (W.publish message).body freshId = some decoded) ∧
      decoded.canonical = message.canonical ∧
      (W.loads (W.dumps (W.fields message)) = some (W.fields message) → decoded = message) := by
  obtain ⟨read, loaded, alike⟩ := trips.json
  obtain ⟨fields, object⟩ : ∃ fields : Dict, W.fields message = .obj fields := ⟨_, rfl⟩
  rw [object, sortKeys_obj, sortKeys_obj, Json.obj.injEq] at alike
  obtain ⟨payload, found, same, decodes⟩ := decodeFields_of_get object
    (get_of_sortDict (fields_distinct object) alike) trips.time named
  refine ⟨{ message with payload }, fun freshId => ?_, ?_, fun keeps => ?_⟩
  · rw [decode, publish, loaded]
    exact decodes freshId
  · simp only [EventMessage.canonical, same]
  · rw [loaded, Option.some.injEq] at keeps
    cases keeps
    obtain rfl : message.payload = payload := by simpa [Dict.get, List.lookup_cons] using found
    rfl

end Decode

end Wire

end KisAutoTrading
