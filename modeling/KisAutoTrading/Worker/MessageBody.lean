/-
# Worker.MessageBody — an event from the outbox to the handler, through the broker

The publisher writes a message with `sort_keys`, the consumer reads it back. `jsonWire` is the
`Wire` of the two, with the writer and the reader of JSON in full; the ISO texts of dates stay a
parameter. What arrives is the message with its payload sorted (`EventMessage.canonical`), which
is published as the very same text (`body_round_trip`).

The handlers of both workers find their fields by name, so they do with what arrives what they
would have done with the message the program wrote (`decoded_is_handled_alike`).
-/
import KisAutoTrading.Application.DurableJobHandler
import KisAutoTrading.Infrastructure.RabbitMQ
import KisAutoTrading.Modules.Account
import KisAutoTrading.Theory.JsonSorted
import KisAutoTrading.Worker.MessageHandler

namespace KisAutoTrading.Worker.MessageBody

open Theory Theory.JsonText Theory.JsonReader Theory.JsonSorted

set_option autoImplicit false

/-! ## The body -/

section Body

variable (R : FloatRepr) (F : Scanner) (isoformat : Instant → String)
  (fromisoformat : String → Option Instant)

/-- `json.dumps(..., separators=(",", ":"), sort_keys=True)` and `json.loads`. -/
def jsonWire : Wire where
  dumps value := encode R (sortKeys value)
  loads text := (loads F text).toOption.bind PyJson.json?
  isoformat
  fromisoformat

/-- What the publisher can write and the consumer can read: the JSON texts and the date of the
event are read back. The fields are one level down in the body. -/
structure Sendable (message : EventMessage) : Prop where
  named : message.eventId ≠ ""
  payload : Writable R F (F.levels.map Nat.pred) (.obj message.payload)
  version : Writable R F (F.levels.map Nat.pred) (.int message.eventVersion)
  time : fromisoformat (isoformat message.occurredAt) = some message.occurredAt

end Body

section RoundTrip

variable {R : FloatRepr} {F : Scanner} {isoformat : Instant → String}
  {fromisoformat : String → Option Instant}

theorem Sendable.fields {message : EventMessage}
    (sendable : Sendable R F isoformat fromisoformat message) :
    Writable R F F.levels ((jsonWire R F isoformat fromisoformat).fields message) := by
  simp only [Wire.fields, Writable, WritableFields]
  exact ⟨F.positive, by simp, trivial, trivial, sendable.version, trivial, sendable.payload, trivial,
    trivial, trivial⟩

/-- The keys come back in their order. -/
theorem Sendable.loads {message : EventMessage}
    (sendable : Sendable R F isoformat fromisoformat message) {fields : Dict}
    (object : (jsonWire R F isoformat fromisoformat).fields message = .obj fields) :
    (jsonWire R F isoformat fromisoformat).loads
      ((jsonWire R F isoformat fromisoformat).dumps
        ((jsonWire R F isoformat fromisoformat).fields message)) = some (.obj (sortDict fields)) := by
  have writable := sendable.fields
  rw [object] at writable ⊢
  show (JsonReader.loads F (encode R (sortKeys (.obj fields)))).toOption.bind PyJson.json? = _
  rw [loads_encode_sorted writable, sortKeys_obj]
  exact PyJson.json?_ofJson _

/-- Reading undoes writing for every event that can be sent. -/
theorem Sendable.roundTrips {message : EventMessage}
    (sendable : Sendable R F isoformat fromisoformat message) :
    (jsonWire R F isoformat fromisoformat).RoundTrips message := by
  obtain ⟨fields, object⟩ : ∃ fields : Dict,
      (jsonWire R F isoformat fromisoformat).fields message = .obj fields := ⟨_, rfl⟩
  refine ⟨⟨sortDict fields, sendable.loads object, ?_⟩, sendable.time⟩
  rw [object, sortKeys_obj, sortKeys_obj, sortDict_sortDict]

theorem decode_published {message : EventMessage}
    (sendable : Sendable R F isoformat fromisoformat message) (freshId : String) :
    (jsonWire R F isoformat fromisoformat).decode
        ((jsonWire R F isoformat fromisoformat).publish message).body freshId =
      some message.canonical := by
  obtain ⟨fields, object⟩ : ∃ fields : Dict,
      (jsonWire R F isoformat fromisoformat).fields message = .obj fields := ⟨_, rfl⟩
  have get := get_sortDict (Wire.fields_distinct object)
  have again (key : String) :
      ((sortDict fields).get key).map sortKeys = (fields.get key).map sortKeys := by
    cases found : fields.get key <;> simp [get, found, sortKeys_sortKeys]
  obtain ⟨payload, found, -, decodes⟩ := Wire.decodeFields_of_get object again sendable.time
    sendable.named
  have written : fields.get "payload" = some (.obj message.payload) := by
    cases object
    rfl
  rw [get, written, Option.map_some, sortKeys_obj] at found
  cases found
  have read := sendable.loads object
  rw [Wire.decode, Wire.publish, read]
  exact decodes freshId

theorem fields_canonical (message : EventMessage) :
    sortKeys ((jsonWire R F isoformat fromisoformat).fields message.canonical) =
      sortKeys ((jsonWire R F isoformat fromisoformat).fields message) := by
  simp only [Wire.fields, EventMessage.canonical, sortKeys_obj]
  refine congrArg Json.obj (sortDict_congr ?_)
  simp only [sortValues, sortKeys_obj, sortDict_sortDict]

/-- **The body of an event.** The consumer reads the event that was published, with its payload in
the order of the keys. That event has the same text again, and two events have one text only if
they are the same up to that order. -/
theorem body_round_trip {message : EventMessage}
    (sendable : Sendable R F isoformat fromisoformat message) :
    let W := jsonWire R F isoformat fromisoformat
    (∀ freshId, W.decode (W.publish message).body freshId = some message.canonical) ∧
      W.publish message.canonical = W.publish message ∧
      (∀ key, message.canonical.payload.get key = (message.payload.get key).map sortKeys) ∧
      ∀ other, Sendable R F isoformat fromisoformat other →
        ((W.publish message).body = (W.publish other).body ↔ message.canonical = other.canonical) := by
  intro W
  have same (message : EventMessage) : W.publish message.canonical = W.publish message := by
    simp only [W, Wire.publish, BrokerMessage.mk.injEq]
    exact ⟨congrArg (encode R) (fields_canonical message), rfl, rfl, rfl⟩
  have distinct : (message.payload.map (·.1)).Nodup := by
    have writable := sendable.payload
    rw [Writable] at writable
    exact writable.2.1
  refine ⟨decode_published sendable, same message, get_sortDict distinct, fun other sendable' => ?_⟩
  constructor
  · intro body
    have read := decode_published sendable ""
    rw [body, decode_published sendable' ""] at read
    exact (Option.some.inj read).symm
  · intro one
    rw [← same message, one, same other]

end RoundTrip

/-! ## The handlers of the message worker -/

/-- The payloads of the four events the worker handles, as the program writes them. -/
inductive Written (P : Platform) : Dict → Prop where
  | profile (profile : UserProfile) (target : ShardTarget) (eventId : String) (now : Instant) :
      Written P (profileUpdated profile target eventId now).payload
  | subscription (subscription : SignalSubscription) (target : ShardTarget) (eventId : String)
      (now : Instant) : Written P (recordSubscriptionUpdate subscription target eventId now).payload
  | signal (signal : SignalEvent) : Written P (P.dumpSignalEvent signal)
  | intent (intent : SignalDeliveryIntent) : Written P (P.dumpDeliveryIntent intent)

/-- A float and a date are dumped as a number, a text or null. -/
structure DumpsScalars (P : Platform) : Prop where
  float : ∀ value, Scalar (P.dumpFloat value)
  datetime : ∀ date, Scalar (P.dumpDatetime date)

section Handlers

variable {P : Platform} {message decoded : EventMessage}

theorem scalar_of_written (scalars : DumpsScalars P) {payload : Dict} (written : Written P payload) :
    ∀ field ∈ payload, Scalar field.2 := by
  cases written with
  | profile profile target eventId now => simp [profileUpdated, outboxRecord]
  | subscription subscription target eventId now =>
      simp [recordSubscriptionUpdate, outboxRecord]
  | signal signal =>
      have expiry : Scalar ((signal.expiresAt.map P.dumpDatetime).getD .null) := by
        cases signal.expiresAt with
        | none => trivial
        | some date => exact scalars.datetime date
      simp [Platform.dumpSignalEvent, scalars.float, scalars.datetime, expiry]
  | intent intent => simp [Platform.dumpDeliveryIntent, scalars.datetime]

/-- Sorting does not touch a payload of scalars but for its order. -/
theorem get_sortDict_of_scalar {payload : Dict} (distinct : (payload.map (·.1)).Nodup)
    (scalar : ∀ field ∈ payload, Scalar field.2) (key : String) :
    (sortDict payload).get key = payload.get key := by
  rw [get_sortDict distinct]
  cases found : payload.get key with
  | none => rfl
  | some value =>
      have member := (get_eq_some_iff distinct).mp found
      rw [Option.map_some, sortKeys_of_scalar (scalar _ member)]

/-- The handlers look their fields up by name and use nothing else of a payload. -/
theorem handleMessage_of_get (eventId : decoded.eventId = message.eventId)
    (eventType : decoded.eventType = message.eventType)
    (get : ∀ key, decoded.payload.get key = message.payload.get key) (now : Instant)
    (newId : Uuid → String) (dbs : Databases) :
    P.handleMessage decoded now newId dbs = P.handleMessage message now newId dbs := by
  have projection : P.subscriptionProjectionFromPayload decoded.payload =
      P.subscriptionProjectionFromPayload message.payload := by
    simp only [Platform.subscriptionProjectionFromPayload, Platform.validateProjection, get]
  have signal : P.signalFromPayload decoded.payload = P.signalFromPayload message.payload := by
    simp only [Platform.signalFromPayload, Platform.validateSignalEvent, get]
  have intent : P.deliveryIntentFromPayload decoded.payload =
      P.deliveryIntentFromPayload message.payload := by
    simp only [Platform.deliveryIntentFromPayload, Platform.validateDeliveryIntent, get]
  have subscriptions : P.handleSignalSubscriptionUpdate decoded =
      P.handleSignalSubscriptionUpdate message := by
    funext store
    simp only [Platform.handleSignalSubscriptionUpdate, projection, eventId]
  have signals : P.handleSignalCreated decoded now newId = P.handleSignalCreated message now newId := by
    funext store
    simp only [Platform.handleSignalCreated, signal, eventId]
  simp only [Platform.handleMessage, handleProfileUpdate, get, eventId, eventType, subscriptions,
    signals, Platform.handleSignalDeliveryIntentCreated, intent]

end Handlers

/-! ## The news jobs -/

section Jobs

variable {payload : Dict} (distinct : (payload.map (·.1)).Nodup)

theorem normalizedText_sortKeys (normal : String → String) (item : Json) :
    normalizedText normal (sortKeys item) = normalizedText normal item := by
  cases item <;> simp only [sortKeys, normalizedText]

include distinct

theorem normalizedTexts_sortDict (field : String) (normal : String → String)
    (noList noText : String) :
    normalizedTexts field normal noList noText (sortDict payload) =
      normalizedTexts field normal noList noText payload := by
  simp only [normalizedTexts, get_sortDict distinct]
  cases payload.get field with
  | none => rfl
  | some value =>
      cases value with
      | arr items =>
          simp only [Option.map_some, sortKeys, sortItems_eq_map, List.filterMap_map,
            Function.comp_def, normalizedText_sortKeys]
      | _ => simp only [Option.map_some, sortKeys]

theorem newsRetryAttempt_sortDict : newsRetryAttempt (sortDict payload) = newsRetryAttempt payload := by
  simp only [newsRetryAttempt, get_sortDict distinct]
  cases payload.get "_news_retry_attempt" with
  | none => rfl
  | some value => cases value <;> simp only [Option.map_some, sortKeys]

theorem newsRetryRootRunKey_sortDict (jobId jobType runKey : String) :
    newsRetryRootRunKey ⟨jobId, jobType, runKey, sortDict payload⟩ =
      newsRetryRootRunKey ⟨jobId, jobType, runKey, payload⟩ := by
  simp only [newsRetryRootRunKey, get_sortDict distinct]
  cases payload.get "_news_retry_root_run_key" with
  | none => rfl
  | some value => cases value <;> simp only [Option.map_some, sortKeys]

/-- The order of a job's payload does not matter to the two news jobs. -/
theorem handleNews_sortDict (U : Upper) (S : NewsServices) (jobId jobType runKey : String)
    (store : NewsStore) :
    handleNews U S ⟨jobId, jobType, runKey, sortDict payload⟩ store =
      handleNews U S ⟨jobId, jobType, runKey, payload⟩ store := by
  have symbols : U.symbolsFromPayload (sortDict payload) = U.symbolsFromPayload payload :=
    normalizedTexts_sortDict distinct ..
  have sourceKeys : sourceKeysFromPayload (sortDict payload) = sourceKeysFromPayload payload :=
    normalizedTexts_sortDict distinct ..
  have retry : S.retryAndRaise ⟨jobId, jobType, runKey, sortDict payload⟩ =
      S.retryAndRaise ⟨jobId, jobType, runKey, payload⟩ := by
    funext again failure store
    simp only [NewsServices.retryAndRaise, NewsServices.requestNewsRetry,
      newsRetryAttempt_sortDict distinct, newsRetryRootRunKey_sortDict distinct]
  simp only [handleNews, collectNews, indexNews, symbols, sourceKeys, retry,
    NewsServices.storeCollection]

end Jobs

/-! ## What arrives is handled as what was written -/

section Delivered

variable {R : FloatRepr} {F : Scanner} {isoformat : Instant → String}
  {fromisoformat : String → Option Instant} {P : Platform}

/-- **The broker changes nothing.** What the consumer decodes of an event is handled as the event
itself: by the message worker where the payload is one the program writes, and by the news jobs
where it is the request of a job. -/
theorem decoded_is_handled_alike (scalars : DumpsScalars P) (U : Upper) (S : NewsServices)
    {message : EventMessage} (sendable : Sendable R F isoformat fromisoformat message) :
    let W := jsonWire R F isoformat fromisoformat
    ∃ decoded, (∀ freshId, W.decode (W.publish message).body freshId = some decoded) ∧
      (Written P message.payload → ∀ now newId dbs,
        P.handleMessage decoded now newId dbs = P.handleMessage message now newId dbs) ∧
      ∀ definition jobType jobId runKey payload eventId now,
        jobDefinition jobType = some definition →
        message = jobRequestMessage definition jobId runKey payload eventId now →
        ∃ execution, P.executionFromMessage decoded = .ok execution ∧
          execution.jobId = jobId ∧ execution.jobType = jobType ∧ execution.runKey = runKey ∧
          ∀ store, handleNews U S execution store =
            handleNews U S ⟨jobId, jobType, runKey, payload⟩ store := by
  intro W
  have writable := sendable.payload
  rw [Writable] at writable
  obtain ⟨-, distinct, inside⟩ := writable
  refine ⟨message.canonical, decode_published sendable, fun written now newId dbs => ?_, ?_⟩
  · have get : ∀ key, message.canonical.payload.get key = message.payload.get key :=
      get_sortDict_of_scalar distinct (scalar_of_written scalars written)
    have alike := @handleMessage_of_get P message message.canonical rfl rfl get
    exact alike now newId dbs
  · rintro definition jobType jobId runKey payload eventId now defined rfl
    have nested : Writable R F _ (.obj payload) :=
      writableFields_iff.mp inside ("payload", .obj payload) (by simp [jobRequestMessage])
    rw [Writable] at nested
    obtain rfl := jobDefinition_name defined
    refine ⟨⟨jobId, definition.name, runKey, sortDict payload⟩, ?_, rfl, rfl, rfl, fun store =>
      handleNews_sortDict nested.2.1 U S jobId definition.name runKey store⟩
    simp only [Platform.executionFromMessage, EventMessage.canonical, get_sortDict distinct]
    simp [jobRequestMessage, Dict.get, List.lookup_cons, sortKeys, sortDict, P.pyStr_str, defined,
      bind, Except.bind]

end Delivered

/-! ## One intent -/

namespace Sample

def writer : FloatRepr := ⟨fun _ => "0.0", fun _ => by decide⟩

def reader : Scanner := ⟨fun _ => .finite 0, some 2, by decide⟩

/-- One date is a text, the others are numbers. -/
def platform : Platform :=
  { Platform.reference (fun _ _ => 0) (.aware 0) "1970-01-01T00:00:00Z" with
    validateDatetime
      | .str text => if text = "1970-01-01T00:00:00Z" then some (.aware 0) else none
      | .int code => some (if code % 2 = 0 then .aware (code / 2) else .naive (code / 2))
      | _ => none
    dumpDatetime date :=
      if date = .aware 0 then .str "1970-01-01T00:00:00Z"
      else
        match date with
        | .aware instant => .int (2 * instant)
        | .naive instant => .int (2 * instant + 1)
    validateDatetime_dump := by
      intro date
      by_cases first : date = .aware 0
      · simp [first]
      · cases date with
        | aware instant => simp [first]
        | naive instant =>
            have odd : (2 * instant + 1) % 2 = 1 := by omega
            have half : (2 * instant + 1) / 2 = instant := by omega
            simp [odd, half] }

def intent : SignalDeliveryIntent where
  intentId := 1
  signalId := 2
  subscriptionId := 3
  userId := 4
  shardId := "1"
  stockCode := "005930"
  expiresAt := .aware 0

def message : EventMessage :=
  platform.deliveryIntentMessage intent "8e0228d4-762a-4ccf-90f9-fd8db616364f" 0

def wire : Wire := jsonWire writer reader (fun _ => "1970-01-01T00:00:00+00:00") fun _ => some 0

theorem sendable : Sendable writer reader (fun _ => "1970-01-01T00:00:00+00:00") (fun _ => some 0)
    message := by
  refine ⟨by decide, ?_, ?_, rfl⟩
  · simp only [Writable, WritableFields, message, Platform.deliveryIntentMessage,
      Platform.dumpDeliveryIntent]
    exact ⟨by decide, by simp, trivial, trivial, trivial, trivial, trivial, trivial, trivial, trivial,
      trivial⟩
  · simp only [Writable, message, Platform.deliveryIntentMessage]
    decide

theorem scalars : DumpsScalars platform := by
  refine ⟨fun value => ?_, fun date => ?_⟩
  · simp [platform, Platform.reference]
  · simp only [platform]
    split
    · trivial
    · cases date <;> trivial

/-- The key "expires_at" moves to the front. -/
theorem intent_is_read_back :
    (∀ freshId, wire.decode (wire.publish message).body freshId = some message.canonical) ∧
      wire.publish message.canonical = wire.publish message :=
  ⟨(body_round_trip sendable).1, (body_round_trip sendable).2.1⟩

theorem intent_is_handled_alike :
    ∃ decoded, (∀ freshId, wire.decode (wire.publish message).body freshId = some decoded) ∧
      ∀ now newId dbs,
        platform.handleMessage decoded now newId dbs = platform.handleMessage message now newId dbs := by
  obtain ⟨decoded, reads, handled, -⟩ := decoded_is_handled_alike scalars
    ⟨id, fun _ => rfl, fun _ plain => plain, fun _ some => some⟩
    ⟨fun _ => .ok [], false, fun _ => .ok 0, "job", "event", 0⟩ sendable
  exact ⟨decoded, reads, handled (.intent intent)⟩

end Sample

end KisAutoTrading.Worker.MessageBody
