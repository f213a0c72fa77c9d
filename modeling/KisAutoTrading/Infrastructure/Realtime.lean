/-
# Infrastructure.Realtime — the hub of a replica and the backplane between replicas

`RealtimeHub` fans a message out to the subscribers of a channel; `publish` is given up to its
sends, which run on their own. `RedisPubSubRealtimeBackplane` carries a channel and a message
to every replica as one JSON text: `payload` is what `publish` writes, `decodePayload` what the
listener makes of a text of the topic, and `decodePayload_payload` the round trip. A text that
somebody else has put on the topic may end the listener, and its message need not be one that
a socket can send.

`publish` tries twice. An attempt Redis has not acknowledged may have reached it all the same,
so one call puts at most two copies on the topic (`publish_texts`).
-/
import KisAutoTrading.Infrastructure.Platform
import KisAutoTrading.Theory.JsonReader
import Mathlib.Logic.Function.Basic

namespace KisAutoTrading

open Theory Theory.JsonReader

set_option autoImplicit false

/-! ## The hub -/

structure RealtimeHub (S : Type) where
  subscribers : String → Option (List S)
  closed : Bool

namespace RealtimeHub

variable {S : Type} (hub : RealtimeHub S)

def empty : RealtimeHub S := ⟨fun _ => none, false⟩

/-- `_require_channel`. -/
def requireChannel (channel : String) : Except Failure Unit :=
  if pyStrip channel = "" then .error (.raised .valueError "realtime channel must not be empty")
  else .ok ()

/-- `_require_open`. -/
def requireOpen : Except Failure Unit :=
  if hub.closed then .error (.raised .runtimeError "realtime hub is closed") else .ok ()

/-- `self._subscribers.get(channel, ())`. -/
def subscribersOf (channel : String) : List S := (hub.subscribers channel).getD []

/-- `self._subscribers[channel] = subscribers`. -/
def put (channel : String) (subscribers : List S) : RealtimeHub S :=
  { hub with subscribers := Function.update hub.subscribers channel (some subscribers) }

/-- `self._subscribers.pop(channel, None)`. -/
def pop (channel : String) : RealtimeHub S :=
  { hub with subscribers := Function.update hub.subscribers channel none }

def subscribe [DecidableEq S] (channel : String) (subscriber : S) : Except Failure (RealtimeHub S) := do
  requireChannel channel
  hub.requireOpen
  let subscribers := hub.subscribersOf channel
  return hub.put channel
    (if subscriber ∈ subscribers then subscribers else subscribers ++ [subscriber])

def unsubscribe [DecidableEq S] (channel : String) (subscriber : S) : Except Failure (RealtimeHub S) := do
  requireChannel channel
  match hub.subscribers channel with
  | none => return hub
  | some subscribers =>
      let remaining := subscribers.filter fun item => item ≠ subscriber
      return if remaining.isEmpty then hub.pop channel else hub.put channel remaining

/-- `publish` up to its sends: the subscribers it sends to, whose number it returns. -/
def publish (channel : String) : Except Failure (List S) := do
  requireChannel channel
  hub.requireOpen
  return hub.subscribersOf channel

/-- The subscribers of a channel that `json.loads` has read. The channels of the hub are texts that
can be encoded. -/
def subscribersOfText (channel : PyText) : List S := channel.text?.elim [] hub.subscribersOf

/-- `publish` on such a channel. One with a lone surrogate is not blank, and nobody is on it. -/
def publishText (channel : PyText) : Except Failure (List S) :=
  match channel.text? with
  | some channel => hub.publish channel
  | none => do
      hub.requireOpen
      return []

def aclose (_ : RealtimeHub S) : RealtimeHub S := ⟨fun _ => none, true⟩

/-- No channel is kept without a subscriber, and nobody is subscribed twice. -/
def Tidy : Prop := ∀ channel subscribers, hub.subscribers channel = some subscribers →
  subscribers ≠ [] ∧ subscribers.Nodup

section Lemmas

variable {hub} {after : RealtimeHub S} {channel other : String} {subscriber : S}

theorem tidy_empty : (empty : RealtimeHub S).Tidy := by
  intro channel subscribers kept
  cases kept

theorem subscribersOf_put (subscribers : List S) :
    (hub.put channel subscribers).subscribersOf other = if other = channel then subscribers else hub.subscribersOf other := by
  by_cases same : other = channel
  · subst same
    simp [subscribersOf, put]
  · simp [subscribersOf, put, same]

theorem subscribersOf_pop : (hub.pop channel).subscribersOf other = if other = channel then [] else hub.subscribersOf other := by
  by_cases same : other = channel
  · subst same
    simp [subscribersOf, pop]
  · simp [subscribersOf, pop, same]

theorem Tidy.nodup (tidy : hub.Tidy) (channel : String) : (hub.subscribersOf channel).Nodup := by
  unfold subscribersOf
  cases kept : hub.subscribers channel with
  | none => exact List.nodup_nil
  | some subscribers => exact (tidy channel subscribers kept).2

theorem Tidy.put (tidy : hub.Tidy) {subscribers : List S} (some : subscribers ≠ [])
    (distinct : subscribers.Nodup) : (hub.put channel subscribers).Tidy := by
  intro other kept found
  by_cases same : other = channel
  · subst same
    simp only [RealtimeHub.put, Function.update_self, Option.some.injEq] at found
    exact found ▸ ⟨some, distinct⟩
  · simp only [RealtimeHub.put, Function.update_of_ne same] at found
    exact tidy other kept found

theorem Tidy.pop (tidy : hub.Tidy) : (hub.pop channel).Tidy := by
  intro other kept found
  by_cases same : other = channel
  · subst same
    simp [RealtimeHub.pop] at found
  · simp only [RealtimeHub.pop, Function.update_of_ne same] at found
    exact tidy other kept found

/-- A subscription is refused, or the subscriber is on the channel and nothing else changes. -/
theorem subscribe_ok [DecidableEq S] (subscribed : hub.subscribe channel subscriber = .ok after) :
    hub.closed = false ∧ after.closed = false ∧ (hub.Tidy → after.Tidy) ∧
      ∀ other item, item ∈ after.subscribersOf other ↔
        item ∈ hub.subscribersOf other ∨ other = channel ∧ item = subscriber := by
  unfold subscribe requireChannel requireOpen at subscribed
  split at subscribed
  · cases subscribed
  cases closed : hub.closed with
  | true => simp [closed, bind, Except.bind] at subscribed
  | false =>
      simp only [closed, bind, Except.bind, Bool.false_eq_true, if_false, pure, Except.pure,
        Except.ok.injEq] at subscribed
      subst subscribed
      refine ⟨rfl, closed, fun tidy => ?_, fun other item => ?_⟩
      · apply tidy.put
        · split
          · rename_i member
            exact List.ne_nil_of_mem member
          · simp
        · have distinct := tidy.nodup channel
          split
          · exact distinct
          · rename_i absent
            exact List.nodup_append.mpr ⟨distinct, by simp, by
              rintro item member _ last rfl
              exact absent (List.mem_singleton.mp last ▸ member)⟩
      · rw [subscribersOf_put]
        by_cases same : other = channel
        · subst same
          by_cases member : subscriber ∈ hub.subscribersOf other
          · rw [if_pos rfl, if_pos member]
            constructor
            · exact .inl
            · rintro (here | ⟨-, rfl⟩)
              · exact here
              · exact member
          · simp [member]
        · simp [same]

/-- Whoever leaves is off the channel, and nothing else changes. -/
theorem unsubscribe_ok [DecidableEq S] (left : hub.unsubscribe channel subscriber = .ok after) :
    after.closed = hub.closed ∧ (hub.Tidy → after.Tidy) ∧
      ∀ other item, item ∈ after.subscribersOf other ↔
        item ∈ hub.subscribersOf other ∧ ¬ (other = channel ∧ item = subscriber) := by
  unfold unsubscribe requireChannel at left
  split at left
  · cases left
  cases kept : hub.subscribers channel with
  | none =>
      simp only [kept, bind, Except.bind, pure, Except.pure, Except.ok.injEq] at left
      subst left
      refine ⟨rfl, id, fun other item => ?_⟩
      constructor
      · intro member
        refine ⟨member, ?_⟩
        rintro ⟨rfl, -⟩
        simp [subscribersOf, kept] at member
      · exact And.left
  | some subscribers =>
      have here : hub.subscribersOf channel = subscribers := by simp [subscribersOf, kept]
      simp only [kept, bind, Except.bind, pure, Except.pure, Except.ok.injEq] at left
      subst left
      split
      · rename_i none
        rw [List.isEmpty_iff] at none
        refine ⟨rfl, Tidy.pop, fun other item => ?_⟩
        rw [subscribersOf_pop]
        by_cases same : other = channel
        · subst same
          have only : ∀ item ∈ hub.subscribersOf other, item = subscriber := by
            intro item member
            by_contra differs
            have stays : item ∈ subscribers.filter fun item => item ≠ subscriber := by
              simpa [differs, ← here] using member
            rw [none] at stays
            cases stays
          simpa using only item
        · simp [same]
      · rename_i some
        rw [List.isEmpty_iff] at some
        refine ⟨rfl, fun tidy => tidy.put some ((tidy channel subscribers kept).2.filter _),
          fun other item => ?_⟩
        rw [subscribersOf_put]
        by_cases same : other = channel
        · subst same
          simp [here]
        · simp [same]

/-- `unsubscribe` raises on a blank channel only. -/
theorem unsubscribe_error [DecidableEq S] {failure : Failure}
    (raised : hub.unsubscribe channel subscriber = .error failure) : pyStrip channel = "" := by
  unfold unsubscribe requireChannel at raised
  split at raised
  · assumption
  · cases kept : hub.subscribers channel <;>
      simp [kept, bind, Except.bind, pure, Except.pure] at raised

/-- What is published goes to the subscribers of the channel. -/
theorem publish_ok {subscribers : List S} (published : hub.publish channel = .ok subscribers) :
    subscribers = hub.subscribersOf channel := by
  unfold publish requireChannel requireOpen at published
  split at published
  · cases published
  cases closed : hub.closed with
  | true => simp [closed, bind, Except.bind] at published
  | false =>
      simp only [closed, bind, Except.bind, Bool.false_eq_true, if_false, pure, Except.pure,
        Except.ok.injEq] at published
      exact published.symm

theorem publishText_ok {channel : PyText} {subscribers : List S}
    (published : hub.publishText channel = .ok subscribers) :
    subscribers = hub.subscribersOfText channel := by
  unfold publishText at published
  unfold subscribersOfText
  cases encoded : channel.text? with
  | some name =>
      rw [encoded] at published
      exact publish_ok published
  | none =>
      simp only [encoded, requireOpen] at published
      cases closed : hub.closed <;> simp [closed, bind, Except.bind, pure, Except.pure] at published
      exact published

@[simp] theorem publishText_ofString (channel : String) :
    hub.publishText (.ofString channel) = hub.publish channel := by
  simp [publishText]

@[simp] theorem subscribersOfText_ofString (channel : String) :
    hub.subscribersOfText (.ofString channel) = hub.subscribersOf channel := by
  simp [subscribersOfText]

/-- Whoever is on a channel is on one that can be encoded. -/
theorem mem_subscribersOfText {channel : PyText} (member : subscriber ∈ hub.subscribersOfText channel) :
    ∃ name, channel = .ofString name ∧ subscriber ∈ hub.subscribersOf name := by
  unfold subscribersOfText at member
  cases encoded : channel.text? with
  | some name =>
      rw [encoded] at member
      exact ⟨name, PyText.text?_eq_some.mp encoded, member⟩
  | none =>
      rw [encoded] at member
      cases member

/-- An open hub publishes on every channel that is not blank. -/
theorem publish_open (named : pyStrip channel ≠ "") (isOpen : hub.closed = false) :
    hub.publish channel = .ok (hub.subscribersOf channel) := by
  simp [publish, requireChannel, named, requireOpen, isOpen, bind, Except.bind, pure, Except.pure]

/-- No hub publishes on a blank channel. -/
theorem publish_blank (blank : pyStrip channel = "") :
    ∃ failure, hub.publish channel = .error failure := by
  simp [publish, requireChannel, blank, bind, Except.bind]

end Lemmas

end RealtimeHub

/-! ## The payload -/

namespace RedisPubSubRealtimeBackplane

/-- `json.dumps` of the channel and the message, with its default separators. -/
def payload (channel message : String) : String :=
  String.ofList ("\x7b\"channel\": ".toList ++ (JsonText.quote channel ++
    (", \"message\": ".toList ++ (JsonText.quote message ++ ['\x7d']))))

/-- `_decode_payload`; data that is no `str` is `none`. What `json.loads` raises besides
`JSONDecodeError` it passes on: a number that is too long, and parts that are too deep. -/
def decodePayload (F : Scanner) (data : Option String) : Except Fault (Option (PyText × PyText)) :=
  match data with
  | none => .ok none
  | some text =>
      match loads F text with
      | .error .decodeError => .ok none
      | .error fault => .error fault
      | .ok payload =>
          match payload.get? "channel", payload.get? "message" with
          | some (.str channel), some (.str message) =>
              if channel = [] then .ok none else .ok (some (channel, message))
          | _, _ => .ok none

/-- A field whose value is a text, written with the default separators. -/
def textField (key text : String) : List Char := JsonText.quote key ++ ':' :: ' ' :: JsonText.quote text

section Payload

variable (F : Scanner) (levels : Option Nat) (key text : String)

theorem readFields_textField (fuel : Nat) (rest : List Char) :
    readFields F (fuel + 2) levels (textField key text ++ '\x7d' :: rest) =
      .ok ([(.ofString key, .str (.ofString text))], rest) := by
  have named := readText_quote (':' :: ' ' :: (JsonText.quote text ++ '\x7d' :: rest)) key
  have read := @readValue_str F levels text fuel ('\x7d' :: rest)
  have value : skip (' ' :: (JsonText.quote text ++ '\x7d' :: rest)) =
      JsonText.quote text ++ '\x7d' :: rest := rfl
  rw [textField, List.append_assoc, List.cons_append, List.cons_append, readFields,
    if_pos (quote_head key _), named]
  simp [bind, Except.bind, skip_cons _ (show isBlank ':' = false by decide), value, read,
    skip_cons _ (show isBlank '\x7d' = false by decide)]

theorem readFields_textFields (fuel : Nat) {more rest : List Char}
    {fields : List (PyText × PyJson)} (head : more.head? = some '"')
    (read : readFields F (fuel + 1) levels more = .ok (fields, rest)) :
    readFields F (fuel + 2) levels (textField key text ++ ',' :: ' ' :: more) =
      .ok ((.ofString key, .str (.ofString text)) :: fields, rest) := by
  have named := readText_quote (':' :: ' ' :: (JsonText.quote text ++ ',' :: ' ' :: more)) key
  have readText := @readValue_str F levels text fuel (',' :: ' ' :: more)
  have value : skip (' ' :: (JsonText.quote text ++ ',' :: ' ' :: more)) =
      JsonText.quote text ++ ',' :: ' ' :: more := rfl
  have next : skip (' ' :: more) = more := by
    cases more with
    | nil => cases head
    | cons c tail =>
        cases head
        rfl
  rw [textField, List.append_assoc, List.cons_append, List.cons_append, readFields,
    if_pos (quote_head key _), named]
  simp [bind, Except.bind, skip_cons _ (show isBlank ':' = false by decide), value, readText,
    skip_cons _ (show isBlank ',' = false by decide), next, read, pure, Except.pure]

end Payload

theorem payload_chars (channel message : String) :
    (payload channel message).toList = '\x7b' ::
      (textField "channel" channel ++ ',' :: ' ' :: (textField "message" message ++ ['\x7d'])) := by
  have first : "\x7b\"channel\": ".toList = '\x7b' :: (JsonText.quote "channel" ++ [':', ' ']) := by
    decide
  have second : ", \"message\": ".toList = ',' :: ' ' :: (JsonText.quote "message" ++ [':', ' ']) := by
    decide
  unfold payload
  rw [String.toList_ofList, first, second]
  simp only [textField, List.append_assoc, List.cons_append, List.nil_append]

/-- What `json.loads` reads of a payload. -/
theorem loads_payload (F : Scanner) (channel message : String) :
    loads F (payload channel message) =
      .ok (.obj [(.ofString "channel", .str (.ofString channel)),
        (.ofString "message", .str (.ofString message))]) := by
  have chars := payload_chars channel message
  generalize fields : textField "channel" channel ++
    ',' :: ' ' :: (textField "message" message ++ ['\x7d']) = inside at chars
  have read (fuel : Nat) (levels : Option Nat) : readFields F (fuel + 3) levels inside =
      .ok ([(.ofString "channel", .str (.ofString channel)),
        (.ofString "message", .str (.ofString message))], []) := by
    rw [← fields]
    exact readFields_textFields F _ _ _ (fuel + 1) rfl (readFields_textField F _ _ _ fuel [])
  have distinct : dictOf [(.ofString "channel", .str (.ofString channel)),
      (.ofString "message", .str (.ofString message))] =
      [(.ofString "channel", .str (.ofString channel)),
        (.ofString "message", .str (.ofString message))] := rfl
  have head : inside.head? = some '"' := by
    rw [← fields]
    rfl
  have skipped : skip inside = inside := by
    rw [← fields]
    rfl
  have value (fuel : Nat) : readValue F (fuel + 4) F.levels (payload channel message).toList =
      .ok (.obj [(.ofString "channel", .str (.ofString channel)),
        (.ofString "message", .str (.ofString message))], []) := by
    rw [chars, readValue, enter_ok F.positive]
    simp [skipped, head, read, bind, Except.bind, pure, Except.pure, distinct]
  have long : 4 ≤ 2 * (payload channel message).toList.length + 1 := by
    have some : inside ≠ [] := fun none => by simp [none] at head
    have length := List.length_pos_iff.mpr some
    rw [chars, List.length_cons]
    omega
  have start : skip (payload channel message).toList = (payload channel message).toList := by
    rw [chars, skip_cons _ (by decide)]
  obtain ⟨fuel, same⟩ := Nat.exists_eq_add_of_le' long
  rw [loads, start, same, value fuel]
  rfl

/-- What `_decode_payload` passes on: a number that is too long, or parts that are too deep. -/
theorem decodePayload_error {F : Scanner} {data : Option String} {fault : Fault}
    (raised : decodePayload F data = .error fault) : fault = .valueError ∨ fault = .recursionError := by
  unfold decodePayload at raised
  split at raised
  · cases raised
  · rename_i text
    have lasts := loads_ne_stuck F text
    split at raised
    · cases raised
    · rename_i _ other read
      cases raised
      cases fault with
      | decodeError => exact absurd rfl other
      | valueError => exact .inl rfl
      | recursionError => exact .inr rfl
      | stuck => exact absurd read lasts
    · split at raised
      · split at raised <;> cases raised
      · cases raised

/-- What `_decode_payload` makes of a payload. -/
theorem decodePayload_eq (F : Scanner) (channel message : String) :
    decodePayload F (some (payload channel message)) =
      .ok (if channel = "" then none else some (.ofString channel, .ofString message)) := by
  have channelField : (PyJson.obj [(.ofString "channel", .str (.ofString channel)),
      (.ofString "message", .str (.ofString message))]).get? "channel" =
        some (.str (.ofString channel)) := rfl
  have messageField : (PyJson.obj [(.ofString "channel", .str (.ofString channel)),
      (.ofString "message", .str (.ofString message))]).get? "message" =
        some (.str (.ofString message)) := rfl
  simp only [decodePayload, loads_payload, channelField, messageField, PyText.ofString_eq_nil]
  by_cases empty : channel = "" <;> simp [empty]

/-- **The listener decodes what was published.** -/
theorem decodePayload_payload (F : Scanner) {channel : String} (named : channel ≠ "")
    (message : String) :
    decodePayload F (some (payload channel message)) =
      .ok (some (.ofString channel, .ofString message)) := by
  rw [decodePayload_eq, if_neg named]

/-- **The format of the topic.** Every channel and message comes back from its payload, an empty
channel as nothing, and two payloads are one text only for one channel and one message. -/
theorem payload_round_trip (F : Scanner) (channel message : String) :
    decodePayload F (some (payload channel message)) =
        .ok (if channel = "" then none else some (.ofString channel, .ofString message)) ∧
      ∀ other text, payload channel message = payload other text ↔
        channel = other ∧ message = text := by
  refine ⟨decodePayload_eq F channel message, fun other text => ?_⟩
  constructor
  · intro same
    have read := loads_payload F channel message
    rw [same, loads_payload] at read
    simpa [PyText.ofString_inj, eq_comm] using read
  · rintro ⟨rfl, rfl⟩
    rfl

/-! ## Publishing -/

/-- How one attempt of `publish` ends. -/
inductive Attempt where
  /-- No server can be reached: `_open_client` raises. -/
  | noConnection
  | acknowledged
  /-- A `RedisError`; the message may have reached the topic before. -/
  | failed (reached : Bool)

/-- How a call ends. -/
inductive Outcome where
  | returned
  | valueError
  | realtimeBackplaneError
  deriving DecidableEq

/-- The attempts from one on, with the texts they put on the topic. -/
def publishLoop (text : String) (attempt : Nat → Attempt) : Nat → Nat → List String × Outcome
  | 0, _ => ([], .realtimeBackplaneError)
  | remaining + 1, number =>
      match attempt number with
      | .noConnection => ([], .realtimeBackplaneError)
      | .acknowledged => ([text], .returned)
      | .failed reached =>
          let (texts, outcome) := publishLoop text attempt remaining (number + 1)
          (if reached then text :: texts else texts, outcome)

/-- `publish`. -/
def publish (closed : Bool) (channel message : String) (attempt : Nat → Attempt) :
    List String × Outcome :=
  if closed then ([], .realtimeBackplaneError)
  else if channel = "" then ([], .valueError)
  else publishLoop (payload channel message) attempt 2 0

theorem publishLoop_texts (text : String) (attempt : Nat → Attempt) (remaining number : Nat) :
    ∃ copies ≤ remaining, (publishLoop text attempt remaining number).1 =
        List.replicate copies text ∧
      ((publishLoop text attempt remaining number).2 = .returned → 0 < copies) := by
  induction remaining generalizing number with
  | zero => exact ⟨0, le_rfl, rfl, by simp [publishLoop]⟩
  | succ remaining ih =>
      obtain ⟨copies, few, texts, posted⟩ := ih (number + 1)
      simp only [publishLoop]
      cases attempt number with
      | noConnection => exact ⟨0, Nat.zero_le _, rfl, Outcome.noConfusion⟩
      | acknowledged => exact ⟨1, by omega, rfl, fun _ => Nat.one_pos⟩
      | failed reached =>
          cases reached with
          | true =>
              refine ⟨copies + 1, by omega, ?_, fun _ => Nat.succ_pos _⟩
              simp only [if_true, texts, List.replicate_succ]
          | false => exact ⟨copies, by omega, by simpa using texts, posted⟩

/-- A call puts at most two copies of its payload on the topic, and one at least if it returns. -/
theorem publish_texts (closed : Bool) (channel message : String) (attempt : Nat → Attempt) :
    ∃ copies ≤ 2, (publish closed channel message attempt).1 =
        List.replicate copies (payload channel message) ∧
      ((publish closed channel message attempt).2 = .returned → 0 < copies ∧ channel ≠ "") := by
  unfold publish
  split
  · exact ⟨0, by omega, rfl, Outcome.noConfusion⟩
  split
  · exact ⟨0, by omega, rfl, Outcome.noConfusion⟩
  · rename_i named
    obtain ⟨copies, few, texts, posted⟩ := publishLoop_texts (payload channel message) attempt 2 0
    exact ⟨copies, few, texts, fun returned => ⟨posted returned, named⟩⟩

end RedisPubSubRealtimeBackplane

/-! ## Notifications -/

/-- `notification_channel`. -/
def notificationChannel (userId : String) : Except Failure String :=
  if userId = "" then .error (.raised .valueError "notification user_id must not be empty")
  else .ok ("notification:" ++ userId)

theorem notificationChannel_ok {userId channel : String}
    (named : notificationChannel userId = .ok channel) :
    userId ≠ "" ∧ channel = "notification:" ++ userId := by
  unfold notificationChannel at named
  split at named
  · cases named
  · rename_i some
    cases named
    exact ⟨some, rfl⟩

/-- No channel of a user is blank. -/
theorem pyStrip_channel_ne (userId : String) : pyStrip ("notification:" ++ userId) ≠ "" := by
  intro blank
  have chars : ("notification:" ++ userId).toList = 'n' :: ("otification:".toList ++ userId.toList) := by
    rw [String.toList_append]
    rfl
  have stripped := congrArg String.toList blank
  simp [pyStrip, chars, stripChars, isPySpace] at stripped
  exact absurd (stripped 'n' (by simp)) (by decide)

/-- `notification_hint`; there is no float in it to be written. -/
def notificationHint (notificationId : Uuid) : String :=
  String.ofList ("\x7b\"notification_id\":".toList ++ (JsonText.quote notificationId.str ++ ['\x7d']))

end KisAutoTrading
