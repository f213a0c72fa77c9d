/-
# Realtime.Stream — the notification streams of every replica

A run mixes, in any order: data posted on the topic, the listener of each replica taking the
next of its queue, every single send of the message in delivery, connections to Redis that
break and come back, replicas that shut down, and the sockets, which are accepted, subscribed,
hung up and left. Anybody may post anything; the listener ends on what it cannot decode, on what
`json.loads` raises besides `JSONDecodeError`, on what the hub raises, and on a message that
cannot be encoded for a socket that is there.

`Sound` is what holds of a replica among the sockets: the hub lists exactly the subscribed ones,
each once, and it is closed under a cancelled listener only. What a socket has received, is being
sent and will be sent is `due`. One step adds to it at most what is posted on the socket's own
channel, and exactly that if the socket and its listener are still there (`due_step`).
-/
import KisAutoTrading.Infrastructure.Realtime
import KisAutoTrading.Sessions.Credentials
import KisAutoTrading.Theory.Runs

namespace KisAutoTrading.Realtime.Stream

open Theory Theory.Runs Theory.JsonReader RedisPubSubRealtimeBackplane

set_option autoImplicit false

/-- What is posted on the topic. -/
inductive Data where
  | text (text : String)
  /-- Bytes that are no UTF-8. -/
  | malformed

/-- Why `get_message` and `_decode_payload` raise, other than a `RedisError`. -/
inductive Raised where
  | unicodeDecodeError
  | loads (fault : Fault)
  deriving DecidableEq

/-- What the listener makes of a post: the client decodes it strictly (`decode_responses`), then
`_decode_payload` does. -/
def hear (F : Scanner) : Data → Except Raised (Option (PyText × PyText))
  | .text text => (decodePayload F (some text)).mapError .loads
  | .malformed => .error .unicodeDecodeError

theorem hear_error {F : Scanner} {data : Data} {raised : Raised} (fails : hear F data = .error raised) :
    raised = .unicodeDecodeError ∨ raised = .loads .valueError ∨ raised = .loads .recursionError := by
  cases data with
  | malformed =>
      cases fails
      exact .inl rfl
  | text text =>
      cases decoded : decodePayload F (some text) with
      | ok meant => simp [hear, decoded, Except.mapError] at fails
      | error fault =>
          obtain rfl : .loads fault = raised := by simpa [hear, decoded, Except.mapError] using fails
          exact .inr ((decodePayload_error decoded).imp (congrArg _) (congrArg _))

/-- The task of `_listen`. -/
inductive Listener where
  /-- Between two connections. -/
  | connecting
  /-- Subscribed to the topic, with what Redis has pushed. -/
  | connected (queue : List Data)
  /-- Ended by an exception. -/
  | failed
  | cancelled

def Listener.queue : Listener → List Data
  | .connected queue => queue
  | _ => []

@[simp] theorem Listener.queue_connected (queue : List Data) :
    (Listener.connected queue).queue = queue := rfl

structure Replica where
  hub : RealtimeHub Nat
  /-- `app.state.notification_realtime_hub` is set. -/
  available : Bool
  listener : Listener
  /-- The sockets `gather` still sends `message` to. -/
  sending : List Nat
  message : PyText

/-- `realtime_notifications_lifespan` up to its `yield`. -/
def Replica.started : Replica := ⟨.empty, true, .connecting, [], []⟩

/-- An exception leaves `_listen`. Of the sends that are left none can send what one could not. -/
def Replica.fail (replica : Replica) : Replica := { replica with listener := .failed, sending := [] }

inductive Phase where
  | accepted
  | subscribed
  | ended
  deriving DecidableEq

/-- One run of `stream_notifications` behind `accept`. -/
structure Socket where
  replica : Nat
  channel : String
  phase : Phase
  connected : Bool
  frames : List String

structure State where
  replicas : Nat → Replica
  sockets : Nat → Option Socket

def State.start : State := ⟨fun _ => .started, fun _ => none⟩

/-- A socket is there at its own end. -/
def State.connected (s : State) (k : Nat) : Bool := (s.sockets k).elim false Socket.connected

def State.setReplica (s : State) (r : Nat) (replica : Replica) : State :=
  { s with replicas := Function.update s.replicas r replica }

def State.setSocket (s : State) (k : Nat) (socket : Socket) : State :=
  { s with sockets := Function.update s.sockets k (some socket) }

@[simp] theorem State.setReplica_sockets (s : State) (r : Nat) (replica : Replica) :
    (s.setReplica r replica).sockets = s.sockets := rfl

@[simp] theorem State.setSocket_replicas (s : State) (k : Nat) (socket : Socket) :
    (s.setSocket k socket).replicas = s.replicas := rfl

inductive Action where
  | post (data : Data)
  /-- `get_message` returns the next post, and the listener goes up to the sends. -/
  | take (r : Nat)
  /-- `_SafeWebSocketSubscriber.send` of one socket. -/
  | send (r k : Nat)
  /-- A `RedisError`: the queue is gone. -/
  | disconnect (r : Nat)
  | connect (r : Nat)
  /-- The end of the lifespan, up to the cancelled listener. -/
  | shutDown (r : Nat)
  | closeHub (r : Nat)
  | accept (k r : Nat) (session : SessionData)
  | subscribe (k : Nat)
  | hangUp (k : Nat)
  /-- The `finally` of `stream_notifications`. -/
  | leave (k : Nat)

/-- The post is put in the queue of whoever is connected. -/
def Replica.push (replica : Replica) (data : Data) : Replica :=
  match replica.listener with
  | .connected queue => { replica with listener := .connected (queue ++ [data]) }
  | _ => replica

section System

variable (F : Scanner)

/-- One turn of the inner loop of `_listen`. Neither what `get_message` and `_decode_payload` raise
here nor what the hub raises is a `RedisError`. -/
def Replica.take (replica : Replica) : Replica :=
  match replica.listener with
  | .connected (data :: queue) =>
      match hear F data with
      | .error _ => replica.fail
      | .ok none => { replica with listener := .connected queue }
      | .ok (some (channel, message)) =>
          match replica.hub.publishText channel with
          | .error _ => replica.fail
          | .ok subscribers =>
              { replica with listener := .connected queue, sending := subscribers, message }
  | _ => replica

def Replica.disconnect (replica : Replica) : Replica :=
  match replica.listener with
  | .connected _ => { replica with listener := .connecting }
  | _ => replica

def Replica.connect (replica : Replica) : Replica :=
  match replica.listener with
  | .connecting => { replica with listener := .connected [] }
  | _ => replica

/-- `backplane.aclose()`; what ended a failed listener is raised again. -/
def Replica.shutDown (replica : Replica) : Replica :=
  match replica.listener with
  | .failed => { replica with available := false }
  | _ => { replica with available := false, listener := .cancelled, sending := [] }

/-- A frame is sent; a socket that is gone is skipped. A message with a lone surrogate raises
`UnicodeEncodeError`, which `_SafeWebSocketSubscriber` passes on, as the hub does. -/
def Socket.receive (socket : Socket) (message : PyText) : Option Socket :=
  if socket.connected then
    message.text?.map fun text => { socket with frames := socket.frames ++ [text] }
  else some socket

def step (s : State) : Action → State
  | .post data => { s with replicas := fun r => (s.replicas r).push data }
  | .take r => s.setReplica r ((s.replicas r).take F)
  | .send r k =>
      let replica := s.replicas r
      match s.sockets k with
      | some socket =>
          if k ∈ replica.sending then
            match socket.receive replica.message with
            | some after =>
                (s.setReplica r { replica with sending := replica.sending.erase k }).setSocket k after
            | none => s.setReplica r replica.fail
          else s
      | none => s
  | .disconnect r => s.setReplica r (s.replicas r).disconnect
  | .connect r => s.setReplica r (s.replicas r).connect
  | .shutDown r => s.setReplica r (s.replicas r).shutDown
  | .closeHub r => s.setReplica r { s.replicas r with hub := (s.replicas r).hub.aclose }
  | .accept k r session =>
      match notificationChannel session.userId with
      | .ok channel => s.setSocket k ⟨r, channel, .accepted, true, []⟩
      | .error _ => s
  | .subscribe k =>
      match s.sockets k with
      | some socket =>
          if socket.phase = .accepted then
            let replica := s.replicas socket.replica
            match replica.hub.subscribe socket.channel k with
            | .ok hub => (s.setReplica socket.replica { replica with hub }).setSocket k
                { socket with phase := .subscribed }
            | .error _ => s.setSocket k { socket with phase := .ended, connected := false }
          else s
      | none => s
  | .hangUp k =>
      match s.sockets k with
      | some socket => s.setSocket k { socket with connected := false }
      | none => s
  | .leave k =>
      match s.sockets k with
      | some socket =>
          if socket.phase = .subscribed then
            let replica := s.replicas socket.replica
            match replica.hub.unsubscribe socket.channel k with
            | .ok hub => (s.setReplica socket.replica { replica with hub }).setSocket k
                { socket with phase := .ended, connected := false }
            | .error _ => s.setSocket k { socket with phase := .ended, connected := false }
          else s
      | none => s

/-- The session of a new socket is one `_authorized_websocket_session` has let in. -/
def Allowed (s : State) : Action → Prop
  | .take r => (s.replicas r).sending = []
  | .disconnect r => (s.replicas r).sending = []
  | .closeHub r => (s.replicas r).listener = .cancelled
  | .accept k r session => s.sockets k = none ∧ (s.replicas r).available = true ∧
      ∃ now store authorization,
        authorizedWebsocketSession now store authorization = .ok (.session session)
  | _ => True

def run (trace : List Action) : State := exec (step F) .start trace

end System

def Action.posted : Action → List Data
  | .post data => [data]
  | _ => []

/-- What a trace posts. -/
def posts (trace : List Action) : List Data := trace.flatMap Action.posted

/-! ## What holds of every replica -/

/-- A replica among the sockets. -/
structure Sound (sockets : Nat → Option Socket) (r : Nat) (replica : Replica) : Prop where
  tidy : replica.hub.Tidy
  member : ∀ channel, ∀ k ∈ replica.hub.subscribersOf channel, ∃ socket, sockets k = some socket ∧
    socket.replica = r ∧ socket.channel = channel ∧ socket.phase = .subscribed
  listed : replica.hub.closed = false → ∀ k socket, sockets k = some socket →
    socket.replica = r → socket.phase = .subscribed →
      k ∈ replica.hub.subscribersOf socket.channel
  sendingOnce : replica.sending.Nodup
  sent : ∀ k ∈ replica.sending, ∃ socket, sockets k = some socket ∧ socket.replica = r ∧
    socket.phase ≠ .accepted
  closed : replica.hub.closed = true → replica.listener = .cancelled
  quiet : replica.sending = [] ∨ ∃ queue, replica.listener = .connected queue

structure Inv (s : State) : Prop where
  sound : ∀ r, Sound s.sockets r (s.replicas r)
  named : ∀ k socket, s.sockets k = some socket →
    ∃ userId, userId ≠ "" ∧ socket.channel = "notification:" ++ userId

section Steps

variable {F : Scanner} {s : State} {r k : Nat} {replica : Replica} {socket : Socket}

theorem inv_start : Inv .start := by
  refine ⟨fun r => ?_, by simp [State.start]⟩
  refine ⟨RealtimeHub.tidy_empty, ?_, ?_, List.nodup_nil, ?_, ?_, .inl rfl⟩
  · intro channel k member
    simp [State.start, Replica.started, RealtimeHub.empty, RealtimeHub.subscribersOf] at member
  · intro _ k socket found
    cases found
  · intro k member
    cases member
  · intro closed
    cases closed

/-- One replica is replaced. -/
theorem Inv.setReplica (inv : Inv s) (sound : Sound s.sockets r replica) :
    Inv (s.setReplica r replica) := by
  refine ⟨fun other => ?_, inv.named⟩
  by_cases same : other = r
  · subst same
    simpa [State.setReplica] using sound
  · simpa [State.setReplica, same] using inv.sound other

/-- One socket is replaced, on the same channel. -/
theorem Inv.setSocket (inv : Inv s) {after : Socket}
    (named : ∃ userId, userId ≠ "" ∧ after.channel = "notification:" ++ userId)
    (sound : ∀ r, Sound (Function.update s.sockets k (some after)) r (s.replicas r)) :
    Inv (s.setSocket k after) := by
  refine ⟨sound, fun j other found => ?_⟩
  by_cases same : j = k
  · subst same
    obtain rfl : after = other := by simpa [State.setSocket] using found
    exact named
  · exact inv.named j other (by simpa [State.setSocket, same] using found)

/-- Sockets may come in, receive frames, be hung up and end before they are subscribed. -/
theorem Sound.of_sockets {sockets sockets' : Nat → Option Socket} (sound : Sound sockets r replica)
    (kept : ∀ k socket, sockets k = some socket → socket.replica = r → socket.phase ≠ .accepted →
      ∃ after, sockets' k = some after ∧ after.replica = r ∧ after.channel = socket.channel ∧
        after.phase = socket.phase)
    (old : ∀ k after, sockets' k = some after → after.replica = r → after.phase = .subscribed →
      ∃ socket, sockets k = some socket ∧ socket.replica = r ∧ socket.channel = after.channel ∧
        socket.phase = .subscribed) : Sound sockets' r replica := by
  refine ⟨sound.tidy, ?_, ?_, sound.sendingOnce, ?_, sound.closed, sound.quiet⟩
  · intro channel k member
    obtain ⟨socket, found, own, same, subscribed⟩ := sound.member channel k member
    obtain ⟨after, found', own', same', phase⟩ := kept k socket found own (by simp [subscribed])
    exact ⟨after, found', own', same'.trans same, phase.trans subscribed⟩
  · intro isOpen k after found own subscribed
    obtain ⟨socket, found', own', same, subscribed'⟩ := old k after found own subscribed
    exact same ▸ sound.listed isOpen k socket found' own' subscribed'
  · intro k member
    obtain ⟨socket, found, own, phase⟩ := sound.sent k member
    obtain ⟨after, found', own', -, phase'⟩ := kept k socket found own phase
    exact ⟨after, found', own', phase' ▸ phase⟩

/-- One socket is replaced, on the same channel of the same replica and in the same phase. -/
theorem Sound.setSocket {sockets : Nat → Option Socket} (sound : Sound sockets r replica)
    (found : sockets k = some socket) {after : Socket} (own : after.replica = socket.replica)
    (channel : after.channel = socket.channel) (phase : after.phase = socket.phase) :
    Sound (Function.update sockets k (some after)) r replica := by
  apply sound.of_sockets
  · intro j other found' own' _
    by_cases same : j = k
    · subst same
      obtain rfl : socket = other := Option.some.inj (found.symm.trans found')
      exact ⟨after, by simp, own.trans own', channel, phase⟩
    · exact ⟨other, by simpa [same] using found', own', rfl, rfl⟩
  · intro j other found' own' subscribed
    by_cases same : j = k
    · subst same
      obtain rfl : after = other := by simpa using found'
      exact ⟨socket, found, own.symm.trans own', channel.symm, phase.symm.trans subscribed⟩
    · exact ⟨other, by simpa [same] using found', own', rfl, subscribed⟩

/-- A socket that is not subscribed yet may come in or end. -/
theorem Sound.setSocket_fresh {sockets : Nat → Option Socket} (sound : Sound sockets r replica)
    (fresh : ∀ socket, sockets k = some socket → socket.phase = .accepted) {after : Socket}
    (phase : after.phase ≠ .subscribed) :
    Sound (Function.update sockets k (some after)) r replica := by
  apply sound.of_sockets
  · intro j other found own accepted
    by_cases same : j = k
    · subst same
      exact absurd (fresh other found) accepted
    · exact ⟨other, by simpa [same] using found, own, rfl, rfl⟩
  · intro j other found own subscribed
    by_cases same : j = k
    · subst same
      obtain rfl : after = other := by simpa using found
      exact absurd subscribed phase
    · exact ⟨other, by simpa [same] using found, own, rfl, subscribed⟩

/-- A post the listener ends on as it takes it. -/
def Raises (F : Scanner) (hub : RealtimeHub Nat) (data : Data) : Prop :=
  (∃ raised, hear F data = .error raised) ∨
    ∃ channel message, hear F data = .ok (some (channel, message)) ∧
      ∃ failure, hub.publishText channel = .error failure

/-- Everything one turn of the listener can do. -/
theorem take_cases (F : Scanner) (replica : Replica) :
    (replica.take F = replica ∧ ∀ data queue, replica.listener ≠ .connected (data :: queue)) ∨
      ∃ data queue, replica.listener = .connected (data :: queue) ∧
        (Raises F replica.hub data ∧ replica.take F = replica.fail ∨
          ¬ Raises F replica.hub data ∧
            (hear F data = .ok none ∧
                replica.take F = { replica with listener := .connected queue } ∨
              ∃ channel message, hear F data = .ok (some (channel, message)) ∧
                replica.take F = { replica with
                  listener := .connected queue
                  sending := replica.hub.subscribersOfText channel
                  message })) := by
  unfold Replica.take
  split
  · rename_i data queue connected
    refine .inr ⟨data, queue, connected, ?_⟩
    cases heard : hear F data with
    | error raised => exact .inl ⟨.inl ⟨raised, heard⟩, rfl⟩
    | ok meant =>
        cases meant with
        | none => exact .inr ⟨by simp [Raises, heard], .inl ⟨rfl, rfl⟩⟩
        | some pair =>
            obtain ⟨channel, message⟩ := pair
            cases published : replica.hub.publishText channel with
            | error failure =>
                exact .inl ⟨.inr ⟨channel, message, heard, failure, published⟩, by simp [published]⟩
            | ok subscribers =>
                refine .inr ⟨by simp [Raises, heard, published], .inr ⟨channel, message, rfl, ?_⟩⟩
                simp only [published, RealtimeHub.publishText_ok published]
  · rename_i idle
    exact .inl ⟨rfl, idle⟩

theorem Sound.fail {sockets : Nat → Option Socket} (sound : Sound sockets r replica)
    (isOpen : replica.hub.closed ≠ true) : Sound sockets r replica.fail := by
  refine ⟨sound.tidy, sound.member, sound.listed, List.nodup_nil, ?_,
    fun closed => absurd closed isOpen, .inl rfl⟩
  intro k member
  cases member

/-- Whoever sends has an open hub. -/
theorem Sound.open_of_sending {sockets : Nat → Option Socket} (sound : Sound sockets r replica)
    (member : k ∈ replica.sending) : replica.hub.closed ≠ true := by
  intro closed
  rcases sound.quiet with none | ⟨queue, connected⟩
  · rw [none] at member
    cases member
  · rw [sound.closed closed] at connected
    cases connected

theorem Sound.take {sockets : Nat → Option Socket} (sound : Sound sockets r replica)
    (finished : replica.sending = []) : Sound sockets r (replica.take F) := by
  rcases take_cases F replica with ⟨same, -⟩ | ⟨data, queue, connected, next⟩
  · rw [same]
    exact sound
  have isOpen : replica.hub.closed ≠ true := by
    intro closed
    rw [sound.closed closed] at connected
    cases connected
  rcases next with ⟨-, same⟩ | ⟨-, ⟨-, same⟩ | ⟨channel, message, -, same⟩⟩
  · rw [same]
    exact sound.fail isOpen
  · rw [same]
    exact ⟨sound.tidy, sound.member, sound.listed, sound.sendingOnce, sound.sent,
      fun closed => absurd closed isOpen, .inl finished⟩
  · rw [same]
    refine ⟨sound.tidy, sound.member, sound.listed, ?_, ?_,
      fun closed => absurd closed isOpen, .inr ⟨queue, rfl⟩⟩
    · unfold RealtimeHub.subscribersOfText
      cases channel.text? with
      | some name => exact sound.tidy.nodup name
      | none => exact List.nodup_nil
    · intro k member
      obtain ⟨name, -, there⟩ := RealtimeHub.mem_subscribersOfText member
      obtain ⟨socket, found, own, -, subscribed⟩ := sound.member name k there
      exact ⟨socket, found, own, by simp [subscribed]⟩

theorem Sound.push {sockets : Nat → Option Socket} (sound : Sound sockets r replica)
    (data : Data) : Sound sockets r (replica.push data) := by
  unfold Replica.push
  split
  · rename_i queue connected
    refine ⟨sound.tidy, sound.member, sound.listed, sound.sendingOnce, sound.sent, ?_,
      .inr ⟨_, rfl⟩⟩
    intro closed
    rw [sound.closed closed] at connected
    cases connected
  · exact sound

theorem Sound.disconnect {sockets : Nat → Option Socket} (sound : Sound sockets r replica)
    (finished : replica.sending = []) : Sound sockets r replica.disconnect := by
  unfold Replica.disconnect
  split
  · rename_i queue connected
    refine ⟨sound.tidy, sound.member, sound.listed, sound.sendingOnce, sound.sent, ?_, .inl finished⟩
    intro closed
    rw [sound.closed closed] at connected
    cases connected
  · exact sound

theorem Sound.connect {sockets : Nat → Option Socket} (sound : Sound sockets r replica) :
    Sound sockets r replica.connect := by
  unfold Replica.connect
  split
  · rename_i connecting
    refine ⟨sound.tidy, sound.member, sound.listed, sound.sendingOnce, sound.sent, ?_, .inr ⟨_, rfl⟩⟩
    intro closed
    rw [sound.closed closed] at connecting
    cases connecting
  · exact sound

theorem Sound.shutDown {sockets : Nat → Option Socket} (sound : Sound sockets r replica) :
    Sound sockets r replica.shutDown := by
  unfold Replica.shutDown
  split
  · exact ⟨sound.tidy, sound.member, sound.listed, sound.sendingOnce, sound.sent, sound.closed,
      sound.quiet⟩
  · refine ⟨sound.tidy, sound.member, sound.listed, List.nodup_nil, ?_, fun _ => rfl, .inl rfl⟩
    intro k member
    cases member

theorem Sound.closeHub {sockets : Nat → Option Socket} (sound : Sound sockets r replica)
    (cancelled : replica.listener = .cancelled) :
    Sound sockets r { replica with hub := replica.hub.aclose } := by
  refine ⟨?_, ?_, ?_, sound.sendingOnce, sound.sent, fun _ => cancelled, sound.quiet⟩
  · intro channel subscribers kept
    cases kept
  · intro channel k member
    simp [RealtimeHub.aclose, RealtimeHub.subscribersOf] at member
  · intro isOpen
    cases isOpen

/-- One send is over. -/
theorem Sound.sent_one {sockets : Nat → Option Socket} (sound : Sound sockets r replica) (k : Nat) :
    Sound sockets r { replica with sending := replica.sending.erase k } := by
  refine ⟨sound.tidy, sound.member, sound.listed, sound.sendingOnce.erase k, ?_, sound.closed, ?_⟩
  · intro j member
    exact sound.sent j (List.mem_of_mem_erase member)
  · rcases sound.quiet with none | connected
    · exact .inl (by simp [none])
    · exact .inr connected

/-- A subscription puts the socket on its own replica's hub. -/
theorem Sound.subscribe {sockets : Nat → Option Socket} {hub : RealtimeHub Nat}
    (sound : Sound sockets r replica) (found : sockets k = some socket) (own : socket.replica = r)
    (accepted : socket.phase = .accepted)
    (subscribed : replica.hub.subscribe socket.channel k = .ok hub) :
    Sound (Function.update sockets k (some { socket with phase := .subscribed })) r
      { replica with hub } := by
  obtain ⟨wasOpen, isOpen, tidy, members⟩ := RealtimeHub.subscribe_ok subscribed
  refine ⟨tidy sound.tidy, ?_, ?_, sound.sendingOnce, ?_, ?_, sound.quiet⟩
  · intro channel j member
    by_cases same : j = k
    · subst same
      rcases (members channel j).mp member with old | ⟨here, -⟩
      · obtain ⟨other, found', -, -, phase⟩ := sound.member channel j old
        obtain rfl := Option.some.inj (found.symm.trans found')
        rw [accepted] at phase
        cases phase
      · exact ⟨_, Function.update_self .., own, here.symm, rfl⟩
    · rcases (members channel j).mp member with old | ⟨-, here⟩
      · simpa [same] using sound.member channel j old
      · exact absurd here same
  · intro _ j other found' own' phase
    by_cases same : j = k
    · subst same
      obtain rfl : _ = other := by simpa using found'
      exact (members _ j).mpr (.inr ⟨rfl, rfl⟩)
    · have there := sound.listed wasOpen j other (by simpa [same] using found') own' phase
      exact (members _ j).mpr (.inl there)
  · intro j member
    by_cases same : j = k
    · subst same
      refine ⟨_, Function.update_self .., own, ?_⟩
      intro phase
      cases phase
    · simpa [same] using sound.sent j member
  · intro closed
    rw [isOpen] at closed
    cases closed

/-- Whoever leaves is off the hub. -/
theorem Sound.unsubscribe {sockets : Nat → Option Socket} {hub : RealtimeHub Nat}
    (sound : Sound sockets r replica) (found : sockets k = some socket) (own : socket.replica = r)
    (left : replica.hub.unsubscribe socket.channel k = .ok hub) :
    Sound (Function.update sockets k (some { socket with phase := .ended, connected := false })) r
      { replica with hub } := by
  obtain ⟨same, tidy, members⟩ := RealtimeHub.unsubscribe_ok left
  refine ⟨tidy sound.tidy, ?_, ?_, sound.sendingOnce, ?_, ?_, sound.quiet⟩
  · intro channel j member
    obtain ⟨old, stays⟩ := (members channel j).mp member
    obtain ⟨other, found', own', channel', phase⟩ := sound.member channel j old
    by_cases mine : j = k
    · subst mine
      obtain rfl := Option.some.inj (found.symm.trans found')
      exact absurd ⟨channel'.symm, rfl⟩ stays
    · exact ⟨other, by simpa [mine] using found', own', channel', phase⟩
  · intro isOpen j other found' own' phase
    by_cases mine : j = k
    · subst mine
      obtain rfl : _ = other := by simpa using found'
      cases phase
    · exact (members _ j).mpr ⟨sound.listed (same ▸ isOpen) j other (by simpa [mine] using found')
        own' phase, fun here => mine here.2⟩
  · intro j member
    by_cases mine : j = k
    · subst mine
      refine ⟨_, Function.update_self .., own, ?_⟩
      intro phase
      cases phase
    · simpa [mine] using sound.sent j member
  · intro closed
    exact sound.closed (same ▸ closed)

/-- A socket that changes its phase is of no other replica. -/
theorem Sound.elsewhere {sockets : Nat → Option Socket} (sound : Sound sockets r replica)
    (found : sockets k = some socket) (other : socket.replica ≠ r) {after : Socket}
    (own : after.replica = socket.replica) :
    Sound (Function.update sockets k (some after)) r replica := by
  apply sound.of_sockets
  · intro j here found' own' _
    by_cases same : j = k
    · subst same
      obtain rfl := Option.some.inj (found.symm.trans found')
      exact absurd own' other
    · exact ⟨here, by simpa [same] using found', own', rfl, rfl⟩
  · intro j here found' own' subscribed
    by_cases same : j = k
    · subst same
      obtain rfl : after = here := by simpa using found'
      exact absurd (own.symm.trans own') other
    · exact ⟨here, by simpa [same] using found', own', rfl, subscribed⟩

/-- A socket's own replica and the socket are replaced. -/
theorem Inv.setBoth (inv : Inv s) (found : s.sockets k = some socket) {after : Socket}
    (own : after.replica = socket.replica) (channel : after.channel = socket.channel)
    (sound : Sound (Function.update s.sockets k (some after)) socket.replica replica) :
    Inv ((s.setReplica socket.replica replica).setSocket k after) := by
  have named : ∃ userId, userId ≠ "" ∧ after.channel = "notification:" ++ userId :=
    channel ▸ inv.named k socket found
  refine ⟨fun r => ?_, fun j other found' => ?_⟩
  · by_cases same : r = socket.replica
    · subst same
      simpa [State.setReplica, State.setSocket] using sound
    · simpa [State.setReplica, State.setSocket, same] using
        (inv.sound r).elsewhere found (Ne.symm same) own
  · by_cases same : j = k
    · subst same
      obtain rfl : after = other := by simpa [State.setSocket] using found'
      exact named
    · exact inv.named j other (by simpa [State.setSocket, State.setReplica, same] using found')

/-- A frame changes nothing else of a socket. -/
theorem receive_kept {message : PyText} {after : Socket} (received : socket.receive message = some after) :
    after.replica = socket.replica ∧ after.channel = socket.channel ∧ after.phase = socket.phase ∧
      after.connected = socket.connected := by
  unfold Socket.receive at received
  split at received
  · obtain ⟨text, -, rfl⟩ := Option.map_eq_some_iff.mp received
    exact ⟨rfl, rfl, rfl, rfl⟩
  · cases received
    exact ⟨rfl, rfl, rfl, rfl⟩

/-- **Every step keeps every replica sound.** -/
theorem inv_step (s : State) (a : Action) (inv : Inv s) (allowed : Allowed s a) :
    Inv (step F s a) := by
  cases a with
  | post data => exact ⟨fun r => (inv.sound r).push data, inv.named⟩
  | take r => exact inv.setReplica ((inv.sound r).take allowed)
  | send r k =>
      simp only [step]
      split
      · rename_i socket found
        split
        · rename_i member
          split
          · rename_i after received
            obtain ⟨own, channel, phase, -⟩ := receive_kept received
            have kept := inv.setReplica ((inv.sound r).sent_one k)
            exact kept.setSocket (channel ▸ inv.named k socket found) fun other =>
              (kept.sound other).setSocket found own channel phase
          · exact inv.setReplica ((inv.sound r).fail ((inv.sound r).open_of_sending member))
        · exact inv
      · exact inv
  | disconnect r => exact inv.setReplica ((inv.sound r).disconnect allowed)
  | connect r => exact inv.setReplica (inv.sound r).connect
  | shutDown r => exact inv.setReplica (inv.sound r).shutDown
  | closeHub r => exact inv.setReplica ((inv.sound r).closeHub allowed)
  | accept k r session =>
      simp only [step]
      split
      · rename_i channel named
        refine inv.setSocket ⟨_, notificationChannel_ok named⟩ fun other => ?_
        refine (inv.sound other).setSocket_fresh ?_ Phase.noConfusion
        intro socket found
        rw [allowed.1] at found
        cases found
      · exact inv
  | subscribe k =>
      simp only [step]
      split
      · rename_i socket found
        split
        · rename_i accepted
          split
          · rename_i hub subscribed
            exact inv.setBoth found rfl rfl ((inv.sound _).subscribe found rfl accepted subscribed)
          · refine inv.setSocket (inv.named k socket found) fun other => ?_
            refine (inv.sound other).setSocket_fresh ?_ Phase.noConfusion
            intro same found'
            obtain rfl := Option.some.inj (found.symm.trans found')
            exact accepted
        · exact inv
      · exact inv
  | hangUp k =>
      simp only [step]
      split
      · rename_i socket found
        exact inv.setSocket (inv.named k socket found) fun other =>
          (inv.sound other).setSocket found rfl rfl rfl
      · exact inv
  | leave k =>
      simp only [step]
      split
      · rename_i socket found
        split
        · split
          · rename_i hub left
            exact inv.setBoth found rfl rfl ((inv.sound _).unsubscribe found rfl left)
          · rename_i failure raised
            obtain ⟨userId, -, channel⟩ := inv.named k socket found
            have blank := RealtimeHub.unsubscribe_error raised
            rw [channel] at blank
            exact absurd blank (pyStrip_channel_ne userId)
        · exact inv
      · exact inv

end Steps

/-! ## What a socket is due -/

section Due

variable (F : Scanner)

/-- The messages on one channel among what is posted. -/
def messagesOn (channel : String) (posts : List Data) : List PyText :=
  posts.filterMap fun data =>
    match hear F data with
    | .ok (some (named, message)) => if named = .ofString channel then some message else none
    | _ => none

/-- What is being sent to a socket. -/
def pending (replica : Replica) (k : Nat) : List PyText :=
  if k ∈ replica.sending then [replica.message] else []

/-- What is on its way from a replica to one of its sockets. -/
def ahead (replica : Replica) (k : Nat) (socket : Socket) : List PyText :=
  pending replica k ++
    if socket.phase = .ended then [] else messagesOn F socket.channel replica.listener.queue

/-- What a socket has received, is being sent, and is still in the queue for it. -/
def due (s : State) (k : Nat) (socket : Socket) : List PyText :=
  socket.frames.map .ofString ++ ahead F (s.replicas socket.replica) k socket

/-- The stream is there at both ends. -/
def Live (s : State) (k : Nat) : Prop :=
  ∃ socket queue, s.sockets k = some socket ∧ socket.phase = .subscribed ∧
    socket.connected = true ∧ (s.replicas socket.replica).listener = .connected queue

theorem messagesOn_append (channel : String) (front back : List Data) :
    messagesOn F channel (front ++ back) = messagesOn F channel front ++ messagesOn F channel back :=
  List.filterMap_append

theorem messagesOn_sublist (channel : String) {fewer posts : List Data}
    (sub : fewer.Sublist posts) : (messagesOn F channel fewer).Sublist (messagesOn F channel posts) :=
  sub.filterMap _

theorem mem_messagesOn {channel : String} {posts : List Data} {message : PyText} :
    message ∈ messagesOn F channel posts ↔
      ∃ data ∈ posts, hear F data = .ok (some (.ofString channel, message)) := by
  have one (data : Data) :
      (match hear F data with
        | .ok (some (named, message)) => if named = .ofString channel then some message else none
        | _ => none) = some message ↔ hear F data = .ok (some (.ofString channel, message)) := by
    split
    · rename_i named other heard
      by_cases same : named = .ofString channel <;> simp [heard, same]
    · rename_i silent
      simpa using silent _ message
  simp only [messagesOn, List.mem_filterMap, one]

end Due

/-- What one step may add to a socket. -/
structure Adds (F : Scanner) (s t : State) (k : Nat) (socket after : Socket)
    (posted : List Data) : Prop where
  replica : after.replica = socket.replica
  channel : after.channel = socket.channel
  received : after.frames = socket.frames ∨ k ∈ (s.replicas socket.replica).sending ∧
    after.frames.map .ofString = socket.frames.map .ofString ++ [(s.replicas socket.replica).message]
  atMost : (due F t k after).Sublist (due F s k socket ++ messagesOn F socket.channel posted)
  whole : Live t k → due F t k after = due F s k socket ++ messagesOn F socket.channel posted

section DueSteps

variable {F : Scanner} {s t : State} {r k : Nat} {replica : Replica} {socket : Socket}

/-- A socket is due what it was. -/
theorem Adds.of_same {after : Socket} (replica : after.replica = socket.replica)
    (channel : after.channel = socket.channel)
    (received : after.frames = socket.frames ∨ k ∈ (s.replicas socket.replica).sending ∧
      after.frames.map .ofString =
        socket.frames.map .ofString ++ [(s.replicas socket.replica).message])
    (same : due F t k after = due F s k socket) : Adds F s t k socket after [] := by
  have none : messagesOn F socket.channel [] = [] := rfl
  refine ⟨replica, channel, received, ?_, fun _ => ?_⟩
  · rw [same, none, List.append_nil]
  · rw [same, none, List.append_nil]

/-- A socket may lose what it is due once its stream is gone. -/
theorem Adds.of_less {after : Socket} (replica : after.replica = socket.replica)
    (channel : after.channel = socket.channel) (received : after.frames = socket.frames)
    (less : (due F t k after).Sublist (due F s k socket)) (gone : ¬ Live t k) :
    Adds F s t k socket after [] := by
  have none : messagesOn F socket.channel [] = [] := rfl
  refine ⟨replica, channel, .inl received, ?_, fun live => absurd live gone⟩
  rw [none, List.append_nil]
  exact less

/-- A replica is replaced, and a socket is as it was. -/
theorem Adds.setReplica (found : s.sockets k = some socket)
    (less : socket.replica = r → (ahead F replica k socket).Sublist (ahead F (s.replicas r) k socket))
    (whole : socket.replica = r → socket.phase = .subscribed →
      (∃ queue, replica.listener = .connected queue) →
        ahead F replica k socket = ahead F (s.replicas r) k socket) :
    Adds F s (s.setReplica r replica) k socket socket [] := by
  by_cases own : socket.replica = r
  · have now : due F (s.setReplica r replica) k socket =
        socket.frames.map .ofString ++ ahead F replica k socket := by
      simp [due, State.setReplica, own]
    have before : due F s k socket =
        socket.frames.map .ofString ++ ahead F (s.replicas r) k socket := by
      rw [due, own]
    have none : messagesOn F socket.channel [] = [] := rfl
    refine ⟨rfl, rfl, .inl rfl, ?_, ?_⟩
    · rw [now, before, none, List.append_nil]
      exact (less own).append_left _
    · rintro ⟨other, queue, found', subscribed, -, connected⟩
      obtain rfl := Option.some.inj (found.symm.trans found')
      rw [State.setReplica, own] at connected
      rw [now, before, none, List.append_nil, whole own subscribed ⟨queue, by simpa using connected⟩]
  · exact .of_same rfl rfl (.inl rfl) (by simp [due, State.setReplica, own])

theorem pending_of_finished (finished : replica.sending = []) (k : Nat) : pending replica k = [] := by
  simp [pending, finished]

/-- A listener that ends brings nothing more. -/
theorem fail_adds (found : s.sockets k = some socket) :
    Adds F s (s.setReplica r (s.replicas r).fail) k socket socket [] := by
  refine .setReplica found (fun _ => ?_) fun _ _ ⟨_, live⟩ => ?_
  · simp [ahead, pending, Replica.fail, Listener.queue, messagesOn]
  · cases live

theorem messagesOn_queue {data : Data} {queue : List Data}
    (connected : replica.listener = .connected (data :: queue)) (channel : String) :
    messagesOn F channel replica.listener.queue =
      messagesOn F channel [data] ++ messagesOn F channel queue := by
  rw [connected, ← messagesOn_append]
  rfl

/-- A message goes to the subscribers of its channel, of whom a socket is one if it is its own. -/
theorem deliver_adds (inv : Inv s) (finished : (s.replicas r).sending = [])
    (found : s.sockets k = some socket) {data : Data} {queue : List Data} {channel message : PyText}
    (connected : (s.replicas r).listener = .connected (data :: queue))
    (heard : hear F data = .ok (some (channel, message))) :
    Adds F s (s.setReplica r { s.replicas r with
      listener := .connected queue
      sending := (s.replicas r).hub.subscribersOfText channel
      message }) k socket socket [] := by
  have sound := inv.sound r
  have before := messagesOn_queue (F := F) connected
  have taken : messagesOn F socket.channel [data] =
      if channel = .ofString socket.channel then [message] else [] := by
    simp only [messagesOn, heard, List.filterMap_cons, List.filterMap_nil]
    by_cases here : channel = .ofString socket.channel <;> simp [here]
  have member (own : socket.replica = r)
      (sent : k ∈ (s.replicas r).hub.subscribersOfText channel) :
      channel = .ofString socket.channel ∧ socket.phase = .subscribed := by
    obtain ⟨name, same, there⟩ := RealtimeHub.mem_subscribersOfText sent
    obtain ⟨other, found', -, channel', subscribed⟩ := sound.member name k there
    obtain rfl := Option.some.inj (found.symm.trans found')
    exact ⟨channel' ▸ same, subscribed⟩
  have isOpen : (s.replicas r).hub.closed = false := by
    by_contra closed
    rw [sound.closed (by simpa using closed)] at connected
    cases connected
  refine .setReplica found (fun own => ?_) fun own subscribed _ => ?_
  · simp only [ahead, pending_of_finished finished, before, taken, List.nil_append,
      Listener.queue_connected]
    by_cases sent : k ∈ (s.replicas r).hub.subscribersOfText channel
    · obtain ⟨here, subscribed⟩ := member own sent
      simp [pending, sent, ← here, subscribed]
    · have none : pending { s.replicas r with
          listener := .connected queue
          sending := (s.replicas r).hub.subscribersOfText channel
          message } k = [] := if_neg sent
      rw [none, List.nil_append]
      split
      · exact .refl _
      · exact List.sublist_append_right _ _
  · have listed := sound.listed isOpen k socket found own subscribed
    simp only [ahead, pending_of_finished finished, before, taken, List.nil_append,
      Listener.queue_connected, subscribed]
    by_cases here : channel = .ofString socket.channel
    · simp [pending, here, listed]
    · have none : k ∉ (s.replicas r).hub.subscribersOfText channel := fun sent =>
        here (member own sent).1
      simp [pending, here, none]

theorem take_adds (inv : Inv s) (finished : (s.replicas r).sending = [])
    (found : s.sockets k = some socket) :
    Adds F s (s.setReplica r ((s.replicas r).take F)) k socket socket [] := by
  rcases take_cases F (s.replicas r) with ⟨same, -⟩ | ⟨data, queue, connected, next⟩
  · rw [same]
    exact .setReplica found (fun _ => .refl _) fun _ _ _ => rfl
  rcases next with ⟨-, same⟩ | ⟨-, ⟨heard, same⟩ | ⟨channel, message, heard, same⟩⟩
  · rw [same]
    exact fail_adds found
  · have skipped (channel : String) : messagesOn F channel [data] = [] := by
      simp [messagesOn, heard]
    have next : ahead F { s.replicas r with listener := .connected queue } k socket =
        ahead F (s.replicas r) k socket := by
      simp only [ahead, messagesOn_queue connected, skipped, List.nil_append,
        Listener.queue_connected]
      rfl
    rw [same]
    exact .setReplica found (fun _ => next ▸ .refl _) fun _ _ _ => next
  · rw [same]
    exact deliver_adds inv finished found connected heard

/-- Another socket and its replica's hub or sends are replaced. -/
theorem Adds.elsewhere {j : Nat} (other : k ≠ j) (after : Socket) (found : s.sockets k = some socket)
    (same : socket.replica = r → ahead F replica k socket = ahead F (s.replicas r) k socket) :
    Adds F s ((s.setReplica r replica).setSocket j after) k socket socket [] := by
  have kept : due F ((s.setReplica r replica).setSocket j after) k socket =
      due F (s.setReplica r replica) k socket := rfl
  have adds := Adds.setReplica found (fun own => same own ▸ .refl _) fun own _ _ => same own
  refine ⟨rfl, rfl, .inl rfl, kept ▸ adds.atMost, ?_⟩
  rintro ⟨here, queue, found', live⟩
  rw [kept]
  exact adds.whole ⟨here, queue, by simpa [State.setSocket, other] using found', live⟩

theorem send_adds (inv : Inv s) (j : Nat) {sent now : Socket} (found' : s.sockets j = some sent)
    (member : j ∈ (s.replicas r).sending) (received : sent.receive (s.replicas r).message = some now)
    (found : s.sockets k = some socket) :
    let t := (s.setReplica r
      { s.replicas r with sending := (s.replicas r).sending.erase j }).setSocket j now
    ∃ after, t.sockets k = some after ∧ Adds F s t k socket after [] := by
  intro t
  have sound := inv.sound r
  by_cases here : k = j
  · subst here
    obtain rfl := Option.some.inj (found.symm.trans found')
    obtain ⟨other, found', own, -⟩ := sound.sent k member
    obtain rfl := Option.some.inj (found.symm.trans found')
    refine ⟨now, Function.update_self .., ?_⟩
    have finished : k ∉ (s.replicas r).sending.erase k := sound.sendingOnce.not_mem_erase
    unfold Socket.receive at received
    split at received
    · obtain ⟨text, encoded, rfl⟩ := Option.map_eq_some_iff.mp received
      have frame : (s.replicas r).message = .ofString text := PyText.text?_eq_some.mp encoded
      refine .of_same rfl rfl (.inr (by rw [own]; exact ⟨member, by simp [frame]⟩)) ?_
      simp [due, ahead, t, State.setReplica, State.setSocket, own, pending, member, finished, frame]
    · rename_i gone
      cases received
      refine .of_less rfl rfl rfl ?_ ?_
      · simp [due, ahead, t, State.setReplica, State.setSocket, own, pending, finished]
      · rintro ⟨other, queue, found', -, live, -⟩
        obtain rfl : socket = other := by simpa [t, State.setSocket] using found'
        exact gone live
  · refine ⟨socket, by simpa [t, State.setSocket, here, State.setReplica] using found, ?_⟩
    refine .elsewhere here _ found fun _ => ?_
    simp [ahead, pending, List.mem_erase_of_ne here]

/-- The socket itself is replaced, and of its replica the hub. -/
theorem Adds.setSocket {after : Socket} {hub : RealtimeHub Nat} (own : after.replica = socket.replica)
    (channel : after.channel = socket.channel) (frames : after.frames = socket.frames)
    (phase : after.phase = .ended ∨ after.phase ≠ .ended ∧ socket.phase ≠ .ended) :
    Adds F s ((s.setReplica socket.replica { s.replicas socket.replica with hub }).setSocket k after)
      k socket after [] := by
  rcases phase with ended | ⟨stays, stayed⟩
  · refine .of_less own channel frames ?_ ?_
    · simp [due, ahead, pending, State.setReplica, State.setSocket, own, frames, ended]
    · rintro ⟨other, queue, found, subscribed, -⟩
      obtain rfl : after = other := by simpa [State.setSocket] using found
      rw [ended] at subscribed
      cases subscribed
  · refine .of_same own channel (.inl frames) ?_
    simp [due, ahead, pending, State.setReplica, State.setSocket, own, channel, frames, stays, stayed]

theorem setReplica_self (s : State) (r : Nat) :
    s.setReplica r { s.replicas r with hub := (s.replicas r).hub } = s := by
  simp [State.setReplica]

theorem ahead_push (data : Data) :
    (ahead F (replica.push data) k socket).Sublist
        (ahead F replica k socket ++ messagesOn F socket.channel [data]) ∧
      (socket.phase = .subscribed → (∃ queue, (replica.push data).listener = .connected queue) →
        ahead F (replica.push data) k socket =
          ahead F replica k socket ++ messagesOn F socket.channel [data]) := by
  unfold Replica.push
  split
  · rename_i queue connected
    refine ⟨?_, fun subscribed _ => ?_⟩
    · by_cases ended : socket.phase = .ended
      · simp [ahead, pending, ended]
      · simp [ahead, pending, ended, connected, messagesOn_append]
    · simp [ahead, pending, subscribed, connected, messagesOn_append]
  · rename_i idle
    exact ⟨List.sublist_append_left _ _, fun _ ⟨queue, connected⟩ => absurd connected (idle queue)⟩

theorem ahead_disconnect :
    (ahead F replica.disconnect k socket).Sublist (ahead F replica k socket) := by
  unfold Replica.disconnect
  split
  · simp [ahead, pending, Listener.queue, messagesOn]
  · exact .refl _

theorem disconnect_connected {queue : List Data}
    (connected : replica.disconnect.listener = .connected queue) : replica.disconnect = replica := by
  unfold Replica.disconnect at connected ⊢
  split at connected
  · cases connected
  · rfl

theorem ahead_connect : ahead F replica.connect k socket = ahead F replica k socket := by
  unfold Replica.connect
  split
  · rename_i connecting
    simp [ahead, pending, connecting, Listener.queue]
  · rfl

theorem ahead_shutDown : (ahead F replica.shutDown k socket).Sublist (ahead F replica k socket) := by
  unfold Replica.shutDown
  split
  · exact .refl _
  · simp [ahead, pending, Listener.queue, messagesOn]

theorem shutDown_listener {queue : List Data} : replica.shutDown.listener ≠ .connected queue := by
  unfold Replica.shutDown
  split
  · rename_i failed
    rw [failed]
    exact Listener.noConfusion
  · exact Listener.noConfusion

/-! ### One lemma per group of actions -/

theorem unchanged_adds (found : s.sockets k = some socket) :
    ∃ after, s.sockets k = some after ∧ Adds F s s k socket after [] :=
  ⟨socket, found, .of_same rfl rfl (.inl rfl) rfl⟩

theorem post_adds (data : Data) (found : s.sockets k = some socket) :
    Adds F s (step F s (.post data)) k socket socket [data] := by
  obtain ⟨atMost, whole⟩ := @ahead_push F k (s.replicas socket.replica) socket data
  refine ⟨rfl, rfl, .inl rfl, ?_, ?_⟩
  · rw [due, due, List.append_assoc]
    exact atMost.append_left _
  · rintro ⟨other, queue, found', subscribed, -, connected⟩
    obtain rfl := Option.some.inj (found.symm.trans found')
    rw [due, due, List.append_assoc]
    exact congrArg _ (whole subscribed ⟨queue, connected⟩)

/-- The connection of a listener, its replica's end, and the hub's. -/
theorem replica_adds (found : s.sockets k = some socket) :
    Adds F s (s.setReplica r (s.replicas r).disconnect) k socket socket [] ∧
      Adds F s (s.setReplica r (s.replicas r).connect) k socket socket [] ∧
      Adds F s (s.setReplica r (s.replicas r).shutDown) k socket socket [] ∧
      Adds F s (s.setReplica r { s.replicas r with hub := (s.replicas r).hub.aclose }) k socket
        socket [] := by
  refine ⟨.setReplica found (fun _ => ahead_disconnect) ?_,
    .setReplica found (fun _ => ?_) fun _ _ _ => ahead_connect,
    .setReplica found (fun _ => ahead_shutDown) fun _ _ ⟨_, connected⟩ =>
      absurd connected shutDown_listener,
    .setReplica found (fun _ => .refl _) fun _ _ _ => rfl⟩
  · rintro - - ⟨queue, connected⟩
    rw [disconnect_connected connected]
  · rw [ahead_connect]

/-- Socket `j` is replaced, on the same channel of the same replica and with the same frames, and
of that replica the hub. -/
theorem socket_adds (j : Nat) {old after : Socket} (hub : RealtimeHub Nat)
    (found : s.sockets k = some socket) (found' : s.sockets j = some old)
    (own : after.replica = old.replica) (channel : after.channel = old.channel)
    (frames : after.frames = old.frames)
    (phase : after.phase = .ended ∨ after.phase ≠ .ended ∧ old.phase ≠ .ended) :
    let t := (s.setReplica old.replica { s.replicas old.replica with hub }).setSocket j after
    ∃ now, t.sockets k = some now ∧ Adds F s t k socket now [] := by
  by_cases same : k = j
  · subst same
    obtain rfl := Option.some.inj (found.symm.trans found')
    exact ⟨after, Function.update_self .., .setSocket own channel frames phase⟩
  · exact ⟨socket, by simpa [State.setSocket, State.setReplica, same] using found,
      .elsewhere same after found fun _ => rfl⟩

/-- The same with the hub as it was. -/
theorem alone_adds (j : Nat) {old after : Socket} (found : s.sockets k = some socket)
    (found' : s.sockets j = some old) (own : after.replica = old.replica)
    (channel : after.channel = old.channel) (frames : after.frames = old.frames)
    (phase : after.phase = .ended ∨ after.phase ≠ .ended ∧ old.phase ≠ .ended) :
    ∃ now, (s.setSocket j after).sockets k = some now ∧
      Adds F s (s.setSocket j after) k socket now [] := by
  have adds := socket_adds (F := F) j (s.replicas old.replica).hub found found' own channel frames phase
  rwa [setReplica_self] at adds

/-- A socket that comes in is another one. -/
theorem accept_adds {j r : Nat} (session : SessionData) (new : s.sockets j = none)
    (found : s.sockets k = some socket) :
    ∃ after, (step F s (.accept j r session)).sockets k = some after ∧
      Adds F s (step F s (.accept j r session)) k socket after [] := by
  simp only [step]
  split
  · rename_i channel _
    have other : k ≠ j := by
      rintro rfl
      rw [new] at found
      cases found
    have adds : Adds F s ((s.setReplica 0 { s.replicas 0 with hub := (s.replicas 0).hub }).setSocket j
        ⟨r, channel, .accepted, true, []⟩) k socket socket [] :=
      .elsewhere other _ found fun _ => rfl
    rw [setReplica_self s 0] at adds
    exact ⟨socket, by simpa [State.setSocket, other] using found, adds⟩
  · exact unchanged_adds found

theorem subscribe_adds (j : Nat) (found : s.sockets k = some socket) :
    ∃ after, (step F s (.subscribe j)).sockets k = some after ∧
      Adds F s (step F s (.subscribe j)) k socket after [] := by
  simp only [step]
  split
  · rename_i old found'
    split
    · rename_i accepted
      split
      · exact socket_adds j _ found found' rfl rfl rfl
          (.inr ⟨Phase.noConfusion, by simp [accepted]⟩)
      · exact alone_adds j found found' rfl rfl rfl (.inl rfl)
    · exact unchanged_adds found
  · exact unchanged_adds found

theorem hangUp_adds (j : Nat) (found : s.sockets k = some socket) :
    ∃ after, (step F s (.hangUp j)).sockets k = some after ∧
      Adds F s (step F s (.hangUp j)) k socket after [] := by
  simp only [step]
  split
  · rename_i old found'
    refine alone_adds j found found' rfl rfl rfl ?_
    by_cases ended : old.phase = .ended
    · exact .inl ended
    · exact .inr ⟨ended, ended⟩
  · exact unchanged_adds found

theorem leave_adds (j : Nat) (found : s.sockets k = some socket) :
    ∃ after, (step F s (.leave j)).sockets k = some after ∧
      Adds F s (step F s (.leave j)) k socket after [] := by
  simp only [step]
  split
  · rename_i old found'
    split
    · split
      · exact socket_adds j _ found found' rfl rfl rfl (.inl rfl)
      · exact alone_adds j found found' rfl rfl rfl (.inl rfl)
    · exact unchanged_adds found
  · exact unchanged_adds found

/-- **What is on its way to a socket**: a step adds no more than what is posted on its channel,
and as long as the stream is there all of it. -/
theorem due_step (s : State) (a : Action) (inv : Inv s) (allowed : Allowed s a)
    (found : s.sockets k = some socket) :
    ∃ after, (step F s a).sockets k = some after ∧ Adds F s (step F s a) k socket after a.posted := by
  cases a with
  | post data => exact ⟨socket, found, post_adds data found⟩
  | take r => exact ⟨socket, found, take_adds inv allowed found⟩
  | send r j =>
      simp only [step]
      split
      · rename_i sent found'
        split
        · rename_i member
          split
          · rename_i now received
            exact send_adds inv j found' member received found
          · exact ⟨socket, found, fail_adds found⟩
        · exact unchanged_adds found
      · exact unchanged_adds found
  | disconnect r => exact ⟨socket, found, (replica_adds found).1⟩
  | connect r => exact ⟨socket, found, (replica_adds found).2.1⟩
  | shutDown r => exact ⟨socket, found, (replica_adds found).2.2.1⟩
  | closeHub r => exact ⟨socket, found, (replica_adds found).2.2.2⟩
  | accept j r session => exact accept_adds session allowed.1 found
  | subscribe j => exact subscribe_adds j found
  | hangUp j => exact hangUp_adds j found
  | leave j => exact leave_adds j found

/-- Sockets come in by `accept` only. -/
theorem new_socket (s : State) (a : Action) (absent : s.sockets k = none)
    (found : (step F s a).sockets k = some socket) :
    ∃ r session channel, a = .accept k r session ∧
      notificationChannel session.userId = .ok channel ∧ socket = ⟨r, channel, .accepted, true, []⟩ := by
  have kept (j : Nat) {old : Socket} (found' : s.sockets j = some old) : k ≠ j := by
    rintro rfl
    rw [absent] at found'
    cases found'
  have nothing : s.sockets k ≠ some socket := by simp [absent]
  cases a with
  | accept j r session =>
      simp only [step] at found
      split at found
      · rename_i channel named
        by_cases same : k = j
        · subst same
          refine ⟨r, session, channel, rfl, named, ?_⟩
          simpa [State.setSocket] using found.symm
        · exact absurd (by simpa [State.setSocket, same] using found) nothing
      · exact absurd found nothing
  | send r j =>
      simp only [step] at found
      split at found
      · rename_i old found'
        split at found
        · split at found
          · exact absurd (by simpa [State.setSocket, kept j found'] using found) nothing
          · exact absurd found nothing
        · exact absurd found nothing
      · exact absurd found nothing
  | subscribe j =>
      simp only [step] at found
      split at found
      · rename_i old found'
        split at found
        · split at found <;>
            exact absurd (by simpa [State.setSocket, kept j found'] using found) nothing
        · exact absurd found nothing
      · exact absurd found nothing
  | hangUp j =>
      simp only [step] at found
      split at found
      · rename_i old found'
        exact absurd (by simpa [State.setSocket, kept j found'] using found) nothing
      · exact absurd found nothing
  | leave j =>
      simp only [step] at found
      split at found
      · rename_i old found'
        split at found
        · split at found <;>
            exact absurd (by simpa [State.setSocket, kept j found'] using found) nothing
        · exact absurd found nothing
      · exact absurd found nothing
  | _ => exact absurd found nothing

theorem take_queue (F : Scanner) (replica : Replica) :
    (replica.take F).listener.queue.Sublist replica.listener.queue := by
  rcases take_cases F replica with ⟨same, -⟩ | ⟨data, queue, connected, next⟩
  · rw [same]
  · rw [connected, Listener.queue_connected]
    rcases next with ⟨-, same⟩ | ⟨-, ⟨-, same⟩ | ⟨channel, message, -, same⟩⟩ <;> rw [same]
    · exact List.nil_sublist _
    · exact List.sublist_cons_self _ _
    · exact List.sublist_cons_self _ _

theorem push_queue (replica : Replica) (data : Data) :
    (replica.push data).listener.queue.Sublist (replica.listener.queue ++ [data]) := by
  unfold Replica.push
  split
  · rename_i queue connected
    rw [connected]
    exact .refl _
  · exact List.sublist_append_left _ _

/-- What is in a queue has been posted, once. -/
theorem queue_step (s : State) (a : Action) (r : Nat) :
    (((step F s a).replicas r).listener.queue).Sublist ((s.replicas r).listener.queue ++ a.posted) := by
  have replaced (j : Nat) {replica : Replica}
      (less : replica.listener.queue.Sublist (s.replicas j).listener.queue) :
      (((s.setReplica j replica).replicas r).listener.queue).Sublist
        ((s.replicas r).listener.queue ++ []) := by
    rw [List.append_nil]
    by_cases same : r = j
    · subst same
      simpa [State.setReplica] using less
    · simp [State.setReplica, same]
  have unchanged : ((s.replicas r).listener.queue).Sublist ((s.replicas r).listener.queue ++ []) := by
    rw [List.append_nil]
  cases a with
  | post data => exact push_queue (s.replicas r) data
  | take j => exact replaced j (take_queue F _)
  | send j k =>
      simp only [step]
      split
      · split
        · split
          · exact replaced j (.refl _)
          · exact replaced j (List.nil_sublist _)
        · exact unchanged
      · exact unchanged
  | disconnect j =>
      refine replaced j ?_
      unfold Replica.disconnect
      split
      · exact List.nil_sublist _
      · exact .refl _
  | connect j =>
      refine replaced j ?_
      unfold Replica.connect
      split
      · exact List.nil_sublist _
      · exact .refl _
  | shutDown j =>
      refine replaced j ?_
      unfold Replica.shutDown
      split
      · exact .refl _
      · exact List.nil_sublist _
  | closeHub j => exact replaced j (.refl _)
  | accept j r' session =>
      simp only [step]
      split <;> exact unchanged
  | subscribe j =>
      simp only [step]
      split
      · split
        · split
          · exact replaced _ (.refl _)
          · exact unchanged
        · exact unchanged
      · exact unchanged
  | hangUp j =>
      simp only [step]
      split <;> exact unchanged
  | leave j =>
      simp only [step]
      split
      · split
        · split
          · exact replaced _ (.refl _)
          · exact unchanged
        · exact unchanged
      · exact unchanged

end DueSteps

end KisAutoTrading.Realtime.Stream
