/-
# Realtime.Frames — what the sockets receive over a run

Three facts about every run of the notification streams, from what one step adds to a socket:

* `frames_sublist`: nothing of another user, nothing twice, nothing out of order;
* `nothing_lost`: while a stream lasts it misses nothing, and its listener alone can bring it
  what it is due;
* `poison_stops_listener`: `_listen` goes on after what Redis raises, not after what a post raises.
-/
import KisAutoTrading.Realtime.Stream

namespace KisAutoTrading.Realtime.Stream

open Theory Theory.Runs Theory.JsonReader RedisPubSubRealtimeBackplane

set_option autoImplicit false

section Runs

variable {F : Scanner}

theorem posts_snoc (trace : List Action) (a : Action) : posts (trace ++ [a]) = posts trace ++ a.posted := by
  simp [posts]

theorem inv_run {trace : List Action} (admissible : Admissible (step F) Allowed .start trace) :
    Inv (run F trace) :=
  exec_invariant inv_step inv_start admissible

theorem queue_sublist {trace : List Action}
    (admissible : Admissible (step F) Allowed .start trace) (r : Nat) :
    ((run F trace).replicas r).listener.queue.Sublist (posts trace) := by
  refine trace_induction (motive := fun trace s => (s.replicas r).listener.queue.Sublist (posts trace))
    (List.nil_sublist _) (fun front a _ ih _ => ?_) admissible
  rw [posts_snoc]
  exact (queue_step _ a r).trans (ih.append_right _)

/-- What a run has posted bounds what a socket is due. -/
theorem due_sublist {trace : List Action}
    (admissible : Admissible (step F) Allowed .start trace) {k : Nat} {socket : Socket}
    (found : (run F trace).sockets k = some socket) :
    (due F (run F trace) k socket).Sublist (messagesOn F socket.channel (posts trace)) ∧
      ∃ session, .accept k socket.replica session ∈ trace ∧
        notificationChannel session.userId = .ok socket.channel := by
  refine trace_induction (motive := fun trace s => ∀ k socket, s.sockets k = some socket →
    (due F s k socket).Sublist (messagesOn F socket.channel (posts trace)) ∧
      ∃ session, .accept k socket.replica session ∈ trace ∧
        notificationChannel session.userId = .ok socket.channel) ?_ ?_ admissible k socket found
  · intro k socket found
    cases found
  · intro front a frontOk ih allowed k socket found
    have inv : Inv (exec (step F) .start front) := inv_run frontOk
    cases before : (exec (step F) .start front).sockets k with
    | none =>
        obtain ⟨r, session, channel, rfl, named, rfl⟩ := new_socket _ a before found
        refine ⟨?_, session, by simp, named⟩
        have unsent : k ∉ ((exec (step F) .start front).replicas r).sending := by
          intro member
          obtain ⟨other, found', -⟩ := (inv.sound r).sent k member
          rw [before] at found'
          cases found'
        have queued := messagesOn_sublist F channel (queue_sublist frontOk r)
        simp only [step, named, run] at queued ⊢
        simpa [due, ahead, pending, State.setSocket, unsent, posts, Action.posted] using queued
    | some old =>
        obtain ⟨after, found', adds⟩ := due_step _ a inv allowed before
        obtain rfl := Option.some.inj (found.symm.trans found')
        obtain ⟨due, session, member, named⟩ := ih k old before
        rw [adds.channel, adds.replica, posts_snoc, messagesOn_append]
        exact ⟨adds.atMost.trans (due.append_right _), session, List.mem_append_left _ member, named⟩

/-- **Nothing of another user, nothing twice, nothing out of order.** In every run the frames of a
socket are some of the messages posted on the channel of the session it was accepted with, in the
order in which they were posted. -/
theorem frames_sublist {trace : List Action}
    (admissible : Admissible (step F) Allowed .start trace) {k : Nat} {socket : Socket}
    (found : (run F trace).sockets k = some socket) :
    ∃ session, .accept k socket.replica session ∈ trace ∧
      notificationChannel session.userId = .ok socket.channel ∧
      (socket.frames.map .ofString).Sublist (messagesOn F socket.channel (posts trace)) := by
  obtain ⟨bounded, session, accepted, named⟩ := due_sublist admissible found
  exact ⟨session, accepted, named, (List.sublist_append_left _ _).trans bounded⟩

/-- As long as the stream is there, a socket is due all that is posted on its channel. -/
theorem due_live {front back : List Action}
    (admissible : Admissible (step F) Allowed .start (front ++ back)) {k : Nat} {socket : Socket}
    (found : (run F front).sockets k = some socket)
    (live : ∀ mid, mid ≠ [] → mid <+: back → Live (run F (front ++ mid)) k) :
    ∃ after, (run F (front ++ back)).sockets k = some after ∧ after.replica = socket.replica ∧
      after.channel = socket.channel ∧
      due F (run F (front ++ back)) k after =
        due F (run F front) k socket ++ messagesOn F socket.channel (posts back) := by
  induction back using List.reverseRecOn with
  | nil =>
      have none : messagesOn F socket.channel (posts []) = [] := rfl
      rw [List.append_nil] at *
      exact ⟨socket, found, rfl, rfl, by rw [none, List.append_nil]⟩
  | append_singleton back a ih =>
      rw [← List.append_assoc] at admissible ⊢
      obtain ⟨frontOk, allowed⟩ := (admissible_snoc _ _ _ _ _).mp admissible
      obtain ⟨mid, found', replica, channel, whole⟩ := ih frontOk fun mid some isPrefix =>
        live mid some (isPrefix.trans (List.prefix_append _ _))
      obtain ⟨after, found'', adds⟩ := due_step _ a (inv_run frontOk) allowed found'
      have last : run F (front ++ back ++ [a]) = step F (run F (front ++ back)) a := exec_snoc ..
      have there : Live (step F (run F (front ++ back)) a) k := by
        rw [← last, List.append_assoc]
        exact live (back ++ [a]) (by simp) List.prefix_rfl
      rw [last]
      refine ⟨after, found'', adds.replica.trans replica, adds.channel.trans channel, ?_⟩
      rw [adds.whole there, whole, channel, posts_snoc, messagesOn_append, List.append_assoc]

/-! ### The listener can always finish -/

section Drain

variable {s t : State} {r k : Nat}

/-- A message some socket that is there cannot be sent. -/
def Unsendable (s : State) (message : PyText) (sockets : List Nat) : Prop :=
  message.text? = none ∧ ∃ k ∈ sockets, s.connected k = true

/-- A post the listener ends on: as it takes it, or in the sends. -/
def Harmful (F : Scanner) (s : State) (r : Nat) (data : Data) : Prop :=
  Raises F (s.replicas r).hub data ∨
    ∃ channel message, hear F data = .ok (some (channel, message)) ∧
      Unsendable s message ((s.replicas r).hub.subscribersOfText channel)

/-- The message in delivery does not end the listener. -/
def Sendable (s : State) (r : Nat) : Prop :=
  ¬ Unsendable s (s.replicas r).message (s.replicas r).sending

theorem harmful_congr (hub : (t.replicas r).hub = (s.replicas r).hub)
    (there : t.connected = s.connected) (data : Data) : Harmful F t r data ↔ Harmful F s r data := by
  simp only [Harmful, Unsendable, hub, there]

theorem hear_payload {channel : String} (named : pyStrip channel ≠ "") (message : String) :
    hear F (.text (payload channel message)) = .ok (some (.ofString channel, .ofString message)) := by
  have some : channel ≠ "" := by
    rintro rfl
    exact named (by decide)
  simp [hear, decodePayload_payload F some, Except.mapError]

/-- What `publish` posts on a channel that is not blank harms nobody. -/
theorem not_harmful_payload (isOpen : (s.replicas r).hub.closed = false) {channel : String}
    (named : pyStrip channel ≠ "") (message : String) :
    ¬ Harmful F s r (.text (payload channel message)) := by
  simp [Harmful, Raises, Unsendable, hear_payload named, RealtimeHub.publish_open named isOpen]

/-- The turns of one listener and its sends. -/
def Turns (r : Nat) (back : List Action) : Prop :=
  ∀ a ∈ back, a = .take r ∨ ∃ j, a = .send r j

/-- A frame changes nobody's connection. -/
theorem connected_setSocket {j : Nat} {socket after : Socket} (found : s.sockets j = some socket)
    (same : after.connected = socket.connected) : (s.setSocket j after).connected = s.connected := by
  funext k
  by_cases own : k = j
  · subst own
    simp [State.connected, State.setSocket, found, same]
  · simp [State.connected, State.setSocket, own]

theorem receive_of_sendable {message : PyText} {socket : Socket}
    (sendable : socket.connected = true → message.text? ≠ none) :
    ∃ after, socket.receive message = some after := by
  unfold Socket.receive
  split
  · rename_i there
    obtain ⟨text, encoded⟩ := Option.ne_none_iff_exists'.mp (sendable there)
    exact ⟨_, by rw [encoded, Option.map_some]⟩
  · exact ⟨socket, rfl⟩

/-- One send leaves the listener where it is and every stream there. -/
theorem send_live (inv : Inv s) {j : Nat} (member : j ∈ (s.replicas r).sending)
    (sendable : Sendable s r) (live : Live s k) :
    Live (step F s (.send r j)) k ∧
      (step F s (.send r j)).replicas r =
        { s.replicas r with sending := (s.replicas r).sending.erase j } ∧
      (step F s (.send r j)).connected = s.connected := by
  obtain ⟨socket, found, -⟩ := (inv.sound r).sent j member
  obtain ⟨sent, received⟩ := @receive_of_sendable (s.replicas r).message socket fun there none =>
    sendable ⟨none, j, member, by simp [State.connected, found, there]⟩
  obtain ⟨own, -, phase, stays⟩ := receive_kept received
  have stepped : step F s (.send r j) =
      (s.setReplica r { s.replicas r with sending := (s.replicas r).sending.erase j }).setSocket j
        sent := by
    simp [step, found, member, received]
  rw [stepped]
  refine ⟨?_, by simp [State.setReplica], ?_⟩
  · obtain ⟨mine, queue, found', subscribed, connected, listens⟩ := live
    have listens' : ((s.setReplica r { s.replicas r with
        sending := (s.replicas r).sending.erase j }).replicas mine.replica).listener =
          .connected queue := by
      by_cases own : mine.replica = r
      · simpa [State.setReplica, own] using own ▸ listens
      · simpa [State.setReplica, own] using listens
    by_cases same : k = j
    · subst same
      obtain rfl := Option.some.inj (found.symm.trans found')
      exact ⟨sent, queue, Function.update_self .., phase.trans subscribed, stays.trans connected,
        by rw [own]; exact listens'⟩
    · exact ⟨mine, queue, by simpa [State.setSocket, same] using found', subscribed, connected,
        listens'⟩
  · exact connected_setSocket (s := s.setReplica r _) found stays

/-- By induction on the sends that are left. -/
theorem finish_sends (sending : List Nat) {s : State} (inv : Inv s)
    (left : (s.replicas r).sending = sending) (sendable : Sendable s r) (live : Live s k) :
    ∃ back, Turns r back ∧ Admissible (step F) Allowed s back ∧ posts back = [] ∧
      (∀ mid, mid <+: back → Live (exec (step F) s mid) k) ∧
      (exec (step F) s back).replicas r = { s.replicas r with sending := [] } ∧
      (exec (step F) s back).connected = s.connected := by
  induction sending generalizing s with
  | nil =>
      refine ⟨[], by simp [Turns], trivial, rfl, ?_, ?_, rfl⟩
      · intro mid isPrefix
        rw [List.prefix_nil.mp isPrefix]
        exact live
      · simp [← left]
  | cons j rest ih =>
      have member : j ∈ (s.replicas r).sending := by simp [left]
      obtain ⟨live', replica, there⟩ := send_live (F := F) inv member sendable live
      have inv' := inv_step (F := F) s (.send r j) inv trivial
      have sendable' : Sendable (step F s (.send r j)) r := by
        rintro ⟨none, i, later, connected⟩
        rw [replica] at none later
        rw [there] at connected
        exact sendable ⟨none, i, List.mem_of_mem_erase later, connected⟩
      obtain ⟨back, turns, admissible, none, lives, reached, kept⟩ :=
        ih inv' (by simp [replica, left]) sendable' live'
      refine ⟨.send r j :: back, ?_, ⟨trivial, admissible⟩, ?_, ?_, ?_, kept.trans there⟩
      · rintro a (- | ⟨_, later⟩)
        · exact .inr ⟨j, rfl⟩
        · exact turns a later
      · simpa [posts, Action.posted] using none
      · intro mid isPrefix
        cases mid with
        | nil => exact live
        | cons a mid =>
            obtain ⟨rfl, shorter⟩ := List.cons_prefix_cons.mp isPrefix
            exact lives mid shorter
      · rw [exec_cons, reached, replica]

/-- A turn on a harmless post leaves a message that can be sent. -/
theorem take_live {data : Data} {queue : List Data} (live : Live s k)
    (finished : (s.replicas r).sending = [])
    (connected : (s.replicas r).listener = .connected (data :: queue))
    (harmless : ¬ Harmful F s r data) :
    Live (step F s (.take r)) k ∧ Sendable (step F s (.take r)) r ∧
      ((step F s (.take r)).replicas r).listener = .connected queue ∧
      ((step F s (.take r)).replicas r).hub = (s.replicas r).hub := by
  have replaced : (step F s (.take r)).replicas r = (s.replicas r).take F := by
    simp [step, State.setReplica]
  have taken : Sendable (step F s (.take r)) r ∧
      ((s.replicas r).take F).listener = .connected queue ∧
      ((s.replicas r).take F).hub = (s.replicas r).hub := by
    rw [Sendable, replaced]
    rcases take_cases F (s.replicas r) with ⟨-, idle⟩ | ⟨data', queue', connected', next⟩
    · exact absurd connected (idle data queue)
    · rw [connected] at connected'
      cases connected'
      rcases next with ⟨raises, -⟩ | ⟨-, ⟨-, same⟩ | ⟨channel, message, heard, same⟩⟩
      · exact absurd (.inl raises) harmless
      · rw [same]
        refine ⟨?_, rfl, rfl⟩
        rintro ⟨-, k, member, -⟩
        rw [finished] at member
        cases member
      · rw [same]
        exact ⟨fun unsendable => harmless (.inr ⟨channel, message, heard, unsendable⟩), rfl, rfl⟩
  obtain ⟨socket, queue', found, subscribed, there, listens⟩ := live
  refine ⟨?_, taken.1, replaced ▸ taken.2.1, replaced ▸ taken.2.2⟩
  by_cases own : socket.replica = r
  · exact ⟨socket, queue, found, subscribed, there,
      by simpa [step, State.setReplica, own] using taken.2.1⟩
  · exact ⟨socket, queue', found, subscribed, there,
      by simpa [step, State.setReplica, own] using listens⟩

/-- By induction on the posts that are left. -/
theorem finish_queue (queue : List Data) {s : State} (inv : Inv s) (live : Live s k)
    (sendable : Sendable s r) (connected : (s.replicas r).listener = .connected queue)
    (harmless : ∀ data ∈ queue, ¬ Harmful F s r data) :
    ∃ back, Turns r back ∧ Admissible (step F) Allowed s back ∧ posts back = [] ∧
      (∀ mid, mid <+: back → Live (exec (step F) s mid) k) ∧
      ((exec (step F) s back).replicas r).listener = .connected [] ∧
      ((exec (step F) s back).replicas r).sending = [] := by
  obtain ⟨sends, turns, admissible, none, lives, reached, there⟩ :=
    finish_sends (F := F) (s.replicas r).sending inv rfl sendable live
  have invSent := exec_invariant inv_step inv admissible
  have same (data : Data) : Harmful F (exec (step F) s sends) r data ↔ Harmful F s r data :=
    harmful_congr (by rw [reached]) there data
  cases queue with
  | nil =>
      refine ⟨sends, turns, admissible, none, lives, ?_, ?_⟩
      · simp [reached, connected]
      · simp [reached]
  | cons data queue =>
      have sent := lives sends List.prefix_rfl
      have allowed : Allowed (exec (step F) s sends) (.take r) := by
        rw [Allowed, reached]
      obtain ⟨live', sendable', listens, hub⟩ := take_live (F := F) (r := r) sent allowed
        (by rw [reached]; exact connected) (by rw [same]; exact harmless data (by simp))
      obtain ⟨back, turns', admissible', none', lives', finished⟩ := finish_queue queue
        (inv_step _ _ invSent allowed) live' sendable' listens (by
          intro other later
          rw [harmful_congr hub rfl, same]
          exact harmless other (by simp [later]))
      refine ⟨sends ++ .take r :: back, ?_, ?_, ?_, ?_, ?_⟩
      · intro a member
        rcases List.mem_append.mp member with early | late
        · exact turns a early
        · rcases List.mem_cons.mp late with rfl | later
          · exact .inl rfl
          · exact turns' a later
      · exact (admissible_append ..).mpr ⟨admissible, allowed, admissible'⟩
      · simp only [posts, List.flatMap_append, List.flatMap_cons, Action.posted] at none none' ⊢
        simp [none, none']
      · intro mid isPrefix
        rcases List.prefix_or_prefix_of_prefix isPrefix (List.prefix_append sends _) with
          early | ⟨mid, rfl⟩
        · exact lives mid early
        · have late := (List.prefix_append_right_inj sends).mp isPrefix
          rw [exec_append]
          cases mid with
          | nil => exact sent
          | cons a mid =>
              obtain ⟨rfl, shorter⟩ := List.cons_prefix_cons.mp late
              exact lives' mid shorter
      · rw [exec_append]
        exact finished

/-- **Nothing is lost while the stream lasts.** From one state of a run to a later one a socket is
due exactly what is posted on its channel in between, in the order of the posts, if its stream is
there in every state behind the first. And where neither the message in delivery nor a post in
the queue is one its listener ends on, the turns of that listener alone bring everything it is
due to the socket. -/
theorem nothing_lost {front back : List Action}
    (admissible : Admissible (step F) Allowed .start (front ++ back)) {k : Nat} {socket : Socket}
    (found : (run F front).sockets k = some socket)
    (live : ∀ mid, mid ≠ [] → mid <+: back → Live (run F (front ++ mid)) k) :
    ∃ after, (run F (front ++ back)).sockets k = some after ∧ after.replica = socket.replica ∧
      due F (run F (front ++ back)) k after =
        due F (run F front) k socket ++ messagesOn F socket.channel (posts back) ∧
      (Live (run F (front ++ back)) k → Sendable (run F (front ++ back)) socket.replica →
        (∀ data ∈ ((run F (front ++ back)).replicas socket.replica).listener.queue,
          ¬ Harmful F (run F (front ++ back)) socket.replica data) →
        ∃ turns last, Turns socket.replica turns ∧
          Admissible (step F) Allowed (run F (front ++ back)) turns ∧
          (exec (step F) (run F (front ++ back)) turns).sockets k = some last ∧
          last.frames.map .ofString = due F (run F (front ++ back)) k after) := by
  obtain ⟨after, found', replica, -, whole⟩ := due_live admissible found live
  refine ⟨after, found', replica, whole, fun there sendable harmless => ?_⟩
  obtain ⟨same, queue, listening, -, -, connected⟩ := id there
  obtain rfl := Option.some.inj (found'.symm.trans listening)
  rw [replica] at connected
  rw [connected, Listener.queue_connected] at harmless
  obtain ⟨turns, own, turnsOk, none, lives, listens, sent⟩ :=
    finish_queue queue (inv_run admissible) there sendable connected harmless
  obtain ⟨last, foundLast, replicaLast, -, wholeLast⟩ := due_live
    ((admissible_append ..).mpr ⟨admissible, turnsOk⟩) found' fun mid _ isPrefix => by
      rw [run, exec_append]
      exact lives mid isPrefix
  have nothing : messagesOn F after.channel (posts turns) = [] := by
    rw [none]
    rfl
  have reached : run F (front ++ back ++ turns) = exec (step F) (run F (front ++ back)) turns :=
    exec_append ..
  rw [reached] at foundLast wholeLast
  have arrived : ahead F ((exec (step F) (run F (front ++ back)) turns).replicas last.replica) k last =
      [] := by
    rw [replicaLast, replica, ahead, pending, sent, listens]
    simp [messagesOn]
  refine ⟨turns, last, own, turnsOk, foundLast, ?_⟩
  rw [nothing, List.append_nil, due, arrived, List.append_nil] at wholeLast
  exact wholeLast

end Drain

/-! ### What ends a listener -/

section Poison

variable {s : State} {r : Nat}

/-- A step ends the listener of a replica: its turn, on a post that raises, or a send of a message
that cannot be encoded to a socket that is there. -/
def Stops (F : Scanner) (s : State) (r : Nat) : Action → Prop
  | .take j => j = r ∧ ∃ data queue, (s.replicas r).listener = .connected (data :: queue) ∧
      Raises F (s.replicas r).hub data
  | .send j k => j = r ∧ k ∈ (s.replicas r).sending ∧ s.connected k = true ∧
      (s.replicas r).message.text? = none
  | _ => False

theorem take_failed (F : Scanner) (replica : Replica) :
    (replica.take F).listener = .failed ↔ replica.listener = .failed ∨
      ∃ data queue, replica.listener = .connected (data :: queue) ∧ Raises F replica.hub data := by
  rcases take_cases F replica with ⟨same, idle⟩ | ⟨data, queue, connected, next⟩
  · rw [same]
    constructor
    · exact .inl
    · rintro (failed | ⟨data, queue, connected, -⟩)
      · exact failed
      · exact absurd connected (idle data queue)
  · have head : (∃ data queue, replica.listener = .connected (data :: queue) ∧
        Raises F replica.hub data) ↔ Raises F replica.hub data := by
      rw [connected]
      constructor
      · rintro ⟨_, _, same, raises⟩
        cases same
        exact raises
      · exact fun raises => ⟨data, queue, rfl, raises⟩
    rw [head, connected]
    rcases next with ⟨raises, same⟩ | ⟨harmless, ⟨-, same⟩ | ⟨channel, message, -, same⟩⟩
    · simp [same, raises, Replica.fail]
    · simp [same, harmless]
    · simp [same, harmless]

theorem receive_eq_none {socket : Socket} {message : PyText} :
    socket.receive message = none ↔ socket.connected = true ∧ message.text? = none := by
  unfold Socket.receive
  split <;> rename_i there <;> simp [there]

/-- A listener is as it was where its replica is replaced by one with a listener that has failed
if and only if the old one has. -/
theorem failed_setReplica (j : Nat) {replica : Replica}
    (same : replica.listener = .failed ↔ (s.replicas j).listener = .failed) :
    ((s.setReplica j replica).replicas r).listener = .failed ↔ (s.replicas r).listener = .failed := by
  by_cases own : r = j
  · subst own
    simpa [State.setReplica] using same
  · simp [State.setReplica, own]

theorem send_failed (s : State) (j k r : Nat) :
    ((step F s (.send j k)).replicas r).listener = .failed ↔
      (s.replicas r).listener = .failed ∨ Stops F s r (.send j k) := by
  simp only [step]
  split
  · rename_i socket found
    have there : s.connected k = socket.connected := by simp [State.connected, found]
    split
    · rename_i member
      split
      · rename_i after received
        have sent : ¬ Stops F s r (.send j k) := by
          rintro ⟨rfl, -, connected, none⟩
          rw [receive_eq_none.mpr ⟨there ▸ connected, none⟩] at received
          cases received
        rw [or_iff_left sent]
        exact failed_setReplica j .rfl
      · rename_i raised
        obtain ⟨connected, none⟩ := receive_eq_none.mp raised
        by_cases own : j = r
        · subst own
          simp [State.setReplica, Replica.fail, Stops, member, there, connected, none]
        · simp [State.setReplica, Ne.symm own, Stops, own]
    · rename_i absent
      refine (or_iff_left ?_).symm
      rintro ⟨rfl, member, -⟩
      exact absent member
  · rename_i gone
    refine (or_iff_left ?_).symm
    rintro ⟨-, -, connected, -⟩
    simp [State.connected, gone] at connected

/-- **A listener fails in its own turns and sends only.** -/
theorem failed_step (s : State) (a : Action) (r : Nat) :
    ((step F s a).replicas r).listener = .failed ↔
      (s.replicas r).listener = .failed ∨ Stops F s r a := by
  cases a with
  | take j =>
      by_cases own : j = r
      · subst own
        simpa [step, State.setReplica, Stops] using take_failed F (s.replicas j)
      · simp [step, State.setReplica, own, Ne.symm own, Stops]
  | send j k => exact send_failed s j k r
  | post data =>
      simp only [step, Replica.push, Stops, or_false]
      split
      · rename_i connected
        simp [connected]
      · rfl
  | disconnect j =>
      simp only [step, Stops, or_false]
      refine failed_setReplica j ?_
      unfold Replica.disconnect
      split
      · rename_i connected
        simp [connected]
      · rfl
  | connect j =>
      simp only [step, Stops, or_false]
      refine failed_setReplica j ?_
      unfold Replica.connect
      split
      · rename_i connecting
        simp [connecting]
      · rfl
  | shutDown j =>
      simp only [step, Stops, or_false]
      refine failed_setReplica j ?_
      unfold Replica.shutDown
      split
      · rename_i failed
        simp [failed]
      · rename_i other
        simpa using other
  | closeHub j =>
      simp only [step, Stops, or_false]
      exact failed_setReplica j .rfl
  | accept j r' session =>
      simp only [step, Stops, or_false]
      split <;> rfl
  | subscribe j =>
      simp only [step, Stops, or_false]
      split
      · split
        · split
          · exact failed_setReplica _ .rfl
          · rfl
        · rfl
      · rfl
  | hangUp j =>
      simp only [step, Stops, or_false]
      split <;> rfl
  | leave j =>
      simp only [step, Stops, or_false]
      split
      · split
        · split
          · exact failed_setReplica _ .rfl
          · rfl
        · rfl
      · rfl

/-- What a socket has received, if there is one yet. -/
def received (s : State) (k : Nat) : List String := (s.sockets k).elim [] Socket.frames

/-- A replica without sends adds nothing to its sockets. -/
theorem silent_step (s : State) (a : Action) (inv : Inv s) (allowed : Allowed s a)
    (silent : (s.replicas r).sending = []) {k : Nat} {after : Socket}
    (found : (step F s a).sockets k = some after) (own : after.replica = r) :
    received (step F s a) k = received s k := by
  cases before : s.sockets k with
  | none =>
      obtain ⟨r', session, channel, rfl, -, rfl⟩ := new_socket s a before found
      simp [received, before, found]
  | some socket =>
      obtain ⟨same, found', adds⟩ := due_step s a inv allowed before
      obtain rfl := Option.some.inj (found.symm.trans found')
      rcases adds.received with kept | ⟨sent, -⟩
      · simp [received, before, found, kept]
      · rw [← adds.replica, own, silent] at sent
        cases sent

/-- Sockets stay on their replica. -/
theorem replica_of_later {front back : List Action}
    (admissible : Admissible (step F) Allowed .start (front ++ back)) {k : Nat} {socket : Socket}
    (found : (run F front).sockets k = some socket) :
    ∃ after, (run F (front ++ back)).sockets k = some after ∧ after.replica = socket.replica := by
  induction back using List.reverseRecOn with
  | nil => exact ⟨socket, by simpa using found, rfl⟩
  | append_singleton back a ih =>
      rw [← List.append_assoc] at admissible ⊢
      obtain ⟨backOk, allowed⟩ := (admissible_snoc _ _ _ _ _).mp admissible
      obtain ⟨mid, found', replica⟩ := ih backOk
      obtain ⟨after, found'', adds⟩ := due_step _ a (inv_run backOk) allowed found'
      have last : run F (front ++ back ++ [a]) = step F (run F (front ++ back)) a := exec_snoc ..
      exact ⟨after, last ▸ found'', adds.replica.trans replica⟩

/-- A listener that has failed stays so, and nothing reaches a socket of its replica. -/
theorem failed_for_good {front back : List Action}
    (admissible : Admissible (step F) Allowed .start (front ++ back))
    (failed : ((run F front).replicas r).listener = .failed) :
    ((run F (front ++ back)).replicas r).listener = .failed ∧
      ∀ k socket, (run F (front ++ back)).sockets k = some socket → socket.replica = r →
        received (run F (front ++ back)) k = received (run F front) k := by
  induction back using List.reverseRecOn with
  | nil => exact ⟨by simpa using failed, fun k _ _ _ => by simp⟩
  | append_singleton back a ih =>
      rw [← List.append_assoc] at admissible ⊢
      obtain ⟨backOk, allowed⟩ := (admissible_snoc _ _ _ _ _).mp admissible
      obtain ⟨still, quiet⟩ := ih backOk
      have last : run F (front ++ back ++ [a]) = step F (run F (front ++ back)) a := exec_snoc ..
      have inv := inv_run backOk
      have silent : ((run F (front ++ back)).replicas r).sending = [] := by
        rcases (inv.sound r).quiet with none | ⟨queue, connected⟩
        · exact none
        · rw [still] at connected
          cases connected
      rw [last]
      refine ⟨(failed_step _ a r).mpr (.inl still), fun k after found own => ?_⟩
      rw [silent_step _ a inv allowed silent found own]
      cases before : (run F (front ++ back)).sockets k with
      | some socket =>
          obtain ⟨same, found', adds⟩ := due_step _ a inv allowed before
          obtain rfl := Option.some.inj (found.symm.trans found')
          exact quiet k socket before (adds.replica.symm.trans own)
      | none =>
          -- A socket that is not there yet has received nothing, then as now.
          cases earlier : (run F front).sockets k with
          | none => simp [received, before, earlier]
          | some socket =>
              obtain ⟨after, there, -⟩ := replica_of_later backOk earlier
              rw [before] at there
              cases there

/-- What `publish` posts ends no listener. -/
theorem not_stops_of_payloads {trace : List Action}
    (admissible : Admissible (step F) Allowed .start trace)
    (payloads : ∀ data ∈ posts trace, ∃ channel message, pyStrip channel ≠ "" ∧
      data = .text (payload channel message)) (a : Action) : ¬ Stops F (run F trace) r a := by
  have sound := (inv_run admissible).sound r
  cases a with
  | take j =>
      rintro ⟨rfl, data, queue, connected, raises⟩
      have queued : data ∈ posts trace := (queue_sublist admissible j).subset (by simp [connected])
      obtain ⟨channel, message, named, rfl⟩ := payloads data queued
      have isOpen : ((run F trace).replicas j).hub.closed = false := by
        by_contra closed
        rw [sound.closed (by simpa using closed)] at connected
        cases connected
      exact not_harmful_payload isOpen named message (.inl raises)
  | send j k =>
      rintro ⟨rfl, member, -, none⟩
      obtain ⟨socket, found, own, -⟩ := sound.sent k member
      have sending : ((run F trace).replicas j).message ∈ due F (run F trace) k socket := by
        simp [due, ahead, pending, own, member]
      obtain ⟨data, posted, heard⟩ := (mem_messagesOn F).mp
        ((due_sublist admissible found).1.subset sending)
      obtain ⟨channel, message, named, rfl⟩ := payloads data posted
      rw [hear_payload named] at heard
      simp only [Except.ok.injEq, Option.some.injEq, Prod.mk.injEq] at heard
      simp [← heard.2] at none
  | _ => exact id

/-- **What ends a listener ends it for good.** In every run the listener of a replica has failed
if and only if one of its turns has met a post that raises, or one of its sends a message that
cannot be encoded. From then on it stays so, and nothing reaches a socket of that replica. A post
raises as its bytes are decoded, or by a number that is too long, parts that are too deep or the
hub; nothing that `publish` posts on a channel that is not blank does. -/
theorem poison_stops_listener (F : Scanner) (r : Nat) :
    (∀ trace, ((run F trace).replicas r).listener = .failed ↔
      ∃ front a back, trace = front ++ a :: back ∧ Stops F (run F front) r a) ∧
    (∀ front back, Admissible (step F) Allowed .start (front ++ back) →
      ((run F front).replicas r).listener = .failed →
      ((run F (front ++ back)).replicas r).listener = .failed ∧
        ∀ k socket, (run F (front ++ back)).sockets k = some socket → socket.replica = r →
          received (run F (front ++ back)) k = received (run F front) k) ∧
    (∀ data raised, hear F data = .error raised → raised = .unicodeDecodeError ∨
      raised = .loads .valueError ∨ raised = .loads .recursionError) ∧
    (∀ trace, Admissible (step F) Allowed .start trace →
      (∀ data ∈ posts trace, ∃ channel message, pyStrip channel ≠ "" ∧
        data = .text (payload channel message)) →
      ((run F trace).replicas r).listener ≠ .failed) := by
  have failed_iff (trace : List Action) : ((run F trace).replicas r).listener = .failed ↔
      ∃ front a back, trace = front ++ a :: back ∧ Stops F (run F front) r a :=
    exec_iff_exists (fun s : State => (s.replicas r).listener = .failed)
      (fun s a => failed_step s a r) Listener.noConfusion trace
  refine ⟨failed_iff, fun _ _ => failed_for_good, fun _ _ => hear_error,
    fun trace admissible payloads failed => ?_⟩
  obtain ⟨front, a, back, rfl, stops⟩ := (failed_iff trace).mp failed
  obtain ⟨frontOk, -⟩ := (admissible_append ..).mp admissible
  refine not_stops_of_payloads frontOk (fun data posted => payloads data ?_) a stops
  rw [posts, List.flatMap_append]
  exact List.mem_append_left _ posted

end Poison

end Runs

/-! ## One message for one socket -/

namespace Sample

/-- One array or object in another is too deep for it. -/
def scanner : Scanner := ⟨fun _ => .finite 0, some 1, by decide⟩

def user : String := "8e0228d4-762a-4ccf-90f9-fd8db616364f"

def session : SessionData := ⟨"OGUwMjI4ZDQ.s3cr3t", user, [("access_level", .str "user")]⟩

def store : SessionKeys := ⟨fun _ => some (⟨user, session.data⟩, 60), fun _ => none⟩

theorem authorized : authorizedWebsocketSession 0 store (some ("Bearer " ++ session.sessionId)) =
    .ok (.session session) := by
  simp only [authorizedWebsocketSession, websocketSession, Sessions.Credentials.bearerCredentials_bearer]
  rfl

def channel : String := "notification:" ++ user

theorem named : notificationChannel session.userId = .ok channel := by
  rw [notificationChannel, if_neg (by decide)]
  rfl

theorem subscribed : (RealtimeHub.empty : RealtimeHub Nat).subscribe channel 7 =
    .ok ⟨Function.update (fun _ => none) channel (some [7]), false⟩ := by
  have some : pyStrip channel ≠ "" := pyStrip_channel_ne user
  simp [RealtimeHub.subscribe, RealtimeHub.requireChannel, RealtimeHub.requireOpen, some,
    RealtimeHub.empty, RealtimeHub.subscribersOf, RealtimeHub.put, bind, Except.bind, pure, Except.pure]

theorem channel_named : pyStrip channel ≠ "" := pyStrip_channel_ne user

theorem heard (message : String) :
    hear scanner (.text (payload channel message)) =
      .ok (some (.ofString channel, .ofString message)) :=
  hear_payload channel_named message

/-- The stream is there, and one message is posted. -/
def front : List Action := [.connect 0, .accept 7 0 session, .subscribe 7]

def back (message : String) : List Action := [.post (.text (payload channel message))]

theorem reached : run scanner front =
    (State.start.setReplica 0 ⟨⟨Function.update (fun _ => none) channel (some [7]), false⟩, true,
      .connected [], [], []⟩).setSocket 7 ⟨0, channel, .subscribed, true, []⟩ := by
  simp [run, front, step, named, State.setSocket, State.setReplica, State.start, Replica.started,
    Replica.connect, subscribed]

theorem posted (data : Data) : run scanner (front ++ [.post data]) =
    (State.start.setReplica 0 ⟨⟨Function.update (fun _ => none) channel (some [7]), false⟩, true,
      .connected [data], [], []⟩).setSocket 7 ⟨0, channel, .subscribed, true, []⟩ := by
  have others (r : Nat) : (State.start.replicas r).push data = State.start.replicas r := rfl
  have last : run scanner (front ++ [.post data]) = step scanner (run scanner front) (.post data) :=
    exec_snoc ..
  rw [last, reached]
  simp only [step, State.setSocket, State.setReplica, State.mk.injEq, and_true]
  funext r
  by_cases first : r = 0
  · subst first
    rfl
  · simp [first, others]

theorem admissible (message : String) :
    Admissible (step scanner) Allowed .start (front ++ back message) := by
  exact ⟨trivial, ⟨rfl, rfl, 0, store, _, authorized⟩, trivial, trivial, trivial⟩

theorem one_is_due : ∃ after, (run scanner (front ++ back "one")).sockets 7 = some after ∧
    due scanner (run scanner (front ++ back "one")) 7 after = [.ofString "one"] ∧
    ∃ turns last, Turns 0 turns ∧
      Admissible (step scanner) Allowed (run scanner (front ++ back "one")) turns ∧
      (exec (step scanner) (run scanner (front ++ back "one")) turns).sockets 7 = some last ∧
      last.frames.map .ofString = due scanner (run scanner (front ++ back "one")) 7 after := by
  have found : (run scanner front).sockets 7 = some ⟨0, channel, .subscribed, true, []⟩ := by
    rw [reached]
    rfl
  have there : Live (run scanner (front ++ back "one")) 7 := by
    rw [back, posted]
    exact ⟨_, _, rfl, rfl, rfl, rfl⟩
  have live : ∀ mid, mid ≠ [] → mid <+: back "one" → Live (run scanner (front ++ mid)) 7 := by
    intro mid some isPrefix
    cases mid with
    | nil => exact absurd rfl some
    | cons a mid =>
        obtain ⟨rfl, shorter⟩ := List.cons_prefix_cons.mp isPrefix
        obtain rfl := List.prefix_nil.mp shorter
        exact there
  obtain ⟨after, found', -, whole, turns⟩ := nothing_lost (admissible "one") found live
  refine ⟨after, found', whole.trans ?_, turns there ?_ ?_⟩
  · rw [reached]
    simp [due, ahead, pending, State.setSocket, State.setReplica, messagesOn, posts, back,
      Action.posted, heard]
  · rw [back, posted]
    rintro ⟨-, k, member, -⟩
    cases member
  · rw [back, posted]
    intro data member
    obtain rfl := List.mem_singleton.mp member
    exact not_harmful_payload rfl channel_named "one"

theorem sent : RealtimeHub.publish ⟨Function.update (fun _ => none) channel (some [7]), false⟩ channel =
    .ok [7] := by
  rw [RealtimeHub.publish_open channel_named rfl]
  simp [RealtimeHub.subscribersOf]

theorem delivered (message : String) :
    (run scanner (front ++ back message ++ [.take 0, .send 0 7])).sockets 7 =
      some ⟨0, channel, .subscribed, true, [message]⟩ := by
  rw [run, exec_append, ← run, back, posted]
  simp [step, State.setReplica, State.setSocket, Replica.take, heard, sent, Socket.receive]

theorem turns_admissible (message : String) : Admissible (step scanner) Allowed .start
    (front ++ back message ++ [.take 0, .send 0 7]) := by
  refine (admissible_append ..).mpr ⟨admissible message, ?_, trivial, trivial⟩
  rw [← run, back, posted]
  rfl

/-- Bytes that are no UTF-8, an array in an array, and a channel of blanks. -/
def poison : List Data := [.malformed, .text "[[]]", .text (payload " " "one")]

/-- A message that is one lone surrogate, on the channel of the user. -/
def lone : Data := .text (String.ofList ("\x7b\"channel\": ".toList ++
  (JsonText.quote channel ++ ", \"message\": \"\\ud800\"\x7d".toList)))

theorem lone_heard : hear scanner lone = .ok (some (.ofString channel, [.lone 0xd800])) := by
  decide +kernel

theorem poison_raises : ∀ data ∈ poison, Raises scanner .empty data := by
  intro data member
  simp only [poison, List.mem_cons, List.not_mem_nil, or_false] at member
  rcases member with rfl | rfl | rfl
  · exact .inl ⟨.unicodeDecodeError, rfl⟩
  · exact .inl ⟨.loads .recursionError, rfl⟩
  · refine .inr ⟨.ofString " ", .ofString "one", ?_, ?_⟩
    · simp [hear, decodePayload_payload scanner (show " " ≠ "" by decide), Except.mapError]
    · rw [RealtimeHub.publishText_ofString]
      exact RealtimeHub.publish_blank (by decide)

/-- Each of these posts ends the listener, the last when it is sent. -/
theorem posts_stop_listener :
    (∀ data ∈ poison,
      ((run scanner [.connect 0, .post data, .take 0]).replicas 0).listener = .failed) ∧
    ((run scanner (front ++ [.post lone, .take 0, .send 0 7])).replicas 0).listener = .failed := by
  constructor
  · intro data member
    exact ((poison_stops_listener scanner 0).1 _).mpr
      ⟨[.connect 0, .post data], .take 0, [], rfl, rfl, data, [], rfl, poison_raises data member⟩
  · refine ((poison_stops_listener scanner 0).1 _).mpr
      ⟨front ++ [.post lone] ++ [.take 0], .send 0 7, [], by simp, rfl, ?_⟩
    rw [run, exec_snoc, ← run, posted]
    simp [step, State.setReplica, State.setSocket, Replica.take, lone_heard, sent, State.connected,
      PyText.text?, Code.char?]

theorem frames_are_posts : ∃ session, .accept 7 0 session ∈ front ++ back "one" ++ [.take 0, .send 0 7] ∧
    notificationChannel session.userId = .ok channel ∧
    [.ofString "one"].Sublist
      (messagesOn scanner channel (posts (front ++ back "one" ++ [.take 0, .send 0 7]))) :=
  frames_sublist (turns_admissible "one") (delivered "one")

end Sample

end KisAutoTrading.Realtime.Stream
