/-
# Realtime.Hints — from a committed notification to a user's sockets

The message worker and the replicas in one run. Once a notification is committed, the worker
calls `publish` with its hint; the copies this puts on the topic may arrive at any later moment,
between any two steps of anybody, also after the call. Everything else is a step of
`Signal.Delivery` or of `Realtime.Stream`.

`frames_are_own_hints`: a socket receives only hints of committed notifications of the user whose
session it was accepted with, and of one notification at most two.
-/
import KisAutoTrading.Realtime.Frames
import KisAutoTrading.Signal.Delivery

namespace KisAutoTrading.Realtime.Hints

open Theory Theory.Runs Theory.JsonReader RedisPubSubRealtimeBackplane
open Signal
open Signal.Delivery (Hint hintRow)

set_option autoImplicit false

structure State where
  delivery : Delivery.State
  stream : Stream.State
  /-- The copies that are not on the topic yet. -/
  leaving : List Hint
  /-- Those that have been. -/
  arrived : List Hint

def State.start : State := ⟨.empty, .start, [], []⟩

inductive Action where
  | delivery (a : Delivery.Action)
  | stream (a : Stream.Action)
  /-- The worker's call of `publish`. -/
  | publish (hint : Hint) (closed : Bool) (attempt : Nat → Attempt)
  /-- A copy reaches the topic. -/
  | arrive (hint : Hint)

/-- The channel of a hint: no user id is empty as text. -/
def hintChannel (hint : Hint) : String := "notification:" ++ hint.2.userId.str

/-- What the worker publishes. -/
def hintMessage (hint : Hint) : String := notificationHint hint.2.notificationId

/-- What is on the topic then. -/
def hintData (hint : Hint) : Stream.Data := .text (payload (hintChannel hint) (hintMessage hint))

section System

variable (P : Platform) (F : Scanner)

def step (s : State) : Action → State
  | .delivery a => { s with delivery := Delivery.step P s.delivery a }
  | .stream a => { s with stream := Stream.step F s.stream a }
  | .publish hint closed attempt =>
      if s.delivery.due.contains hint then
        let copies := (RedisPubSubRealtimeBackplane.publish closed (hintChannel hint)
          (hintMessage hint) attempt).1.length
        { s with
          delivery := Delivery.step P s.delivery (.publishHint hint)
          leaving := s.leaving ++ List.replicate copies hint }
      else s
  | .arrive hint =>
      if s.leaving.contains hint then
        { s with
          stream := Stream.step F s.stream (.post (hintData hint))
          leaving := s.leaving.erase hint
          arrived := s.arrived ++ [hint] }
      else s

/-- The topic has no other writer, and `publish` is called as above only. -/
def Allowed (s : State) : Action → Prop
  | .delivery a => Delivery.Allowed s.delivery a ∧ ∀ hint, a ≠ .publishHint hint
  | .stream a => Stream.Allowed s.stream a ∧ a.posted = []
  | _ => True

def run (trace : List Action) : State := exec (step P F) .start trace

end System

/-- The notification of a hint is committed, for the user of the hint. -/
def Committed (s : Delivery.State) (hint : Hint) : Prop :=
  ∃ notification, s.notification hint.1 hint.2.notificationId = some notification ∧
    notification.userId = hint.2.userId

/-- The listeners decode what the worker publishes. -/
theorem heard (F : Scanner) (hint : Hint) :
    Stream.hear F (hintData hint) =
      .ok (some (.ofString (hintChannel hint), .ofString (hintMessage hint))) :=
  Stream.hear_payload (pyStrip_channel_ne _) _

structure Inv (P : Platform) (s : State) : Prop where
  delivery : Delivery.Inv P s.delivery
  committed : ∀ hint ∈ s.delivery.published ++ s.delivery.due, Committed s.delivery hint
  called : ∀ hint ∈ s.arrived ++ s.leaving, hint ∈ s.delivery.published
  twice : ∀ row, ((s.arrived ++ s.leaving).map hintRow).count row ≤
    2 * (s.delivery.published.map hintRow).count row

section Steps

variable {P : Platform} {F : Scanner} {s : State}

theorem Committed.step {s t : Delivery.State} {hint : Hint} (committed : Committed s hint)
    (preserves : Delivery.Preserves s t true) : Committed t hint := by
  obtain ⟨notification, found, owner⟩ := committed
  rcases preserves _ _ _ found with same | ⟨-, -, now, marked⟩
  · exact ⟨notification, same, owner⟩
  · exact ⟨_, marked, owner⟩

/-- A hint becomes due with its notification. -/
theorem due_step {s : Delivery.State} (inv : Delivery.Inv P s) (a : Delivery.Action)
    (allowed : Delivery.Allowed s a) (hint : Hint)
    (member : hint ∈ (Delivery.step P s a).published ++ (Delivery.step P s a).due) :
    hint ∈ s.published ++ s.due ∨ Committed (Delivery.step P s a) hint := by
  cases a with
  | intentCreated message now =>
      obtain ⟨record, enqueued, kind, rfl⟩ := allowed
      obtain ⟨intent, stored, -, read⟩ := inv.intents.origin record enqueued kind
      obtain ⟨-, ⟨none, -⟩ | ⟨absent, due, inserted⟩⟩ :=
        @Delivery.intentCreated_cases P record.message intent read now s.dbs
      · simp only [Delivery.step, none, List.append_nil] at member
        exact .inl member
      · simp only [Delivery.step, due, ← List.append_assoc] at member
        rcases List.mem_append.mp member with earlier | last
        · exact .inl earlier
        · obtain rfl := List.mem_singleton.mp last
          refine .inr ⟨P.notification intent now, ?_, rfl⟩
          exact (inserted _ _).trans (if_pos ⟨rfl, rfl⟩)
  | publishHint other =>
      simp only [Delivery.step] at member
      split at member
      · rename_i due
        refine .inl ?_
        rw [List.append_assoc] at member
        rcases List.mem_append.mp member with earlier | later
        · exact List.mem_append_left _ earlier
        · exact List.mem_append_right _ ((List.perm_cons_erase due).mem_iff.mpr later)
      · exact .inl member
  | loseHint other =>
      refine .inl ?_
      rcases List.mem_append.mp member with earlier | later
      · exact List.mem_append_left _ earlier
      · exact List.mem_append_right _ (List.mem_of_mem_erase later)
  | _ => exact .inl member

/-- What is published stays so, unless it is a call. -/
theorem published_step {s : Delivery.State} (a : Delivery.Action)
    (other : ∀ hint, a ≠ .publishHint hint) : (Delivery.step P s a).published = s.published := by
  cases a with
  | publishHint hint => exact absurd rfl (other hint)
  | _ => rfl

theorem inv_start (P : Platform) : Inv P .start := by
  refine ⟨Delivery.inv_empty P, ?_, ?_, fun row => Nat.zero_le _⟩
  · intro hint member
    cases member
  · intro hint member
    cases member

/-- **Every step keeps the invariant.** -/
theorem inv_step (s : State) (a : Action) (inv : Inv P s) (allowed : Allowed s a) :
    Inv P (step P F s a) := by
  have kept (a : Delivery.Action) (allowed : Delivery.Allowed s.delivery a) :
      Delivery.Inv P (Delivery.step P s.delivery a) ∧
        ∀ hint ∈ (Delivery.step P s.delivery a).published ++ (Delivery.step P s.delivery a).due,
          Committed (Delivery.step P s.delivery a) hint := by
    obtain ⟨delivery, preserves⟩ := Delivery.inv_step s.delivery a inv.delivery allowed
    refine ⟨delivery, fun hint member => ?_⟩
    rcases due_step inv.delivery a allowed hint member with old | new
    · exact (inv.committed hint old).step preserves.mono
    · exact new
  cases a with
  | delivery a =>
      obtain ⟨delivery, committed⟩ := kept a allowed.1
      have same := published_step (P := P) (s := s.delivery) a allowed.2
      refine ⟨delivery, committed, ?_, ?_⟩
      · intro hint member
        exact same ▸ inv.called hint member
      · intro row
        exact same ▸ inv.twice row
  | stream a => exact ⟨inv.delivery, inv.committed, inv.called, inv.twice⟩
  | publish hint closed attempt =>
      simp only [step]
      split
      · rename_i held
        have due : hint ∈ s.delivery.due := List.contains_iff_mem.mp held
        obtain ⟨delivery, committed⟩ := kept (.publishHint hint) trivial
        have published : (Delivery.step P s.delivery (.publishHint hint)).published =
            s.delivery.published ++ [hint] := by
          simp [Delivery.step, due]
        obtain ⟨copies, few, texts, -⟩ :=
          publish_texts closed (hintChannel hint) (hintMessage hint) attempt
        refine ⟨delivery, committed, ?_, ?_⟩
        · intro other member
          rw [published]
          rw [← List.append_assoc] at member
          rcases List.mem_append.mp member with old | new
          · exact List.mem_append_left _ (inv.called other old)
          · obtain rfl := List.eq_of_mem_replicate new
            simp
        · intro row
          have before := inv.twice row
          simp only [published, texts, List.length_replicate, List.map_append, List.count_append,
            List.map_replicate, List.count_replicate, List.map_cons, List.map_nil,
            List.count_singleton] at before ⊢
          by_cases same : hintRow hint = row
          · simp only [same, beq_self_eq_true, if_true]
            omega
          · simp only [beq_iff_eq, same, if_false]
            omega
      · exact inv
  | arrive hint =>
      simp only [step]
      split
      · rename_i held
        have leaving : hint ∈ s.leaving := List.contains_iff_mem.mp held
        have moved : (s.arrived ++ s.leaving).Perm (s.arrived ++ [hint] ++ s.leaving.erase hint) := by
          rw [List.append_assoc]
          exact (List.perm_cons_erase leaving).append_left s.arrived
        refine ⟨inv.delivery, inv.committed, ?_, ?_⟩
        · intro other member
          exact inv.called other (moved.mem_iff.mpr member)
        · intro row
          exact ((moved.map hintRow).count_eq row) ▸ inv.twice row
      · exact inv

/-! ## Runs -/

theorem inv_run {trace : List Action} (admissible : Admissible (step P F) Allowed .start trace) :
    Inv P (run P F trace) :=
  exec_invariant inv_step (inv_start P) admissible

/-- The sockets of a run are those of a run of the streams alone, whose posts are the copies that
have arrived. -/
theorem stream_run {trace : List Action}
    (admissible : Admissible (step P F) Allowed .start trace) :
    ∃ streams, Admissible (Stream.step F) Stream.Allowed .start streams ∧
      Stream.run F streams = (run P F trace).stream ∧
      Stream.posts streams = (run P F trace).arrived.map hintData ∧
      ∀ a ∈ streams, a.posted = [] → .stream a ∈ trace := by
  refine trace_induction (motive := fun trace s => ∃ streams,
    Admissible (Stream.step F) Stream.Allowed .start streams ∧
      Stream.run F streams = s.stream ∧
      Stream.posts streams = s.arrived.map hintData ∧
      ∀ a ∈ streams, a.posted = [] → .stream a ∈ trace)
    ⟨[], trivial, rfl, rfl, by simp⟩ ?_ admissible
  rintro front a - ⟨streams, streamsOk, reached, posts, others⟩ allowed
  have idle (same : (step P F (exec (step P F) .start front) a).stream =
        (exec (step P F) .start front).stream ∧
      (step P F (exec (step P F) .start front) a).arrived = (exec (step P F) .start front).arrived) :
      ∃ streams, Admissible (Stream.step F) Stream.Allowed .start streams ∧
        Stream.run F streams = (step P F (exec (step P F) .start front) a).stream ∧
        Stream.posts streams =
          (step P F (exec (step P F) .start front) a).arrived.map hintData ∧
        ∀ b ∈ streams, b.posted = [] → .stream b ∈ front ++ [a] := by
    rw [same.1, same.2]
    exact ⟨streams, streamsOk, reached, posts,
      fun b member quiet => List.mem_append_left _ (others b member quiet)⟩
  cases a with
  | delivery a => exact idle ⟨rfl, rfl⟩
  | stream a =>
      refine ⟨streams ++ [a], (admissible_snoc ..).mpr ⟨streamsOk, ?_⟩, ?_, ?_, ?_⟩
      · rw [← Stream.run, reached]
        exact allowed.1
      · rw [Stream.run, exec_snoc, ← Stream.run, reached]
        rfl
      · rw [Stream.posts_snoc, allowed.2, List.append_nil, posts]
        rfl
      · intro b member quiet
        rcases List.mem_append.mp member with old | new
        · exact List.mem_append_left _ (others b old quiet)
        · obtain rfl := List.mem_singleton.mp new
          simp
  | publish hint closed attempt =>
      refine idle ?_
      simp only [step]
      split <;> simp
  | arrive hint =>
      by_cases leaving : (exec (step P F) .start front).leaving.contains hint
      · refine ⟨streams ++ [.post (hintData hint)], (admissible_snoc ..).mpr ⟨streamsOk, ?_⟩,
          ?_, ?_, ?_⟩
        · trivial
        · simp only [step, if_pos leaving]
          rw [Stream.run, exec_snoc, ← Stream.run, reached]
        · simp only [step, if_pos leaving]
          rw [Stream.posts_snoc, posts, List.map_append]
          rfl
        · intro b member quiet
          rcases List.mem_append.mp member with old | new
          · exact List.mem_append_left _ (others b old quiet)
          · obtain rfl := List.mem_singleton.mp new
            cases quiet
      · refine idle ?_
        simp only [step, if_neg leaving, and_self]

theorem messagesOn_hints (userId : String) (hints : List Hint) :
    Stream.messagesOn F ("notification:" ++ userId) (hints.map hintData) =
      ((hints.filter fun hint => hint.2.userId.str = userId).map hintMessage).map .ofString := by
  induction hints with
  | nil => rfl
  | cons hint rest ih =>
      have channels : hintChannel hint = "notification:" ++ userId ↔ hint.2.userId.str = userId := by
        simp [hintChannel]
      simp only [Stream.messagesOn] at ih
      simp only [Stream.messagesOn, List.map_cons, List.filterMap_cons, heard, PyText.ofString_inj,
        channels, ih]
      by_cases own : hint.2.userId.str = userId <;> simp [own]

/-- **A socket receives hints of the user's own committed notifications**, each notification's at
most twice, and in the order in which the copies have arrived on the topic. -/
theorem frames_are_own_hints {trace : List Action}
    (admissible : Admissible (step P F) Allowed .start trace) {k : Nat} {socket : Stream.Socket}
    (found : (run P F trace).stream.sockets k = some socket) :
    ∃ session, ∃ hints : List Hint, .stream (.accept k socket.replica session) ∈ trace ∧
      hints.Sublist (run P F trace).arrived ∧ socket.frames = hints.map hintMessage ∧
      (∀ hint ∈ hints, hint.2.userId.str = session.userId ∧
        ∃ notification, (run P F trace).delivery.notification hint.1 hint.2.notificationId =
            some notification ∧ notification.userId.str = session.userId) ∧
      ∀ row, (hints.map hintRow).count row ≤ 2 := by
  obtain ⟨streams, streamsOk, reached, posts, others⟩ := stream_run admissible
  have inv := inv_run admissible
  rw [← reached] at found
  obtain ⟨bounded, session, accepted, named⟩ := Stream.due_sublist streamsOk found
  have frames := (List.sublist_append_left _ _).trans bounded
  obtain ⟨-, channel⟩ := notificationChannel_ok named
  rw [posts, channel, messagesOn_hints] at frames
  obtain ⟨messages, some, texts⟩ := List.sublist_map_iff.mp frames
  have read : socket.frames = messages :=
    List.map_injective_iff.mpr (fun _ _ => PyText.ofString_inj.mp) texts
  obtain ⟨hints, sub, same⟩ := List.sublist_map_iff.mp some
  rw [← read] at same
  have arrived : hints.Sublist (run P F trace).arrived := sub.trans List.filter_sublist
  have member (hint : Hint) (mine : hint ∈ hints) :
      hint ∈ (run P F trace).arrived ++ (run P F trace).leaving :=
    List.mem_append_left _ (arrived.subset mine)
  refine ⟨session, hints, others _ accepted rfl, arrived, same, fun hint mine => ?_, fun row => ?_⟩
  · have own : hint.2.userId.str = session.userId := by
      simpa using (List.mem_filter.mp (sub.subset mine)).2
    obtain ⟨notification, stored, owner⟩ := inv.committed hint
      (List.mem_append_left _ (inv.called hint (member hint mine)))
    exact ⟨own, notification, stored, owner ▸ own⟩
  · have once : (((run P F trace).delivery.published).map hintRow).count row ≤ 1 := by
      have distinct := inv.delivery.hintsOnce
      rw [List.map_append] at distinct
      exact List.nodup_iff_count_le_one.mp distinct.of_append_left row
    have few := (arrived.map hintRow).count_le row
    have all := inv.twice row
    rw [List.map_append, List.count_append] at all
    omega

end Steps

/-! ## One notification -/

namespace Sample

open Stream.Sample (scanner session)
open Delivery.Sample (platform)

def hint : Hint := ("2", Delivery.Sample.notification)

def worker : List Delivery.Action := Delivery.Sample.trace.take 6

/-- The hint is published before the user's socket is there, and arrives after. -/
def trace : List Action :=
  worker.map .delivery ++ [.publish hint false fun _ => .acknowledged] ++
    Stream.Sample.front.map .stream ++ [.arrive hint, .stream (.take 0), .stream (.send 0 7)]

theorem worker_admissible :
    Admissible (Delivery.step platform) Delivery.Allowed .empty worker := by
  have enqueued : Delivery.Allowed (Delivery.run platform (Delivery.Sample.trace.take 5))
      (.intentCreated Delivery.Sample.intentRecord.message 2) :=
    ⟨Delivery.Sample.intentRecord, by rw [Delivery.Sample.enqueued_at_first]; simp, rfl, rfl⟩
  exact ⟨trivial, trivial, trivial, trivial, trivial, enqueued, trivial⟩

/-- The steps of the worker alone. -/
theorem exec_worker (actions : List Delivery.Action) (s : State) :
    exec (step platform scanner) s (actions.map .delivery) =
      { s with delivery := exec (Delivery.step platform) s.delivery actions } := by
  induction actions generalizing s with
  | nil => rfl
  | cons a rest ih => exact ih _

theorem admissible_worker {actions : List Delivery.Action} {s : State}
    (admissible : Admissible (Delivery.step platform)
      (fun s a => Delivery.Allowed s a ∧ ∀ hint, a ≠ .publishHint hint) s.delivery actions) :
    Admissible (step platform scanner) Allowed s (actions.map .delivery) := by
  induction actions generalizing s with
  | nil => trivial
  | cons a rest ih => exact ⟨admissible.1, ih admissible.2⟩

theorem hint_due : (Delivery.run platform worker).due = [hint] := by
  decide +kernel

theorem hint_channel : hintChannel hint = Stream.Sample.channel := by
  decide +kernel

/-- The steps of the streams alone. -/
theorem exec_stream (actions : List Stream.Action) (s : State) :
    exec (step platform scanner) s (actions.map .stream) =
      { s with stream := exec (Stream.step scanner) s.stream actions } := by
  induction actions generalizing s with
  | nil => rfl
  | cons a rest ih => exact ih _

theorem admissible_stream {actions : List Stream.Action} {s : State}
    (admissible : Admissible (Stream.step scanner)
      (fun s a => Stream.Allowed s a ∧ a.posted = []) s.stream actions) :
    Admissible (step platform scanner) Allowed s (actions.map .stream) := by
  induction actions generalizing s with
  | nil => trivial
  | cons a rest ih => exact ⟨admissible.1, ih admissible.2⟩

/-- Before the copy arrives. -/
theorem reached : run platform scanner (worker.map .delivery ++
      [.publish hint false fun _ => .acknowledged] ++ Stream.Sample.front.map .stream) =
    ⟨Delivery.step platform (Delivery.run platform worker) (.publishHint hint),
      Stream.run scanner Stream.Sample.front, [hint], []⟩ := by
  have copies : (RedisPubSubRealtimeBackplane.publish false (hintChannel hint) (hintMessage hint)
      fun _ => .acknowledged).1.length = 1 := by
    rw [hint_channel]
    rfl
  rw [run, exec_append, exec_append, exec_stream, exec_worker]
  have due : (exec (Delivery.step platform) State.start.delivery worker).due.contains hint := by
    rw [State.start, ← Delivery.run, hint_due]
    simp
  simp only [exec_cons, exec_nil, step, due, if_true, copies]
  rfl

theorem arrived : (run platform scanner trace).stream =
    Stream.run scanner (Stream.Sample.front ++ Stream.Sample.back (hintMessage hint) ++
      [.take 0, .send 0 7]) := by
  rw [trace, run, exec_append, ← run, reached]
  simp [step, Stream.run, exec_append, hintData, hint_channel, Stream.Sample.back]

theorem front_admissible : Admissible (Stream.step scanner)
    (fun s a => Stream.Allowed s a ∧ a.posted = []) .start Stream.Sample.front := by
  have quiet : ∀ a ∈ Stream.Sample.front, a.posted = [] := by
    simp [Stream.Sample.front, Stream.Action.posted]
  have whole := Stream.Sample.admissible ""
  have part : Admissible (Stream.step scanner) Stream.Allowed .start Stream.Sample.front :=
    whole.of_prefix (List.prefix_append _ _)
  exact part.and_forall quiet

theorem admissible : Admissible (step platform scanner) Allowed .start trace := by
  have calls : ∀ a ∈ worker, ∀ hint, a ≠ .publishHint hint := by
    rintro a member hint rfl
    simp [worker, Delivery.Sample.trace, Delivery.Sample.fanOut] at member
  have before : (exec (step platform scanner) .start (worker.map .delivery ++
      [.publish hint false fun _ => .acknowledged])).stream = .start := by
    rw [exec_append, exec_worker]
    simp only [exec_cons, exec_nil, step]
    split <;> rfl
  have posted : (step platform scanner (run platform scanner (worker.map .delivery ++
      [.publish hint false fun _ => .acknowledged] ++ Stream.Sample.front.map .stream))
        (.arrive hint)).stream =
      Stream.run scanner (Stream.Sample.front ++ Stream.Sample.back (hintMessage hint)) := by
    rw [reached]
    simp [step, Stream.run, exec_append, hintData, hint_channel, Stream.Sample.back]
  refine (admissible_append ..).mpr ⟨(admissible_append ..).mpr ⟨(admissible_append ..).mpr
    ⟨admissible_worker (worker_admissible.and_forall calls), trivial, trivial⟩, ?_⟩, ?_⟩
  · apply admissible_stream
    rw [before]
    exact front_admissible
  · refine ⟨trivial, ⟨?_, rfl⟩, ⟨trivial, rfl⟩, trivial⟩
    rw [← run, posted, Stream.Sample.back, Stream.Sample.posted]
    rfl

theorem user_frames : ∃ session, ∃ hints : List Hint, .stream (.accept 7 0 session) ∈ trace ∧
    hints.Sublist (run platform scanner trace).arrived ∧ [hintMessage hint] = hints.map hintMessage ∧
    (∀ hint ∈ hints, hint.2.userId.str = session.userId ∧
      ∃ notification, (run platform scanner trace).delivery.notification hint.1 hint.2.notificationId =
          some notification ∧ notification.userId.str = session.userId) ∧
    ∀ row, (hints.map hintRow).count row ≤ 2 := by
  have found : (run platform scanner trace).stream.sockets 7 =
      some ⟨0, Stream.Sample.channel, .subscribed, true, [hintMessage hint]⟩ := by
    rw [arrived, Stream.Sample.delivered]
  exact frames_are_own_hints admissible found

end Sample

end KisAutoTrading.Realtime.Hints
