/-
# Outbox.Relay — what any number of relays do to one outbox

A pass of the relay is one transaction: it selects and locks a batch of due records,
hands them to the broker one after the other, and commits their new columns together.
Here the steps of the passes of `n` relays interleave with the writers of the outbox.
A relay may stop, or raise, anywhere before its commit; its locks are then gone, its
columns are not written, and what the broker has confirmed stays confirmed.

The rows a pass holds are pending, due by its clock, and held by no other pass, until
it ends (`Inv`). `relay_sound` reads everything off that: what is marked published was
confirmed and is decoded back to the record's own event, rows only ever gain, nothing is
sent early or twice at once. `undisturbed_pass` is the link to `publish_pending` as one
function: a pass with nothing in between leaves the table that function computes.
-/
import KisAutoTrading.Infrastructure.OutboxRelay
import KisAutoTrading.Theory.Runs
import KisAutoTrading.Worker.MessageBody
import Mathlib.Data.Fintype.Basic

namespace KisAutoTrading.Outbox.Relay

open Theory Theory.JsonReader Theory.Runs

set_option autoImplicit false

/-- A pass under way: the selected records still to be sent, and the others with the
columns the commit will write. -/
structure Running where
  pass : Pass
  waiting : List OutboxEventRecord
  attempted : List OutboxEventRecord

/-- The rows the transaction has locked. -/
def Running.held (running : Running) : List String :=
  (running.attempted ++ running.waiting).map (·.eventId)

/-- A row as the commit leaves it. -/
def Running.written (running : Running) (row : OutboxEventRecord) : OutboxEventRecord :=
  (running.attempted.find? fun record => record.eventId = row.eventId).getD row

/-- The committed rows, the passes under way, and the messages the broker has confirmed. -/
structure State (n : Nat) where
  outbox : List OutboxEventRecord
  running : Fin n → Option Running
  broker : List BrokerMessage

variable {n : Nat}

def State.empty : State n := ⟨[], fun _ => none, []⟩

def State.held (s : State n) (relay : Fin n) : List String :=
  (s.running relay).elim [] Running.held

/-- Some pass holds the row. -/
def State.Locked (s : State n) (eventId : String) : Prop := ∃ relay, eventId ∈ s.held relay

instance (s : State n) (eventId : String) : Decidable (s.Locked eventId) :=
  inferInstanceAs (Decidable (∃ relay, eventId ∈ s.held relay))

inductive Action (n : Nat) where
  /-- A writer commits an event. -/
  | add (message : EventMessage) (availableAt : Option Instant)
  /-- `SELECT … FOR UPDATE SKIP LOCKED`. -/
  | select (relay : Fin n) (pass : Pass)
  /-- The next record is handed to the broker at the given time, which confirms it or
  fails with a `MessagePublishError`. -/
  | publish (relay : Fin n) (answer : Except String Unit) (time : Instant)
  | commit (relay : Fin n)
  /-- Another exception, a stop of the process, or a commit that fails. -/
  | rollBack (relay : Fin n)

/-- What the broker confirms. -/
def confirms (W : Wire) (record : OutboxEventRecord) : Except String Unit → List BrokerMessage
  | .ok () => [W.publish record.message]
  | .error _ => []

def step (W : Wire) (batchSize : Nat) (s : State n) : Action n → State n
  | .add message availableAt => { s with outbox := s.outbox ++ [outboxRecord message availableAt] }
  | .select relay pass =>
      let free := s.outbox.filter fun row => ¬ s.Locked row.eventId
      { s with
        running := Function.update s.running relay (some ⟨pass, pass.selected batchSize free, []⟩) }
  | .publish relay answer _ =>
      match s.running relay with
      | some ⟨pass, record :: waiting, attempted⟩ =>
          let record' := pass.attempt (fun _ => answer) record
          { s with
            running := Function.update s.running relay (some ⟨pass, waiting, attempted ++ [record']⟩)
            broker := s.broker ++ confirms W record answer }
      | _ => s
  | .commit relay =>
      match s.running relay with
      | some running =>
          { s with
            outbox := s.outbox.map running.written
            running := Function.update s.running relay none }
      | none => s
  | .rollBack relay => { s with running := Function.update s.running relay none }

/-- The steps that can be taken: an event id is the text of a UUID and new, a relay runs
one pass at a time and commits it when every record was tried, and its clock does not go
back within a pass. -/
def Allowed (s : State n) : Action n → Prop
  | .add message _ =>
      (∃ id : Uuid, message.eventId = id.str) ∧ ∀ row ∈ s.outbox, row.eventId ≠ message.eventId
  | .select relay _ => s.running relay = none
  | .publish relay _ time =>
      ∃ pass record waiting attempted,
        s.running relay = some ⟨pass, record :: waiting, attempted⟩ ∧ pass.now ≤ time
  | .commit relay => ∃ pass attempted, s.running relay = some ⟨pass, [], attempted⟩
  | .rollBack _ => True

def run (W : Wire) (batchSize : Nat) (trace : List (Action n)) : State n :=
  exec (step W batchSize) .empty trace

/-- The record a relay hands to the broker next. -/
def State.sending (s : State n) (relay : Fin n) : Option OutboxEventRecord :=
  (s.running relay).bind fun running => running.waiting.head?

/-! ## The invariant -/

/-- What a pass holds: rows that were pending and due when it selected them and are
so still, and the columns an attempt at one of them leaves. -/
structure Holds (W : Wire) (s : State n) (running : Running) : Prop where
  nodup : running.held.Nodup
  waiting : ∀ record ∈ running.waiting, record ∈ s.outbox ∧ record.due running.pass.now = true
  attempted : ∀ record ∈ running.attempted, ∃ row ∈ s.outbox, ∃ answer,
    row.due running.pass.now = true ∧ record = running.pass.attempt (fun _ => answer) row ∧
      (answer = .ok () → W.publish row.message ∈ s.broker)

structure Inv (W : Wire) (s : State n) : Prop where
  keyed : (s.outbox.map (·.eventId)).Nodup
  named : ∀ row ∈ s.outbox, row.eventId ≠ ""
  running : ∀ relay running, s.running relay = some running → Holds W s running
  apart : ∀ i j, i ≠ j → ∀ id ∈ s.held i, id ∉ s.held j
  confirmed : ∀ row ∈ s.outbox, row.status = .published → W.publish row.message ∈ s.broker

/-- The row of an event after some steps: the same event, no sooner available, and not
touched any more once published. -/
structure Later (old new : OutboxEventRecord) : Prop where
  message : new.message = old.message
  availableAt : old.availableAt ≤ new.availableAt
  published : old.status = .published → new = old

/-- Every row is still there. -/
def Keeps (s t : State n) : Prop := ∀ row ∈ s.outbox, ∃ row' ∈ t.outbox, Later row row'

theorem Later.refl (row : OutboxEventRecord) : Later row row := ⟨rfl, le_refl _, fun _ => rfl⟩

theorem Keeps.refl (s : State n) : Keeps s s := fun row member => ⟨row, member, .refl row⟩

theorem Keeps.trans (s t u : State n) (first : Keeps s t) (second : Keeps t u) : Keeps s u := by
  intro row member
  obtain ⟨mid, inMid, one⟩ := first row member
  obtain ⟨last, inLast, two⟩ := second mid inMid
  refine ⟨last, inLast, two.message.trans one.message, le_trans one.availableAt two.availableAt, ?_⟩
  intro published
  have same := one.published published
  rw [← same]
  exact two.published (same ▸ published)

section Steps

variable {W : Wire} {batchSize : Nat} {s : State n}

theorem due_iff {record : OutboxEventRecord} {now : Instant} :
    record.due now = true ↔ record.status = .pending ∧ record.availableAt ≤ now := by
  simp [OutboxEventRecord.due]

theorem held_of_running {relay : Fin n} {running : Running} (found : s.running relay = some running) :
    s.held relay = running.held := by
  simp [State.held, found]

theorem nodup_selected {pass : Pass} {table : List OutboxEventRecord}
    (keyed : (table.map (·.eventId)).Nodup) :
    ((pass.selected batchSize table).map (·.eventId)).Nodup := by
  have sorted := (List.perm_insertionSort pass.older (table.filter fun row => row.due pass.now))
  have filtered : ((table.filter fun row => row.due pass.now).map (·.eventId)).Nodup :=
    (List.filter_sublist.map _).nodup keyed
  exact ((List.take_sublist _ _).map _).nodup ((sorted.map _).nodup_iff.mpr filtered)

/-- The row an attempt was made at is found again by its id. -/
theorem Holds.written_of_mem {running : Running} (holds : Holds W s running)
    {record : OutboxEventRecord} (attempted : record ∈ running.attempted)
    {row : OutboxEventRecord} (sameId : record.eventId = row.eventId) :
    running.written row = record := by
  have distinct : (running.attempted.map (·.eventId)).Nodup := by
    have all := holds.nodup
    rw [Running.held, List.map_append] at all
    exact (List.nodup_append.mp all).1
  cases found : running.attempted.find? fun other => other.eventId = row.eventId with
  | none =>
      have := List.find?_eq_none.mp found record attempted
      simp [sameId] at this
  | some other =>
      have sameOther : other.eventId = record.eventId := by
        have := List.find?_some found
        simp only [decide_eq_true_eq] at this
        rw [this, sameId]
      have := List.inj_on_of_nodup_map distinct (List.mem_of_find?_eq_some found) attempted sameOther
      simp [Running.written, found, this]

theorem written_of_not_mem {running : Running} {row : OutboxEventRecord}
    (untouched : ∀ record ∈ running.attempted, record.eventId ≠ row.eventId) :
    running.written row = row := by
  have none : running.attempted.find? (fun record => record.eventId = row.eventId) = none := by
    rw [List.find?_eq_none]
    intro record member
    simp [untouched record member]
  simp [Running.written, none]

/-- What the commit does to a row: nothing, or what an attempt at it has left. -/
theorem Inv.written_cases (inv : Inv W s) {relay : Fin n} {running : Running}
    (found : s.running relay = some running) {row : OutboxEventRecord} (stored : row ∈ s.outbox) :
    running.written row = row ∨ ∃ answer, row.due running.pass.now = true ∧
      running.written row = running.pass.attempt (fun _ => answer) row ∧
      (answer = .ok () → W.publish row.message ∈ s.broker) := by
  have holds := inv.running relay running found
  by_cases touched : ∃ record ∈ running.attempted, record.eventId = row.eventId
  · obtain ⟨record, attempted, sameId⟩ := touched
    obtain ⟨other, inOutbox, answer, due, made, confirmed⟩ := holds.attempted record attempted
    have same : other = row := by
      apply List.inj_on_of_nodup_map inv.keyed inOutbox stored
      rw [← sameId, made, attempt_eventId]
    subst same
    exact .inr ⟨answer, due, (holds.written_of_mem attempted sameId).trans made, confirmed⟩
  · exact .inl (written_of_not_mem fun record attempted sameId =>
      touched ⟨record, attempted, sameId⟩)

theorem Inv.written_later (inv : Inv W s) {relay : Fin n} {running : Running}
    (found : s.running relay = some running) {row : OutboxEventRecord} (stored : row ∈ s.outbox) :
    Later row (running.written row) := by
  rcases inv.written_cases found stored with same | ⟨answer, due, made, -⟩
  · rw [same]
    exact .refl row
  · obtain ⟨pending, available⟩ := due_iff.mp due
    rw [made]
    refine ⟨attempt_message _ _ _, le_attempt_availableAt _ available, ?_⟩
    intro published
    rw [pending] at published
    cases published

/-- A pass only looks at the rows it holds and at what was confirmed. -/
theorem Holds.frame {t : State n} {running : Running} (holds : Holds W s running)
    (rows : ∀ row ∈ s.outbox, row.eventId ∈ running.held → row ∈ t.outbox)
    (broker : ∀ message ∈ s.broker, message ∈ t.broker) : Holds W t running := by
  refine ⟨holds.nodup, ?_, ?_⟩
  · intro record member
    obtain ⟨stored, due⟩ := holds.waiting record member
    refine ⟨rows record stored ?_, due⟩
    exact List.mem_map.mpr ⟨record, List.mem_append_right _ member, rfl⟩
  · intro record member
    obtain ⟨row, stored, answer, due, made, confirmed⟩ := holds.attempted record member
    refine ⟨row, rows row stored ?_, answer, due, made, fun ok => broker _ (confirmed ok)⟩
    have sameId : record.eventId = row.eventId := by rw [made, attempt_eventId]
    exact List.mem_map.mpr ⟨record, List.mem_append_left _ member, sameId⟩

theorem held_update (relay other : Fin n) (running : Option Running) :
    State.held { s with running := Function.update s.running relay running } other =
      if other = relay then running.elim [] Running.held else s.held other := by
  by_cases same : other = relay
  · subst same
    simp [State.held]
  · simp [State.held, same]

/-- The rows a pass holds are pending and due by its clock. -/
theorem Inv.held_pending (inv : Inv W s) {relay : Fin n} {id : String} (held : id ∈ s.held relay) :
    ∃ row ∈ s.outbox, row.eventId = id ∧ row.status = .pending := by
  cases found : s.running relay with
  | none => simp [State.held, found] at held
  | some running =>
      have holds := inv.running relay running found
      rw [held_of_running found, Running.held, List.map_append] at held
      rcases List.mem_append.mp held with inAttempted | inWaiting
      · obtain ⟨record, member, rfl⟩ := List.mem_map.mp inAttempted
        obtain ⟨row, stored, answer, due, made, -⟩ := holds.attempted record member
        refine ⟨row, stored, ?_, (due_iff.mp due).1⟩
        rw [made, attempt_eventId]
      · obtain ⟨record, member, rfl⟩ := List.mem_map.mp inWaiting
        obtain ⟨stored, due⟩ := holds.waiting record member
        exact ⟨record, stored, rfl, (due_iff.mp due).1⟩

theorem Inv.add (inv : Inv W s) {message : EventMessage} (availableAt : Option Instant)
    (uuid : ∃ id : Uuid, message.eventId = id.str)
    (unused : ∀ row ∈ s.outbox, row.eventId ≠ message.eventId) :
    Inv W { s with outbox := s.outbox ++ [outboxRecord message availableAt] } := by
  refine ⟨?_, ?_, ?_, inv.apart, ?_⟩
  · simp only [List.map_append, List.map_cons, List.map_nil]
    rw [List.nodup_append]
    refine ⟨inv.keyed, by simp, ?_⟩
    intro id member other new
    obtain ⟨row, stored, rfl⟩ := List.mem_map.mp member
    obtain rfl := List.mem_singleton.mp new
    exact unused row stored
  · intro row member
    rcases List.mem_append.mp member with old | new
    · exact inv.named row old
    · obtain rfl := List.mem_singleton.mp new
      obtain ⟨id, text⟩ := uuid
      show message.eventId ≠ ""
      rw [text]
      exact Uuid.str_ne_empty id
  · intro relay running found
    refine (inv.running relay running found).frame ?_ (fun _ member => member)
    exact fun row stored _ => List.mem_append_left _ stored
  · intro row member published
    rcases List.mem_append.mp member with old | new
    · exact inv.confirmed row old published
    · obtain rfl := List.mem_singleton.mp new
      cases published

theorem Inv.select (inv : Inv W s) (relay : Fin n) (pass : Pass) :
    Inv W (step W batchSize s (.select relay pass)) := by
  have free : ∀ record ∈ pass.selected batchSize (s.outbox.filter fun row => ¬ s.Locked row.eventId),
      (record ∈ s.outbox ∧ ¬ s.Locked record.eventId) ∧ record.due pass.now = true := by
    intro record selected
    obtain ⟨member, due⟩ := mem_of_selected pass selected
    exact ⟨by simpa using List.mem_filter.mp member, due⟩
  have unlocked : ∀ id ∈ Running.held
      ⟨pass, pass.selected batchSize (s.outbox.filter fun row => ¬ s.Locked row.eventId), []⟩,
      ¬ s.Locked id := by
    intro id held
    obtain ⟨record, selected, rfl⟩ := List.mem_map.mp held
    exact (free record (by simpa using selected)).1.2
  refine ⟨inv.keyed, inv.named, ?_, ?_, inv.confirmed⟩
  · intro other running found
    by_cases same : other = relay
    · subst same
      simp only [step, Function.update_self, Option.some.injEq] at found
      subst found
      refine ⟨?_, fun record selected => ⟨(free record selected).1.1, (free record selected).2⟩, ?_⟩
      · exact nodup_selected ((List.filter_sublist.map _).nodup inv.keyed)
      · intro record member
        cases member
    · simp only [step, Function.update_of_ne same] at found
      exact (inv.running other running found).frame (fun _ stored _ => stored)
        (fun _ member => member)
  · intro i j different id heldI heldJ
    simp only [step, held_update] at heldI heldJ
    split at heldI
    · split at heldJ
      · rename_i first second
        exact different (first.trans second.symm)
      · exact unlocked id heldI ⟨j, heldJ⟩
    · split at heldJ
      · exact unlocked id heldJ ⟨i, heldI⟩
      · exact inv.apart i j different id heldI heldJ

theorem Inv.publish (inv : Inv W s) {relay : Fin n} {pass : Pass} {record : OutboxEventRecord}
    {waiting attempted : List OutboxEventRecord}
    (found : s.running relay = some ⟨pass, record :: waiting, attempted⟩)
    (answer : Except String Unit) (time : Instant) :
    Inv W (step W batchSize s (.publish relay answer time)) := by
  have holds := inv.running relay _ found
  obtain ⟨stored, due⟩ := holds.waiting record (by simp)
  have sameHeld : Running.held
      ⟨pass, waiting, attempted ++ [pass.attempt (fun _ => answer) record]⟩ =
      Running.held ⟨pass, record :: waiting, attempted⟩ := by
    simp [Running.held]
  have more : ∀ message ∈ s.broker, message ∈ s.broker ++ confirms W record answer :=
    fun _ member => List.mem_append_left _ member
  simp only [step, found]
  refine ⟨inv.keyed, inv.named, ?_, ?_, fun row member published =>
    more _ (inv.confirmed row member published)⟩
  · intro other running foundOther
    by_cases same : other = relay
    · subst same
      simp only [Function.update_self, Option.some.injEq] at foundOther
      subst foundOther
      refine ⟨sameHeld ▸ holds.nodup, fun later member => holds.waiting later (by simp [member]), ?_⟩
      intro tried member
      rcases List.mem_append.mp member with before | now
      · obtain ⟨row, inOutbox, given, wasDue, made, confirmed⟩ := holds.attempted tried before
        exact ⟨row, inOutbox, given, wasDue, made, fun ok => more _ (confirmed ok)⟩
      · obtain rfl := List.mem_singleton.mp now
        refine ⟨record, stored, answer, due, rfl, ?_⟩
        rintro rfl
        exact List.mem_append_right _ (by simp [confirms])
    · simp only [Function.update_of_ne same] at foundOther
      exact (inv.running other running foundOther).frame (fun _ member _ => member) more
  · have heldAfter : ∀ other, State.held
        { s with
          running := Function.update s.running relay
            (some ⟨pass, waiting, attempted ++ [pass.attempt (fun _ => answer) record]⟩)
          broker := s.broker ++ confirms W record answer } other = s.held other := by
      intro other
      by_cases same : other = relay
      · subst same
        rw [held_of_running found, ← sameHeld]
        simp [State.held]
      · simp [State.held, same]
    intro i j different id
    rw [heldAfter, heldAfter]
    exact inv.apart i j different id

theorem Inv.release (inv : Inv W s) (relay : Fin n) :
    Inv W (step W batchSize s (.rollBack relay)) := by
  refine ⟨inv.keyed, inv.named, ?_, ?_, inv.confirmed⟩
  · intro other running found
    by_cases same : other = relay
    · subst same
      simp [step] at found
    · simp only [step, Function.update_of_ne same] at found
      exact (inv.running other running found).frame (fun _ stored _ => stored)
        (fun _ member => member)
  · intro i j different id heldI heldJ
    simp only [step, held_update, Option.elim_none] at heldI heldJ
    split at heldI
    · cases heldI
    · split at heldJ
      · cases heldJ
      · exact inv.apart i j different id heldI heldJ

theorem Inv.commit (inv : Inv W s) {relay : Fin n} {running : Running}
    (found : s.running relay = some running) :
    Inv W (step W batchSize s (.commit relay)) := by
  have released : Inv W (step W batchSize s (.rollBack relay)) := inv.release relay
  have ids : (s.outbox.map running.written).map (·.eventId) = s.outbox.map (·.eventId) := by
    rw [List.map_map]
    apply List.map_congr_left
    intro row stored
    exact congrArg EventMessage.eventId (inv.written_later found stored).message
  simp only [step, found]
  refine ⟨?_, ?_, ?_, released.apart, ?_⟩
  · show ((s.outbox.map running.written).map (·.eventId)).Nodup
    rw [ids]
    exact inv.keyed
  · intro row member
    obtain ⟨old, stored, rfl⟩ := List.mem_map.mp member
    have sameId := congrArg EventMessage.eventId (inv.written_later found stored).message
    show (running.written old).message.eventId ≠ ""
    rw [sameId]
    exact inv.named old stored
  · intro other held foundOther
    have different : other ≠ relay := by
      rintro rfl
      simp at foundOther
    simp only [Function.update_of_ne different] at foundOther
    refine (inv.running other held foundOther).frame ?_ (fun _ member => member)
    -- a row another pass holds is not one of those written
    intro row stored mine
    refine List.mem_map.mpr ⟨row, stored, written_of_not_mem ?_⟩
    intro record attempted sameId
    refine inv.apart other relay different row.eventId ?_ ?_
    · rw [held_of_running foundOther]
      exact mine
    · rw [held_of_running found]
      exact List.mem_map.mpr ⟨record, List.mem_append_left _ attempted, sameId⟩
  · intro row member published
    obtain ⟨old, stored, rfl⟩ := List.mem_map.mp member
    rcases inv.written_cases found stored with same | ⟨answer, due, made, confirmed⟩
    · rw [same] at published ⊢
      exact inv.confirmed old stored published
    · rw [made, attempt_message]
      apply confirmed
      cases answer with
      | ok _ => rfl
      | error error =>
          have kept : (running.pass.attempt (fun _ => .error error) old).status = old.status :=
            (attempt_of_error running.pass rfl).1
          rw [made, kept, (due_iff.mp due).1] at published
          cases published

theorem inv_step (action : Action n) (inv : Inv W s) (allowed : Allowed s action) :
    Inv W (step W batchSize s action) := by
  cases action with
  | add message availableAt => exact inv.add availableAt allowed.1 allowed.2
  | select relay pass => exact inv.select relay pass
  | publish relay answer time =>
      obtain ⟨pass, record, waiting, attempted, found, -⟩ := allowed
      exact inv.publish found answer time
  | commit relay =>
      obtain ⟨pass, attempted, found⟩ := allowed
      exact inv.commit found
  | rollBack relay => exact inv.release relay

theorem inv_empty : Inv W (State.empty : State n) := by
  refine ⟨List.nodup_nil, by simp [State.empty], ?_, ?_, by simp [State.empty]⟩
  · intro relay running found
    cases found
  · intro i j _ id held
    cases held

theorem keeps_step (action : Action n) (inv : Inv W s) (allowed : Allowed s action) :
    Keeps s (step W batchSize s action) := by
  cases action with
  | add message availableAt =>
      exact fun row member => ⟨row, List.mem_append_left _ member, .refl row⟩
  | select relay pass => exact .refl s
  | publish relay answer time =>
      obtain ⟨pass, record, waiting, attempted, found, -⟩ := allowed
      simp only [step, found]
      exact .refl s
  | commit relay =>
      obtain ⟨pass, attempted, found⟩ := allowed
      simp only [step, found]
      intro row member
      exact ⟨_, List.mem_map_of_mem member, inv.written_later found member⟩
  | rollBack relay => exact .refl s

end Steps

/-! ## Runs -/

section Runs

variable {W : Wire} {batchSize : Nat} {trace : List (Action n)}

theorem run_inv (admissible : Admissible (step W batchSize) Allowed (State.empty : State n) trace) :
    Inv W (run W batchSize trace) :=
  exec_invariant (fun _ action inv allowed => inv_step action inv allowed) inv_empty admissible

theorem run_keeps {front : List (Action n)} (isPrefix : front <+: trace)
    (admissible : Admissible (step W batchSize) Allowed (State.empty : State n) trace) :
    Keeps (run W batchSize front) (run W batchSize trace) := by
  obtain ⟨back, rfl⟩ := isPrefix
  obtain ⟨frontOk, backOk⟩ := (admissible_append _ _ _ front back).mp admissible
  unfold run
  rw [exec_append]
  exact exec_monotone Keeps.refl Keeps.trans
    (fun _ action inv allowed => inv_step action inv allowed)
    (fun _ action inv allowed => keeps_step action inv allowed) (run_inv frontOk) backOk

/-- The record sent next is a pending row that was available when the pass began. -/
theorem Inv.sending {s : State n} (inv : Inv W s) {relay : Fin n} {record : OutboxEventRecord}
    (next : s.sending relay = some record) :
    ∃ running, s.running relay = some running ∧ record ∈ s.outbox ∧ record.status = .pending ∧
      record.availableAt ≤ running.pass.now := by
  cases found : s.running relay with
  | none => simp [State.sending, found] at next
  | some running =>
      have member : record ∈ running.waiting := by
        apply List.mem_of_mem_head?
        simpa [State.sending, found] using next
      obtain ⟨stored, due⟩ := (inv.running relay running found).waiting record member
      obtain ⟨pending, available⟩ := due_iff.mp due
      exact ⟨running, rfl, stored, pending, available⟩

end Runs

/-- What holds of a run of any number of relays. -/
structure Sound (W : Wire) (batchSize : Nat) (trace : List (Action n)) : Prop where
  /-- A record is marked published only after the broker has confirmed a message that the
  consumer decodes as the record's event, field for field; the payload has its keys in the order
  in which `json.loads` gives them back, which may be the event's own. -/
  confirmed : ∀ row ∈ (run W batchSize trace).outbox, row.status = .published →
    ∃ message ∈ (run W batchSize trace).broker, ∃ decoded : EventMessage,
      (∀ freshId, W.decode message.body freshId = some decoded) ∧
      decoded.canonical = row.message.canonical ∧
      (W.loads (W.dumps (W.fields row.message)) = some (W.fields row.message) →
        decoded = row.message)
  /-- Once published it is not selected again. -/
  neverAgain : ∀ front, front <+: trace → ∀ row ∈ (run W batchSize front).outbox,
    row.status = .published → ∀ relay, row.eventId ∉ (run W batchSize trace).held relay
  /-- No row is deleted, changes its event or becomes available sooner. -/
  kept : ∀ front, front <+: trace → Keeps (run W batchSize front) (run W batchSize trace)
  /-- What is sent is a pending row whose time has come, by what any earlier state said
  of it too. -/
  notEarly : ∀ front relay answer time, front ++ [.publish relay answer time] <+: trace →
    ∀ record, (run W batchSize front).sending relay = some record →
      (record ∈ (run W batchSize front).outbox ∧ record.status = .pending ∧
        record.availableAt ≤ time) ∧
      ∀ early, early <+: front → ∀ row ∈ (run W batchSize early).outbox,
        row.eventId = record.eventId → row.availableAt ≤ time
  /-- Two passes under way share no record. -/
  apart : ∀ i j, i ≠ j →
    ∀ id ∈ (run W batchSize trace).held i, id ∉ (run W batchSize trace).held j

/-- **Relays are sound**, whatever they run into and however their passes interleave. -/
theorem relay_sound {W : Wire} {batchSize : Nat} {trace : List (Action n)}
    (admissible : Admissible (step W batchSize) Allowed .empty trace)
    (trips : ∀ row ∈ (run W batchSize trace).outbox, W.RoundTrips row.message) :
    Sound W batchSize trace := by
  have inv := run_inv admissible
  refine ⟨?_, ?_, fun front isPrefix => run_keeps isPrefix admissible, ?_, inv.apart⟩
  · intro row stored published
    exact ⟨W.publish row.message, inv.confirmed row stored published,
      Wire.decode_body (trips row stored) (inv.named row stored)⟩
  · intro front isPrefix row stored published relay held
    obtain ⟨row', stored', later⟩ := run_keeps isPrefix admissible row stored
    obtain rfl := later.published published
    obtain ⟨other, storedOther, sameId, pending⟩ := inv.held_pending held
    obtain rfl := List.inj_on_of_nodup_map inv.keyed storedOther stored' sameId
    rw [pending] at published
    cases published
  · intro front relay answer time isPrefix record next
    have upTo := admissible.of_prefix isPrefix
    obtain ⟨frontOk, allowed⟩ := (admissible_snoc _ _ _ front _).mp upTo
    have frontInv := run_inv frontOk
    obtain ⟨running, found, stored, pending, available⟩ := frontInv.sending next
    obtain ⟨pass, first, waiting, attempted, same, clock⟩ := allowed
    have inTime : record.availableAt ≤ time := by
      have sameRunning := found.symm.trans same
      simp only [Option.some.injEq] at sameRunning
      subst sameRunning
      exact le_trans available clock
    refine ⟨⟨stored, pending, inTime⟩, ?_⟩
    intro early isEarlier row inEarly sameId
    obtain ⟨row', inFront, later⟩ := run_keeps isEarlier frontOk row inEarly
    have sameRow : row' = record := by
      apply List.inj_on_of_nodup_map frontInv.keyed inFront stored
      exact (congrArg EventMessage.eventId later.message).trans sameId
    subst sameRow
    exact le_trans later.availableAt inTime

/-! ## A pass with nothing in between -/

section Undisturbed

variable {W : Wire} {batchSize : Nat} {s : State n} {relay : Fin n} {pass : Pass}

theorem commit_outbox {running : Running} (found : s.running relay = some running) :
    (step W batchSize s (.commit relay)).outbox = s.outbox.map running.written := by
  simp only [step, found]

/-- The relay hands over the records one after the other. -/
theorem exec_publish (publish : Publisher) (time : Instant) (waiting : List OutboxEventRecord)
    {attempted : List OutboxEventRecord}
    (found : s.running relay = some ⟨pass, waiting, attempted⟩) :
    let t := exec (step W batchSize) s (waiting.map fun record =>
      .publish relay (publish record.message) time)
    t.outbox = s.outbox ∧
      t.running relay = some ⟨pass, [], attempted ++ waiting.map (pass.attempt publish)⟩ := by
  induction waiting generalizing s attempted with
  | nil => exact ⟨rfl, by simpa using found⟩
  | cons record rest ih =>
      have next : (step W batchSize s (.publish relay (publish record.message) time)).running relay =
          some ⟨pass, rest, attempted ++ [pass.attempt publish record]⟩ := by
        simp only [step, found, Function.update_self]
        rfl
      obtain ⟨sameOutbox, ended⟩ := ih next
      refine ⟨sameOutbox.trans ?_, ?_⟩
      · simp only [step, found]
      · simpa using ended

/-- **A pass that nothing interrupts does what `publish_pending` does.** -/
theorem undisturbed_pass (publish : Publisher) (time : Instant)
    (keyed : (s.outbox.map (·.eventId)).Nodup) (idle : ∀ other, s.running other = none) :
    (exec (step W batchSize) s (.select relay pass ::
      ((pass.selected batchSize s.outbox).map fun record =>
        .publish relay (publish record.message) time) ++ [.commit relay])).outbox =
      (publishPending publish batchSize pass s.outbox).2 := by
  have noLock : ∀ id, ¬ s.Locked id := by
    rintro id ⟨other, held⟩
    simp [State.held, idle other] at held
  have begun : (step W batchSize s (.select relay pass)).running relay =
      some ⟨pass, pass.selected batchSize s.outbox, []⟩ := by
    simp [step, noLock]
  obtain ⟨sameOutbox, ended⟩ := exec_publish publish time _ begun
  rw [List.cons_append, exec_cons, exec_snoc, commit_outbox ended, sameOutbox]
  apply List.map_congr_left
  intro row stored
  by_cases chosen : row.eventId ∈ (pass.selected batchSize s.outbox).map (·.eventId)
  · rw [if_pos chosen]
    obtain ⟨record, selected, sameId⟩ := List.mem_map.mp chosen
    obtain rfl := List.inj_on_of_nodup_map keyed (mem_of_selected pass selected).1 stored sameId
    have distinct : ((pass.selected batchSize s.outbox).map (·.eventId)).Nodup :=
      nodup_selected keyed
    cases found : ((pass.selected batchSize s.outbox).map (pass.attempt publish)).find?
        fun other => other.eventId = record.eventId with
    | none =>
        have := List.find?_eq_none.mp found _ (List.mem_map_of_mem selected)
        simp at this
    | some other =>
        obtain ⟨source, inSelected, rfl⟩ := List.mem_map.mp (List.mem_of_find?_eq_some found)
        have sameSource : source.eventId = record.eventId := by
          simpa using List.find?_some found
        obtain rfl := List.inj_on_of_nodup_map distinct inSelected selected sameSource
        simp [Running.written, found]
  · rw [if_neg chosen]
    refine written_of_not_mem ?_
    intro record member sameId
    obtain ⟨source, selected, rfl⟩ := List.mem_map.mp member
    rw [attempt_eventId] at sameId
    exact chosen (List.mem_map.mpr ⟨source, selected, sameId⟩)

end Undisturbed

/-! ## One event, sent while another relay looks on -/

namespace Sample

open Worker.MessageBody (jsonWire Sendable)
open Worker.MessageBody.Sample (writer reader)

/-- The event of a subscription, whose keys are not in order. -/
def updated : EventMessage :=
  (recordSubscriptionUpdate ⟨3, 4, "005930", true, 1⟩ ⟨"account", some "1"⟩
    (Uuid.str 0x91d5b0a36c0e4f0d9a540f2f3f4b1c77) (seconds 1)).message

def isoText : String := "1970-01-01T00:00:01+00:00"

/-- The publisher's writer and the consumer's reader; of the dates there is one. -/
def wire : Wire := jsonWire writer reader (fun _ => isoText) fun text =>
  if text = isoText then some (seconds 1) else none

def passAt (now : Instant) : Pass := ⟨now, fun _ => now, fun _ => 0⟩

def trace : List (Action 2) := [
  .add updated none,
  .select 0 (passAt (seconds 2)),
  .select 1 (passAt (seconds 2)),
  .publish 0 (.ok ()) (seconds 3),
  .commit 0]

theorem sendable : Sendable writer reader (fun _ => isoText)
    (fun text => if text = isoText then some (seconds 1) else none) updated := by
  have one : (toString (1 : Int).natAbs).toList.length ≤ intMaxStrDigits := by decide
  refine ⟨Uuid.str_ne_empty _, ?_, one, rfl⟩
  simp only [Writable, WritableFields, updated, recordSubscriptionUpdate, outboxRecord,
    OutboxEventRecord.message]
  exact ⟨by decide, by simp, trivial, trivial, trivial, trivial, trivial, one, trivial⟩

theorem selected : (run wire 100 (trace.take 3)).running 0 =
    some ⟨passAt (seconds 2), [outboxRecord updated], []⟩ := rfl

theorem tried : ∃ record, (run wire 100 (trace.take 4)).running 0 =
    some ⟨passAt (seconds 2), [], [record]⟩ := ⟨_, rfl⟩

theorem watched_event_is_published :
    Sound wire 100 trace ∧
      (run wire 100 trace).outbox.map (·.status) = [.published] ∧
      (run wire 100 (trace.take 3)).held 1 = [] := by
  refine ⟨relay_sound ?_ ?_, rfl, rfl⟩
  · obtain ⟨record, trying⟩ := tried
    refine ⟨⟨⟨_, rfl⟩, by simp [State.empty]⟩, rfl, rfl, ?_, ?_, trivial⟩
    · exact ⟨_, _, _, _, selected, by decide⟩
    · exact ⟨_, _, trying⟩
  · intro row member
    have single : (run wire 100 trace).outbox.map (·.message) = [updated] := rfl
    have same : row.message ∈ (run wire 100 trace).outbox.map (·.message) :=
      List.mem_map_of_mem member
    rw [single, List.mem_singleton] at same
    rw [same]
    exact sendable.roundTrips

end Sample

end KisAutoTrading.Outbox.Relay
