/-
# Infrastructure.OutboxRelay — publishing pending outbox records

`OutboxRelay.publish_pending`: one pass over one store. The pass takes the due
records, oldest first and at most a batch of them, and tries to publish each: a
success marks it published, a `MessagePublishError` puts it off by a back-off that
doubles from 2 to at most 60 seconds. PostgreSQL is free in the order of records with
the same `occurred_at`; the order of one pass is its `tie`.

The publisher is what it answers for a message: nothing, or the text of its error.
-/
import KisAutoTrading.Infrastructure.Outbox
import KisAutoTrading.Theory.Batch
import Mathlib.Tactic.Positivity

namespace KisAutoTrading

open Theory

set_option autoImplicit false

/-- `MessagePublisher.publish`, with the text of a `MessagePublishError`. -/
abbrev Publisher : Type := EventMessage → Except String Unit

/-- What a pass of the relay meets: the clock at its start and after each
confirmation, and the order PostgreSQL gives to records of the same time. -/
structure Pass where
  now : Instant
  confirmedAt : String → Instant
  tie : String → Nat

/-- The `WHERE` clause. -/
def OutboxEventRecord.due (record : OutboxEventRecord) (now : Instant) : Bool :=
  record.status = .pending && record.availableAt ≤ now

/-- The `ORDER BY` clause. -/
def Pass.older (pass : Pass) (a b : OutboxEventRecord) : Prop :=
  a.occurredAt < b.occurredAt ∨
    a.occurredAt = b.occurredAt ∧ pass.tie a.eventId ≤ pass.tie b.eventId

instance (pass : Pass) : DecidableRel pass.older := fun a b =>
  inferInstanceAs (Decidable (a.occurredAt < b.occurredAt ∨
    a.occurredAt = b.occurredAt ∧ pass.tie a.eventId ≤ pass.tie b.eventId))

/-- The records a pass selects. -/
def Pass.selected (pass : Pass) (batchSize : Nat) (outbox : List OutboxEventRecord) :
    List OutboxEventRecord :=
  batch pass.older batchSize (outbox.filter fun record => record.due pass.now)

/-- The delay after the given number of attempts. -/
def backoffSeconds (attempts : Nat) : Int := min 60 (2 ^ min attempts 6)

/-- The body of the loop: one attempt to publish a record. -/
def Pass.attempt (pass : Pass) (publish : Publisher) (record : OutboxEventRecord) :
    OutboxEventRecord :=
  let attempts := record.attempts + 1
  match publish record.message with
  | .ok () =>
      { record with
        attempts
        status := .published
        publishedAt := some (pass.confirmedAt record.eventId)
        lastError := none }
  | .error error =>
      { record with
        attempts
        lastError := some (String.ofList (error.toList.take 2000))
        availableAt := pass.now + seconds (backoffSeconds attempts) }

/-- `OutboxRelay.publish_pending`: how many were published, and the table after. -/
def publishPending (publish : Publisher) (batchSize : Nat) (pass : Pass)
    (outbox : List OutboxEventRecord) : Nat × List OutboxEventRecord :=
  let records := pass.selected batchSize outbox
  let attempted : List String := records.map (·.eventId)
  (records.countP fun record => (pass.attempt publish record).status = .published,
    outbox.map fun record =>
      if record.eventId ∈ attempted then pass.attempt publish record else record)

instance (pass : Pass) : Std.Total pass.older where
  total a b := by
    have lex (x y : Int) (m n : Nat) :
        (x < y ∨ x = y ∧ m ≤ n) ∨ (y < x ∨ y = x ∧ n ≤ m) := by omega
    exact lex _ _ _ _

instance (pass : Pass) : IsTrans OutboxEventRecord pass.older where
  trans a b c := by
    have lex (x y z : Int) (m n k : Nat) :
        (x < y ∨ x = y ∧ m ≤ n) → (y < z ∨ y = z ∧ n ≤ k) → (x < z ∨ x = z ∧ m ≤ k) := by omega
    exact lex _ _ _ _ _ _

theorem mem_of_selected (pass : Pass) {batchSize : Nat} {outbox : List OutboxEventRecord}
    {record : OutboxEventRecord} (selected : record ∈ pass.selected batchSize outbox) :
    record ∈ outbox ∧ record.due pass.now = true :=
  List.mem_filter.mp (mem_of_mem_batch _ selected)

theorem backoffSeconds_le (attempts : Nat) : backoffSeconds attempts ≤ 60 := min_le_left _ _

theorem backoffSeconds_nonneg (attempts : Nat) : 0 ≤ backoffSeconds attempts :=
  le_min (by decide) (by positivity)

section Attempt

variable (pass : Pass) (publish : Publisher) (record : OutboxEventRecord)

/-- An attempt leaves what identifies and orders the record. -/
@[simp] theorem attempt_eventId : (pass.attempt publish record).eventId = record.eventId := by
  unfold Pass.attempt
  cases publish record.message <;> rfl

@[simp] theorem attempt_occurredAt :
    (pass.attempt publish record).occurredAt = record.occurredAt := by
  unfold Pass.attempt
  cases publish record.message <;> rfl

@[simp] theorem attempt_message : (pass.attempt publish record).message = record.message := by
  unfold Pass.attempt
  cases publish record.message <;> rfl

variable {publish record}

theorem attempt_of_ok (answer : publish record.message = .ok ()) :
    (pass.attempt publish record).status = .published := by
  simp only [Pass.attempt, answer]

theorem attempt_of_error {error : String} (answer : publish record.message = .error error) :
    (pass.attempt publish record).status = record.status ∧
      (pass.attempt publish record).availableAt ≤ pass.now + seconds 60 := by
  have bound := backoffSeconds_le (record.attempts + 1)
  simp only [Pass.attempt, answer, seconds, true_and]
  gcongr

/-- The back-off starts from the clock of a pass that found the record available. -/
theorem le_attempt_availableAt (available : record.availableAt ≤ pass.now) :
    record.availableAt ≤ (pass.attempt publish record).availableAt := by
  unfold Pass.attempt
  cases publish record.message with
  | ok _ => exact le_refl _
  | error error =>
      have delay : 0 ≤ seconds (backoffSeconds (record.attempts + 1)) :=
        Int.mul_nonneg (backoffSeconds_nonneg _) (by decide)
      exact le_trans available (Int.le_add_of_nonneg_right delay)

end Attempt

end KisAutoTrading
