/-
# Outbox.Starvation — which records a relay gets round to

Selection is oldest first with a limit, and a record that fails comes back after at
most 60 seconds. So a batch of failing records that are no younger than a record `r`
can keep `r` waiting for ever: passes more than a minute apart find all of them due
again, and the batch is full before `r`.

`published_iff` makes this exact. `Published` says that `r` is published whatever the
times of the passes and the order of records of the same age; it holds if and only if
fewer than a batch of failing records are at least as old as `r` (`Blocks`). One
direction counts: a pass that leaves `r` out publishes at least one other record, of
which there are finitely many. The other constructs the passes.
-/
import KisAutoTrading.Infrastructure.OutboxRelay
import KisAutoTrading.Theory.Runs

namespace KisAutoTrading.Outbox.Starvation

open Theory Theory.Runs

set_option autoImplicit false

/-- The table after a pass. -/
def step (publish : Publisher) (batchSize : Nat) (outbox : List OutboxEventRecord) (pass : Pass) :
    List OutboxEventRecord :=
  (publishPending publish batchSize pass outbox).2

/-- The record of the given event is published. -/
def Confirmed (eventId : String) (outbox : List OutboxEventRecord) : Prop :=
  ∃ record ∈ outbox, record.eventId = eventId ∧ record.status = .published

/-- More passes than there are records, at times that do not decrease and at which `r`
is available, leave `r` published. -/
def Published (publish : Publisher) (batchSize : Nat) (r : OutboxEventRecord)
    (outbox : List OutboxEventRecord) : Prop :=
  ∀ passes : List Pass, outbox.length < passes.length →
    passes.Pairwise (fun earlier later => earlier.now ≤ later.now) →
    (∀ pass ∈ passes, r.availableAt ≤ pass.now) →
    Confirmed r.eventId (exec (step publish batchSize) outbox passes)

/-- Publishing the record raises a `MessagePublishError`. -/
def fails (publish : Publisher) (record : OutboxEventRecord) : Bool :=
  match publish record.message with
  | .ok () => false
  | .error _ => true

/-- A pending record that fails and is at least as old as `r`. -/
def Blocks (publish : Publisher) (r record : OutboxEventRecord) : Bool :=
  record.status = .pending && fails publish record && record.occurredAt ≤ r.occurredAt

/-- A pending record that can be published. -/
def Deliverable (publish : Publisher) (record : OutboxEventRecord) : Bool :=
  record.status = .pending && !fails publish record

/-- Event ids are the primary key. -/
def Keyed (outbox : List OutboxEventRecord) : Prop := (outbox.map (·.eventId)).Nodup

theorem fails_eq_false {publish : Publisher} {record : OutboxEventRecord}
    (succeeds : fails publish record = false) : publish record.message = .ok () := by
  unfold fails at succeeds
  split at succeeds
  · assumption
  · cases succeeds

theorem fails_eq_true {publish : Publisher} {record : OutboxEventRecord}
    (failing : fails publish record = true) :
    ∃ error, publish record.message = .error error := by
  unfold fails at failing
  split at failing
  · cases failing
  · exact ⟨_, by assumption⟩

/-! ## One pass -/

section Pass

variable {publish : Publisher} {batchSize : Nat} {outbox : List OutboxEventRecord} (pass : Pass)

/-- The pass at one record. -/
def touched (publish : Publisher) (batchSize : Nat) (outbox : List OutboxEventRecord) (pass : Pass)
    (record : OutboxEventRecord) : OutboxEventRecord :=
  if record.eventId ∈ (pass.selected batchSize outbox).map (·.eventId) then
    pass.attempt publish record
  else record

theorem step_eq :
    step publish batchSize outbox pass = outbox.map (touched publish batchSize outbox pass) := rfl

@[simp] theorem touched_eventId (record : OutboxEventRecord) :
    (touched publish batchSize outbox pass record).eventId = record.eventId := by
  unfold touched
  split
  · exact attempt_eventId pass publish record
  · rfl

theorem Keyed.step (keyed : Keyed outbox) : Keyed (step publish batchSize outbox pass) := by
  have ids : (Starvation.step publish batchSize outbox pass).map (·.eventId) =
      outbox.map (·.eventId) := by
    rw [step_eq, List.map_map]
    exact List.map_congr_left fun record _ => touched_eventId pass record
  rw [Keyed, ids]
  exact keyed

/-- A record is attempted exactly if it was selected. -/
theorem mem_selected_iff (keyed : Keyed outbox) {record : OutboxEventRecord}
    (mem : record ∈ outbox) :
    record.eventId ∈ (pass.selected batchSize outbox).map (·.eventId) ↔
      record ∈ pass.selected batchSize outbox := by
  constructor
  · intro chosen
    obtain ⟨other, selected, sameId⟩ := List.mem_map.mp chosen
    have stored := (mem_of_selected pass selected).1
    obtain rfl := List.inj_on_of_nodup_map keyed stored mem sameId
    exact selected
  · exact fun selected => List.mem_map.mpr ⟨record, selected, rfl⟩

theorem touched_of_selected (keyed : Keyed outbox) {record : OutboxEventRecord}
    (selected : record ∈ pass.selected batchSize outbox) :
    touched publish batchSize outbox pass record = pass.attempt publish record :=
  if_pos ((mem_selected_iff pass keyed (mem_of_selected pass selected).1).mpr selected)

theorem touched_of_not_selected (keyed : Keyed outbox) {record : OutboxEventRecord}
    (mem : record ∈ outbox) (out : record ∉ pass.selected batchSize outbox) :
    touched publish batchSize outbox pass record = record :=
  if_neg (fun chosen => out ((mem_selected_iff pass keyed mem).mp chosen))

theorem mem_step_of_not_selected (keyed : Keyed outbox) {record : OutboxEventRecord}
    (mem : record ∈ outbox) (out : record ∉ pass.selected batchSize outbox) :
    record ∈ step publish batchSize outbox pass :=
  List.mem_map.mpr ⟨record, mem, touched_of_not_selected pass keyed mem out⟩

/-- A failing record stays as it is, but for its attempts, its error and its delay. -/
theorem touched_blocks (r record : OutboxEventRecord) :
    Blocks publish r (touched publish batchSize outbox pass record) = Blocks publish r record := by
  unfold touched
  split
  · have answers : fails publish (pass.attempt publish record) = fails publish record := by
      simp only [fails, attempt_message]
    cases failing : fails publish record with
    | false => simp [Blocks, answers, failing]
    | true =>
        obtain ⟨error, answer⟩ := fails_eq_true failing
        have kept := (attempt_of_error pass answer).1
        simp [Blocks, answers, failing, kept]
  · rfl

theorem countP_blocks_step (r : OutboxEventRecord) :
    (step publish batchSize outbox pass).countP (Blocks publish r) =
      outbox.countP (Blocks publish r) := by
  rw [step_eq, List.countP_map]
  exact List.countP_congr fun record _ => by simp [touched_blocks pass r record]

theorem deliverable_of_touched {record : OutboxEventRecord}
    (after : Deliverable publish (touched publish batchSize outbox pass record) = true) :
    Deliverable publish record = true := by
  unfold touched at after
  split at after
  · simp only [Deliverable, Bool.and_eq_true, decide_eq_true_eq, Bool.not_eq_true'] at after
    have succeeds : fails publish record = false := by
      simpa only [fails, attempt_message] using after.2
    have published := attempt_of_ok pass (fails_eq_false succeeds)
    rw [published] at after
    cases after.1
  · exact after

/-- A published record stays published. -/
theorem Confirmed.step (keyed : Keyed outbox) {eventId : String}
    (confirmed : Confirmed eventId outbox) :
    Confirmed eventId (step publish batchSize outbox pass) := by
  obtain ⟨record, mem, sameId, published⟩ := confirmed
  have out : record ∉ pass.selected batchSize outbox := by
    intro selected
    have due := (mem_of_selected pass selected).2
    simp [OutboxEventRecord.due, published] at due
  exact ⟨record, mem_step_of_not_selected pass keyed mem out, sameId, published⟩

end Pass

/-! ## Few failing records -/

section Progress

variable {publish : Publisher} {batchSize : Nat} {outbox : List OutboxEventRecord}
  {r : OutboxEventRecord}

theorem Confirmed.exec (keyed : Keyed outbox) {eventId : String}
    (confirmed : Confirmed eventId outbox) (passes : List Pass) :
    Confirmed eventId (exec (Starvation.step publish batchSize) outbox passes) := by
  have keep : ∀ table pass, Keyed table ∧ Confirmed eventId table → True →
      Keyed (Starvation.step publish batchSize table pass) ∧
        Confirmed eventId (Starvation.step publish batchSize table pass) :=
    fun _ pass held _ => ⟨held.1.step pass, held.2.step pass held.1⟩
  exact (exec_invariant keep ⟨keyed, confirmed⟩ (admissible_true _ _)).2

/-- A pass that leaves the waiting record out publishes another one. -/
theorem fewer_deliverable (keyed : Keyed outbox) (mem : r ∈ outbox) (pass : Pass)
    (due : r.due pass.now = true) (few : outbox.countP (Blocks publish r) < batchSize)
    (out : r ∉ pass.selected batchSize outbox) :
    (step publish batchSize outbox pass).countP (Deliverable publish) <
      outbox.countP (Deliverable publish) := by
  obtain ⟨full, older⟩ := not_mem_batch pass.older (List.mem_filter.mpr ⟨mem, due⟩) out
  -- the batch is full of records no younger than `r`, and they cannot all be failing
  have failing : (pass.selected batchSize outbox).countP (Blocks publish r) ≤
      outbox.countP (Blocks publish r) :=
    le_trans (countP_batch_le _ _) List.filter_sublist.countP_le
  have short : (pass.selected batchSize outbox).countP (Blocks publish r) <
      (pass.selected batchSize outbox).length := by
    rw [Pass.selected, full]
    exact lt_of_le_of_lt failing few
  obtain ⟨record, selected, passes⟩ := List.countP_lt_length_iff.mp short
  obtain ⟨stored, recordDue⟩ := mem_of_selected pass selected
  have pending : record.status = .pending := by
    simp only [OutboxEventRecord.due, Bool.and_eq_true, decide_eq_true_eq] at recordDue
    exact recordDue.1
  have order : record.occurredAt ≤ r.occurredAt := by
    rcases older record selected with younger | ⟨same, -⟩
    · exact le_of_lt younger
    · exact le_of_eq same
  have succeeds : fails publish record = false := by
    simpa [Blocks, pending, order] using passes
  have published : (touched publish batchSize outbox pass record).status = .published := by
    rw [touched_of_selected pass keyed selected]
    exact attempt_of_ok pass (fails_eq_false succeeds)
  rw [step_eq, List.countP_map]
  refine countP_lt_of_dropped (fun _ _ => deliverable_of_touched pass) stored ?_ ?_
  · simp [Deliverable, pending, succeeds]
  · simp [Deliverable, published]

/-- **With fewer than a batch of failing records before it, a record is published in
as many passes as there are records that can be.** -/
theorem confirmed_of_few (keyed : Keyed outbox) (mem : r ∈ outbox) (pending : r.status = .pending)
    (succeeds : fails publish r = false) (few : outbox.countP (Blocks publish r) < batchSize)
    {passes : List Pass} (enough : outbox.countP (Deliverable publish) ≤ passes.length)
    (available : ∀ pass ∈ passes, r.availableAt ≤ pass.now) :
    Confirmed r.eventId (exec (step publish batchSize) outbox passes) := by
  induction passes generalizing outbox with
  | nil =>
      have counted : 0 < outbox.countP (Deliverable publish) :=
        List.countP_pos_iff.mpr ⟨r, mem, by simp [Deliverable, pending, succeeds]⟩
      simp only [List.length_nil] at enough
      omega
  | cons pass rest ih =>
      rw [exec_cons]
      by_cases selected : r ∈ pass.selected batchSize outbox
      · have attempted : touched publish batchSize outbox pass r = pass.attempt publish r :=
          touched_of_selected pass keyed selected
        have confirmed : Confirmed r.eventId (step publish batchSize outbox pass) := by
          refine ⟨pass.attempt publish r, ?_, attempt_eventId pass publish r,
            attempt_of_ok pass (fails_eq_false succeeds)⟩
          exact List.mem_map.mpr ⟨r, mem, attempted⟩
        exact confirmed.exec (keyed.step pass) rest
      · have due : r.due pass.now = true := by
          simp [OutboxEventRecord.due, pending, available pass List.mem_cons_self]
        have fewer := fewer_deliverable keyed mem pass due few selected
        have still : (step publish batchSize outbox pass).countP (Blocks publish r) <
            batchSize := by
          rw [countP_blocks_step]
          exact few
        refine ih (keyed.step pass) (mem_step_of_not_selected pass keyed mem selected) still ?_
          (fun later member => available later (List.mem_cons_of_mem _ member))
        rw [List.length_cons] at enough
        omega

end Progress

/-! ## A batch of failing records -/

section Starved

variable {publish : Publisher} {batchSize : Nat} {outbox : List OutboxEventRecord}
  {r : OutboxEventRecord}

/-- A pass at the given time that takes `r` last among the records of its age. -/
def lastPass (r : OutboxEventRecord) (now : Instant) : Pass where
  now
  confirmedAt _ := now
  tie eventId := if eventId = r.eventId then 1 else 0

/-- Passes one minute apart. -/
def minutePasses (r : OutboxEventRecord) : Instant → Nat → List Pass
  | _, 0 => []
  | now, n + 1 => lastPass r now :: minutePasses r (now + seconds 60) n

/-- The failing records ahead of `r` fill a batch and are all due. -/
structure Stuck (publish : Publisher) (batchSize : Nat) (r : OutboxEventRecord) (now : Instant)
    (outbox : List OutboxEventRecord) : Prop where
  keyed : Keyed outbox
  mem : r ∈ outbox
  full : batchSize ≤ outbox.countP (Blocks publish r)
  due : ∀ record ∈ outbox, Blocks publish r record = true → record.availableAt ≤ now

theorem seconds_nonneg {n : Int} (nonneg : 0 ≤ n) : 0 ≤ seconds n := by
  unfold seconds
  omega

theorem Stuck.not_selected {now : Instant} (stuck : Stuck publish batchSize r now outbox)
    (succeeds : fails publish r = false) :
    r ∉ (lastPass r now).selected batchSize outbox := by
  have strict : ∀ record ∈ outbox.filter fun record => record.due (lastPass r now).now,
      Blocks publish r record = true → ¬ (lastPass r now).older r record := by
    intro record member blocks behind
    have stored : record ∈ outbox := (List.mem_filter.mp member).1
    simp only [Blocks, Bool.and_eq_true, decide_eq_true_eq] at blocks
    have other : record.eventId ≠ r.eventId := by
      intro sameId
      obtain rfl := List.inj_on_of_nodup_map stuck.keyed stored stuck.mem sameId
      rw [succeeds] at blocks
      cases blocks.1.2
    rcases behind with younger | ⟨-, tie⟩
    · exact absurd younger (not_lt.mpr blocks.2)
    · simp [lastPass, other] at tie
  -- every record that blocks is due
  have all : (outbox.filter fun record => record.due (lastPass r now).now).countP
      (Blocks publish r) = outbox.countP (Blocks publish r) := by
    rw [List.countP_filter]
    refine List.countP_congr fun record stored => ?_
    constructor
    · intro both
      exact (Bool.and_eq_true _ _ ▸ both).1
    · intro blocks
      have available := stuck.due record stored blocks
      simp only [Blocks, Bool.and_eq_true, decide_eq_true_eq] at blocks
      simp [Blocks, blocks, OutboxEventRecord.due, lastPass, available]
  apply not_mem_of_le_ahead _ strict
  rw [all]
  exact stuck.full

theorem Stuck.step {now : Instant} (stuck : Stuck publish batchSize r now outbox)
    (succeeds : fails publish r = false) :
    Stuck publish batchSize r (now + seconds 60)
      (step publish batchSize outbox (lastPass r now)) where
  keyed := stuck.keyed.step _
  mem := mem_step_of_not_selected _ stuck.keyed stuck.mem (stuck.not_selected succeeds)
  full := by
    rw [countP_blocks_step]
    exact stuck.full
  due := by
    intro record member blocks
    obtain ⟨before, stored, rfl⟩ := List.mem_map.mp member
    have blocked : Blocks publish r before = true := by
      rw [← touched_blocks (lastPass r now) r before]
      exact blocks
    by_cases selected : before ∈ (lastPass r now).selected batchSize outbox
    · have failing : fails publish before = true := by
        simp only [Blocks, Bool.and_eq_true, decide_eq_true_eq] at blocked
        exact blocked.1.2
      obtain ⟨error, answer⟩ := fails_eq_true failing
      have attempted : touched publish batchSize outbox (lastPass r now) before =
          (lastPass r now).attempt publish before :=
        touched_of_selected _ stuck.keyed selected
      show (touched publish batchSize outbox (lastPass r now) before).availableAt ≤ _
      rw [attempted]
      exact (attempt_of_error (lastPass r now) answer).2
    · have kept : touched publish batchSize outbox (lastPass r now) before = before :=
        touched_of_not_selected _ stuck.keyed stored selected
      show (touched publish batchSize outbox (lastPass r now) before).availableAt ≤ _
      rw [kept]
      exact le_trans (stuck.due before stored blocked)
        (Int.le_add_of_nonneg_right (seconds_nonneg (by decide)))

theorem Stuck.exec {now : Instant} (stuck : Stuck publish batchSize r now outbox)
    (succeeds : fails publish r = false) (n : Nat) :
    ∃ later, Stuck publish batchSize r later
      (exec (Starvation.step publish batchSize) outbox (minutePasses r now n)) := by
  induction n generalizing now outbox with
  | zero => exact ⟨now, stuck⟩
  | succ n ih => exact ih (stuck.step succeeds)

theorem Stuck.not_confirmed {now : Instant} (stuck : Stuck publish batchSize r now outbox)
    (pending : r.status = .pending) : ¬ Confirmed r.eventId outbox := by
  rintro ⟨record, mem, sameId, published⟩
  obtain rfl := List.inj_on_of_nodup_map stuck.keyed mem stuck.mem sameId
  rw [pending] at published
  cases published

/-! ### The passes -/

theorem le_of_mem_minutePasses {now : Instant} {n : Nat} {pass : Pass}
    (mem : pass ∈ minutePasses r now n) : now ≤ pass.now := by
  induction n generalizing now with
  | zero => cases mem
  | succ n ih =>
      rcases List.mem_cons.mp mem with rfl | later
      · exact le_refl _
      · exact le_trans (Int.le_add_of_nonneg_right (seconds_nonneg (by decide))) (ih later)

theorem minutePasses_sorted (now : Instant) (n : Nat) :
    (minutePasses r now n).Pairwise (fun earlier later => earlier.now ≤ later.now) := by
  induction n generalizing now with
  | zero => exact .nil
  | succ n ih =>
      refine .cons ?_ (ih _)
      intro pass member
      exact le_trans (Int.le_add_of_nonneg_right (seconds_nonneg (by decide)))
        (le_of_mem_minutePasses member)

theorem length_minutePasses (now : Instant) (n : Nat) : (minutePasses r now n).length = n := by
  induction n generalizing now with
  | zero => rfl
  | succ n ih => rw [minutePasses, List.length_cons, ih]

/-- A time at which every record is available. -/
theorem exists_all_available (outbox : List OutboxEventRecord) :
    ∃ now : Instant, ∀ record ∈ outbox, record.availableAt ≤ now := by
  induction outbox with
  | nil => exact ⟨0, fun _ member => by cases member⟩
  | cons record rest ih =>
      obtain ⟨now, available⟩ := ih
      refine ⟨max record.availableAt now, ?_⟩
      intro other member
      rcases List.mem_cons.mp member with rfl | inRest
      · exact le_max_left _ _
      · exact le_trans (available other inRest) (le_max_right _ _)

end Starved

/-- **A record is published, whatever the passes, exactly if fewer than a batch of
failing records are at least as old.** -/
theorem published_iff {publish : Publisher} {batchSize : Nat} {outbox : List OutboxEventRecord}
    {r : OutboxEventRecord} (keyed : Keyed outbox) (mem : r ∈ outbox)
    (pending : r.status = .pending) (succeeds : fails publish r = false) :
    Published publish batchSize r outbox ↔ outbox.countP (Blocks publish r) < batchSize := by
  constructor
  · intro published
    by_contra many
    obtain ⟨now, available⟩ := exists_all_available outbox
    have stuck : Stuck publish batchSize r now outbox :=
      ⟨keyed, mem, Nat.le_of_not_lt many, fun record stored _ => available record stored⟩
    obtain ⟨later, still⟩ := stuck.exec succeeds (outbox.length + 1)
    have passes : outbox.length < (minutePasses r now (outbox.length + 1)).length := by
      rw [length_minutePasses]
      omega
    refine still.not_confirmed pending (published _ passes (minutePasses_sorted _ _) ?_)
    intro pass member
    exact le_trans (available r mem) (le_of_mem_minutePasses member)
  · intro few passes enough _ available
    refine confirmed_of_few keyed mem pending succeeds few ?_ available
    have all : outbox.countP (Deliverable publish) ≤ outbox.length := List.countP_le_length
    omega

/-! ## One failing record and a batch of one -/

namespace Sample

/-- The broker takes profile events and returns everything else. -/
def publish : Publisher := fun message =>
  if message.routingKey = "account.profile.updated" then .ok ()
  else .error "NO_ROUTE"

def failing : OutboxEventRecord := outboxRecord {
  eventType := "brokerage.account.connection-linked"
  aggregateId := "3a702bf2-f2ae-5f31-adbd-91fb90161447"
  routingKey := "brokerage.account.connection-linked"
  payload := []
  eventId := "4a1fb8bc-c45f-42cc-8a49-30ec6f436f53"
  occurredAt := 0 }

def waiting : OutboxEventRecord := outboxRecord {
  eventType := "account.profile.updated"
  aggregateId := "8e0228d4-762a-4ccf-90f9-fd8db616364f"
  routingKey := "account.profile.updated"
  payload := []
  eventId := "91d5b0a3-6c0e-4f0d-9a54-0f2f3f4b1c77"
  occurredAt := seconds 1 }

def outbox : List OutboxEventRecord := [failing, waiting]

theorem keyed : Keyed outbox := by
  show (["4a1fb8bc-c45f-42cc-8a49-30ec6f436f53", "91d5b0a3-6c0e-4f0d-9a54-0f2f3f4b1c77"] :
    List String).Nodup
  decide

theorem stuck : Stuck publish 1 waiting (seconds 1) outbox where
  keyed := keyed
  mem := by simp [outbox]
  full := by decide
  due := by
    intro record member _
    simp only [outbox, List.mem_cons, List.not_mem_nil, or_false] at member
    rcases member with rfl | rfl
    · decide
    · decide

/-- Three passes, one minute apart, do not get round to the second of two records. -/
theorem failing_record_starves :
    Keyed outbox ∧ waiting ∈ outbox ∧ waiting.status = .pending ∧
      fails publish waiting = false ∧ fails publish failing = true ∧
      outbox.length < (minutePasses waiting (seconds 1) 3).length ∧
      ¬ Confirmed waiting.eventId
        (exec (step publish 1) outbox (minutePasses waiting (seconds 1) 3)) ∧
      ¬ Published publish 1 waiting outbox := by
  have succeeds : fails publish waiting = false := rfl
  have passes : outbox.length < (minutePasses waiting (seconds 1) 3).length := by decide
  obtain ⟨later, still⟩ := stuck.exec succeeds 3
  have unpublished := still.not_confirmed rfl
  refine ⟨keyed, stuck.mem, rfl, succeeds, rfl, passes, unpublished, ?_⟩
  intro published
  apply unpublished
  apply published _ passes (minutePasses_sorted _ _)
  intro pass member
  have available : waiting.availableAt ≤ seconds 1 := by decide
  exact le_trans available (le_of_mem_minutePasses member)

/-- A batch of two has room for both. -/
theorem batch_of_two_publishes :
    Keyed outbox ∧ waiting ∈ outbox ∧ waiting.status = .pending ∧
      fails publish waiting = false ∧ Published publish 2 waiting outbox := by
  have few : outbox.countP (Blocks publish waiting) < 2 := by decide
  exact ⟨keyed, stuck.mem, rfl, rfl, (published_iff keyed stuck.mem rfl rfl).mpr few⟩

end Sample

end KisAutoTrading.Outbox.Starvation
