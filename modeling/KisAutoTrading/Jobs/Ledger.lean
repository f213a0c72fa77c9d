/-
# Jobs.Ledger — job rows and the events that go with them

What the job table and the outbox say about each other, whoever writes them.
`StoreStep` lists everything the repository can do to the two: nothing, insert a
requested job with its event, or move a job along an `Edge` with its announcement.
`JobInv` follows from that list alone: one row and one requested event per job type
and run key, and the announcements of a job are exactly the moves that lead to its
status (`history`).
-/
import KisAutoTrading.Routers.DurableJobs

namespace KisAutoTrading.Jobs

open Theory

set_option autoImplicit false

/-! ## Statuses and events -/

/-- The moves of a job's status. -/
def Edge : DurableJobStatus → DurableJobStatus → Bool
  | .requested, .running => true
  | .requested, .cancelled => true
  | .running, .succeeded => true
  | .running, .failed => true
  | _, _ => false

/-- The moves that lead to a status, which only one way does. -/
def history : DurableJobStatus → List DurableJobStatus
  | .requested => []
  | .running => [.running]
  | .succeeded => [.running, .succeeded]
  | .failed => [.running, .failed]
  | .cancelled => [.cancelled]

theorem history_edge {old new : DurableJobStatus} (edge : Edge old new = true) :
    history new = history old ++ [new] := by
  revert edge
  cases old <;> cases new <;> decide

/-- A text field of a payload. -/
def textField (payload : Dict) (key : String) : Option String :=
  match payload.get key with
  | some (.str text) => some text
  | _ => none

/-- The requested events of a job type and run key. -/
def requestedEvents (store : AutomationStore) (jobType runKey : String) : List EventMessage :=
  store.events.filter fun message =>
    textField message.payload "job_type" = some jobType ∧
      textField message.payload "run_key" = some runKey

/-- The statuses announced for a job, in order. -/
def announced (store : AutomationStore) (jobId : String) : List (Option String) :=
  (store.events.filter fun message =>
    message.eventType = jobStatusEventType ∧ message.aggregateId = jobId).map
      fun message => textField message.payload "status"

def statusOf (store : AutomationStore) (jobId : String) : Option DurableJobStatus :=
  (store.durableJobs.find jobId).map (·.status)

/-! ## The store -/

/-- Everything a step can do to the jobs and their events. -/
inductive StoreStep (store store' : AutomationStore) : Prop where
  | quiet (jobs : store'.durableJobs = store.durableJobs) (events : store'.events = store.events)
  | requested (definition : DurableJobDefinition) (job : DurableJobRecord) (eventId : String)
      (now : Instant) (defined : jobDefinition job.jobType = some definition)
      (unused : store.jobFor job.jobType job.runKey = none)
      (fresh : store.durableJobs.find job.jobId = none) (status : job.status = .requested)
      (jobs : ∀ id, store'.durableJobs.find id =
        if id = job.jobId then some job else store.durableJobs.find id)
      (events : store'.events = store.events ++
        [jobRequestMessage definition job.jobId job.runKey job.payload eventId now])
  | moved (job : DurableJobRecord) (status : DurableJobStatus) (result : Option Dict)
      (error : Option String) (eventId : String) (now : Instant)
      (found : store.durableJobs.find job.jobId = some job) (edge : Edge job.status status = true)
      (jobs : ∀ id, store'.durableJobs.find id =
        if id = job.jobId then some { job with status, result, error, updatedAt := now }
        else store.durableJobs.find id)
      (events : store'.events = store.events ++
        [jobStatusMessage job.jobId status result error eventId now])

/-- An event is the request of a stored job, or announces a status of one. -/
def Describes (store : AutomationStore) (message : EventMessage) : Prop :=
  (∃ definition job eventId now, store.durableJobs.find job.jobId = some job ∧
    jobDefinition job.jobType = some definition ∧
    message = jobRequestMessage definition job.jobId job.runKey job.payload eventId now) ∨
  ∃ job status result error eventId now, store.durableJobs.find job.jobId = some job ∧
    message = jobStatusMessage job.jobId status result error eventId now

structure JobInv (store : AutomationStore) : Prop where
  keyed : Table.Keyed (·.jobId) store.durableJobs
  unique : ∀ id job id' job', store.durableJobs.find id = some job →
    store.durableJobs.find id' = some job' → job.jobType = job'.jobType →
      job.runKey = job'.runKey → id = id'
  origin : ∀ message ∈ store.events, Describes store message
  requestedOnce : ∀ id job, store.durableJobs.find id = some job →
    ∃ message, requestedEvents store job.jobType job.runKey = [message] ∧
      message.aggregateId = id
  announcedOnce : ∀ id job, store.durableJobs.find id = some job →
    announced store id = (history job.status).map fun status => some status.value

section Store

variable {store store' : AutomationStore}

theorem textField_status (jobId : String) (status : DurableJobStatus) (result : Option Dict)
    (error : Option String) (eventId : String) (now : Instant) :
    textField (jobStatusMessage jobId status result error eventId now).payload "job_type" = none ∧
      textField (jobStatusMessage jobId status result error eventId now).payload "status" =
        some status.value := by
  constructor <;> cases result <;> cases error <;> rfl

theorem requestedEvents_append {message : EventMessage} (events : store'.events =
    store.events ++ [message]) (jobType runKey : String) :
    requestedEvents store' jobType runKey = requestedEvents store jobType runKey ++
      if textField message.payload "job_type" = some jobType ∧
          textField message.payload "run_key" = some runKey then [message] else [] := by
  simp only [requestedEvents, events, List.filter_append, List.filter_singleton,
    Bool.cond_decide]

theorem announced_append {message : EventMessage} (events : store'.events =
    store.events ++ [message]) (jobId : String) :
    announced store' jobId = announced store jobId ++
      if message.eventType = jobStatusEventType ∧ message.aggregateId = jobId then
        [textField message.payload "status"] else [] := by
  simp only [announced, events, List.filter_append, List.filter_singleton, Bool.cond_decide,
    List.map_append]
  split <;> rfl

/-- A type and run key without a job has no event. -/
theorem JobInv.requestedEvents_eq_nil (inv : JobInv store) {jobType runKey : String}
    (unused : store.jobFor jobType runKey = none) : requestedEvents store jobType runKey = [] := by
  rw [requestedEvents, List.filter_eq_nil_iff]
  intro message member matching
  simp only [decide_eq_true_eq] at matching
  rcases inv.origin message member with
    ⟨definition, job, eventId, now, found, defined, rfl⟩ | ⟨job, _, _, _, _, _, -, rfl⟩
  · refine AutomationStore.jobFor_eq_none unused found ⟨?_, ?_⟩
    · rw [← jobDefinition_name defined]
      exact Option.some.inj matching.1
    · exact Option.some.inj matching.2
  · rw [(textField_status _ _ _ _ _ _).1] at matching
    cases matching.1

/-- An id without a job has no announcement. -/
theorem JobInv.announced_eq_nil (inv : JobInv store) {jobId : String}
    (fresh : store.durableJobs.find jobId = none) : announced store jobId = [] := by
  rw [announced, List.map_eq_nil_iff, List.filter_eq_nil_iff]
  intro message member matching
  simp only [decide_eq_true_eq] at matching
  rcases inv.origin message member with
    ⟨definition, job, eventId, now, found, defined, rfl⟩ | ⟨job, _, _, _, _, _, found, rfl⟩
  · exact jobDefinition_eventType_ne defined matching.1
  · rw [show job.jobId = jobId from matching.2, fresh] at found
    cases found

/-- A stored job keeps its identity, and its status stays or takes one edge. -/
theorem StoreStep.status (stepped : StoreStep store store') {id : String}
    {job : DurableJobRecord} (found : store.durableJobs.find id = some job) :
    ∃ job', store'.durableJobs.find id = some job' ∧ job'.jobId = job.jobId ∧
      job'.jobType = job.jobType ∧ job'.runKey = job.runKey ∧ job'.payload = job.payload ∧
      (job'.status = job.status ∨ Edge job.status job'.status = true) := by
  cases stepped with
  | quiet jobs _ => exact ⟨job, by rw [jobs]; exact found, rfl, rfl, rfl, rfl, .inl rfl⟩
  | requested _ other _ _ _ _ fresh _ jobs _ =>
      refine ⟨job, ?_, rfl, rfl, rfl, rfl, .inl rfl⟩
      rw [jobs, if_neg]
      · exact found
      · rintro rfl
        rw [fresh] at found
        cases found
  | moved other status result error _ now here edge jobs _ =>
      by_cases same : id = other.jobId
      · subst same
        rw [here] at found
        cases found
        exact ⟨_, (jobs _).trans (if_pos rfl), rfl, rfl, rfl, rfl, .inr edge⟩
      · exact ⟨job, by rw [jobs, if_neg same]; exact found, rfl, rfl, rfl, rfl, .inl rfl⟩

/-- A stored job was stored before with the same type and key, or is the new one. -/
theorem StoreStep.before (stepped : StoreStep store store') {id : String}
    {job : DurableJobRecord} (found : store'.durableJobs.find id = some job) :
    (∃ old, store.durableJobs.find id = some old ∧ old.jobType = job.jobType ∧
      old.runKey = job.runKey ∧ (old.jobId = id → job.jobId = id)) ∨
    store.jobFor job.jobType job.runKey = none ∧ store.durableJobs.find id = none ∧
      job.jobId = id ∧ job.status = .requested := by
  cases stepped with
  | quiet jobs _ => exact .inl ⟨job, by rw [← jobs]; exact found, rfl, rfl, fun same => same⟩
  | requested _ new _ _ _ unused fresh status jobs _ =>
      rw [jobs] at found
      split at found
      · rename_i same
        cases found
        exact .inr ⟨unused, same ▸ fresh, same.symm, status⟩
      · exact .inl ⟨job, found, rfl, rfl, fun same => same⟩
  | moved old _ _ _ _ _ here _ jobs _ =>
      rw [jobs] at found
      split at found
      · rename_i same
        cases found
        exact .inl ⟨old, same ▸ here, rfl, rfl, fun key => key⟩
      · exact .inl ⟨job, found, rfl, rfl, fun same => same⟩

theorem JobInv.keyed_step (inv : JobInv store) (stepped : StoreStep store store') :
    Table.Keyed (·.jobId) store'.durableJobs := by
  intro id job found
  rcases stepped.before found with ⟨old, before, -, -, key⟩ | ⟨-, -, key, -⟩
  · exact key (inv.keyed id old before)
  · exact key

theorem JobInv.unique_step (inv : JobInv store) (stepped : StoreStep store store') {id id' : String}
    {job job' : DurableJobRecord} (found : store'.durableJobs.find id = some job)
    (found' : store'.durableJobs.find id' = some job') (types : job.jobType = job'.jobType)
    (keys : job.runKey = job'.runKey) : id = id' := by
  rcases stepped.before found with ⟨old, before, oldType, oldKey, -⟩ | ⟨unused, fresh, key, -⟩
  · rcases stepped.before found' with ⟨old', before', oldType', oldKey', -⟩ | ⟨unused', -, -, -⟩
    · exact inv.unique id old id' old' before before' (by rw [oldType, oldType', types])
        (by rw [oldKey, oldKey', keys])
    · exact absurd ⟨oldType.trans types, oldKey.trans keys⟩
        (AutomationStore.jobFor_eq_none unused' before)
  · rcases stepped.before found' with ⟨old', before', oldType', oldKey', -⟩ | ⟨-, fresh', key', -⟩
    · exact absurd ⟨oldType'.trans types.symm, oldKey'.trans keys.symm⟩
        (AutomationStore.jobFor_eq_none unused before')
    · -- Both are the one new job.
      cases stepped with
      | quiet jobs _ =>
          rw [jobs, fresh] at found
          cases found
      | requested _ new _ _ _ _ _ _ jobs _ =>
          have here : id = new.jobId := by
            by_contra other
            rw [jobs, if_neg other, fresh] at found
            cases found
          have here' : id' = new.jobId := by
            by_contra other
            rw [jobs, if_neg other, fresh'] at found'
            cases found'
          rw [here, here']
      | moved old _ _ _ _ _ here _ jobs _ =>
          have same : id = old.jobId := by
            by_contra other
            rw [jobs, if_neg other, fresh] at found
            cases found
          rw [same, here] at fresh
          cases fresh

theorem Describes.step (stepped : StoreStep store store') {message : EventMessage}
    (described : Describes store message) : Describes store' message := by
  rcases described with ⟨definition, job, eventId, now, found, defined, rfl⟩ |
    ⟨job, status, result, error, eventId, now, found, rfl⟩
  · obtain ⟨job', found', key, type, runKey, payload, -⟩ := stepped.status found
    refine .inl ⟨definition, job', eventId, now, ?_, ?_, ?_⟩
    · rw [key]
      exact found'
    · rw [type]
      exact defined
    · rw [key, runKey, payload]
  · obtain ⟨job', found', key, -⟩ := stepped.status found
    refine .inr ⟨job', status, result, error, eventId, now, ?_, ?_⟩
    · rw [key]
      exact found'
    · rw [key]

theorem JobInv.origin_step (inv : JobInv store) (stepped : StoreStep store store') :
    ∀ message ∈ store'.events, Describes store' message := by
  intro message member
  have carried : message ∈ store.events → Describes store' message :=
    fun old => (inv.origin message old).step stepped
  cases stepped with
  | quiet _ events =>
      rw [events] at member
      exact carried member
  | requested definition job eventId now defined _ _ _ jobs events =>
      rw [events] at member
      rcases List.mem_append.mp member with old | new
      · exact carried old
      · obtain rfl := List.mem_singleton.mp new
        exact .inl ⟨definition, job, eventId, now, (jobs _).trans (if_pos rfl), defined, rfl⟩
  | moved job status result error eventId now _ _ jobs events =>
      rw [events] at member
      rcases List.mem_append.mp member with old | new
      · exact carried old
      · obtain rfl := List.mem_singleton.mp new
        exact .inr ⟨{ job with status, result, error, updatedAt := now }, status, result, error,
          eventId, now, (jobs _).trans (if_pos rfl), rfl⟩

theorem JobInv.requestedOnce_step (inv : JobInv store) (stepped : StoreStep store store')
    {id : String} {job : DurableJobRecord} (found : store'.durableJobs.find id = some job) :
    ∃ message, requestedEvents store' job.jobType job.runKey = [message] ∧
      message.aggregateId = id := by
  rcases stepped.before found with ⟨old, before, type, runKey, -⟩ | ⟨unused, fresh, key, -⟩
  · obtain ⟨message, single, names⟩ := inv.requestedOnce id old before
    rw [type, runKey] at single
    refine ⟨message, ?_, names⟩
    cases stepped with
    | quiet _ events =>
        rw [requestedEvents, events]
        exact single
    | requested definition new eventId now defined unused _ _ _ events =>
        rw [requestedEvents_append events, single, if_neg, List.append_nil]
        rintro ⟨newType, newKey⟩
        refine AutomationStore.jobFor_eq_none unused before ⟨?_, ?_⟩
        · rw [type, ← jobDefinition_name defined]
          exact (Option.some.inj newType).symm
        · rw [runKey]
          exact (Option.some.inj newKey).symm
    | moved _ _ _ _ _ _ _ _ _ events =>
        rw [requestedEvents_append events, single, if_neg, List.append_nil]
        rw [(textField_status _ _ _ _ _ _).1]
        rintro ⟨⟨⟩, -⟩
  · have none := inv.requestedEvents_eq_nil unused
    cases stepped with
    | quiet jobs _ =>
        rw [jobs, fresh] at found
        cases found
    | requested definition new eventId now defined _ _ _ jobs events =>
        rw [jobs] at found
        split at found
        · rename_i here
          cases found
          refine ⟨jobRequestMessage definition job.jobId job.runKey job.payload eventId now, ?_,
            here.symm⟩
          rw [requestedEvents_append events, none, if_pos, List.nil_append]
          exact ⟨congrArg some (jobDefinition_name defined), rfl⟩
        · rw [fresh] at found
          cases found
    | moved old _ _ _ _ _ here _ jobs _ =>
        rw [jobs] at found
        split at found
        · rename_i same
          rw [same, here] at fresh
          cases fresh
        · rw [fresh] at found
          cases found

theorem JobInv.announcedOnce_step (inv : JobInv store) (stepped : StoreStep store store')
    {id : String} {job : DurableJobRecord} (found : store'.durableJobs.find id = some job) :
    announced store' id = (history job.status).map fun status => some status.value := by
  cases stepped with
  | quiet jobs events =>
      rw [jobs] at found
      rw [announced, events]
      exact inv.announcedOnce id job found
  | requested definition new eventId now defined _ fresh status jobs events =>
      have other : ¬ (definition.eventType = jobStatusEventType ∧ new.jobId = id) :=
        fun clash => jobDefinition_eventType_ne defined clash.1
      rw [announced_append events]
      simp only [jobRequestMessage, other, if_false, List.append_nil]
      rw [jobs] at found
      split at found
      · rename_i here
        cases found
        rw [here, inv.announced_eq_nil fresh, status]
        rfl
      · exact inv.announcedOnce id job found
  | moved old status result error eventId now here edge jobs events =>
      rw [announced_append events]
      rw [jobs] at found
      split at found
      · rename_i same
        cases found
        rw [if_pos ⟨rfl, same.symm⟩, same, inv.announcedOnce _ old here, history_edge edge,
          List.map_append, (textField_status _ _ _ _ _ _).2]
        rfl
      · rename_i different
        rw [if_neg, List.append_nil]
        · exact inv.announcedOnce id job found
        · exact fun clash => different clash.2.symm

theorem jobInv_step (inv : JobInv store) (stepped : StoreStep store store') : JobInv store' :=
  ⟨inv.keyed_step stepped, fun _ _ _ _ => inv.unique_step stepped, inv.origin_step stepped,
    fun _ _ => inv.requestedOnce_step stepped, fun _ _ => inv.announcedOnce_step stepped⟩

theorem jobInv_empty : JobInv .empty := by
  refine ⟨Table.keyed_empty _, ?_, ?_, ?_, ?_⟩
  · intro id job id' job' found
    simp [AutomationStore.empty] at found
  · intro message member
    simp [AutomationStore.empty, AutomationStore.events] at member
  · intro id job found
    simp [AutomationStore.empty] at found
  · intro id job found
    simp [AutomationStore.empty] at found

/-! ## The repository and the routes -/

/-- The store after a request, which rolls back when it raises. -/
def committed (store : AutomationStore) :
    Except Failure (DurableJobRequestResult × AutomationStore) → AutomationStore
  | .ok (_, store') => store'
  | .error _ => store

theorem request_storeStep (jobType runKey : String) (payload : Dict)
    (availableAt : Option Instant) (jobId eventId : String) (now : Instant)
    (store : AutomationStore) :
    StoreStep store
      (committed store (requestJob jobType runKey payload availableAt jobId eventId now store)) := by
  rcases request_cases jobType runKey payload availableAt jobId eventId now store with
    ⟨failure, raised⟩ | ⟨existing, -, found⟩ | ⟨definition, defined, unused, fresh, inserted⟩
  · rw [raised]
    exact .quiet rfl rfl
  · rw [found]
    exact .quiet rfl rfl
  · rw [inserted]
    exact .requested definition
      { jobId, jobType, runKey, status := .requested, payload, requestedAt := now, updatedAt := now }
      eventId now defined unused fresh rfl (fun id => AutomationStore.find_insertJob _ _ _ id)
      (AutomationStore.events_insertJob _ _ _)

theorem moveJob_storeStep {job : DurableJobRecord}
    (found : store.durableJobs.find job.jobId = some job) {status : DurableJobStatus}
    (edge : Edge job.status status = true) (result : Option Dict) (error : Option String)
    (eventId : String) (now : Instant) :
    StoreStep store (store.moveJob job status result error eventId now) :=
  .moved job status result error eventId now found edge
    (fun id => AutomationStore.find_insertJob _ _ _ id) (AutomationStore.events_insertJob _ _ _)

theorem statusOf_moveJob (store : AutomationStore) (job : DurableJobRecord)
    (status : DurableJobStatus) (result : Option Dict) (error : Option String) (eventId : String)
    (now : Instant) (id : String) :
    statusOf (store.moveJob job status result error eventId now) id =
      if id = job.jobId then some status else statusOf store id := by
  simp only [statusOf, AutomationStore.moveJob, AutomationStore.find_insertJob]
  split <;> rfl

/-- A transition along an edge: it moves the job and reports it, or does nothing. -/
theorem transition_step (inv : JobInv store) (jobId : String) (expected status : DurableJobStatus)
    (edge : Edge expected status = true) (result : Option Dict) (error : Option String)
    (eventId : String) (now : Instant) :
    (∃ store', transition jobId expected status result error eventId now store = (true, store') ∧
      StoreStep store store' ∧ statusOf store jobId = some expected ∧
      ∀ id, statusOf store' id = if id = jobId then some status else statusOf store id) ∨
    transition jobId expected status result error eventId now store = (false, store) ∧
      statusOf store jobId ≠ some expected := by
  rcases transition_cases jobId expected status result error eventId now store with
    ⟨job, found, here, moved⟩ | ⟨elsewhere, same⟩
  · obtain rfl : job.jobId = jobId := inv.keyed _ _ found
    subst here
    refine .inl ⟨_, moved, moveJob_storeStep found edge result error eventId now, ?_, ?_⟩
    · rw [statusOf, found]
      rfl
    · exact statusOf_moveJob store job status result error eventId now
  · refine .inr ⟨same, ?_⟩
    intro expectedHere
    obtain ⟨job, found, status⟩ := Option.map_eq_some_iff.mp expectedHere
    exact elsewhere job found status

end Store

end KisAutoTrading.Jobs
