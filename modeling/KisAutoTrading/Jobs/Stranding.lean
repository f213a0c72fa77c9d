/-
# Jobs.Stranding — durable jobs, the broker and workers that stop

The job system of `Jobs.StateMachine` with the path a job's message takes: from the
outbox through the relay into the work queue, to one handling that holds it
unacknowledged, and then away (acknowledged), to the dead-letter queue (rejected), or
back into the queue when the process stops. The relay may also publish and fail to
record it, so messages are repeated.

`Movable` says that something can still move a job on. A stop between a handling's
claim and its final transition breaks it: the message comes back, its claim fails
because the job is already running, and it is acknowledged
(`stopped_worker_strands_job`). `no_stranded_job` is the invariant without such
stops: a requested job has a message waiting, a running job a handling that executes
it or a dead letter.
-/
import KisAutoTrading.Jobs.StateMachine

namespace KisAutoTrading.Jobs.Stranding

open Theory Theory.Runs
open StateMachine (Worker Final)

set_option autoImplicit false

structure State where
  jobs : StateMachine.State
  queue : List EventMessage
  deadLetters : List EventMessage
  /-- The delivery a handling has not acknowledged yet. -/
  held : Nat → Option EventMessage

def State.empty : State := ⟨.empty, [], [], fun _ => none⟩

inductive Action where
  /-- A request to the job routes, or one made by a job handler. -/
  | api (a : StateMachine.Action)
  /-- The relay publishes the record at a position, and records it or not. -/
  | relay (index : Nat) (now : Instant) (recorded : Bool)
  | receive (worker : Nat) (index : Nat)
  | claim (worker : Nat) (eventId : String) (now : Instant)
  | work (worker : Nat) (a : StateMachine.Action)
  /-- A database error in a transaction of the handling: its message is rejected. -/
  | databaseError (worker : Nat)
  /-- The handling is over: its message is acknowledged or rejected. -/
  | settle (worker : Nat)
  | stop (worker : Nat)

def isApi : StateMachine.Action → Bool
  | .trigger _ _ _ _ _ => true
  | .request _ _ _ _ _ _ _ => true
  | .cancelRead _ _ _ => true
  | .cancelUpdate _ _ _ => true
  | .cancelReread _ => true
  | _ => false

/-- The steps of a handling after its claim. -/
def isWork (worker : Nat) : StateMachine.Action → Bool
  | .invoke w => w = worker
  | .handlerReturns w _ => w = worker
  | .handlerRaises w _ => w = worker
  | .complete w _ _ => w = worker
  | .fail w _ _ => w = worker
  | _ => false

/-- What becomes of the message of a handling that is over. -/
inductive Outcome where
  | acknowledged
  | rejected

def outcome : Worker → Option Outcome
  | .skipped => some .acknowledged
  | .completed => some .acknowledged
  | .rejected => some .rejected
  | .failed => some .rejected
  | .lost => some .rejected
  | _ => none

/-- The handling raises out of a transaction and its message is dead-lettered. -/
def State.reject (P : Platform) (s : State) (worker : Nat) (message : EventMessage) : State :=
  { s with
    jobs := StateMachine.step P s.jobs (.databaseError worker)
    deadLetters := s.deadLetters ++ [message]
    held := Function.update s.held worker none }

def step (P : Platform) (s : State) : Action → State
  | .api a => if isApi a then { s with jobs := StateMachine.step P s.jobs a } else s
  | .relay index now recorded =>
      match s.jobs.store.outbox[index]? with
      | some record =>
          if record.status = .pending ∧ record.routingKey ∈ durableJobEventTypes then
            { s with
              queue := s.queue ++ [record.message]
              jobs :=
                if recorded then StateMachine.step P s.jobs (.published index now) else s.jobs }
          else s
      | none => s
  | .receive worker index =>
      match s.jobs.workers worker, s.held worker, s.queue[index]? with
      | .idle, none, some message =>
          { s with
            queue := s.queue.eraseIdx index
            held := Function.update s.held worker (some message) }
      | _, _, _ => s
  | .claim worker eventId now =>
      match s.held worker with
      | some message =>
          { s with jobs := StateMachine.step P s.jobs (.claim worker message eventId now) }
      | none => s
  | .work worker a => if isWork worker a then { s with jobs := StateMachine.step P s.jobs a } else s
  | .databaseError worker =>
      match s.held worker, s.jobs.workers worker with
      | some message, .idle => State.reject P s worker message
      | some message, .returned _ _ => State.reject P s worker message
      | some message, .raised _ _ => State.reject P s worker message
      | _, _ => s
  | .settle worker =>
      match s.held worker, outcome (s.jobs.workers worker) with
      | some _, some .acknowledged => { s with held := Function.update s.held worker none }
      | some message, some .rejected =>
          { s with
            deadLetters := s.deadLetters ++ [message]
            held := Function.update s.held worker none }
      | _, _ => s
  | .stop worker =>
      { s with
        jobs := StateMachine.step P s.jobs (.stop worker)
        queue := s.queue ++ (s.held worker).toList
        held := Function.update s.held worker none }

def run (P : Platform) (trace : List Action) : State := exec (step P) .empty trace

/-- The message asks for the execution of the job. -/
def Carries (message : EventMessage) (id : String) : Prop :=
  message.eventType ≠ jobStatusEventType ∧ textField message.payload "job_id" = some id

/-- A message for the job has not been handled yet. -/
inductive Waiting (s : State) (id : String) : Prop where
  | outbox (record : OutboxEventRecord) (member : record ∈ s.jobs.store.outbox)
      (pending : record.status = .pending) (carries : Carries record.message id)
  | queue (message : EventMessage) (member : message ∈ s.queue) (carries : Carries message id)
  | deadLetter (message : EventMessage) (member : message ∈ s.deadLetters)
      (carries : Carries message id)
  /-- A live handling has received the message and will try to claim the job. -/
  | received (worker : Nat) (message : EventMessage) (held : s.held worker = some message)
      (idle : s.jobs.workers worker = .idle) (carries : Carries message id)

/-- A live handling has claimed the job and not settled it. -/
def Executing (s : State) (id : String) : Prop :=
  ∃ worker execution, (s.jobs.workers worker).executing = some execution ∧ execution.jobId = id

/-- Something can move the job on. -/
def Movable (s : State) (id : String) : Prop := Waiting s id ∨ Executing s id

/-- No requested or running job is stranded. -/
def NoneStranded (s : State) : Prop :=
  ∀ id, statusOf s.jobs.store id = some .requested ∨ statusOf s.jobs.store id = some .running →
    Movable s id

/-- No handling stops between its claim and its final transition. -/
def SettlesFirst (s : State) : Action → Prop
  | .stop worker => (s.jobs.workers worker).executing = none
  | _ => True

/-! ## Requests and handlings, seen from the store -/

/-- Records are added at the end and are pending. -/
def Appends (store store' : AutomationStore) : Prop :=
  ∃ extra, store'.outbox = store.outbox ++ extra ∧ ∀ record ∈ extra, record.status = .pending

section Store

variable {P : Platform} {store : AutomationStore}

theorem Appends.refl (store : AutomationStore) : Appends store store :=
  ⟨[], by simp, by simp⟩

theorem appends_insertJob (store : AutomationStore) (job : DurableJobRecord)
    (message : EventMessage) (availableAt : Option Instant) :
    Appends store (store.insertJob job (outboxRecord message availableAt)) := by
  refine ⟨[outboxRecord message availableAt], rfl, ?_⟩
  intro record member
  rw [List.mem_singleton.mp member]
  rfl

/-- What a request to the routes, or one by a handler, can do. -/
structure ApiStep (s s' : StateMachine.State) : Prop where
  appends : Appends s.store s'.store
  workers : s'.workers = s.workers
  statuses : ∀ id status, statusOf s'.store id = some status →
    statusOf s.store id = some status ∨
      statusOf s.store id = none ∧ status = .requested ∨ status = .cancelled

theorem ApiStep.refl (s : StateMachine.State) : ApiStep s s :=
  ⟨.refl _, rfl, fun _ _ found => .inl found⟩

theorem request_api (s : StateMachine.State) (jobType runKey : String) (payload : Dict)
    (availableAt : Option Instant) (jobId eventId : String) (now : Instant) :
    let result := requestJob jobType runKey payload availableAt jobId eventId now s.store
    ApiStep s { s with store := committed s.store result } := by
  intro result
  rcases request_cases jobType runKey payload availableAt jobId eventId now s.store with
    ⟨failure, raised⟩ | ⟨existing, -, found⟩ | ⟨definition, -, -, fresh, inserted⟩
  · rw [show result = _ from raised]
    exact .refl s
  · rw [show result = _ from found]
    exact .refl s
  · rw [show result = _ from inserted]
    refine ⟨appends_insertJob _ _ _ _, rfl, ?_⟩
    intro id status found
    simp only [committed, statusOf, AutomationStore.find_insertJob] at found
    split at found
    · rename_i here
      rw [here, statusOf, fresh]
      exact .inr (.inl ⟨rfl, (Option.some.inj found).symm⟩)
    · exact .inl found

theorem api_step {s : StateMachine.State} (inv : StateMachine.Inv s) {a : StateMachine.Action}
    (api : isApi a = true) : ApiStep s (StateMachine.step P s a) := by
  cases a with
  | trigger jobType request jobId eventId now =>
      simp only [StateMachine.step]
      rcases trigger_cases jobType request jobId eventId now s.store with ⟨failure, raised⟩ | same
      · rw [raised]
        exact .refl s
      · rw [same]
        exact request_api s _ _ _ _ _ _ _
  | request jobType runKey payload availableAt jobId eventId now =>
      exact request_api s jobType runKey payload availableAt jobId eventId now
  | cancelRead cancel jobType jobId =>
      simp only [StateMachine.step]
      split
      · split <;> exact ⟨.refl _, rfl, fun _ _ found => .inl found⟩
      · exact .refl s
  | cancelUpdate cancel eventId now =>
      simp only [StateMachine.step]
      split
      · rename_i jobId seen
        rcases cancelUpdate_cases jobId eventId now s.store inv.jobs.keyed with
          ⟨job, found, requested, updated⟩ | refused
        · rw [updated]
          refine ⟨appends_insertJob _ _ _ _, rfl, ?_⟩
          intro id status there
          simp only [StateMachine.State.answer, statusOf_moveJob] at there
          split at there
          · exact .inr (.inr (Option.some.inj there).symm)
          · exact .inl there
        · rw [refused]
          exact ⟨.refl _, rfl, fun _ _ found => .inl found⟩
      · exact .refl s
  | cancelReread cancel =>
      simp only [StateMachine.step]
      split
      · exact ⟨.refl _, rfl, fun _ _ found => .inl found⟩
      · exact .refl s
  | _ => cases api

theorem appends_transition (jobId : String) (expected status : DurableJobStatus)
    (result : Option Dict) (error : Option String) (eventId : String) (now : Instant)
    (store : AutomationStore) :
    Appends store (transition jobId expected status result error eventId now store).2 := by
  rcases transition_cases jobId expected status result error eventId now store with
    ⟨job, -, -, moved⟩ | ⟨-, same⟩
  · rw [moved]
    exact appends_insertJob _ _ _ _
  · rw [same]
    exact .refl store

/-- What a handling can do after its claim: go on, or settle its job for good. -/
structure WorkStep (s s' : StateMachine.State) : Prop where
  appends : Appends s.store s'.store
  idle : ∀ worker, s.workers worker = .idle → s'.workers worker = .idle
  begun : ∀ worker execution, (s'.workers worker).executing = some execution →
    (s.workers worker).executing = some execution
  statuses : ∀ id status, statusOf s'.store id = some status →
    statusOf s.store id = some status ∨ Final status
  settled : ∀ worker execution, (s.workers worker).executing = some execution →
    (s'.workers worker).executing = some execution ∨
      ∃ status, statusOf s'.store execution.jobId = some status ∧ Final status

/-- The handling goes on with the same job and the store is not touched. -/
theorem WorkStep.advance {s : StateMachine.State} {worker : Nat} {phase : Worker}
    (execution : DurableJobExecution) (before : (s.workers worker).executing = some execution)
    (after : phase.executing = some execution) (invoked : List String) :
    WorkStep s { s.enter worker phase with invoked } := by
  have same : ∀ w, ((s.enter worker phase).workers w).executing = (s.workers w).executing := by
    intro w
    rw [StateMachine.workers_enter]
    split
    · rename_i here
      rw [here, after, before]
    · rfl
  refine ⟨.refl _, ?_, fun w e executing => (same w).symm.trans executing,
    fun _ _ found => .inl found, fun w e executing => .inl ((same w).trans executing)⟩
  intro w idle
  change (s.enter worker phase).workers w = .idle
  rw [StateMachine.workers_enter, if_neg]
  · exact idle
  · rintro rfl
    rw [idle] at before
    cases before

/-- The handling settles its job. -/
theorem WorkStep.settle {s : StateMachine.State} {worker : Nat} {phase : Worker}
    {execution : DurableJobExecution} (before : (s.workers worker).executing = some execution)
    (after : phase.executing = none) {store' : AutomationStore} (appends : Appends s.store store')
    {status : DurableJobStatus} (final : Final status)
    (set : ∀ id, statusOf store' id =
      if id = execution.jobId then some status else statusOf s.store id) :
    WorkStep s ({ s with store := store' }.enter worker phase) := by
  refine ⟨appends, ?_, ?_, ?_, ?_⟩
  · intro w idle
    rw [StateMachine.workers_enter, if_neg]
    · exact idle
    · rintro rfl
      rw [idle] at before
      cases before
  · intro w e executing
    rw [StateMachine.workers_enter] at executing
    split at executing
    · rw [after] at executing
      cases executing
    · exact executing
  · intro id status' found
    simp only [StateMachine.State.enter, set] at found
    split at found
    · rw [← Option.some.inj found]
      exact .inr final
    · exact .inl found
  · intro w e executing
    by_cases here : w = worker
    · rw [here, before] at executing
      cases executing
      exact .inr ⟨status, (set _).trans (if_pos rfl), final⟩
    · refine .inl ?_
      rw [StateMachine.workers_enter, if_neg here]
      exact executing

theorem WorkStep.refl (s : StateMachine.State) : WorkStep s s :=
  ⟨.refl _, fun _ idle => idle, fun _ _ executing => executing, fun _ _ found => .inl found,
    fun _ _ executing => .inl executing⟩

theorem work_step {s : StateMachine.State} (inv : StateMachine.Inv s) {worker : Nat}
    {a : StateMachine.Action} (work : isWork worker a = true) :
    WorkStep s (StateMachine.step P s a) := by
  cases a with
  | invoke w =>
      simp only [StateMachine.step]
      split
      · rename_i execution claimed
        exact .advance execution (by rw [claimed]; rfl) rfl _
      · exact .refl s
  | handlerReturns w result =>
      simp only [StateMachine.step]
      split
      · rename_i execution invoked
        exact .advance execution (by rw [invoked]; rfl) rfl _
      · exact .refl s
  | handlerRaises w error =>
      simp only [StateMachine.step]
      split
      · rename_i execution invoked
        exact .advance execution (by rw [invoked]; rfl) rfl _
      · exact .refl s
  | complete w eventId now =>
      simp only [StateMachine.step]
      split
      · rename_i execution result returned
        have executing : (s.workers w).executing = some execution := by rw [returned]; rfl
        have appends := appends_transition execution.jobId .running .succeeded result none eventId now
          s.store
        rcases transition_step inv.jobs execution.jobId .running .succeeded rfl result none eventId
          now with ⟨store, moved, -, -, set⟩ | ⟨-, elsewhere⟩
        · rw [moved] at appends ⊢
          exact .settle executing rfl appends (.inl rfl) set
        · exact absurd (inv.work.running w execution executing) elsewhere
      · exact .refl s
  | fail w eventId now =>
      simp only [StateMachine.step]
      split
      · rename_i execution error raised
        have executing : (s.workers w).executing = some execution := by rw [raised]; rfl
        have appends := appends_transition execution.jobId .running .failed none (some error)
          eventId now s.store
        rcases transition_step inv.jobs execution.jobId .running .failed rfl none (some error)
          eventId now with ⟨store, moved, -, -, set⟩ | ⟨-, elsewhere⟩
        · rw [moved] at appends ⊢
          exact .settle executing rfl appends (.inr (.inl rfl)) set
        · exact absurd (inv.work.running w execution executing) elsewhere
      · exact .refl s
  | _ => cases work

/-! ## Messages -/

/-- A known message that announces no status is the request of a stored job. -/
theorem request_of_known (inv : JobInv store) {message : EventMessage}
    (known : message ∈ store.events ∧ message.eventType ≠ jobStatusEventType) :
    ∃ definition job eventId now, store.durableJobs.find job.jobId = some job ∧
      jobDefinition job.jobType = some definition ∧
      message = jobRequestMessage definition job.jobId job.runKey job.payload eventId now := by
  rcases inv.origin message known.1 with request | ⟨_, _, _, _, _, _, -, rfl⟩
  · exact request
  · exact absurd rfl known.2

theorem carries_request {jobType : String} {definition : DurableJobDefinition}
    (defined : jobDefinition jobType = some definition) (jobId runKey : String) (payload : Dict)
    (eventId : String) (now : Instant) :
    Carries (jobRequestMessage definition jobId runKey payload eventId now) jobId :=
  ⟨jobDefinition_eventType_ne defined, rfl⟩

theorem Carries.unique {message : EventMessage} {id id' : String} (carries : Carries message id)
    (carries' : Carries message id') : id = id' :=
  Option.some.inj (carries.2.symm.trans carries'.2)

theorem Appends.events {store' : AutomationStore} (appends : Appends store store')
    {message : EventMessage} (member : message ∈ store.events) : message ∈ store'.events := by
  obtain ⟨extra, outbox, -⟩ := appends
  simp only [AutomationStore.events, outbox, List.map_append]
  exact List.mem_append_left _ member

/-- A job that has just been stored has a pending record. -/
theorem pending_of_new {store' : AutomationStore} (inv : JobInv store) (inv' : JobInv store')
    (appends : Appends store store') {id : String} (absent : statusOf store id = none)
    {status : DurableJobStatus} (found : statusOf store' id = some status) :
    ∃ record ∈ store'.outbox, record.status = .pending ∧ Carries record.message id := by
  obtain ⟨job, stored, -⟩ := Option.map_eq_some_iff.mp found
  obtain ⟨message, single, names⟩ := inv'.requestedOnce id job stored
  have requested : message ∈ requestedEvents store' job.jobType job.runKey := by rw [single]; simp
  obtain ⟨member, matching⟩ := List.mem_filter.mp requested
  simp only [decide_eq_true_eq] at matching
  have carries : Carries message id := by
    rcases inv'.origin message member with ⟨definition, other, eventId, now, -, defined, rfl⟩ |
      ⟨_, _, _, _, _, _, -, rfl⟩
    · rw [← names]
      exact carries_request defined _ _ _ _ _
    · rw [(textField_status _ _ _ _ _ _).1] at matching
      cases matching.1
  obtain ⟨extra, outbox, pending⟩ := appends
  simp only [AutomationStore.events, outbox, List.map_append] at member
  rcases List.mem_append.mp member with old | new
  · -- An older event would be about a job that was stored before.
    obtain ⟨_, other, _, _, before, -, rfl⟩ := request_of_known inv ⟨old, carries.1⟩
    rw [show other.jobId = id from names] at before
    rw [statusOf, before] at absent
    cases absent
  · obtain ⟨record, here, rfl⟩ := List.mem_map.mp new
    exact ⟨record, by rw [outbox]; exact List.mem_append_right _ here, pending record here, carries⟩

end Store

/-! ## The invariant -/

structure Inv (s : State) : Prop where
  jobs : StateMachine.Inv s.jobs
  /-- Every message on its way was enqueued by a request. -/
  known : ∀ message, (message ∈ s.queue ∨ message ∈ s.deadLetters ∨
    ∃ worker, s.held worker = some message) →
      message ∈ s.jobs.store.events ∧ message.eventType ≠ jobStatusEventType
  holds : ∀ worker execution, (s.jobs.workers worker).executing = some execution →
    ∃ message, s.held worker = some message ∧ Carries message execution.jobId
  requested : ∀ id, statusOf s.jobs.store id = some .requested → Waiting s id
  running : ∀ id, statusOf s.jobs.store id = some .running →
    Executing s id ∨ ∃ message ∈ s.deadLetters, Carries message id

section Steps

variable {P : Platform} {s : State}

theorem Waiting.mono {s' : State} {id : String} (waiting : Waiting s id)
    (appends : Appends s.jobs.store s'.jobs.store) (queue : s.queue ⊆ s'.queue)
    (dead : s.deadLetters ⊆ s'.deadLetters)
    (received : ∀ worker message, s.held worker = some message →
      s.jobs.workers worker = .idle → Carries message id →
        s'.held worker = some message ∧ s'.jobs.workers worker = .idle ∨ Waiting s' id) :
    Waiting s' id := by
  cases waiting with
  | outbox record member pending carries =>
      obtain ⟨extra, outbox, -⟩ := appends
      exact .outbox record (by rw [outbox]; exact List.mem_append_left _ member) pending carries
  | queue message member carries => exact .queue message (queue member) carries
  | deadLetter message member carries => exact .deadLetter message (dead member) carries
  | received worker message held idle carries =>
      rcases received worker message held idle carries with ⟨held', idle'⟩ | waiting
      · exact .received worker message held' idle' carries
      · exact waiting

theorem api_inv (inv : Inv s) {a : StateMachine.Action} (api : isApi a = true) :
    Inv { s with jobs := StateMachine.step P s.jobs a } := by
  have stepped : ApiStep s.jobs (StateMachine.step P s.jobs a) := api_step inv.jobs api
  have jobs := StateMachine.inv_step (P := P) s.jobs a inv.jobs trivial
  refine ⟨jobs, ?_, ?_, ?_, ?_⟩
  · intro message there
    exact ⟨stepped.appends.events (inv.known message there).1, (inv.known message there).2⟩
  · intro worker execution executing
    rw [stepped.workers] at executing
    exact inv.holds worker execution executing
  · intro id found
    rcases stepped.statuses id _ found with before | ⟨absent, -⟩ | cancelled
    · refine (inv.requested id before).mono stepped.appends (fun _ h => h) (fun _ h => h) ?_
      intro worker message held idle _
      exact .inl ⟨held, by rw [stepped.workers]; exact idle⟩
    · obtain ⟨record, member, pending, carries⟩ :=
        pending_of_new inv.jobs.jobs jobs.jobs stepped.appends absent found
      exact .outbox record member pending carries
    · cases cancelled
  · intro id found
    rcases stepped.statuses id _ found with before | ⟨-, requested⟩ | cancelled
    · rcases inv.running id before with ⟨worker, execution, executing, here⟩ | dead
      · exact .inl ⟨worker, execution, by rw [stepped.workers]; exact executing, here⟩
      · exact .inr dead
    · cases requested
    · cases cancelled

theorem work_inv (inv : Inv s) {worker : Nat} {a : StateMachine.Action}
    (work : isWork worker a = true) : Inv { s with jobs := StateMachine.step P s.jobs a } := by
  have stepped : WorkStep s.jobs (StateMachine.step P s.jobs a) := work_step inv.jobs work
  have jobs := StateMachine.inv_step (P := P) s.jobs a inv.jobs trivial
  refine ⟨jobs, ?_, ?_, ?_, ?_⟩
  · intro message there
    exact ⟨stepped.appends.events (inv.known message there).1, (inv.known message there).2⟩
  · intro w execution executing
    exact inv.holds w execution (stepped.begun w execution executing)
  · intro id found
    rcases stepped.statuses id _ found with before | final
    · refine (inv.requested id before).mono stepped.appends (fun _ h => h) (fun _ h => h) ?_
      exact fun w message held idle _ => .inl ⟨held, stepped.idle w idle⟩
    · rcases final with h | h | h <;> cases h
  · intro id found
    rcases stepped.statuses id _ found with before | final
    · rcases inv.running id before with ⟨w, execution, executing, rfl⟩ | dead
      · rcases stepped.settled w execution executing with still | ⟨status, settled, final⟩
        · exact .inl ⟨w, execution, still, rfl⟩
        · rw [show statusOf (StateMachine.step P s.jobs a).store execution.jobId = some .running
            from found] at settled
          cases settled
          rcases final with h | h | h <;> cases h
      · exact .inr dead
    · rcases final with h | h | h <;> cases h

/-- The relay routes requests only; a record leaves the outbox for the queue. -/
theorem relay_inv (inv : Inv s) (index : Nat) (now : Instant) (recorded : Bool) :
    Inv (step P s (.relay index now recorded)) := by
  simp only [step]
  cases here : s.jobs.store.outbox[index]? with
  | none => exact inv
  | some record =>
      simp only
      split
      · rename_i due
        have member := List.mem_of_getElem? here
        have known : record.message ∈ s.jobs.store.events ∧
            record.message.eventType ≠ jobStatusEventType := by
          have event : record.message ∈ s.jobs.store.events := List.mem_map_of_mem member
          refine ⟨event, fun status => ?_⟩
          rcases inv.jobs.jobs.origin _ event with ⟨_, _, _, _, -, defined, same⟩ |
            ⟨_, _, _, _, _, _, -, same⟩
          · rw [same] at status
            exact jobDefinition_eventType_ne defined status
          · have key : record.message.routingKey = jobStatusRoutingKey := by rw [same]; rfl
            have routed : jobStatusRoutingKey ∈ durableJobEventTypes := by
              rw [← key]
              exact due.2
            exact absurd routed (by decide)
        have incoming : ∀ message, (message ∈ s.queue ++ [record.message] ∨
            message ∈ s.deadLetters ∨ ∃ worker, s.held worker = some message) →
              message ∈ s.jobs.store.events ∧ message.eventType ≠ jobStatusEventType := by
          intro message there
          rcases there with queued | elsewhere
          · rcases List.mem_append.mp queued with old | new
            · exact inv.known message (.inl old)
            · rw [List.mem_singleton.mp new]
              exact known
          · exact inv.known message (.inr elsewhere)
        cases recorded with
        | false =>
            simp only [Bool.false_eq_true, if_false]
            refine ⟨inv.jobs, incoming, inv.holds, ?_, inv.running⟩
            intro id found
            exact (inv.requested id found).mono (.refl _) (fun _ h => List.mem_append_left _ h)
              (fun _ h => h) fun _ _ held idle _ => .inl ⟨held, idle⟩
        | true =>
            simp only [if_true]
            have jobs := StateMachine.inv_step (P := P) s.jobs (.published index now) inv.jobs trivial
            refine ⟨jobs, ?_, inv.holds, ?_, inv.running⟩
            · intro message there
              have event := incoming message there
              exact ⟨by simpa [StateMachine.step] using event.1, event.2⟩
            · intro id found
              cases inv.requested id found with
              | outbox other otherMember pending carries =>
                  obtain ⟨i, place⟩ := List.getElem?_of_mem otherMember
                  by_cases same : index = i
                  · subst same
                    obtain rfl := Option.some.inj (here.symm.trans place)
                    exact .queue _ (List.mem_append_right _ (by simp)) carries
                  · have still : (s.jobs.store.markPublished index now).outbox[i]? = some other := by
                      simp [AutomationStore.markPublished, place, same]
                    exact .outbox other (List.mem_of_getElem? still) pending carries
              | queue message queued carries =>
                  exact .queue message (List.mem_append_left _ queued) carries
              | deadLetter message dead carries => exact .deadLetter message dead carries
              | received worker message held idle carries =>
                  exact .received worker message held idle carries
      · exact inv

theorem receive_inv (inv : Inv s) (worker index : Nat) :
    Inv (step P s (.receive worker index)) := by
  simp only [step]
  split
  · rename_i message idle free queued
    have member := List.mem_of_getElem? queued
    have split : ∀ other ∈ s.queue, other ∈ s.queue.eraseIdx index ∨ other = message := by
      intro other there
      obtain ⟨bound, same⟩ := List.getElem?_eq_some_iff.mp queued
      have perm := List.getElem_cons_eraseIdx_perm bound
      rcases List.mem_cons.mp (perm.mem_iff.mpr there) with first | rest
      · exact .inr (first.trans same)
      · exact .inl rest
    refine ⟨inv.jobs, ?_, ?_, ?_, inv.running⟩
    · rintro other (still | dead | ⟨w, held⟩)
      · exact inv.known other (.inl (List.mem_of_mem_eraseIdx still))
      · exact inv.known other (.inr (.inl dead))
      · simp only [Function.update_apply] at held
        split at held
        · cases held
          exact inv.known message (.inl member)
        · exact inv.known other (.inr (.inr ⟨w, held⟩))
    · intro w execution executing
      have different : w ≠ worker := by
        rintro rfl
        rw [idle] at executing
        cases executing
      obtain ⟨other, held, carries⟩ := inv.holds w execution executing
      exact ⟨other, by simp only [Function.update_of_ne different]; exact held, carries⟩
    · intro id found
      have taken : Carries message id → Waiting { s with
          queue := s.queue.eraseIdx index
          held := Function.update s.held worker (some message) } id :=
        fun carries => .received worker message (Function.update_self ..) idle carries
      cases inv.requested id found with
      | outbox record there pending carries => exact .outbox record there pending carries
      | queue other there carries =>
          rcases split other there with still | rfl
          · exact .queue other still carries
          · exact taken carries
      | deadLetter other there carries => exact .deadLetter other there carries
      | received w other held otherIdle carries =>
          have different : w ≠ worker := by
            rintro rfl
            rw [free] at held
            cases held
          exact .received w other (by simp only [Function.update_of_ne different]; exact held)
            otherIdle carries
  · exact inv

/-- While an idle handling goes on to its claim, the others keep executing. -/
theorem Executing.enter {worker : Nat} (idle : s.jobs.workers worker = .idle) {id : String}
    (executing : Executing s id) (store : AutomationStore) (phase : Worker) :
    Executing { s with jobs := { s.jobs with store }.enter worker phase } id := by
  obtain ⟨w, execution, there, named⟩ := executing
  refine ⟨w, execution, ?_, named⟩
  rw [StateMachine.workers_enter, if_neg]
  · exact there
  · rintro rfl
    rw [idle] at there
    cases there

/-- What waits for another job than the one the handling has a message of, waits on. -/
theorem Waiting.enter {worker : Nat} {message : EventMessage} (held : s.held worker = some message)
    {jobId id : String} (carries : Carries message jobId) (different : id ≠ jobId)
    (waiting : Waiting s id) {store : AutomationStore} (appends : Appends s.jobs.store store)
    (phase : Worker) : Waiting { s with jobs := { s.jobs with store }.enter worker phase } id := by
  refine waiting.mono appends (fun _ h => h) (fun _ h => h) ?_
  intro w other otherHeld otherIdle otherCarries
  have apart : w ≠ worker := by
    rintro rfl
    rw [held] at otherHeld
    cases otherHeld
    exact different (otherCarries.unique carries)
  exact .inl ⟨otherHeld, by rw [StateMachine.workers_enter, if_neg apart]; exact otherIdle⟩

/-- The claim of a received message: its job becomes running and is executed, or it
was no longer requested and the message has nothing left to move. -/
theorem claim_inv (inv : Inv s) (worker : Nat) (eventId : String) (now : Instant) :
    Inv (step P s (.claim worker eventId now)) := by
  simp only [step]
  cases held : s.held worker with
  | none => exact inv
  | some message =>
      have known := inv.known message (.inr (.inr ⟨worker, held⟩))
      obtain ⟨definition, job, requestId, requestedAt, -, defined, rfl⟩ :=
        request_of_known inv.jobs.jobs known
      have jobs := StateMachine.inv_step (P := P) s.jobs
        (.claim worker (jobRequestMessage definition job.jobId job.runKey job.payload requestId
          requestedAt) eventId now) inv.jobs trivial
      have carries := carries_request defined job.jobId job.runKey job.payload requestId requestedAt
      simp only
      simp only [StateMachine.step, executionFromMessage_request P defined] at jobs ⊢
      split
      · rename_i idle
        simp only [idle] at jobs
        have appends := appends_transition job.jobId .requested .running none none eventId now
          s.jobs.store
        rcases transition_step inv.jobs.jobs job.jobId .requested .running rfl none none eventId now
          with ⟨store, moved, -, -, set⟩ | ⟨same, elsewhere⟩
        · rw [moved] at appends
          simp only [moved] at jobs ⊢
          refine ⟨jobs, ?_, ?_, ?_, ?_⟩
          · intro other there
            exact ⟨appends.events (inv.known other there).1, (inv.known other there).2⟩
          · intro w execution executing
            simp only [StateMachine.workers_enter] at executing
            split at executing
            · rename_i here
              cases executing
              exact ⟨_, here ▸ held, carries⟩
            · exact inv.holds w execution executing
          · intro id found
            simp only [StateMachine.State.enter, set] at found
            split at found
            · cases found
            · rename_i different
              exact (inv.requested id found).enter held carries different appends _
          · intro id found
            simp only [StateMachine.State.enter, set] at found
            split at found
            · rename_i here
              refine .inl ⟨worker, ⟨job.jobId, job.jobType, job.runKey, job.payload⟩, ?_, here.symm⟩
              rw [StateMachine.workers_enter, if_pos rfl]
              rfl
            · exact (inv.running id found).imp_left fun executing => executing.enter idle _ _
        · simp only [same] at jobs ⊢
          refine ⟨jobs, inv.known, ?_, ?_, ?_⟩
          · intro w execution executing
            simp only [StateMachine.workers_enter] at executing
            split at executing
            · cases executing
            · exact inv.holds w execution executing
          · intro id found
            have different : id ≠ job.jobId := fun here => elsewhere (here ▸ found)
            exact (inv.requested id found).enter held carries different (.refl _) _
          · intro id found
            exact (inv.running id found).imp_left fun executing => executing.enter idle _ _
      · exact inv

/-- A handling that is not executing lets go of its message, which goes somewhere
unless the handling was past its claim. -/
theorem release_inv (inv : Inv s) (worker : Nat) {jobs : StateMachine.State}
    {queue deadLetters : List EventMessage} (jobsInv : StateMachine.Inv jobs)
    (store : jobs.store = s.jobs.store) (queued : s.queue ⊆ queue)
    (dead : s.deadLetters ⊆ deadLetters)
    (others : ∀ w, w ≠ worker → jobs.workers w = s.jobs.workers w)
    (done : (jobs.workers worker).executing = none)
    (kept : ∀ message, s.held worker = some message →
      (s.jobs.workers worker = .idle → message ∈ queue ∨ message ∈ deadLetters) ∧
      (∀ execution, (s.jobs.workers worker).executing = some execution → message ∈ deadLetters))
    (from_ : ∀ message, message ∈ queue ∨ message ∈ deadLetters →
      message ∈ s.queue ∨ message ∈ s.deadLetters ∨ s.held worker = some message) :
    Inv ⟨jobs, queue, deadLetters, Function.update s.held worker none⟩ := by
  refine ⟨jobsInv, ?_, ?_, ?_, ?_⟩
  · intro message there
    rw [store]
    refine inv.known message ?_
    rcases there with inQueue | inDead | ⟨w, held⟩
    · rcases from_ message (.inl inQueue) with a | a | a
      · exact .inl a
      · exact .inr (.inl a)
      · exact .inr (.inr ⟨worker, a⟩)
    · rcases from_ message (.inr inDead) with a | a | a
      · exact .inl a
      · exact .inr (.inl a)
      · exact .inr (.inr ⟨worker, a⟩)
    · simp only [Function.update_apply] at held
      split at held
      · cases held
      · exact .inr (.inr ⟨w, held⟩)
  · intro w execution executing
    have apart : w ≠ worker := by
      rintro rfl
      rw [done] at executing
      cases executing
    rw [others w apart] at executing
    obtain ⟨message, held, carries⟩ := inv.holds w execution executing
    exact ⟨message, by simp only [Function.update_of_ne apart]; exact held, carries⟩
  · intro id found
    rw [store] at found
    refine (inv.requested id found).mono (store ▸ .refl _) queued dead ?_
    intro w message held idle carries
    by_cases here : w = worker
    · subst here
      rcases (kept message held).1 idle with a | a
      · exact .inr (.queue message a carries)
      · exact .inr (.deadLetter message a carries)
    · exact .inl ⟨by simp only [Function.update_of_ne here]; exact held, by rw [others w here]; exact idle⟩
  · intro id found
    rw [store] at found
    rcases inv.running id found with ⟨w, execution, executing, rfl⟩ | ⟨message, member, carries⟩
    · by_cases here : w = worker
      · subst here
        obtain ⟨message, held, carries⟩ := inv.holds w execution executing
        exact .inr ⟨message, (kept message held).2 execution executing, carries⟩
      · exact .inl ⟨w, execution, by rw [others w here]; exact executing, rfl⟩
    · exact .inr ⟨message, dead member, carries⟩

theorem reject_inv (inv : Inv s) {worker : Nat} {message : EventMessage}
    (held : s.held worker = some message)
    (entered : StateMachine.step P s.jobs (.databaseError worker) = s.jobs.enter worker .rejected) :
    Inv (State.reject P s worker message) := by
  have jobs := StateMachine.inv_step (P := P) s.jobs (.databaseError worker) inv.jobs trivial
  rw [State.reject]
  rw [entered] at jobs ⊢
  refine release_inv inv worker jobs rfl (fun _ h => h) (fun _ h => List.mem_append_left _ h) ?_ ?_
    ?_ ?_
  · intro w apart
    rw [StateMachine.workers_enter, if_neg apart]
  · rw [StateMachine.workers_enter, if_pos rfl]
    rfl
  · intro other otherHeld
    obtain rfl := Option.some.inj (held.symm.trans otherHeld)
    exact ⟨fun _ => .inr (by simp), fun _ _ => by simp⟩
  · intro other there
    rcases there with queued | dead
    · exact .inl queued
    · rcases List.mem_append.mp dead with old | new
      · exact .inr (.inl old)
      · rw [List.mem_singleton.mp new]
        exact .inr (.inr held)

theorem outcome_over {phase : Worker} {result : Outcome} (done : outcome phase = some result) :
    phase ≠ .idle ∧ phase.executing = none := by
  cases phase <;> cases done <;> exact ⟨Worker.noConfusion, rfl⟩

theorem settle_inv (inv : Inv s) (worker : Nat) : Inv (step P s (.settle worker)) := by
  simp only [step]
  split
  · rename_i message _ done
    obtain ⟨notIdle, settled⟩ := outcome_over done
    refine release_inv inv worker inv.jobs rfl (fun _ h => h) (fun _ h => h) (fun _ _ => rfl) settled
      ?_ ?_
    · intro other _
      refine ⟨fun idle => absurd idle notIdle, fun execution executing => ?_⟩
      rw [settled] at executing
      cases executing
    · rintro other (queued | dead)
      · exact .inl queued
      · exact .inr (.inl dead)
  · rename_i message held done
    obtain ⟨notIdle, settled⟩ := outcome_over done
    refine release_inv inv worker inv.jobs rfl (fun _ h => h) (fun _ h => List.mem_append_left _ h)
      (fun _ _ => rfl) settled ?_ ?_
    · intro other _
      refine ⟨fun idle => absurd idle notIdle, fun execution executing => ?_⟩
      rw [settled] at executing
      cases executing
    · rintro other (queued | dead)
      · exact .inl queued
      · rcases List.mem_append.mp dead with old | new
        · exact .inr (.inl old)
        · rw [List.mem_singleton.mp new]
          exact .inr (.inr held)
  · exact inv

/-- A handling that has not claimed, or has settled, may stop: its message returns. -/
theorem stop_inv (inv : Inv s) {worker : Nat}
    (settled : (s.jobs.workers worker).executing = none) : Inv (step P s (.stop worker)) := by
  have jobs := StateMachine.inv_step (P := P) s.jobs (.stop worker) inv.jobs trivial
  have stopped : StateMachine.step P s.jobs (.stop worker) = s.jobs.enter worker .stopped ∨
      StateMachine.step P s.jobs (.stop worker) = s.jobs := by
    simp only [StateMachine.step]
    split
    · exact .inl rfl
    · rw [settled]
      exact .inr rfl
  simp only [step]
  refine release_inv inv worker jobs ?_ (fun _ h => List.mem_append_left _ h) (fun _ h => h) ?_ ?_
    ?_ ?_
  · rcases stopped with h | h <;> rw [h]
    rfl
  · intro w apart
    rcases stopped with h | h <;> rw [h]
    rw [StateMachine.workers_enter, if_neg apart]
  · rcases stopped with h | h <;> rw [h]
    · rw [StateMachine.workers_enter, if_pos rfl]
      rfl
    · exact settled
  · intro message held
    refine ⟨fun _ => .inl (by simp [held]), fun execution executing => ?_⟩
    rw [settled] at executing
    cases executing
  · rintro message (queued | dead)
    · rcases List.mem_append.mp queued with old | new
      · exact .inl old
      · exact .inr (.inr (Option.mem_toList.mp new))
    · exact .inr (.inl dead)

theorem inv_step (s : State) (a : Action) (inv : Inv s) (settles : SettlesFirst s a) :
    Inv (step P s a) := by
  cases a with
  | api a =>
      simp only [step]
      split
      · rename_i api
        exact api_inv inv api
      · exact inv
  | relay index now recorded => exact relay_inv inv index now recorded
  | receive worker index => exact receive_inv inv worker index
  | claim worker eventId now => exact claim_inv inv worker eventId now
  | work worker a =>
      simp only [step]
      split
      · rename_i work
        exact work_inv inv work
      · exact inv
  | databaseError worker =>
      simp only [step]
      split
      · rename_i message held idle
        exact reject_inv inv held (by simp only [StateMachine.step, idle])
      · rename_i message execution result held returned
        exact reject_inv inv held (by simp only [StateMachine.step, returned])
      · rename_i message execution error held raised
        exact reject_inv inv held (by simp only [StateMachine.step, raised])
      · exact inv
  | settle worker => exact settle_inv inv worker
  | stop worker => exact stop_inv inv settles

theorem inv_empty : Inv .empty := by
  refine ⟨StateMachine.inv_empty, ?_, ?_, ?_, ?_⟩
  · rintro message (queued | dead | ⟨worker, held⟩)
    · cases queued
    · cases dead
    · cases held
  · rintro worker execution ⟨⟩
  · intro id found
    simp [State.empty, StateMachine.State.empty, AutomationStore.empty, statusOf] at found
  · intro id found
    simp [State.empty, StateMachine.State.empty, AutomationStore.empty, statusOf] at found

end Steps

/-- **No job is stranded** in a run in which no handling stops between its claim and
its final transition: every requested or running job has a pending record, a queued or
dead-lettered message, or a live handling. -/
theorem no_stranded_job (P : Platform) (trace : List Action)
    (admissible : Admissible (step P) SettlesFirst .empty trace) :
    ∀ front, front <+: trace → NoneStranded (run P front) := by
  intro front isPrefix id unsettled
  have inv := exec_invariant inv_step inv_empty (admissible.of_prefix isPrefix)
  rcases unsettled with requested | running
  · exact .inl (inv.requested id requested)
  · rcases inv.running id running with executing | ⟨message, member, carries⟩
    · exact .inr executing
    · exact .inl (.deadLetter message member carries)

/-! ## A stop after the claim -/

namespace Sample

def platform : Platform := .reference (fun _ _ => 0) (.aware 0) "1970-01-01T00:00:00Z"

def jobId : String := "5f0c1a52-7d0f-4c52-9f1e-0d6a2c9b7e11"

/-- A news collection is requested, published, received and claimed. -/
def begun : List Action :=
  [.api (.trigger "news_collection" ⟨"daily", [("symbols", .arr [.str "AAPL"])]⟩ jobId
      "5f0c1a52-7d0f-4c52-9f1e-0d6a2c9b7e12" 0),
    .relay 0 1 true, .receive 0 0, .claim 0 "5f0c1a52-7d0f-4c52-9f1e-0d6a2c9b7e13" 2]

/-- The process stops, and the message is delivered again. -/
def stopped : List Action :=
  begun ++ [.stop 0, .receive 1 0, .claim 1 "5f0c1a52-7d0f-4c52-9f1e-0d6a2c9b7e14" 3, .settle 1]

/-- The job is running and nothing is left that could move it on. -/
theorem stopped_worker_strands_job :
    statusOf (run platform stopped).jobs.store jobId = some .running ∧
      ¬ Movable (run platform stopped) jobId ∧ ¬ NoneStranded (run platform stopped) := by
  have running : statusOf (run platform stopped).jobs.store jobId = some .running := rfl
  have stuck : ¬ Movable (run platform stopped) jobId := by
    rintro (waiting | ⟨worker, execution, executing, -⟩)
    · cases waiting with
      | outbox record member pending carries =>
          have records : (run platform stopped).jobs.store.outbox.all (fun record =>
              record.status = .published ∨ record.eventType = jobStatusEventType) = true := rfl
          rw [List.all_eq_true] at records
          have known := records record member
          simp only [decide_eq_true_eq] at known
          rcases known with published | status
          · rw [published] at pending
            cases pending
          · exact carries.1 status
      | queue message member carries => cases member
      | deadLetter message member carries => cases member
      | received worker message held idle carries =>
          match worker with
          | 0 => cases held
          | 1 => cases held
          | w + 2 => cases held
    · match worker with
      | 0 => cases executing
      | 1 => cases executing
      | w + 2 => cases executing
  exact ⟨running, stuck, fun none => stuck (none jobId (.inr running))⟩

/-- The same job when the handler returns and its success is recorded. -/
def finished : List Action :=
  begun ++ [.work 0 (.invoke 0), .work 0 (.handlerReturns 0 none), .relay 0 3 false,
    .work 0 (.complete 0 "5f0c1a52-7d0f-4c52-9f1e-0d6a2c9b7e14" 4), .stop 0, .receive 1 0,
    .claim 1 "5f0c1a52-7d0f-4c52-9f1e-0d6a2c9b7e15" 5, .settle 1]

theorem settled_worker_strands_nothing :
    Admissible (step platform) SettlesFirst .empty finished ∧
      NoneStranded (run platform begun) ∧
      statusOf (run platform begun).jobs.store jobId = some .running ∧
      NoneStranded (run platform finished) := by
  have admissible : Admissible (step platform) SettlesFirst .empty finished :=
    ⟨trivial, trivial, trivial, trivial, trivial, trivial, trivial, trivial, rfl, trivial, trivial,
      trivial, trivial⟩
  exact ⟨admissible,
    no_stranded_job platform finished admissible begun (List.prefix_append _ _), rfl,
    no_stranded_job platform finished admissible finished List.prefix_rfl⟩

end Sample

end KisAutoTrading.Jobs.Stranding
