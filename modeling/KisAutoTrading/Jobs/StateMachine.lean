/-
# Jobs.StateMachine — durable jobs under requests, cancels and workers

Every actor of the job system in one run: jobs are requested through the route or by
a handler, cancelled through the three statements of the cancel route, and executed
by any number of message handlings (`Worker`), each of which claims its job, invokes
the handler, and records the outcome in three separate transactions. A handling may
stop between any two of them or meet a database error in one. Messages arrive in any
order and any number of times; nothing here depends on what they say.

Every step is a `StoreStep` of the ledger. `WorkInv` ties the actors to it: an
executing handling has its job running and to itself, the handler is invoked for
claimed jobs only, and a cancel request is answered by a cancelled job.
-/
import KisAutoTrading.Jobs.Ledger
import KisAutoTrading.Theory.Runs

namespace KisAutoTrading.Jobs.StateMachine

open Theory Theory.Runs

set_option autoImplicit false

/-- One handling of one message by `DurableJobMessageHandler.handle`. -/
inductive Worker where
  | idle
  /-- The claim failed: the message is acknowledged. -/
  | skipped
  /-- The message or the database raised: the message is rejected. -/
  | rejected
  | claimed (execution : DurableJobExecution)
  | invoked (execution : DurableJobExecution)
  | returned (execution : DurableJobExecution) (result : Option Dict)
  | raised (execution : DurableJobExecution) (error : String)
  | completed
  | failed
  /-- `durable job completion transition was lost`. -/
  | lost
  | stopped

/-- The job a handling has claimed and not yet settled. -/
def Worker.executing : Worker → Option DurableJobExecution
  | .claimed execution => some execution
  | .invoked execution => some execution
  | .returned execution _ => some execution
  | .raised execution _ => some execution
  | _ => none

/-- One request to cancel a job. -/
inductive Cancel where
  | idle
  | seen (jobId : String)
  | refused (jobId : String)
  | answered (jobId : String) (answer : Except Failure DurableJobRecord)

structure State where
  store : AutomationStore
  workers : Nat → Worker
  cancels : Nat → Cancel
  /-- The jobs the handler was invoked for. -/
  invoked : List String

def State.empty : State := ⟨.empty, fun _ => .idle, fun _ => .idle, []⟩

inductive Action where
  | trigger (jobType : String) (request : DurableJobTriggerRequest) (jobId eventId : String)
      (now : Instant)
  /-- A request made inside a job handler. -/
  | request (jobType runKey : String) (payload : Dict) (availableAt : Option Instant)
      (jobId eventId : String) (now : Instant)
  | cancelRead (cancel : Nat) (jobType jobId : String)
  | cancelUpdate (cancel : Nat) (eventId : String) (now : Instant)
  | cancelReread (cancel : Nat)
  | claim (worker : Nat) (message : EventMessage) (eventId : String) (now : Instant)
  | invoke (worker : Nat)
  | handlerReturns (worker : Nat) (result : Option Dict)
  | handlerRaises (worker : Nat) (error : String)
  | complete (worker : Nat) (eventId : String) (now : Instant)
  | fail (worker : Nat) (eventId : String) (now : Instant)
  | databaseError (worker : Nat)
  | stop (worker : Nat)
  /-- The relay has published the record at a position of the outbox. -/
  | published (index : Nat) (now : Instant)

def State.enter (s : State) (worker : Nat) (phase : Worker) : State :=
  { s with workers := Function.update s.workers worker phase }

def State.answer (s : State) (cancel : Nat) (phase : Cancel) : State :=
  { s with cancels := Function.update s.cancels cancel phase }

def step (P : Platform) (s : State) : Action → State
  | .trigger jobType request jobId eventId now =>
      let result := triggerDurableJob jobType request jobId eventId now s.store
      { s with store := committed s.store result }
  | .request jobType runKey payload availableAt jobId eventId now =>
      let result := requestJob jobType runKey payload availableAt jobId eventId now s.store
      { s with store := committed s.store result }
  | .cancelRead cancel jobType jobId =>
      match s.cancels cancel with
      | .idle =>
          match KisAutoTrading.cancelRead jobType jobId s.store with
          | some answer => s.answer cancel (.answered jobId answer)
          | none => s.answer cancel (.seen jobId)
      | _ => s
  | .cancelUpdate cancel eventId now =>
      match s.cancels cancel with
      | .seen jobId =>
          match KisAutoTrading.cancelUpdate jobId eventId now s.store with
          | (some answer, store) => { s with store }.answer cancel (.answered jobId answer)
          | (none, store) => { s with store }.answer cancel (.refused jobId)
      | _ => s
  | .cancelReread cancel =>
      match s.cancels cancel with
      | .refused jobId =>
          s.answer cancel (.answered jobId (KisAutoTrading.cancelReread jobId s.store))
      | _ => s
  | .claim worker message eventId now =>
      match s.workers worker with
      | .idle =>
          match P.executionFromMessage message with
          | .error _ => s.enter worker .rejected
          | .ok execution =>
              match transition execution.jobId .requested .running none none eventId now s.store with
              | (true, store) => { s with store }.enter worker (.claimed execution)
              | (false, _) => s.enter worker .skipped
      | _ => s
  | .invoke worker =>
      match s.workers worker with
      | .claimed execution =>
          { s with invoked := s.invoked ++ [execution.jobId] }.enter worker (.invoked execution)
      | _ => s
  | .handlerReturns worker result =>
      match s.workers worker with
      | .invoked execution => s.enter worker (.returned execution result)
      | _ => s
  | .handlerRaises worker error =>
      match s.workers worker with
      | .invoked execution => s.enter worker (.raised execution error)
      | _ => s
  | .complete worker eventId now =>
      match s.workers worker with
      | .returned execution result =>
          match transition execution.jobId .running .succeeded result none eventId now s.store with
          | (true, store) => { s with store }.enter worker .completed
          | (false, _) => s.enter worker .lost
      | _ => s
  | .fail worker eventId now =>
      match s.workers worker with
      | .raised execution error =>
          let (_, store) :=
            transition execution.jobId .running .failed none (some error) eventId now s.store
          { s with store }.enter worker .failed
      | _ => s
  | .databaseError worker =>
      match s.workers worker with
      | .idle => s.enter worker .rejected
      | .returned _ _ => s.enter worker .rejected
      | .raised _ _ => s.enter worker .rejected
      | _ => s
  | .stop worker =>
      match s.workers worker with
      | .idle => s.enter worker .stopped
      | phase => if phase.executing.isSome then s.enter worker .stopped else s
  | .published index now => { s with store := s.store.markPublished index now }

def run (P : Platform) (trace : List Action) : State := exec (step P) .empty trace

/-! ## The actors -/

/-- What ties the actors to the statuses of the jobs. -/
structure WorkInv (statuses : String → Option DurableJobStatus) (s : State) : Prop where
  /-- A claimed job is running, for one handling only. -/
  running : ∀ worker execution, (s.workers worker).executing = some execution →
    statuses execution.jobId = some .running
  exclusive : ∀ worker execution worker' execution',
    (s.workers worker).executing = some execution →
    (s.workers worker').executing = some execution' → execution.jobId = execution'.jobId →
      worker = worker'
  notYet : ∀ worker execution, s.workers worker = .claimed execution →
    execution.jobId ∉ s.invoked
  once : s.invoked.Nodup
  /-- The handler was invoked for jobs that were claimed. -/
  begun : ∀ id ∈ s.invoked, ∃ status, statuses id = some status ∧ status ≠ .requested ∧
    status ≠ .cancelled
  answers : ∀ cancel id job, s.cancels cancel = .answered id (.ok job) →
    job.status = .cancelled ∧ statuses id = some .cancelled
  notLost : ∀ worker, s.workers worker ≠ .lost

structure Inv (s : State) : Prop where
  jobs : JobInv s.store
  work : WorkInv (statusOf s.store) s

section Actors

variable {s : State} {statuses statuses' : String → Option DurableJobStatus}

/-- One status is set: a job that is not there yet, or one that is only requested.
Nobody executes such a job, it was not invoked, and it was not cancelled. -/
theorem WorkInv.set_status (inv : WorkInv statuses s) {id : String}
    (untouched : statuses id = none ∨ statuses id = some .requested) (status : DurableJobStatus)
    (set : ∀ id', statuses' id' = if id' = id then some status else statuses id') :
    WorkInv statuses' s := by
  have other : ∀ {id' status'}, statuses id' = some status' → status' ≠ .requested →
      statuses' id' = some status' := by
    intro id' status' found known
    rw [set, if_neg]
    · exact found
    · rintro rfl
      rcases untouched with none | requested
      · rw [none] at found
        cases found
      · rw [requested] at found
        exact known (Option.some.inj found).symm
  refine ⟨?_, inv.exclusive, inv.notYet, inv.once, ?_, ?_, inv.notLost⟩
  · intro worker execution executing
    exact other (inv.running worker execution executing) (by decide)
  · intro id' member
    obtain ⟨status', found, notRequested, notCancelled⟩ := inv.begun id' member
    exact ⟨status', other found notRequested, notRequested, notCancelled⟩
  · intro cancel id' job answered
    obtain ⟨cancelled, found⟩ := inv.answers cancel id' job answered
    exact ⟨cancelled, other found (by decide)⟩

theorem workers_enter (s : State) (worker other : Nat) (phase : Worker) :
    (s.enter worker phase).workers other = if other = worker then phase else s.workers other := by
  simp only [State.enter, Function.update_apply]

/-- A handling ends, in whatever way but a lost completion. -/
theorem WorkInv.settle (inv : WorkInv statuses s) (worker : Nat) {phase : Worker}
    (settled : phase.executing = none) (notLost : phase ≠ .lost) :
    WorkInv statuses (s.enter worker phase) := by
  have before : ∀ {other execution},
      ((s.enter worker phase).workers other).executing = some execution →
        (s.workers other).executing = some execution := by
    intro other execution executing
    rw [workers_enter] at executing
    split at executing
    · rw [settled] at executing
      cases executing
    · exact executing
  refine ⟨?_, ?_, ?_, inv.once, inv.begun, inv.answers, ?_⟩
  · exact fun other execution executing => inv.running other execution (before executing)
  · exact fun w e w' e' first second => inv.exclusive w e w' e' (before first) (before second)
  · intro other execution claimed
    rw [workers_enter] at claimed
    split at claimed
    · rw [claimed] at settled
      cases settled
    · exact inv.notYet other execution claimed
  · intro other
    rw [workers_enter]
    split
    · exact notLost
    · exact inv.notLost other

/-- A handling goes on with the same job. -/
theorem WorkInv.advance (inv : WorkInv statuses s) (worker : Nat) {phase : Worker}
    {execution : DurableJobExecution} (before : (s.workers worker).executing = some execution)
    (after : phase.executing = some execution) (notClaimed : ∀ e, phase ≠ .claimed e) :
    WorkInv statuses (s.enter worker phase) := by
  have same : ∀ other, ((s.enter worker phase).workers other).executing =
      (s.workers other).executing := by
    intro other
    rw [workers_enter]
    split
    · rename_i here
      rw [here, after, before]
    · rfl
  refine ⟨?_, ?_, ?_, inv.once, inv.begun, inv.answers, ?_⟩
  · intro other e executing
    exact inv.running other e ((same other).symm.trans executing)
  · intro w e w' e' first second
    exact inv.exclusive w e w' e' ((same w).symm.trans first) ((same w').symm.trans second)
  · intro other e claimed
    rw [workers_enter] at claimed
    split at claimed
    · exact absurd claimed (notClaimed e)
    · exact inv.notYet other e claimed
  · intro other
    rw [workers_enter]
    split
    · rintro rfl
      cases after
    · exact inv.notLost other

/-- The claim: a requested job becomes running, for this handling. -/
theorem WorkInv.claim (inv : WorkInv statuses s) (worker : Nat) {execution : DurableJobExecution}
    (requested : statuses execution.jobId = some .requested)
    (set : ∀ id, statuses' id = if id = execution.jobId then some .running else statuses id) :
    WorkInv statuses' (s.enter worker (.claimed execution)) := by
  have moved : WorkInv statuses' s := inv.set_status (.inr requested) .running set
  have nobody : ∀ other e, (s.workers other).executing = some e → e.jobId ≠ execution.jobId := by
    intro other e executing same
    have running := inv.running other e executing
    rw [same, requested] at running
    cases running
  have cases : ∀ {other e},
      ((s.enter worker (.claimed execution)).workers other).executing = some e →
        other = worker ∧ e = execution ∨ (s.workers other).executing = some e := by
    intro other e executing
    rw [workers_enter] at executing
    split at executing
    · rename_i here
      exact .inl ⟨here, (Option.some.inj executing).symm⟩
    · exact .inr executing
  refine ⟨?_, ?_, ?_, moved.once, moved.begun, moved.answers, ?_⟩
  · intro other e executing
    rcases cases executing with ⟨-, rfl⟩ | old
    · rw [set, if_pos rfl]
    · exact moved.running other e old
  · intro w e w' e' first second same
    rcases cases first with ⟨rfl, rfl⟩ | old
    · rcases cases second with ⟨rfl, -⟩ | old'
      · rfl
      · exact absurd same.symm (nobody w' e' old')
    · rcases cases second with ⟨rfl, rfl⟩ | old'
      · exact absurd same (nobody w e old)
      · exact moved.exclusive w e w' e' old old' same
  · intro other e claimed
    rw [workers_enter] at claimed
    split at claimed
    · cases claimed
      intro member
      obtain ⟨status, found, notRequested, -⟩ := inv.begun _ member
      rw [requested] at found
      exact notRequested (Option.some.inj found).symm
    · exact moved.notYet other e claimed
  · intro other
    rw [workers_enter]
    split
    · exact Worker.noConfusion
    · exact moved.notLost other

/-- The handler is invoked for a claimed job. -/
theorem WorkInv.invoke (inv : WorkInv statuses s) {worker : Nat} {execution : DurableJobExecution}
    (claimed : s.workers worker = .claimed execution) :
    WorkInv statuses ({ s with invoked := s.invoked ++ [execution.jobId] }.enter worker
      (.invoked execution)) := by
  have executing : (s.workers worker).executing = some execution := by rw [claimed]; rfl
  have fresh := inv.notYet worker execution claimed
  have running := inv.running worker execution executing
  have advanced : WorkInv statuses (s.enter worker (.invoked execution)) :=
    inv.advance worker executing rfl (fun e => Worker.noConfusion)
  refine ⟨advanced.running, advanced.exclusive, ?_, ?_, ?_, advanced.answers, advanced.notLost⟩
  · intro other e otherClaimed member
    rcases List.mem_append.mp member with old | new
    · exact advanced.notYet other e otherClaimed old
    · have claimedBefore : (s.enter worker (.invoked execution)).workers other = .claimed e :=
        otherClaimed
      rw [workers_enter] at claimedBefore
      split at claimedBefore
      · cases claimedBefore
      · rename_i different
        refine different (inv.exclusive other e worker execution ?_ executing ?_)
        · rw [claimedBefore]
          rfl
        · exact List.mem_singleton.mp new
  · exact List.nodup_append.mpr ⟨inv.once, List.nodup_singleton _, by
      rintro id member _ last rfl
      exact fresh (List.mem_singleton.mp last ▸ member)⟩
  · intro id member
    rcases List.mem_append.mp member with old | new
    · exact inv.begun id old
    · rw [List.mem_singleton.mp new]
      exact ⟨.running, running, by decide, by decide⟩

/-- The outcome is recorded: the job of this handling leaves `running`. -/
theorem WorkInv.settle_status (inv : WorkInv statuses s) {worker : Nat} {phase : Worker}
    {execution : DurableJobExecution} (executing : (s.workers worker).executing = some execution)
    (settled : phase.executing = none) (notLost : phase ≠ .lost) {status : DurableJobStatus}
    (final : status ≠ .requested ∧ status ≠ .cancelled)
    (set : ∀ id, statuses' id = if id = execution.jobId then some status else statuses id) :
    WorkInv statuses' (s.enter worker phase) := by
  have ended := inv.settle worker settled notLost
  have running := inv.running worker execution executing
  refine ⟨?_, ended.exclusive, ended.notYet, ended.once, ?_, ?_, ended.notLost⟩
  · intro other e otherExecuting
    rw [set, if_neg]
    · exact ended.running other e otherExecuting
    · intro same
      have before : (s.enter worker phase).workers other = s.workers other ∨ other = worker := by
        rw [workers_enter]
        by_cases here : other = worker
        · exact .inr here
        · exact .inl (if_neg here)
      rcases before with unchanged | rfl
      · rw [unchanged] at otherExecuting
        have here := inv.exclusive other e worker execution otherExecuting executing same
        rw [here, workers_enter, if_pos rfl] at unchanged
        rw [here, ← unchanged, settled] at otherExecuting
        cases otherExecuting
      · rw [workers_enter, if_pos rfl, settled] at otherExecuting
        cases otherExecuting
  · intro id member
    by_cases same : id = execution.jobId
    · exact ⟨status, by rw [set, if_pos same], final⟩
    · obtain ⟨old, found, rest⟩ := ended.begun id member
      exact ⟨old, by rw [set, if_neg same]; exact found, rest⟩
  · intro cancel id job answered
    obtain ⟨cancelled, found⟩ := ended.answers cancel id job answered
    refine ⟨cancelled, ?_⟩
    rw [set, if_neg]
    · exact found
    · rintro rfl
      rw [running] at found
      cases found

/-- A cancel request goes on, or is answered by a job that is cancelled. -/
theorem WorkInv.answer (inv : WorkInv statuses s) (cancel : Nat) {phase : Cancel}
    (truthful : ∀ id job, phase = .answered id (.ok job) →
      job.status = .cancelled ∧ statuses id = some .cancelled) :
    WorkInv statuses (s.answer cancel phase) := by
  refine ⟨inv.running, inv.exclusive, inv.notYet, inv.once, inv.begun, ?_, inv.notLost⟩
  intro other id job answered
  simp only [State.answer, Function.update_apply] at answered
  split at answered
  · exact truthful id job answered
  · exact inv.answers other id job answered

theorem WorkInv.with_store (inv : WorkInv statuses s) (store : AutomationStore) :
    WorkInv statuses { s with store } :=
  ⟨inv.running, inv.exclusive, inv.notYet, inv.once, inv.begun, inv.answers, inv.notLost⟩

end Actors

/-! ## One step -/

section Steps

variable {P : Platform} {s : State}

theorem request_step (inv : Inv s) (jobType runKey : String) (payload : Dict)
    (availableAt : Option Instant) (jobId eventId : String) (now : Instant) :
    let store := committed s.store
      (requestJob jobType runKey payload availableAt jobId eventId now s.store)
    StoreStep s.store store ∧ WorkInv (statusOf store) { s with store } := by
  refine ⟨request_storeStep _ _ _ _ _ _ _ _, WorkInv.with_store ?_ _⟩
  rcases request_cases jobType runKey payload availableAt jobId eventId now s.store with
    ⟨failure, raised⟩ | ⟨existing, -, found⟩ | ⟨definition, -, -, fresh, inserted⟩
  · rw [raised]
    exact inv.work
  · rw [found]
    exact inv.work
  · rw [inserted]
    have absent : statusOf s.store jobId = none := by
      rw [statusOf, fresh]
      rfl
    refine inv.work.set_status (.inl absent) .requested fun id => ?_
    simp only [committed, statusOf, AutomationStore.find_insertJob]
    split <;> rfl

theorem trigger_step (inv : Inv s) (jobType : String) (request : DurableJobTriggerRequest)
    (jobId eventId : String) (now : Instant) :
    let store := committed s.store (triggerDurableJob jobType request jobId eventId now s.store)
    StoreStep s.store store ∧ WorkInv (statusOf store) { s with store } := by
  rcases trigger_cases jobType request jobId eventId now s.store with ⟨failure, raised⟩ | same
  · rw [raised]
    exact ⟨.quiet rfl rfl, inv.work.with_store _⟩
  · rw [same]
    exact request_step inv _ _ _ _ _ _ _

theorem cancelRead_step (inv : Inv s) (cancel : Nat) (jobType jobId : String) :
    StoreStep s.store (step P s (.cancelRead cancel jobType jobId)).store ∧
      WorkInv (statusOf (step P s (.cancelRead cancel jobType jobId)).store)
        (step P s (.cancelRead cancel jobType jobId)) := by
  simp only [step]
  split
  · split
    · rename_i answer read
      refine ⟨.quiet rfl rfl, inv.work.answer cancel ?_⟩
      rintro _ job ⟨⟩
      unfold KisAutoTrading.cancelRead at read
      split at read
      · cases read
      · split at read
        · cases read
        · rename_i found
          split at read
          · cases read
          · split at read
            · rename_i cancelled
              cases read
              exact ⟨cancelled, by rw [statusOf, found, Option.map_some, cancelled]⟩
            · cases read
    · refine ⟨.quiet rfl rfl, inv.work.answer cancel ?_⟩
      rintro _ job ⟨⟩
  · exact ⟨.quiet rfl rfl, inv.work⟩

theorem cancelUpdate_step (inv : Inv s) (cancel : Nat) (eventId : String) (now : Instant) :
    StoreStep s.store (step P s (.cancelUpdate cancel eventId now)).store ∧
      WorkInv (statusOf (step P s (.cancelUpdate cancel eventId now)).store)
        (step P s (.cancelUpdate cancel eventId now)) := by
  simp only [step]
  split
  · rename_i jobId seen
    rcases cancelUpdate_cases jobId eventId now s.store inv.jobs.keyed with
      ⟨job, found, requested, updated⟩ | refused
    · obtain rfl : job.jobId = jobId := inv.jobs.keyed _ _ found
      rw [updated]
      have set := statusOf_moveJob s.store job .cancelled none none eventId now
      refine ⟨moveJob_storeStep found (by rw [requested]; rfl) none none eventId now, ?_⟩
      refine WorkInv.answer (WorkInv.with_store (inv.work.set_status (.inr ?_) .cancelled set) _) cancel ?_
      · rw [statusOf, found, Option.map_some, requested]
      · rintro _ _ ⟨⟩
        exact ⟨rfl, (set _).trans (if_pos rfl)⟩
    · rw [refused]
      refine ⟨.quiet rfl rfl, inv.work.answer cancel ?_⟩
      rintro _ job ⟨⟩
  · exact ⟨.quiet rfl rfl, inv.work⟩

theorem cancelReread_step (inv : Inv s) (cancel : Nat) :
    StoreStep s.store (step P s (.cancelReread cancel)).store ∧
      WorkInv (statusOf (step P s (.cancelReread cancel)).store)
        (step P s (.cancelReread cancel)) := by
  simp only [step]
  split
  · rename_i jobId refused
    refine ⟨.quiet rfl rfl, inv.work.answer cancel ?_⟩
    intro id job answered
    cases found : s.store.durableJobs.find jobId with
    | none => simp [KisAutoTrading.cancelReread, found] at answered
    | some stored =>
        by_cases cancelled : stored.status = .cancelled
        · simp only [KisAutoTrading.cancelReread, found, cancelled, if_true,
            Cancel.answered.injEq, Except.ok.injEq] at answered
          obtain ⟨rfl, rfl⟩ := answered
          exact ⟨cancelled, by rw [statusOf, found, Option.map_some, cancelled]⟩
        · simp [KisAutoTrading.cancelReread, found, cancelled] at answered
  · exact ⟨.quiet rfl rfl, inv.work⟩

theorem claim_step (inv : Inv s) (worker : Nat) (message : EventMessage) (eventId : String)
    (now : Instant) :
    StoreStep s.store (step P s (.claim worker message eventId now)).store ∧
      WorkInv (statusOf (step P s (.claim worker message eventId now)).store)
        (step P s (.claim worker message eventId now)) := by
  simp only [step]
  split
  · split
    · exact ⟨.quiet rfl rfl, inv.work.settle worker rfl Worker.noConfusion⟩
    · rename_i execution read
      rcases transition_step inv.jobs execution.jobId .requested .running rfl none none eventId now
        with ⟨store, moved, stepped, requested, set⟩ | ⟨same, -⟩
      · rw [moved]
        exact ⟨stepped, (inv.work.claim worker requested set).with_store store⟩
      · rw [same]
        exact ⟨.quiet rfl rfl, inv.work.settle worker rfl Worker.noConfusion⟩
  · exact ⟨.quiet rfl rfl, inv.work⟩

/-- The steps of a handling that has claimed its job. -/
theorem execute_step (inv : Inv s) {a : Action} {worker : Nat} (handling : a = .invoke worker ∨
    (∃ result, a = .handlerReturns worker result) ∨ ∃ error, a = .handlerRaises worker error) :
    StoreStep s.store (step P s a).store ∧ WorkInv (statusOf (step P s a).store) (step P s a) := by
  rcases handling with rfl | ⟨result, rfl⟩ | ⟨error, rfl⟩
  · simp only [step]
    split
    · rename_i execution claimed
      exact ⟨.quiet rfl rfl, inv.work.invoke claimed⟩
    · exact ⟨.quiet rfl rfl, inv.work⟩
  · simp only [step]
    split
    · rename_i execution invoked
      exact ⟨.quiet rfl rfl, inv.work.advance worker (by rw [invoked]; rfl) rfl
        (fun e => Worker.noConfusion)⟩
    · exact ⟨.quiet rfl rfl, inv.work⟩
  · simp only [step]
    split
    · rename_i execution invoked
      exact ⟨.quiet rfl rfl, inv.work.advance worker (by rw [invoked]; rfl) rfl
        (fun e => Worker.noConfusion)⟩
    · exact ⟨.quiet rfl rfl, inv.work⟩

theorem complete_step (inv : Inv s) (worker : Nat) (eventId : String) (now : Instant) :
    StoreStep s.store (step P s (.complete worker eventId now)).store ∧
      WorkInv (statusOf (step P s (.complete worker eventId now)).store)
        (step P s (.complete worker eventId now)) := by
  simp only [step]
  split
  · rename_i execution result returned
    have executing : (s.workers worker).executing = some execution := by rw [returned]; rfl
    rcases transition_step inv.jobs execution.jobId .running .succeeded rfl result none eventId now
      with ⟨store, moved, stepped, -, set⟩ | ⟨-, elsewhere⟩
    · rw [moved]
      exact ⟨stepped, (inv.work.settle_status executing rfl Worker.noConfusion (by decide)
        set).with_store store⟩
    · exact absurd (inv.work.running worker execution executing) elsewhere
  · exact ⟨.quiet rfl rfl, inv.work⟩

theorem fail_step (inv : Inv s) (worker : Nat) (eventId : String) (now : Instant) :
    StoreStep s.store (step P s (.fail worker eventId now)).store ∧
      WorkInv (statusOf (step P s (.fail worker eventId now)).store)
        (step P s (.fail worker eventId now)) := by
  simp only [step]
  split
  · rename_i execution error raised
    have executing : (s.workers worker).executing = some execution := by rw [raised]; rfl
    rcases transition_step inv.jobs execution.jobId .running .failed rfl none (some error) eventId
      now with ⟨store, moved, stepped, -, set⟩ | ⟨-, elsewhere⟩
    · rw [moved]
      exact ⟨stepped, (inv.work.settle_status executing rfl Worker.noConfusion (by decide)
        set).with_store store⟩
    · exact absurd (inv.work.running worker execution executing) elsewhere
  · exact ⟨.quiet rfl rfl, inv.work⟩

/-- **One step**: what it does to the store, and the ties it keeps. -/
theorem step_spec (s : State) (a : Action) (inv : Inv s) :
    StoreStep s.store (step P s a).store ∧ WorkInv (statusOf (step P s a).store) (step P s a) := by
  cases a with
  | trigger jobType request jobId eventId now => exact trigger_step inv jobType request jobId eventId now
  | request jobType runKey payload availableAt jobId eventId now =>
      exact request_step inv jobType runKey payload availableAt jobId eventId now
  | cancelRead cancel jobType jobId => exact cancelRead_step inv cancel jobType jobId
  | cancelUpdate cancel eventId now => exact cancelUpdate_step inv cancel eventId now
  | cancelReread cancel => exact cancelReread_step inv cancel
  | claim worker message eventId now => exact claim_step inv worker message eventId now
  | invoke worker => exact execute_step inv (.inl rfl)
  | handlerReturns worker result => exact execute_step inv (.inr (.inl ⟨result, rfl⟩))
  | handlerRaises worker error => exact execute_step inv (.inr (.inr ⟨error, rfl⟩))
  | complete worker eventId now => exact complete_step inv worker eventId now
  | fail worker eventId now => exact fail_step inv worker eventId now
  | databaseError worker =>
      simp only [step]
      split
      · exact ⟨.quiet rfl rfl, inv.work.settle worker rfl Worker.noConfusion⟩
      · exact ⟨.quiet rfl rfl, inv.work.settle worker rfl Worker.noConfusion⟩
      · exact ⟨.quiet rfl rfl, inv.work.settle worker rfl Worker.noConfusion⟩
      · exact ⟨.quiet rfl rfl, inv.work⟩
  | stop worker =>
      simp only [step]
      split
      · exact ⟨.quiet rfl rfl, inv.work.settle worker rfl Worker.noConfusion⟩
      · split
        · exact ⟨.quiet rfl rfl, inv.work.settle worker rfl Worker.noConfusion⟩
        · exact ⟨.quiet rfl rfl, inv.work⟩
  | published index now =>
      exact ⟨.quiet rfl (AutomationStore.events_markPublished _ _ _), inv.work.with_store _⟩

theorem inv_step (s : State) (a : Action) (inv : Inv s) (_ : True) : Inv (step P s a) := by
  obtain ⟨stepped, work⟩ := step_spec (P := P) s a inv
  exact ⟨jobInv_step inv.jobs stepped, work⟩

theorem inv_empty : Inv .empty := by
  refine ⟨jobInv_empty, ?_, ?_, ?_, List.nodup_nil, ?_, ?_, fun _ => Worker.noConfusion⟩
  · rintro worker execution ⟨⟩
  · rintro worker execution worker' execution' ⟨⟩
  · rintro worker execution ⟨⟩
  · intro id member
    cases member
  · rintro cancel id job ⟨⟩

end Steps

/-! ## Every run -/

/-- The statuses no edge leaves. -/
def Final (status : DurableJobStatus) : Prop :=
  status = .succeeded ∨ status = .failed ∨ status = .cancelled

theorem Final.no_edge {old new : DurableJobStatus} (final : Final old) : Edge old new = false := by
  rcases final with rfl | rfl | rfl <;> cases new <;> rfl

theorem run_inv (P : Platform) (trace : List Action) : Inv (run P trace) := by
  have admissible : Admissible (step P) (fun _ _ => True) .empty trace := admissible_true _ trace
  exact exec_invariant inv_step inv_empty admissible

/-- A job in a final status stays in it. -/
theorem final_stays (P : Platform) {front trace : List Action} (isPrefix : front <+: trace)
    {id : String} {status : DurableJobStatus} (final : Final status)
    (found : statusOf (run P front).store id = some status) :
    statusOf (run P trace).store id = some status := by
  obtain ⟨back, rfl⟩ := isPrefix
  rw [run, exec_append]
  have admissible : Admissible (step P) (fun _ _ => True) (run P front) back :=
    admissible_true _ back
  refine exec_monotone (R := fun (s t : State) =>
      statusOf s.store id = some status → statusOf t.store id = some status)
    (fun _ same => same) (fun _ _ _ first second same => second (first same)) inv_step ?_
    (run_inv P front) admissible found
  intro s a inv _ here
  obtain ⟨job, stored, rfl⟩ := Option.map_eq_some_iff.mp here
  obtain ⟨job', stored', -, -, -, -, same | edge⟩ := (step_spec (P := P) s a inv).1.status stored
  · rw [statusOf, stored', Option.map_some, same]
  · rw [final.no_edge] at edge
    cases edge

/-- **The durable job state machine.** In every run: there is at most one job per
type and run key, with exactly one requested event, and no such event without a job;
a job starts as requested and its status moves along `Edge` only, so a final status
stays; the handler is invoked at most once per job and never for a cancelled one; a
cancel request is answered 200 only for a job that is cancelled, stays so and is never
handled; no completion is lost; and the announcements of a job are its moves. -/
theorem durable_job_state_machine (P : Platform) (trace : List Action) :
    (∀ id job id' job', (run P trace).store.durableJobs.find id = some job →
      (run P trace).store.durableJobs.find id' = some job' → job.jobType = job'.jobType →
      job.runKey = job'.runKey → id = id') ∧
    (∀ id job, (run P trace).store.durableJobs.find id = some job → ∃ message,
      requestedEvents (run P trace).store job.jobType job.runKey = [message] ∧
        message.aggregateId = id) ∧
    (∀ jobType runKey, (run P trace).store.jobFor jobType runKey = none →
      requestedEvents (run P trace).store jobType runKey = []) ∧
    (∀ front a, front ++ [a] <+: trace → ∀ id,
      (statusOf (run P front).store id = none →
        ∀ status, statusOf (run P (front ++ [a])).store id = some status → status = .requested) ∧
      ∀ status, statusOf (run P front).store id = some status →
        ∃ status', statusOf (run P (front ++ [a])).store id = some status' ∧
          (status' = status ∨ Edge status status' = true)) ∧
    (∀ front, front <+: trace → ∀ id status, Final status →
      statusOf (run P front).store id = some status →
        statusOf (run P trace).store id = some status) ∧
    (run P trace).invoked.Nodup ∧
    (∀ id ∈ (run P trace).invoked, ∃ status, statusOf (run P trace).store id = some status ∧
      status ≠ .requested ∧ status ≠ .cancelled) ∧
    (∀ front, front <+: trace → ∀ cancel id job,
      (run P front).cancels cancel = .answered id (.ok job) →
        job.status = .cancelled ∧ statusOf (run P trace).store id = some .cancelled ∧
          id ∉ (run P trace).invoked) ∧
    (∀ worker, (run P trace).workers worker ≠ .lost) ∧
    (∀ id job, (run P trace).store.durableJobs.find id = some job →
      announced (run P trace).store id =
        (history job.status).map fun status => some status.value) := by
  have inv := run_inv P trace
  refine ⟨inv.jobs.unique, inv.jobs.requestedOnce, fun _ _ => inv.jobs.requestedEvents_eq_nil, ?_,
    fun front isPrefix id status final found => final_stays P isPrefix final found,
    inv.work.once, inv.work.begun, ?_, inv.work.notLost, inv.jobs.announcedOnce⟩
  · intro front a isPrefix id
    have stepped := (step_spec (P := P) (run P front) a (run_inv P front)).1
    have next : run P (front ++ [a]) = step P (run P front) a := exec_snoc _ _ _ _
    rw [next]
    constructor
    · intro absent status found
      obtain ⟨job, stored, rfl⟩ := Option.map_eq_some_iff.mp found
      rcases stepped.before stored with ⟨old, before, -⟩ | ⟨-, -, -, requested⟩
      · rw [statusOf, before] at absent
        cases absent
      · exact requested
    · intro status found
      obtain ⟨job, stored, rfl⟩ := Option.map_eq_some_iff.mp found
      obtain ⟨job', stored', -, -, -, -, moves⟩ := stepped.status stored
      exact ⟨job'.status, by rw [statusOf, stored', Option.map_some], moves⟩
  · intro front isPrefix cancel id job answered
    obtain ⟨cancelled, status⟩ := (run_inv P front).work.answers cancel id job answered
    have stays := final_stays P isPrefix (.inr (.inr rfl)) status
    refine ⟨cancelled, stays, fun member => ?_⟩
    obtain ⟨status', found, -, notCancelled⟩ := inv.work.begun id member
    exact notCancelled (Option.some.inj (found.symm.trans stays))

end KisAutoTrading.Jobs.StateMachine
