/-
# Jobs.DagRuns — scheduled runs of the durable jobs

The scheduler, the job API and the workers in one run. Any number of DAG runs trigger their job over
HTTP and then poll it. The server may answer a call long after the attempt that opened it has given
up, or never, and an answer may be lost: an attempt raises whenever it likes. In between happens
whatever else happens to jobs, each step of it an action of the job state machine.

The job system only ever sees triggers, so it keeps its own invariant. `RunInv` ties a DAG run to it:
the job that `trigger` ended with is there under the key of the run, and `wait` succeeds only for a
job that has. `Done` adds to the state machine that a job that is settled was handled.
-/
import KisAutoTrading.Airflow.JobDag
import KisAutoTrading.Jobs.StateMachine

namespace KisAutoTrading.Jobs.DagRuns

open Theory Theory.Runs Airflow
open StateMachine (Worker Final)

set_option autoImplicit false

/-! ## The system -/

structure State where
  jobs : StateMachine.State
  runs : Nat → Option DagRun
  calls : Nat → Option ApiCall

def State.empty : State := ⟨.empty, fun _ => none, fun _ => none⟩

def State.setRun (s : State) (run : Nat) (dagRun : DagRun) : State :=
  { s with runs := Function.update s.runs run (some dagRun) }

def State.setCall (s : State) (number : Nat) (call : ApiCall) : State :=
  { s with calls := Function.update s.calls number (some call) }

inductive Action where
  /-- The scheduler, or an operator, starts a DAG run. -/
  | start (run : Nat) (dag : JobDag) (dataIntervalStart : Option String)
  /-- An attempt of `trigger` sends its request, with the payload its environment has. -/
  | post (run number : Nat) (payload : Dict)
  /-- A turn of the loop of `wait` asks for the job. -/
  | get (run number : Nat)
  /-- The server answers a call. -/
  | serve (number : Nat) (jobId eventId : String) (now : Instant)
  /-- A task reads the answer it waits for. -/
  | hear (run : Nat)
  /-- The attempt raises: no answer, a lost one, the payload of the environment, the time limit. -/
  | raise (run : Nat) (failure : Failure)
  | jobs (action : StateMachine.Action)

def step (P : Platform) (s : State) : Action → State
  | .start run dag dataIntervalStart =>
      match s.runs run with
      | some _ => s
      | none => s.setRun run (.start dag dataIntervalStart)
  | .post run number payload =>
      match s.runs run, s.calls number with
      | some dagRun, none =>
          match dagRun.trigger with
          | .ready raised =>
              match dagRun.runKey with
              | .error failure => s.setRun run (dagRun.raise failure)
              | .ok runKey =>
                  (s.setCall number (.post dagRun.dag.jobType ⟨runKey, payload⟩ none)).setRun run
                    { dagRun with trigger := .asking raised number }
          | _ => s
      | _, _ => s
  | .get run number =>
      match s.runs run, s.calls number with
      | some dagRun, none =>
          match dagRun.trigger, dagRun.wait with
          | .succeeded jobId, .ready raised =>
              (s.setCall number (.get dagRun.dag.jobType jobId none)).setRun run
                { dagRun with wait := .asking raised number }
          | _, _ => s
      | _, _ => s
  | .serve number jobId eventId now =>
      match s.calls number with
      | some (.post jobType request none) =>
          let result := triggerDurableJob jobType request jobId eventId now s.jobs.store
          { s with
            jobs := StateMachine.step P s.jobs (.trigger jobType request jobId eventId now)
          }.setCall number (.post jobType request (some (result.map Prod.fst)))
      | some (.get jobType asked none) =>
          s.setCall number (.get jobType asked (some (getDurableJob jobType asked s.jobs.store)))
      | _ => s
  | .hear run =>
      match s.runs run with
      | some dagRun =>
          match dagRun.call.bind s.calls with
          | some answered => s.setRun run (dagRun.hear answered)
          | none => s
      | none => s
  | .raise run failure =>
      match s.runs run with
      | some dagRun => s.setRun run (dagRun.raise failure)
      | none => s
  | .jobs action => { s with jobs := StateMachine.step P s.jobs action }

def run (P : Platform) (trace : List Action) : State := exec (step P) .empty trace

/-! ## Handled jobs -/

/-- The job whose handler a handling has invoked and not yet settled. -/
def handledBy : Worker → Option DurableJobExecution
  | .invoked execution => some execution
  | .returned execution _ => some execution
  | .raised execution _ => some execution
  | _ => none

/-- A job is settled by a handling that invoked its handler. -/
structure Done (s : StateMachine.State) : Prop where
  handled : ∀ worker execution, handledBy (s.workers worker) = some execution →
    execution.jobId ∈ s.invoked
  settled : ∀ id status, statusOf s.store id = some status →
    status = .succeeded ∨ status = .failed → id ∈ s.invoked

section Handled

variable {s : StateMachine.State}

theorem Done.with_store (done : Done s) {store : AutomationStore}
    (before : ∀ id status, statusOf store id = some status → status = .succeeded ∨ status = .failed →
      statusOf s.store id = some status ∨ id ∈ s.invoked) : Done { s with store } := by
  refine ⟨done.handled, fun id status found settled => ?_⟩
  rcases before id status found settled with old | invoked
  · exact done.settled id status old settled
  · exact invoked

theorem Done.enter (done : Done s) (worker : Nat) {phase : Worker}
    (known : ∀ execution, handledBy phase = some execution → execution.jobId ∈ s.invoked) :
    Done (s.enter worker phase) := by
  refine ⟨fun other execution handled => ?_, done.settled⟩
  rw [StateMachine.workers_enter] at handled
  split at handled
  · exact known execution handled
  · exact done.handled other execution handled

theorem Done.answer (done : Done s) (cancel : Nat) (phase : StateMachine.Cancel) :
    Done (s.answer cancel phase) :=
  ⟨done.handled, done.settled⟩

/-- One status is set, to one that is not settled or for a job that was handled. -/
theorem Done.set_status (done : Done s) {store : AutomationStore} {id : String}
    {status : DurableJobStatus}
    (set : ∀ other, statusOf store other = if other = id then some status else statusOf s.store other)
    (known : status = .succeeded ∨ status = .failed → id ∈ s.invoked) : Done { s with store } := by
  refine done.with_store fun other status' found settled => ?_
  rw [set] at found
  split at found
  · rename_i here
    obtain rfl := Option.some.inj found
    exact .inr (here ▸ known settled)
  · exact .inl found

theorem Done.request (done : Done s) (jobType runKey : String) (payload : Dict)
    (availableAt : Option Instant) (jobId eventId : String) (now : Instant) :
    Done { s with
      store := committed s.store
        (requestJob jobType runKey payload availableAt jobId eventId now s.store) } := by
  rcases request_cases jobType runKey payload availableAt jobId eventId now s.store with
    ⟨failure, raised⟩ | ⟨existing, -, found⟩ | ⟨definition, -, -, -, inserted⟩
  · rw [raised]
    exact done
  · rw [found]
    exact done
  · rw [inserted]
    let job : DurableJobRecord := {
      jobId, jobType, runKey, status := .requested, payload, requestedAt := now, updatedAt := now }
    let record := outboxRecord (jobRequestMessage definition jobId runKey payload eventId now)
      availableAt
    have set : ∀ other, statusOf (s.store.insertJob job record) other =
        if other = jobId then some .requested else statusOf s.store other := by
      intro other
      simp only [statusOf, AutomationStore.find_insertJob]
      split <;> rfl
    refine done.set_status set ?_
    rintro (impossible | impossible) <;> cases impossible

/-- A phase of no handled job says nothing. -/
theorem Done.enter_idle (done : Done s) (worker : Nat) {phase : Worker} (idle : handledBy phase = none) :
    Done (s.enter worker phase) :=
  done.enter worker fun execution handled => by
    rw [idle] at handled
    cases handled

theorem done_cancelUpdate (P : Platform) (inv : StateMachine.Inv s) (done : Done s) (cancel : Nat)
    (eventId : String) (now : Instant) :
    Done (StateMachine.step P s (.cancelUpdate cancel eventId now)) := by
  simp only [StateMachine.step]
  split
  · rename_i jobId seen
    rcases cancelUpdate_cases jobId eventId now s.store inv.jobs.keyed with
      ⟨job, found, requested, updated⟩ | refused
    · rw [updated]
      have set := statusOf_moveJob s.store job .cancelled none none eventId now
      refine (done.set_status set ?_).answer _ _
      rintro (impossible | impossible) <;> cases impossible
    · rw [refused]
      exact done.answer _ _
  · exact done

theorem done_claim (P : Platform) (inv : StateMachine.Inv s) (done : Done s) (worker : Nat)
    (message : EventMessage) (eventId : String) (now : Instant) :
    Done (StateMachine.step P s (.claim worker message eventId now)) := by
  simp only [StateMachine.step]
  split
  · split
    · exact done.enter_idle worker rfl
    · rename_i execution read
      rcases transition_step inv.jobs execution.jobId .requested .running rfl none none eventId now with
        ⟨store, moved, -, -, set⟩ | ⟨same, -⟩
      · rw [moved]
        have claimed : Done { s with store } := by
          refine done.set_status set ?_
          rintro (impossible | impossible) <;> cases impossible
        exact claimed.enter_idle worker rfl
      · rw [same]
        exact done.enter_idle worker rfl
  · exact done

/-- The handler is invoked, and it ends. -/
theorem done_handler (P : Platform) (done : Done s) (worker : Nat) :
    Done (StateMachine.step P s (.invoke worker)) ∧
      (∀ result, Done (StateMachine.step P s (.handlerReturns worker result))) ∧
      ∀ error, Done (StateMachine.step P s (.handlerRaises worker error)) := by
  refine ⟨?_, fun result => ?_, fun error => ?_⟩
  · simp only [StateMachine.step]
    split
    · rename_i execution claimed
      have invoked : Done { s with invoked := s.invoked ++ [execution.jobId] } :=
        ⟨fun w e handled => List.mem_append_left _ (done.handled w e handled),
          fun id status found settled => List.mem_append_left _ (done.settled id status found settled)⟩
      refine invoked.enter worker ?_
      rintro e ⟨⟩
      exact List.mem_append_right _ (List.mem_singleton.mpr rfl)
    · exact done
  · simp only [StateMachine.step]
    split
    · rename_i execution invoked
      refine done.enter worker ?_
      rintro e ⟨⟩
      exact done.handled worker _ (by rw [invoked]; rfl)
    · exact done
  · simp only [StateMachine.step]
    split
    · rename_i execution invoked
      refine done.enter worker ?_
      rintro e ⟨⟩
      exact done.handled worker _ (by rw [invoked]; rfl)
    · exact done

/-- A job is settled by the handling that invoked its handler. -/
theorem done_settle (P : Platform) (inv : StateMachine.Inv s) (done : Done s) (worker : Nat)
    (eventId : String) (now : Instant) :
    Done (StateMachine.step P s (.complete worker eventId now)) ∧
      Done (StateMachine.step P s (.fail worker eventId now)) := by
  have settles {store : AutomationStore} {execution : DurableJobExecution} {status : DurableJobStatus}
      (handled : handledBy (s.workers worker) = some execution)
      (set : ∀ other, statusOf store other =
        if other = execution.jobId then some status else statusOf s.store other)
      {phase : Worker} (idle : handledBy phase = none) :
      Done (StateMachine.State.enter { s with store } worker phase) :=
    (done.set_status set fun _ => done.handled worker execution handled).enter_idle worker idle
  constructor
  · simp only [StateMachine.step]
    split
    · rename_i execution result returned
      rcases transition_step inv.jobs execution.jobId .running .succeeded rfl result none eventId now
        with ⟨store, moved, -, -, set⟩ | ⟨same, -⟩
      · rw [moved]
        exact settles (by rw [returned]; rfl) set rfl
      · rw [same]
        exact done.enter_idle worker rfl
    · exact done
  · simp only [StateMachine.step]
    split
    · rename_i execution error raised
      rcases transition_step inv.jobs execution.jobId .running .failed rfl none (some error) eventId
        now with ⟨store, moved, -, -, set⟩ | ⟨same, -⟩
      · rw [moved]
        exact settles (by rw [raised]; rfl) set rfl
      · rw [same]
        exact done.enter_idle worker rfl
    · exact done

theorem done_step (P : Platform) (inv : StateMachine.Inv s) (done : Done s)
    (a : StateMachine.Action) : Done (StateMachine.step P s a) := by
  cases a with
  | trigger jobType request jobId eventId now =>
      simp only [StateMachine.step]
      rcases trigger_cases jobType request jobId eventId now s.store with ⟨failure, raised⟩ | same
      · rw [raised]
        exact done
      · rw [same]
        exact done.request _ _ _ _ _ _ _
  | request jobType runKey payload availableAt jobId eventId now =>
      exact done.request _ _ _ _ _ _ _
  | cancelRead cancel jobType jobId =>
      simp only [StateMachine.step]
      split
      · split <;> exact done.answer _ _
      · exact done
  | cancelUpdate cancel eventId now => exact done_cancelUpdate P inv done cancel eventId now
  | cancelReread cancel =>
      simp only [StateMachine.step]
      split
      · exact done.answer _ _
      · exact done
  | claim worker message eventId now => exact done_claim P inv done worker message eventId now
  | invoke worker => exact (done_handler P done worker).1
  | handlerReturns worker result => exact (done_handler P done worker).2.1 result
  | handlerRaises worker error => exact (done_handler P done worker).2.2 error
  | complete worker eventId now => exact (done_settle P inv done worker eventId now).1
  | fail worker eventId now => exact (done_settle P inv done worker eventId now).2
  | databaseError worker =>
      simp only [StateMachine.step]
      split <;> first | exact done | exact done.enter_idle worker rfl
  | stop worker =>
      simp only [StateMachine.step]
      split
      · exact done.enter_idle worker rfl
      · split
        · exact done.enter_idle worker rfl
        · exact done
  | published index now => exact done.with_store fun _ _ found _ => .inl found

theorem done_empty : Done .empty := by
  refine ⟨?_, ?_⟩
  · rintro worker execution ⟨⟩
  · rintro id status ⟨⟩

end Handled

/-! ## What the calls and the runs say of the jobs -/

/-- The job of a type and a run key is there. -/
def JobAt (store : AutomationStore) (jobId jobType runKey : String) : Prop :=
  ∃ job, store.durableJobs.find jobId = some job ∧ job.jobType = jobType ∧ job.runKey = runKey

/-- An answer names the job that was requested, and a final status that is the job's. -/
def Truthful (store : AutomationStore) : ApiCall → Prop
  | .post jobType request (some (.ok result)) => JobAt store result.jobId jobType request.runKey
  | .get _ jobId (some (.ok job)) => Final job.status → statusOf store jobId = some job.status
  | _ => True

/-- A call is the same question, answered or not. -/
inductive Continues : ApiCall → ApiCall → Prop
  | post (jobType : String) (request : DurableJobTriggerRequest) (before after) :
      Continues (.post jobType request before) (.post jobType request after)
  | get (jobType jobId : String) (before after) :
      Continues (.get jobType jobId before) (.get jobType jobId after)

/-- The ties of a DAG run to the calls and the jobs. -/
structure RunInv (store : AutomationStore) (calls : Nat → Option ApiCall) (run : DagRun) : Prop where
  posting : ∀ raised number, run.trigger = .asking raised number → ∃ key payload response,
    run.runKey = .ok key ∧ calls number = some (.post run.dag.jobType ⟨key, payload⟩ response)
  triggered : ∀ jobId, run.trigger = .succeeded jobId → ∃ key, run.runKey = .ok key ∧
    JobAt store jobId run.dag.jobType key
  polling : ∀ raised number, run.wait = .asking raised number → ∃ jobId response,
    run.trigger = .succeeded jobId ∧ calls number = some (.get run.dag.jobType jobId response)
  waited : run.wait = .succeeded () → ∃ jobId, run.trigger = .succeeded jobId ∧
    statusOf store jobId = some .succeeded
  counted : run.trigger.Counted ∧ run.wait.Counted

structure Inv (s : State) : Prop where
  jobs : StateMachine.Inv s.jobs
  settled : Done s.jobs
  calls : ∀ number call, s.calls number = some call → Truthful s.jobs.store call
  runs : ∀ number run, s.runs number = some run → RunInv s.jobs.store s.calls run

section Stores

variable {store store' : AutomationStore}

theorem JobAt.step (stepped : StoreStep store store') {jobId jobType runKey : String}
    (there : JobAt store jobId jobType runKey) : JobAt store' jobId jobType runKey := by
  obtain ⟨job, found, rfl, rfl⟩ := there
  obtain ⟨job', found', -, type, key, -⟩ := stepped.status found
  exact ⟨job', found', type, key⟩

theorem final_step (stepped : StoreStep store store') {id : String} {status : DurableJobStatus}
    (final : Final status) (found : statusOf store id = some status) :
    statusOf store' id = some status := by
  obtain ⟨job, stored, rfl⟩ := Option.map_eq_some_iff.mp found
  obtain ⟨job', stored', -, -, -, -, same | edge⟩ := stepped.status stored
  · rw [statusOf, stored', Option.map_some, same]
  · rw [final.no_edge] at edge
    cases edge

theorem Truthful.step (stepped : StoreStep store store') {call : ApiCall}
    (truthful : Truthful store call) : Truthful store' call := by
  match call, truthful with
  | .post _ _ (some (.ok _)), named => exact JobAt.step stepped named
  | .get _ _ (some (.ok _)), known => exact fun final => final_step stepped final (known final)
  | .post _ _ (some (.error _)), _ => exact trivial
  | .get _ _ (some (.error _)), _ => exact trivial
  | .post _ _ none, _ => exact trivial
  | .get _ _ none, _ => exact trivial

/-- What a trigger answers is the job of the type and key. -/
theorem truthful_trigger (keyed : Table.Keyed (·.jobId) store.durableJobs) (jobType : String)
    (request : DurableJobTriggerRequest) (jobId eventId : String) (now : Instant) :
    let result := triggerDurableJob jobType request jobId eventId now store
    Truthful (committed store result) (.post jobType request (some (result.map Prod.fst))) := by
  intro result
  rcases trigger_cases jobType request jobId eventId now store with ⟨failure, raised⟩ | same
  · simp only [result, raised]
    exact trivial
  · rcases request_cases jobType request.runKey request.payload none jobId eventId now store with
      ⟨failure, raised⟩ | ⟨existing, here, found⟩ | ⟨definition, -, -, -, inserted⟩
    · simp only [result, same, raised]
      exact trivial
    · obtain ⟨type, key, id, stored⟩ := AutomationStore.jobFor_eq_some here
      obtain rfl : existing.jobId = id := keyed _ _ stored
      simp only [result, same, found]
      exact ⟨existing, stored, type, key⟩
    · simp only [result, same, inserted]
      exact ⟨_, (AutomationStore.find_insertJob _ _ _ _).trans (if_pos rfl), rfl, rfl⟩

theorem truthful_get (jobType jobId : String) :
    Truthful store (.get jobType jobId (some (getDurableJob jobType jobId store))) := by
  cases answered : getDurableJob jobType jobId store with
  | error failure => exact trivial
  | ok job =>
      intro _
      rw [statusOf, (find_of_getDurableJob answered).1, Option.map_some]

end Stores

/-! ## One DAG run -/

section OneRun

variable {store store' : AutomationStore} {calls calls' : Nat → Option ApiCall} {run : DagRun}

theorem Continues.refl (call : ApiCall) : Continues call call := by
  cases call with
  | post => exact .post _ _ _ _
  | get => exact .get _ _ _ _

/-- Whatever else happens, the ties of a run stay. -/
theorem RunInv.carry (inv : RunInv store calls run) (stepped : StoreStep store store')
    (continued : ∀ number call, calls number = some call →
      ∃ call', calls' number = some call' ∧ Continues call call') : RunInv store' calls' run := by
  refine ⟨?_, ?_, ?_, ?_, inv.counted⟩
  · intro raised number asking
    obtain ⟨key, payload, response, named, posted⟩ := inv.posting raised number asking
    obtain ⟨call', here, same⟩ := continued number _ posted
    cases same with
    | post _ _ _ after => exact ⟨key, payload, after, named, here⟩
  · intro jobId succeeded
    obtain ⟨key, named, there⟩ := inv.triggered jobId succeeded
    exact ⟨key, named, there.step stepped⟩
  · intro raised number asking
    obtain ⟨jobId, response, succeeded, asked⟩ := inv.polling raised number asking
    obtain ⟨call', here, same⟩ := continued number _ asked
    cases same with
    | get _ _ _ after => exact ⟨jobId, after, succeeded, here⟩
  · intro waited
    obtain ⟨jobId, succeeded, status⟩ := inv.waited waited
    exact ⟨jobId, succeeded, final_step stepped (.inl rfl) status⟩

/-- Before `trigger` is through, `wait` has done nothing. -/
theorem RunInv.not_waiting (inv : RunInv store calls run)
    (untriggered : ∀ jobId, run.trigger ≠ .succeeded jobId) :
    (∀ raised number, run.wait ≠ .asking raised number) ∧ run.wait ≠ .succeeded () := by
  constructor
  · intro raised number asking
    obtain ⟨jobId, -, succeeded, -⟩ := inv.polling raised number asking
    exact untriggered jobId succeeded
  · intro waited
    obtain ⟨jobId, succeeded, -⟩ := inv.waited waited
    exact untriggered jobId succeeded

/-- `trigger` goes on, or ends with a job of the run's type and key. -/
theorem RunInv.set_trigger (inv : RunInv store calls run)
    (untriggered : ∀ jobId, run.trigger ≠ .succeeded jobId) {trigger : DagTask String}
    (posting : ∀ raised number, trigger = .asking raised number → ∃ key payload response,
      run.runKey = .ok key ∧ calls number = some (.post run.dag.jobType ⟨key, payload⟩ response))
    (triggered : ∀ jobId, trigger = .succeeded jobId → ∃ key, run.runKey = .ok key ∧
      JobAt store jobId run.dag.jobType key)
    (counted : trigger.Counted) : RunInv store calls { run with trigger } := by
  obtain ⟨notAsking, notWaited⟩ := inv.not_waiting untriggered
  exact ⟨posting, triggered, fun raised number asking => absurd asking (notAsking raised number),
    fun waited => absurd waited notWaited, counted, inv.counted.2⟩

/-- `wait` goes on, or ends with its job. -/
theorem RunInv.set_wait (inv : RunInv store calls run) {wait : DagTask Unit}
    (polling : ∀ raised number, wait = .asking raised number → ∃ jobId response,
      run.trigger = .succeeded jobId ∧ calls number = some (.get run.dag.jobType jobId response))
    (waited : wait = .succeeded () → ∃ jobId, run.trigger = .succeeded jobId ∧
      statusOf store jobId = some .succeeded)
    (counted : wait.Counted) : RunInv store calls { run with wait } :=
  ⟨inv.posting, inv.triggered, polling, waited, inv.counted.1, counted⟩

theorem RunInv.raise (inv : RunInv store calls run) (failure : Failure) :
    RunInv store calls (run.raise failure) := by
  by_cases through : ∃ jobId, run.trigger = .succeeded jobId
  · obtain ⟨jobId, trigger⟩ := through
    rw [DagRun.raise_wait trigger]
    refine inv.set_wait ?_ ?_ (DagTask.counted_raise inv.counted.2 failure)
    · exact fun raised number asking => absurd asking (DagTask.raise_ne_asking _ _ _ _)
    · exact fun waited => inv.waited (DagTask.raise_eq_succeeded.mp waited)
  · have untriggered : ∀ jobId, run.trigger ≠ .succeeded jobId :=
      fun jobId trigger => through ⟨jobId, trigger⟩
    rw [DagRun.raise_trigger untriggered]
    refine inv.set_trigger untriggered ?_ ?_ (DagTask.counted_raise inv.counted.1 failure)
    · exact fun raised number asking => absurd asking (DagTask.raise_ne_asking _ _ _ _)
    · exact fun jobId succeeded =>
        absurd (DagTask.raise_eq_succeeded.mp succeeded) (untriggered jobId)

/-- `trigger_job` reads the answer to its request. -/
theorem RunInv.triggered_next (inv : RunInv store calls run) {raised : List Failure} {number : Nat}
    (trigger : run.trigger = .asking raised number) {key : String} (named : run.runKey = .ok key)
    {payload : Dict} {response : Except Failure DurableJobRequestResult}
    (truthful : Truthful store (.post run.dag.jobType ⟨key, payload⟩ (some response))) :
    RunInv store calls (run.triggered response) := by
  cases response with
  | error failure => exact inv.raise failure
  | ok result =>
      refine inv.set_trigger (by simp [trigger]) ?_ ?_ trivial
      · rintro raised' number' ⟨⟩
      · rintro jobId ⟨⟩
        exact ⟨key, named, truthful⟩

/-- `wait_for_job` reads the status of its job. -/
theorem RunInv.polled_next (inv : RunInv store calls run) {raised : List Failure} {number : Nat}
    (wait : run.wait = .asking raised number) {jobId : String}
    (trigger : run.trigger = .succeeded jobId) {jobType : String}
    {response : Except Failure DurableJobRecord}
    (truthful : Truthful store (.get jobType jobId (some response))) :
    RunInv store calls (run.polled raised response) := by
  have again : RunInv store calls { run with wait := .ready raised } := by
    refine inv.set_wait ?_ ?_ ?_
    · rintro raised' number' ⟨⟩
    · rintro ⟨⟩
    · have counted := inv.counted.2
      rw [wait] at counted
      exact counted
  cases response with
  | error failure => exact inv.raise failure
  | ok job =>
      simp only [DagRun.polled]
      split
      · rename_i succeeded
        refine inv.set_wait ?_ ?_ trivial
        · rintro raised' number' ⟨⟩
        · intro _
          have known := truthful (.inl succeeded)
          exact ⟨jobId, trigger, known.trans (congrArg some succeeded)⟩
      · exact inv.raise _
      · exact inv.raise _
      · exact again
      · exact again

/-- A task reads a truthful answer to the call it waits for. -/
theorem RunInv.hear (inv : RunInv store calls run) {number : Nat} (waits : run.call = some number)
    {call : ApiCall} (answered : calls number = some call) (truthful : Truthful store call) :
    RunInv store calls (run.hear call) := by
  cases trigger : run.trigger with
  | asking raised asked =>
      simp only [DagRun.call, trigger, Option.some.injEq] at waits
      subst waits
      obtain ⟨key, payload, response, named, posted⟩ := inv.posting raised asked trigger
      obtain rfl := Option.some.inj (posted.symm.trans answered)
      cases response with
      | none => simpa only [DagRun.hear, trigger] using inv
      | some response =>
          simp only [DagRun.hear, trigger]
          exact inv.triggered_next trigger named truthful
  | succeeded jobId =>
      cases wait : run.wait with
      | asking raised asked =>
          simp only [DagRun.call, trigger, wait, Option.some.injEq] at waits
          subst waits
          obtain ⟨jobId', response, succeeded, polled⟩ := inv.polling raised asked wait
          obtain rfl := Option.some.inj (polled.symm.trans answered)
          cases response with
          | none => simpa only [DagRun.hear, trigger, wait] using inv
          | some response =>
              simp only [DagRun.hear, trigger, wait]
              exact inv.polled_next wait succeeded truthful
      | _ => simp [DagRun.call, trigger, wait] at waits
  | _ => simp [DagRun.call, trigger] at waits

end OneRun

/-! ## The system's invariant -/

section Steps

variable {P : Platform} {s : State}

theorem Inv.set_run (inv : Inv s) (number : Nat) {dagRun : DagRun}
    (fits : RunInv s.jobs.store s.calls dagRun) : Inv (s.setRun number dagRun) := by
  refine ⟨inv.jobs, inv.settled, inv.calls, fun other run there => ?_⟩
  simp only [State.setRun, Function.update_apply] at there
  split at there
  · obtain rfl := Option.some.inj there
    exact fits
  · exact inv.runs other run there

theorem Inv.set_call (inv : Inv s) {number : Nat} {call : ApiCall}
    (truthful : Truthful s.jobs.store call)
    (continues : ∀ old, s.calls number = some old → Continues old call) :
    Inv (s.setCall number call) := by
  refine ⟨inv.jobs, inv.settled, fun other asked there => ?_, fun other run there => ?_⟩
  · simp only [State.setCall, Function.update_apply] at there
    split at there
    · obtain rfl := Option.some.inj there
      exact truthful
    · exact inv.calls other asked there
  · refine (inv.runs other run there).carry (.quiet rfl rfl) fun asked old here => ?_
    by_cases same : asked = number
    · subst same
      exact ⟨call, Function.update_self .., continues old here⟩
    · exact ⟨old, (Function.update_of_ne same ..).trans here, .refl old⟩

theorem Inv.job_action (inv : Inv s) (a : StateMachine.Action) :
    Inv { s with jobs := StateMachine.step P s.jobs a } := by
  have stepped := (StateMachine.step_spec (P := P) s.jobs a inv.jobs).1
  refine ⟨StateMachine.inv_step s.jobs a inv.jobs trivial, done_step P inv.jobs inv.settled a,
    fun number call there => (inv.calls number call there).step stepped,
    fun number run there => (inv.runs number run there).carry stepped ?_⟩
  exact fun _ call here => ⟨call, here, .refl call⟩

theorem runInv_start (store : AutomationStore) (calls : Nat → Option ApiCall) (dag : JobDag)
    (dataIntervalStart : Option String) : RunInv store calls (.start dag dataIntervalStart) := by
  refine ⟨?_, ?_, ?_, ?_, Nat.zero_le _, Nat.zero_le _⟩
  · rintro raised number ⟨⟩
  · rintro jobId ⟨⟩
  · rintro raised number ⟨⟩
  · rintro ⟨⟩

theorem inv_step (s : State) (a : Action) (inv : Inv s) (_ : True) : Inv (step P s a) := by
  cases a with
  | start run dag dataIntervalStart =>
      simp only [step]
      split
      · exact inv
      · exact inv.set_run run (runInv_start _ _ dag dataIntervalStart)
  | post run number payload =>
      simp only [step]
      split
      · rename_i dagRun there unused
        have ties := inv.runs run dagRun there
        split
        · rename_i raised trigger
          split
          · exact inv.set_run run (ties.raise _)
          · rename_i key named
            have opened : Inv (s.setCall number (.post dagRun.dag.jobType ⟨key, payload⟩ none)) :=
              inv.set_call trivial (by simp [unused])
            refine opened.set_run run ?_
            refine (opened.runs run dagRun there).set_trigger (by simp [trigger]) ?_ ?_ ?_
            · rintro raised' number' ⟨⟩
              exact ⟨key, payload, none, named, Function.update_self ..⟩
            · rintro jobId ⟨⟩
            · have counted := ties.counted.1
              rw [trigger] at counted
              exact counted
        · exact inv
      · exact inv
  | get run number =>
      simp only [step]
      split
      · rename_i dagRun there unused
        have ties := inv.runs run dagRun there
        split
        · rename_i jobId raised trigger wait
          have opened : Inv (s.setCall number (.get dagRun.dag.jobType jobId none)) :=
            inv.set_call trivial (by simp [unused])
          refine opened.set_run run ?_
          refine (opened.runs run dagRun there).set_wait ?_ ?_ ?_
          · rintro raised' number' ⟨⟩
            exact ⟨jobId, none, trigger, Function.update_self ..⟩
          · rintro ⟨⟩
          · have counted := ties.counted.2
            rw [wait] at counted
            exact counted
        · exact inv
      · exact inv
  | serve number jobId eventId now =>
      simp only [step]
      split
      · rename_i jobType request unanswered
        refine Inv.set_call (inv.job_action (.trigger jobType request jobId eventId now)) ?_ ?_
        · exact truthful_trigger inv.jobs.jobs.keyed jobType request jobId eventId now
        · intro old here
          obtain rfl := Option.some.inj (unanswered.symm.trans here)
          exact .post _ _ _ _
      · rename_i jobType asked unanswered
        refine inv.set_call (truthful_get jobType asked) ?_
        intro old here
        obtain rfl := Option.some.inj (unanswered.symm.trans here)
        exact .get _ _ _ _
      · exact inv
  | hear run =>
      simp only [step]
      split
      · rename_i dagRun there
        split
        · rename_i answered heard
          obtain ⟨number, waits, here⟩ := Option.bind_eq_some_iff.mp heard
          exact inv.set_run run ((inv.runs run dagRun there).hear waits here
            (inv.calls number answered here))
        · exact inv
      · exact inv
  | raise run failure =>
      simp only [step]
      split
      · rename_i dagRun there
        exact inv.set_run run ((inv.runs run dagRun there).raise failure)
      · exact inv
  | jobs action => exact inv.job_action action

theorem inv_empty : Inv .empty := by
  refine ⟨StateMachine.inv_empty, done_empty, ?_, ?_⟩
  · rintro number call ⟨⟩
  · rintro number run ⟨⟩

/-- A step of the system is a step of the job system, or leaves it alone. -/
theorem step_store (inv : Inv s) (a : Action) :
    StoreStep s.jobs.store (step P s a).jobs.store := by
  have same : StoreStep s.jobs.store s.jobs.store := .quiet rfl rfl
  cases a with
  | jobs action => exact (StateMachine.step_spec s.jobs action inv.jobs).1
  | serve number jobId eventId now =>
      simp only [step]
      split
      · rename_i jobType request unanswered
        exact (StateMachine.step_spec (P := P) s.jobs (.trigger jobType request jobId eventId now)
          inv.jobs).1
      · exact same
      · exact same
  | start run dag dataIntervalStart =>
      simp only [step]
      split <;> exact same
  | post run number payload =>
      simp only [step]
      split
      · split
        · split <;> exact same
        · exact same
      · exact same
  | get run number =>
      simp only [step]
      split
      · split <;> exact same
      · exact same
  | hear run =>
      simp only [step]
      split
      · split <;> exact same
      · exact same
  | raise run failure =>
      simp only [step]
      split <;> exact same

end Steps

/-! ## Every run -/

section Runs

variable (P : Platform)

theorem run_inv (trace : List Action) : Inv (run P trace) := by
  have admissible : Admissible (step P) (fun _ _ => True) .empty trace := admissible_true _ trace
  exact exec_invariant inv_step inv_empty admissible

/-- What stays of the jobs: which there are under which key, and a final status. -/
theorem run_stays {trace later : List Action} (isPrefix : trace <+: later) :
    (∀ jobId jobType key, JobAt (run P trace).jobs.store jobId jobType key →
      JobAt (run P later).jobs.store jobId jobType key) ∧
    ∀ id status, Final status → statusOf (run P trace).jobs.store id = some status →
      statusOf (run P later).jobs.store id = some status := by
  obtain ⟨rest, rfl⟩ := isPrefix
  rw [run, run, exec_append]
  have admissible : Admissible (step P) (fun _ _ => True) (run P trace) rest :=
    admissible_true _ rest
  refine exec_monotone (R := fun (s t : State) =>
      (∀ jobId jobType key, JobAt s.jobs.store jobId jobType key →
        JobAt t.jobs.store jobId jobType key) ∧
      ∀ id status, Final status → statusOf s.jobs.store id = some status →
        statusOf t.jobs.store id = some status)
    (fun _ => ⟨fun _ _ _ same => same, fun _ _ _ same => same⟩) ?_ inv_step ?_ (run_inv P trace)
    admissible
  · intro s t u first second
    exact ⟨fun id type key there => second.1 id type key (first.1 id type key there),
      fun id status final found => second.2 id status final (first.2 id status final found)⟩
  · intro s a inv _
    have stepped := step_store (P := P) inv a
    exact ⟨fun _ _ _ there => there.step stepped, fun _ _ final found => final_step stepped final found⟩

/-- The job that is there under a key has the one requested event of the key. -/
theorem requested_of_jobAt (trace : List Action) {jobId jobType key : String}
    (there : JobAt (run P trace).jobs.store jobId jobType key) :
    ∃ message, requestedEvents (run P trace).jobs.store jobType key = [message] ∧
      message.aggregateId = jobId := by
  obtain ⟨job, found, rfl, rfl⟩ := there
  exact (run_inv P trace).jobs.jobs.requestedOnce jobId job found

theorem jobAt_unique (trace : List Action) {jobId jobId' jobType key : String}
    (there : JobAt (run P trace).jobs.store jobId jobType key)
    (there' : JobAt (run P trace).jobs.store jobId' jobType key) : jobId = jobId' := by
  obtain ⟨job, found, rfl, rfl⟩ := there
  obtain ⟨job', found', type, named⟩ := there'
  exact (run_inv P trace).jobs.jobs.unique jobId job jobId' job' found found' type.symm named.symm

end Runs

variable {P : Platform} {trace : List Action}

/-- **A DAG run that succeeded.** `trigger` ended with a job of the run's own type and key; the job
has succeeded, its handler was invoked once, it is the only job that was ever requested under the
key, and all of that stays. -/
theorem succeeded_run_did_its_job {number : Nat} {dagRun : DagRun}
    (there : (run P trace).runs number = some dagRun) (succeeded : dagRun.wait = .succeeded ()) :
    ∃ jobId key, dagRun.trigger = .succeeded jobId ∧ dagRun.runKey = .ok key ∧
      ∀ later, trace <+: later →
        (∃ job, (run P later).jobs.store.durableJobs.find jobId = some job ∧
          job.jobType = dagRun.dag.jobType ∧ job.runKey = key ∧ job.status = .succeeded) ∧
        (run P later).jobs.invoked.count jobId = 1 ∧
        ∃ message, requestedEvents (run P later).jobs.store dagRun.dag.jobType key = [message] ∧
          message.aggregateId = jobId := by
  have ties := (run_inv P trace).runs number dagRun there
  obtain ⟨jobId, trigger, status⟩ := ties.waited succeeded
  obtain ⟨key, named, stored⟩ := ties.triggered jobId trigger
  refine ⟨jobId, key, trigger, named, fun later isPrefix => ?_⟩
  obtain ⟨jobs, final⟩ := run_stays P isPrefix
  have stays := final jobId .succeeded (.inl rfl) status
  obtain ⟨job, found, type, runKey⟩ := jobs jobId _ key stored
  refine ⟨⟨job, found, type, runKey, ?_⟩, ?_, ?_⟩
  · rw [statusOf, found, Option.map_some] at stays
    exact Option.some.inj stays
  · have invoked := (run_inv P later).settled.settled jobId .succeeded stays (.inl rfl)
    exact List.count_eq_one_of_mem (run_inv P later).jobs.work.once invoked
  · exact requested_of_jobAt P later ⟨job, found, type, runKey⟩

/-- A DAG run never succeeds on a job that failed or was cancelled. -/
theorem unsuccessful_job_fails_run {later : List Action} (isPrefix : trace <+: later) {jobId : String}
    {status : DurableJobStatus} (unsuccessful : status = .failed ∨ status = .cancelled)
    (settled : statusOf (run P trace).jobs.store jobId = some status) {number : Nat}
    {dagRun : DagRun} (there : (run P later).runs number = some dagRun)
    (trigger : dagRun.trigger = .succeeded jobId) : dagRun.wait ≠ .succeeded () := by
  intro waited
  obtain ⟨jobId', trigger', succeeded⟩ := ((run_inv P later).runs number dagRun there).waited waited
  obtain rfl := DagTask.succeeded.inj (trigger.symm.trans trigger')
  have stays := (run_stays P isPrefix).2 jobId status (.inr unsuccessful) settled
  obtain rfl := Option.some.inj (stays.symm.trans succeeded)
  rcases unsuccessful with impossible | impossible <;> cases impossible

/-- A DAG run fails only after all attempts of one of its tasks have raised. -/
theorem failed_after_all_attempts {number : Nat} {dagRun : DagRun} {raised : List Failure}
    (there : (run P trace).runs number = some dagRun)
    (failed : dagRun.trigger = .failed raised ∨ dagRun.wait = .failed raised) :
    raised.length = taskRetries + 1 := by
  obtain ⟨trigger, wait⟩ := ((run_inv P trace).runs number dagRun there).counted
  rcases failed with failed | failed
  · rw [failed] at trigger
    exact trigger
  · rw [failed] at wait
    exact wait

/-- **One job for one data interval.** Two DAG runs that triggered have one job exactly if they are
of one DAG and one data interval. However many attempts were lost on the way, one job was requested
under the key, and every answer to a request under it names that job. -/
theorem dag_runs_share_job_iff {number number' : Nat} {dagRun dagRun' : DagRun}
    {jobId jobId' : String} (there : (run P trace).runs number = some dagRun)
    (there' : (run P trace).runs number' = some dagRun')
    (triggered : dagRun.trigger = .succeeded jobId)
    (triggered' : dagRun'.trigger = .succeeded jobId') :
    (jobId = jobId' ↔
      dagRun.dag = dagRun'.dag ∧ dagRun.dataIntervalStart = dagRun'.dataIntervalStart) ∧
    ∃ key message, dagRun.runKey = .ok key ∧
      requestedEvents (run P trace).jobs.store dagRun.dag.jobType key = [message] ∧
      message.aggregateId = jobId ∧
      ∀ call payload result, (run P trace).calls call =
        some (.post dagRun.dag.jobType ⟨key, payload⟩ (some (.ok result))) →
          result.jobId = jobId := by
  obtain ⟨key, named, stored⟩ := ((run_inv P trace).runs number dagRun there).triggered jobId triggered
  obtain ⟨key', named', stored'⟩ :=
    ((run_inv P trace).runs number' dagRun' there').triggered jobId' triggered'
  constructor
  · constructor
    · rintro rfl
      obtain ⟨job, found, type, runKey⟩ := stored
      obtain ⟨job', found', type', runKey'⟩ := stored'
      obtain rfl := Option.some.inj (found.symm.trans found')
      have dag : dagRun.dag = dagRun'.dag := JobDag.jobType_inj.mp (type.symm.trans type')
      obtain rfl : key = key' := runKey.symm.trans runKey'
      exact ⟨dag, (DagRun.runKey_inj named dag).mp named'⟩
    · rintro ⟨dag, interval⟩
      have same := (DagRun.runKey_inj named dag).mpr interval
      obtain rfl := Except.ok.inj (same.symm.trans named')
      exact jobAt_unique P trace stored (dag ▸ stored')
  · obtain ⟨message, single, names⟩ := requested_of_jobAt P trace stored
    refine ⟨key, message, named, single, names, fun call payload result answered => ?_⟩
    exact jobAt_unique P trace ((run_inv P trace).calls call _ answered) stored

/-! ## The next attempt -/

/-- An attempt of a task waits for its call. -/
structure Waits (s : State) (number call : Nat) (dagRun : DagRun) (asked : ApiCall) : Prop where
  run : s.runs number = some dagRun
  call : s.calls call = some asked

section Waiting

variable {s : State} {number call : Nat} {dagRun : DagRun} {asked : ApiCall}

theorem Waits.set_run (waits : Waits s number call dagRun asked) {other : Nat}
    (apart : other ≠ number) (changed : DagRun) :
    Waits (s.setRun other changed) number call dagRun asked :=
  ⟨(Function.update_of_ne (Ne.symm apart) ..).trans waits.run, waits.call⟩

theorem Waits.set_call (waits : Waits s number call dagRun asked) {other : Nat}
    (apart : other ≠ call) (changed : ApiCall) :
    Waits (s.setCall other changed) number call dagRun asked :=
  ⟨waits.run, (Function.update_of_ne (Ne.symm apart) ..).trans waits.call⟩

theorem Waits.start (waits : Waits s number call dagRun asked) (run : Nat) (dag : JobDag)
    (dataIntervalStart : Option String) :
    Waits (step P s (.start run dag dataIntervalStart)) number call dagRun asked := by
  simp only [step]
  split
  · exact waits
  · rename_i absent
    refine waits.set_run ?_ _
    rintro rfl
    rw [waits.run] at absent
    cases absent

/-- Another run opens another call. -/
theorem Waits.opens (waits : Waits s number call dagRun asked) {run other : Nat} {old : DagRun}
    (there : s.runs run = some old) (unused : s.calls other = none) (apart : dagRun ≠ old)
    (opened : ApiCall) (changed : DagRun) :
    Waits ((s.setCall other opened).setRun run changed) number call dagRun asked := by
  refine (waits.set_call ?_ opened).set_run ?_ changed
  · rintro rfl
    rw [waits.call] at unused
    cases unused
  · rintro rfl
    exact apart (Option.some.inj (waits.run.symm.trans there))

theorem Waits.post (waits : Waits s number call dagRun asked) {raised : List Failure}
    (asking : dagRun.trigger = .asking raised call) (run other : Nat) (payload : Dict) :
    Waits (step P s (.post run other payload)) number call dagRun asked := by
  simp only [step]
  split
  · rename_i old there unused
    split
    · rename_i failed ready
      have apart : dagRun ≠ old := by
        rintro rfl
        rw [asking] at ready
        cases ready
      split
      · refine waits.set_run ?_ _
        rintro rfl
        exact apart (Option.some.inj (waits.run.symm.trans there))
      · exact waits.opens there unused apart _ _
    · exact waits
  · exact waits

theorem Waits.get (waits : Waits s number call dagRun asked) {raised : List Failure}
    (asking : dagRun.trigger = .asking raised call) (run other : Nat) :
    Waits (step P s (.get run other)) number call dagRun asked := by
  simp only [step]
  split
  · rename_i old there unused
    split
    · rename_i jobId failed through ready
      refine waits.opens there unused ?_ _ _
      rintro rfl
      rw [asking] at through
      cases through
    · exact waits
  · exact waits

/-- The server answers another call, or one that it has answered. -/
theorem Waits.serve (waits : Waits s number call dagRun asked) {other : Nat} {jobId eventId : String}
    {now : Instant} (apart : asked.answered = false → other ≠ call) :
    Waits (step P s (.serve other jobId eventId now)) number call dagRun asked := by
  by_cases same : other = call
  · subst same
    have answered : asked.answered = true := by
      by_contra open_
      exact apart (by simpa using open_) rfl
    have stays : step P s (.serve other jobId eventId now) = s := by
      simp only [step, waits.call]
      cases asked with
      | post _ _ response => cases response <;> first | rfl | cases answered
      | get _ _ response => cases response <;> first | rfl | cases answered
    rw [stays]
    exact waits
  · simp only [step]
    split
    · rename_i jobType request _
      have triggered : Waits { s with
          jobs := StateMachine.step P s.jobs (.trigger jobType request jobId eventId now) }
            number call dagRun asked := ⟨waits.run, waits.call⟩
      exact triggered.set_call same _
    · exact waits.set_call same _
    · exact waits

/-- Another run hears, or this one before there is an answer. -/
theorem Waits.hear (waits : Waits s number call dagRun asked) {raised : List Failure}
    (asking : dagRun.trigger = .asking raised call) {run : Nat}
    (apart : asked.answered = true → run ≠ number) :
    Waits (step P s (.hear run)) number call dagRun asked := by
  by_cases same : run = number
  · subst same
    have waiting : dagRun.call = some call := by
      simp only [DagRun.call, asking]
    have nothing : dagRun.hear asked = dagRun := by
      cases asked with
      | get => simp only [DagRun.hear, asking]
      | post _ _ response =>
          cases response with
          | none => simp only [DagRun.hear, asking]
          | some response => exact absurd rfl (apart rfl)
    simp only [step, waits.run, waiting, Option.bind_some, waits.call, nothing]
    exact ⟨Function.update_self .., waits.call⟩
  · simp only [step]
    split
    · split
      · exact waits.set_run same _
      · exact waits
    · exact waits

/-- The attempt reads the job of an answer. -/
theorem Waits.heard {jobType : String} {request : DurableJobTriggerRequest}
    {answer : DurableJobRequestResult} {raised : List Failure}
    (waits : Waits s number call dagRun (.post jobType request (some (.ok answer))))
    (asking : dagRun.trigger = .asking raised call) :
    (step P s (.hear number)).runs number =
      some { dagRun with trigger := .succeeded answer.jobId } := by
  have waiting : dagRun.call = some call := by
    simp only [DagRun.call, asking]
  simp only [step, waits.run, waiting, Option.bind_some, waits.call, DagRun.hear, asking]
  exact Function.update_self ..

/-- While an attempt waits for its call, nobody else moves it. -/
theorem Waits.step (waits : Waits s number call dagRun asked) {raised : List Failure}
    (asking : dagRun.trigger = .asking raised call) (a : Action)
    (goesOn : ∀ failure, a ≠ .raise number failure)
    (unserved : asked.answered = false → ∀ jobId eventId now, a ≠ .serve call jobId eventId now)
    (unheard : asked.answered = true → a ≠ .hear number) :
    Waits (DagRuns.step P s a) number call dagRun asked := by
  cases a with
  | start run dag dataIntervalStart => exact waits.start run dag dataIntervalStart
  | post run other payload => exact waits.post asking run other payload
  | get run other => exact waits.get asking run other
  | serve other jobId eventId now =>
      refine waits.serve fun unanswered same => ?_
      subst same
      exact unserved unanswered jobId eventId now rfl
  | hear run =>
      refine waits.hear asking fun answered same => ?_
      subst same
      exact unheard answered rfl
  | raise run failure =>
      have apart : run ≠ number := by
        rintro rfl
        exact goesOn failure rfl
      simp only [DagRuns.step]
      split
      · exact waits.set_run apart _
      · exact waits
  | jobs action => exact ⟨waits.run, waits.call⟩

/-- By induction on what the others do. -/
theorem Waits.exec {others : List Action} {s : State} (waits : Waits s number call dagRun asked)
    {raised : List Failure} (asking : dagRun.trigger = .asking raised call)
    (goesOn : ∀ a ∈ others, ∀ failure, a ≠ .raise number failure)
    (unserved : asked.answered = false →
      ∀ a ∈ others, ∀ jobId eventId now, a ≠ .serve call jobId eventId now)
    (unheard : asked.answered = true → ∀ a ∈ others, a ≠ .hear number) :
    Waits (exec (DagRuns.step P) s others) number call dagRun asked := by
  induction others generalizing s with
  | nil => exact waits
  | cons a rest ih =>
      have next := waits.step (P := P) asking a (goesOn a (by simp))
        (fun unanswered => unserved unanswered a (by simp)) fun answered => unheard answered a (by simp)
      exact ih next (fun b later => goesOn b (by simp [later]))
        (fun unanswered b later => unserved unanswered b (by simp [later]))
        fun answered b later => unheard answered b (by simp [later])

end Waiting

namespace Sample

def platform : Platform := .reference (fun _ _ => 0) (.aware 0) "1970-01-01T00:00:00Z"

def jobId : String := "5f0c1a52-7d0f-4c52-9f1e-0d6a2c9b7e11"
def otherId : String := "5f0c1a52-7d0f-4c52-9f1e-0d6a2c9b7e21"
def eventId : String := "5f0c1a52-7d0f-4c52-9f1e-0d6a2c9b7e12"
def interval : String := "2024-01-01T00:00:00+00:00"
def payload : Dict := [("symbols", .arr [.str "AAPL"])]

def request : EventMessage :=
  jobRequestMessage
    ⟨"news_collection", "automation", "news.collection.requested", "news.collection.requested"⟩ jobId
    ("news_collection:" ++ interval) payload eventId 0

/-- The job is created, but the answer does not arrive. -/
def unheard : List Action :=
  [.start 0 .newsCollection (some interval), .post 0 0 payload, .serve 0 jobId eventId 0,
    .raise 0 (.http 504 "Gateway Timeout")]

/-- The next attempt is answered, and so is another run for the interval. -/
def triggered : List Action :=
  unheard ++ [.post 0 1 payload, .serve 1 otherId eventId 1, .hear 0,
    .start 1 .newsCollection (some interval), .post 1 2 [], .serve 2 otherId eventId 2, .hear 1]

/-- The job is handled, and `wait` reads that it has succeeded. -/
def finished : List Action :=
  triggered ++ [.jobs (.claim 0 request eventId 3), .jobs (.invoke 0),
    .jobs (.handlerReturns 0 (some [])), .jobs (.complete 0 eventId 4), .get 0 3,
    .serve 3 "" "" 5, .hear 0]

theorem finished_run_did_its_job :
    (run platform finished).jobs.invoked = [jobId] ∧
      ∃ job, (run platform finished).jobs.store.durableJobs.find jobId = some job ∧
        job.status = .succeeded := by
  have there : (run platform finished).runs 0 =
      some ⟨.newsCollection, some interval, .succeeded jobId, .succeeded ()⟩ := rfl
  obtain ⟨_, key, trigger, -, lasting⟩ := succeeded_run_did_its_job there rfl
  obtain ⟨⟨job, found, -, -, succeeded⟩, -⟩ := lasting finished (List.prefix_refl _)
  obtain rfl := DagTask.succeeded.inj trigger
  exact ⟨rfl, job, found, succeeded⟩

theorem retried_run_has_first_job :
    ∃ key message, requestedEvents (run platform triggered).jobs.store "news_collection" key =
      [message] ∧ message.aggregateId = jobId := by
  have there : (run platform triggered).runs 0 =
      some ⟨.newsCollection, some interval, .succeeded jobId, .ready []⟩ := rfl
  have there' : (run platform triggered).runs 1 =
      some ⟨.newsCollection, some interval, .succeeded jobId, .ready []⟩ := rfl
  obtain ⟨-, key, message, -, single, names, -⟩ := dag_runs_share_job_iff there there' rfl rfl
  exact ⟨key, message, single, names⟩

/-- Another run for the interval is started before the answer, and answered behind it. -/
def before : List Action := [.start 1 .newsCollection (some interval), .post 1 2 payload]
def after : List Action := [.serve 2 otherId eventId 2, .hear 1]

end Sample

end KisAutoTrading.Jobs.DagRuns
