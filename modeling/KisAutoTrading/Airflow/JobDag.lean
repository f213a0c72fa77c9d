/-
# Airflow.JobDag — the scheduled DAGs of the durable jobs

The two files under `airflow/dags` differ in their job type, in the name of the variable with the
payload and in their schedule. A run of such a DAG has two tasks, `trigger` and `wait`. A task whose
attempt raises is attempted again, `taskRetries` times. An attempt of `trigger` makes one request; an
attempt of `wait` asks for the status of the job again and again until it is settled.

A request is an `ApiCall`: the client opens it, the server answers it when it comes to it, and the
client reads the answer if the attempt that opened it is still there. `hear` is what the two tasks
do with an answer, `raise` what a raised attempt leaves, whatever it raised.
-/
import KisAutoTrading.Routers.DurableJobs

namespace KisAutoTrading.Airflow

set_option autoImplicit false

/-! ## Tasks -/

/-- `retries` of the `default_args`. -/
def taskRetries : Nat := 3

/-- One task of a DAG run, with what its attempts have raised so far. -/
inductive DagTask (α : Type) where
  /-- The next attempt, or the next turn of its loop. -/
  | ready (raised : List Failure)
  /-- The attempt waits for the answer to a call. -/
  | asking (raised : List Failure) (call : Nat)
  | succeeded (value : α)
  | failed (raised : List Failure)

namespace DagTask

variable {α : Type}

/-- The attempt raises: there is another one, or the task has failed. -/
def raise (failure : Failure) : DagTask α → DagTask α
  | .ready raised | .asking raised _ =>
      if raised.length < taskRetries then .ready (raised ++ [failure])
      else .failed (raised ++ [failure])
  | .succeeded value => .succeeded value
  | .failed raised => .failed raised

/-- The attempts of a task are counted. -/
def Counted : DagTask α → Prop
  | .ready raised | .asking raised _ => raised.length ≤ taskRetries
  | .succeeded _ => True
  | .failed raised => raised.length = taskRetries + 1

theorem counted_again {raised : List Failure} (counted : raised.length ≤ taskRetries)
    (failure : Failure) :
    Counted (if raised.length < taskRetries then .ready (raised ++ [failure])
      else .failed (raised ++ [failure]) : DagTask α) := by
  have longer : (raised ++ [failure]).length = raised.length + 1 := List.length_append
  split
  · show (raised ++ [failure]).length ≤ taskRetries
    omega
  · show (raised ++ [failure]).length = taskRetries + 1
    omega

theorem counted_raise {task : DagTask α} (counted : task.Counted) (failure : Failure) :
    (task.raise failure).Counted := by
  cases task with
  | ready raised => exact counted_again counted failure
  | asking raised call => exact counted_again counted failure
  | succeeded value => exact trivial
  | failed raised => exact counted

theorem raise_eq_succeeded {task : DagTask α} {failure : Failure} {value : α} :
    task.raise failure = .succeeded value ↔ task = .succeeded value := by
  cases task with
  | ready raised => simp only [raise]; split <;> simp
  | asking raised call => simp only [raise]; split <;> simp
  | succeeded value => simp only [raise]
  | failed raised => simp only [raise]

theorem raise_ne_asking (task : DagTask α) (failure : Failure) (raised : List Failure) (call : Nat) :
    task.raise failure ≠ .asking raised call := by
  cases task with
  | ready raised => simp only [raise]; split <;> simp
  | asking raised call => simp only [raise]; split <;> simp
  | succeeded value => simp [raise]
  | failed raised => simp [raise]

end DagTask

/-! ## The DAGs -/

inductive JobDag where
  | newsCollection
  | domesticDailyCandleCollection
  deriving DecidableEq

/-- `JOB_TYPE`. -/
def JobDag.jobType : JobDag → String
  | .newsCollection => "news_collection"
  | .domesticDailyCandleCollection => "domestic_daily_candle_collection"

theorem JobDag.jobType_inj {dag dag' : JobDag} : dag.jobType = dag'.jobType ↔ dag = dag' := by
  cases dag <;> cases dag' <;> simp [jobType]

theorem JobDag.defined (dag : JobDag) : ∃ definition, jobDefinition dag.jobType = some definition := by
  cases dag <;> exact ⟨_, rfl⟩

/-- A run of a DAG; `dataIntervalStart` is in its ISO format, and `trigger` ends with the job id
that `wait` pulls. -/
structure DagRun where
  dag : JobDag
  dataIntervalStart : Option String
  trigger : DagTask String
  wait : DagTask Unit

def DagRun.start (dag : JobDag) (dataIntervalStart : Option String) : DagRun :=
  ⟨dag, dataIntervalStart, .ready [], .ready []⟩

/-- A call of the job API. The server answers it by its own function, once. -/
inductive ApiCall where
  | post (jobType : String) (request : DurableJobTriggerRequest)
      (response : Option (Except Failure DurableJobRequestResult))
  | get (jobType jobId : String) (response : Option (Except Failure DurableJobRecord))

/-- The server has answered. -/
def ApiCall.answered : ApiCall → Bool
  | .post _ _ response => response.isSome
  | .get _ _ response => response.isSome

namespace DagRun

/-- The `run_key` of `trigger_job`. -/
def runKey (run : DagRun) : Except Failure String :=
  match run.dataIntervalStart with
  | none => .error (.raised .runtimeError "Airflow data interval start is required")
  | some start => .ok (run.dag.jobType ++ ":" ++ start)

/-- The attempt that is there raises: of `wait` once `trigger` is through. -/
def raise (failure : Failure) (run : DagRun) : DagRun :=
  match run.trigger with
  | .succeeded _ => { run with wait := run.wait.raise failure }
  | _ => { run with trigger := run.trigger.raise failure }

theorem raise_wait {run : DagRun} {jobId : String} (trigger : run.trigger = .succeeded jobId)
    (failure : Failure) : run.raise failure = { run with wait := run.wait.raise failure } := by
  simp only [raise, trigger]

theorem raise_trigger {run : DagRun} (untriggered : ∀ jobId, run.trigger ≠ .succeeded jobId)
    (failure : Failure) : run.raise failure = { run with trigger := run.trigger.raise failure } := by
  unfold raise
  split
  · rename_i jobId trigger
    exact absurd trigger (untriggered jobId)
  · rfl

/-- The call that `trigger_job` waits for is answered. -/
def triggered (run : DagRun) : Except Failure DurableJobRequestResult → DagRun
  | .ok result => { run with trigger := .succeeded result.jobId }
  | .error failure => run.raise failure

/-- `response.get('error') or 'durable job failed'`. -/
def failureText (job : DurableJobRecord) : String :=
  match job.error with
  | none | some "" => "durable job failed"
  | some error => error

/-- One turn of the loop of `wait_for_job`, on the status that was read. -/
def polled (run : DagRun) (raised : List Failure) : Except Failure DurableJobRecord → DagRun
  | .error failure => run.raise failure
  | .ok job =>
      match job.status with
      | .succeeded => { run with wait := .succeeded () }
      | .failed => run.raise (.raised .runtimeError (failureText job))
      | .cancelled => run.raise (.raised .runtimeError "durable job cancelled")
      | .requested | .running => { run with wait := .ready raised }

/-- The call a run waits for. -/
def call (run : DagRun) : Option Nat :=
  match run.trigger, run.wait with
  | .asking _ call, _ => some call
  | .succeeded _, .asking _ call => some call
  | _, _ => none

/-- The task reads the answer to its call. -/
def hear (run : DagRun) (answered : ApiCall) : DagRun :=
  match run.trigger, run.wait, answered with
  | .asking _ _, _, .post _ _ (some response) => run.triggered response
  | .succeeded _, .asking raised _, .get _ _ (some response) => run.polled raised response
  | _, _, _ => run

/-- Two runs have one key if they are of one DAG and one data interval. -/
theorem runKey_inj {run run' : DagRun} {key : String} (named : run.runKey = .ok key)
    (same : run.dag = run'.dag) :
    run'.runKey = .ok key ↔ run.dataIntervalStart = run'.dataIntervalStart := by
  unfold runKey at named ⊢
  rw [same] at named
  cases first : run.dataIntervalStart with
  | none =>
      rw [first] at named
      cases named
  | some start =>
      rw [first] at named
      obtain rfl := Except.ok.inj named
      cases second : run'.dataIntervalStart with
      | none => simp
      | some start' => simp [eq_comm]

end DagRun

end KisAutoTrading.Airflow
