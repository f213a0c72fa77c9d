/-
# Infrastructure.DurableJobs — job definitions, the repository and the message handler

`JOB_DEFINITIONS`, `DurableJobRepository.request` and `.transition` on the automation
store, and what `DurableJobMessageHandler.handle` reads off a message before it
touches the database. Job ids are the texts of the `uuid` primary key; a fresh one,
the id of the event and the clock are arguments.

`request_cases` and `transition_cases` say everything the two can do to the store;
proofs about jobs use these and never unfold the functions. The relay's
`markPublished` changes no event, only the delivery columns of its record: what is
said about events below is said about `AutomationStore.events`.
-/
import KisAutoTrading.Infrastructure.Database

namespace KisAutoTrading

open Theory

set_option autoImplicit false

/-! ## Contracts -/

structure DurableJobDefinition where
  name : String
  store : String
  eventType : String
  routingKey : String
  deriving DecidableEq

def jobStatusEventType : String := "durable-job.status.changed"
def jobStatusRoutingKey : String := "durable-job.status.changed"

/-- `JOB_DEFINITIONS`. -/
def jobDefinitions : List DurableJobDefinition := [
  ⟨"news_collection", "automation", "news.collection.requested", "news.collection.requested"⟩,
  ⟨"news_index", "automation", "news.index.requested", "news.index.requested"⟩,
  ⟨"durable_job_history_index", "automation", "durable-job.history.index.requested",
    "durable-job.history.index.requested"⟩,
  ⟨"market_price_snapshot", "automation", "market-price.snapshot.requested",
    "market-price.snapshot.requested"⟩,
  ⟨"domestic_daily_candle_collection", "automation",
    "market-history.domestic-daily.collection.requested",
    "market-history.domestic-daily.collection.requested"⟩]

/-- `JOB_DEFINITIONS.get`. -/
def jobDefinition (jobType : String) : Option DurableJobDefinition :=
  jobDefinitions.find? fun definition => definition.name = jobType

theorem jobDefinition_name {jobType : String} {definition : DurableJobDefinition}
    (defined : jobDefinition jobType = some definition) : definition.name = jobType := by
  simpa using List.find?_some defined

theorem jobDefinition_eventType_ne {jobType : String} {definition : DurableJobDefinition}
    (defined : jobDefinition jobType = some definition) :
    definition.eventType ≠ jobStatusEventType := by
  have others : ∀ d ∈ jobDefinitions, d.eventType ≠ jobStatusEventType := by decide
  exact others definition (List.mem_of_find?_eq_some defined)

/-! ## Repository -/

/-- The message a request enqueues. -/
def jobRequestMessage (definition : DurableJobDefinition) (jobId runKey : String) (payload : Dict)
    (eventId : String) (now : Instant) : EventMessage where
  eventType := definition.eventType
  aggregateId := jobId
  payload := [
    ("job_id", .str jobId),
    ("job_type", .str definition.name),
    ("run_key", .str runKey),
    ("payload", .obj payload)]
  routingKey := definition.routingKey
  eventId := eventId
  occurredAt := now

/-- The message a transition enqueues. -/
def jobStatusMessage (jobId : String) (status : DurableJobStatus) (result : Option Dict)
    (error : Option String) (eventId : String) (now : Instant) : EventMessage where
  eventType := jobStatusEventType
  aggregateId := jobId
  payload := [
    ("job_id", .str jobId),
    ("status", .str status.value),
    ("result", (result.map .obj).getD .null),
    ("error", (error.map .str).getD .null)]
  routingKey := jobStatusRoutingKey
  eventId := eventId
  occurredAt := now

structure DurableJobRequestResult where
  jobId : String
  created : Bool
  deriving DecidableEq

/-- The width of the `run_key` column. -/
def runKeyLimit : Nat := 200

/-- The job of a type and run key, under their unique constraint. -/
def AutomationStore.jobFor (store : AutomationStore) (jobType runKey : String) :
    Option DurableJobRecord :=
  store.durableJobs.rows.find? fun job => job.jobType = jobType ∧ job.runKey = runKey

def AutomationStore.insertJob (store : AutomationStore) (job : DurableJobRecord)
    (record : OutboxEventRecord) : AutomationStore :=
  { store with
    durableJobs := store.durableJobs.put job.jobId job
    outbox := store.outbox ++ [record] }

/-- `DurableJobRepository.request`; `jobId` is the fresh `uuid4`. -/
def requestJob (jobType runKey : String) (payload : Dict) (availableAt : Option Instant)
    (jobId eventId : String) (now : Instant) (store : AutomationStore) :
    Except Failure (DurableJobRequestResult × AutomationStore) :=
  match jobDefinition jobType with
  | none => .error (.raised .keyError jobType)
  | some definition =>
      if runKeyLimit < runKey.toList.length then
        .error (.raised .dataError "value too long for type character varying(200)")
      else
        match store.jobFor definition.name runKey with
        | some existing => .ok (⟨existing.jobId, false⟩, store)
        | none =>
            match store.durableJobs.find jobId with
            | some _ => .error (.raised .integrityError "duplicate key value")
            | none =>
                let job : DurableJobRecord := {
                  jobId, jobType := definition.name, runKey, status := .requested, payload
                  requestedAt := now, updatedAt := now }
                .ok (⟨jobId, true⟩, store.insertJob job
                  (outboxRecord (jobRequestMessage definition jobId runKey payload eventId now)
                    availableAt))

/-- The `UPDATE` of a transition together with its event. -/
def AutomationStore.moveJob (store : AutomationStore) (job : DurableJobRecord)
    (status : DurableJobStatus) (result : Option Dict) (error : Option String) (eventId : String)
    (now : Instant) : AutomationStore :=
  store.insertJob { job with status, result, error, updatedAt := now }
    (outboxRecord (jobStatusMessage job.jobId status result error eventId now))

/-- `DurableJobRepository.transition`: compare and set. -/
def transition (jobId : String) (expectedStatus status : DurableJobStatus) (result : Option Dict)
    (error : Option String) (eventId : String) (now : Instant) (store : AutomationStore) :
    Bool × AutomationStore :=
  match store.durableJobs.find jobId with
  | some job =>
      if job.status = expectedStatus then
        (true, store.moveJob job status result error eventId now)
      else (false, store)
  | none => (false, store)

/-- The events of the outbox, without their delivery columns. -/
def AutomationStore.events (store : AutomationStore) : List EventMessage :=
  store.outbox.map (·.message)

/-- The relay has published a record. -/
def OutboxEventRecord.published (record : OutboxEventRecord) (now : Instant) :
    OutboxEventRecord :=
  { record with
    status := .published, attempts := record.attempts + 1, publishedAt := some now, lastError := none }

/-- The relay publishes the record at a position of the outbox. -/
def AutomationStore.markPublished (store : AutomationStore) (index : Nat) (now : Instant) :
    AutomationStore :=
  { store with outbox := store.outbox.modify index (·.published now) }

@[simp] theorem AutomationStore.events_markPublished (store : AutomationStore) (index : Nat)
    (now : Instant) : (store.markPublished index now).events = store.events := by
  simp only [events, markPublished]
  apply List.ext_getElem?
  intro i
  simp only [List.getElem?_map, List.getElem?_modify]
  cases store.outbox[i]? with
  | none => simp
  | some record =>
      by_cases here : index = i
      · simp [here]
        rfl
      · simp [here]

@[simp] theorem AutomationStore.events_insertJob (store : AutomationStore) (job : DurableJobRecord)
    (record : OutboxEventRecord) :
    (store.insertJob job record).events = store.events ++ [record.message] := by
  simp [events, insertJob]

theorem AutomationStore.find_insertJob (store : AutomationStore) (job : DurableJobRecord)
    (record : OutboxEventRecord) (id : String) :
    (store.insertJob job record).durableJobs.find id =
      if id = job.jobId then some job else store.durableJobs.find id :=
  Table.find_put _ _ _ _

theorem AutomationStore.jobFor_eq_none {store : AutomationStore} {jobType runKey : String}
    (absent : store.jobFor jobType runKey = none) {id : String} {job : DurableJobRecord}
    (found : store.durableJobs.find id = some job) :
    ¬ (job.jobType = jobType ∧ job.runKey = runKey) := by
  simpa using List.find?_eq_none.mp absent job (Table.mem_rows.mpr ⟨id, found⟩)

theorem AutomationStore.jobFor_eq_some {store : AutomationStore} {jobType runKey : String}
    {job : DurableJobRecord} (existing : store.jobFor jobType runKey = some job) :
    job.jobType = jobType ∧ job.runKey = runKey ∧
      ∃ id, store.durableJobs.find id = some job := by
  have named := List.find?_some existing
  simp only [decide_eq_true_eq] at named
  exact ⟨named.1, named.2, Table.mem_rows.mp (List.mem_of_find?_eq_some existing)⟩

/-- A request raises, finds the job of its type and run key, or inserts a new job
with its event. -/
theorem request_cases (jobType runKey : String) (payload : Dict) (availableAt : Option Instant)
    (jobId eventId : String) (now : Instant) (store : AutomationStore) :
    (∃ failure, requestJob jobType runKey payload availableAt jobId eventId now store =
      .error failure) ∨
    (∃ existing, store.jobFor jobType runKey = some existing ∧
      requestJob jobType runKey payload availableAt jobId eventId now store =
        .ok (⟨existing.jobId, false⟩, store)) ∨
    ∃ definition, jobDefinition jobType = some definition ∧
      store.jobFor jobType runKey = none ∧ store.durableJobs.find jobId = none ∧
      requestJob jobType runKey payload availableAt jobId eventId now store =
        .ok (⟨jobId, true⟩, store.insertJob
          { jobId, jobType, runKey, status := .requested, payload
            requestedAt := now, updatedAt := now }
          (outboxRecord (jobRequestMessage definition jobId runKey payload eventId now)
            availableAt)) := by
  unfold requestJob
  cases defined : jobDefinition jobType with
  | none => exact .inl ⟨_, rfl⟩
  | some definition =>
      obtain rfl := jobDefinition_name defined
      simp only
      split
      · exact .inl ⟨_, rfl⟩
      · cases existing : store.jobFor definition.name runKey with
        | some job => exact .inr (.inl ⟨job, rfl, rfl⟩)
        | none =>
            cases stored : store.durableJobs.find jobId with
            | some job => exact .inl ⟨_, rfl⟩
            | none => exact .inr (.inr ⟨definition, rfl, rfl, rfl, rfl⟩)

/-- A request whose key fits and is unused inserts its job. -/
theorem request_creates {jobType runKey jobId : String} {definition : DurableJobDefinition}
    {store : AutomationStore} (defined : jobDefinition jobType = some definition)
    (fits : runKey.toList.length ≤ runKeyLimit) (unused : store.jobFor jobType runKey = none)
    (fresh : store.durableJobs.find jobId = none) (payload : Dict) (availableAt : Option Instant)
    (eventId : String) (now : Instant) :
    requestJob jobType runKey payload availableAt jobId eventId now store =
      .ok (⟨jobId, true⟩, store.insertJob
        { jobId, jobType, runKey, status := .requested, payload
          requestedAt := now, updatedAt := now }
        (outboxRecord (jobRequestMessage definition jobId runKey payload eventId now)
          availableAt)) := by
  obtain rfl := jobDefinition_name defined
  simp only [requestJob, defined, if_neg (Nat.not_lt.mpr fits), unused, fresh]

/-- A request whose key does not fit raises. -/
theorem request_too_long {jobType runKey : String} {definition : DurableJobDefinition}
    (defined : jobDefinition jobType = some definition)
    (long : runKeyLimit < runKey.toList.length) (payload : Dict) (availableAt : Option Instant)
    (jobId eventId : String) (now : Instant) (store : AutomationStore) :
    requestJob jobType runKey payload availableAt jobId eventId now store =
      .error (.raised .dataError "value too long for type character varying(200)") := by
  simp only [requestJob, defined, if_pos long]

/-- A request for a job that is there answers it, or raises. -/
theorem request_existing {jobType runKey : String} {job : DurableJobRecord} {store : AutomationStore}
    (existing : store.jobFor jobType runKey = some job) (payload : Dict)
    (availableAt : Option Instant) (jobId eventId : String) (now : Instant) :
    (∃ failure, requestJob jobType runKey payload availableAt jobId eventId now store =
      .error failure) ∨
    requestJob jobType runKey payload availableAt jobId eventId now store =
      .ok (⟨job.jobId, false⟩, store) := by
  rcases request_cases jobType runKey payload availableAt jobId eventId now store with
    raised | ⟨other, here, found⟩ | ⟨_, -, unused, -⟩
  · exact .inl raised
  · rw [existing] at here
    cases here
    exact .inr found
  · rw [existing] at unused
    cases unused

/-- A transition moves the job if it is in the expected status, or does nothing. -/
theorem transition_cases (jobId : String) (expectedStatus status : DurableJobStatus)
    (result : Option Dict) (error : Option String) (eventId : String) (now : Instant)
    (store : AutomationStore) :
    (∃ job, store.durableJobs.find jobId = some job ∧ job.status = expectedStatus ∧
      transition jobId expectedStatus status result error eventId now store =
        (true, store.moveJob job status result error eventId now)) ∨
    (∀ job, store.durableJobs.find jobId = some job → job.status ≠ expectedStatus) ∧
      transition jobId expectedStatus status result error eventId now store = (false, store) := by
  unfold transition
  cases found : store.durableJobs.find jobId with
  | none => exact .inr ⟨fun job h => (by cases h), rfl⟩
  | some job =>
      by_cases expected : job.status = expectedStatus
      · exact .inl ⟨job, rfl, expected, by simp [expected]⟩
      · refine .inr ⟨?_, by simp [expected]⟩
        rintro _ ⟨⟩
        exact expected

/-! ## The message handler -/

structure DurableJobExecution where
  jobId : String
  jobType : String
  runKey : String
  payload : Dict

/-- What `DurableJobMessageHandler.handle` reads off a message, in its order. -/
def Platform.executionFromMessage (P : Platform) (message : EventMessage) :
    Except Failure DurableJobExecution := do
  let field key : Except Failure Json :=
    match message.payload.get key with
    | some value => .ok value
    | none => .error (.raised .keyError key)
  let jobId := P.pyStr (← field "job_id")
  let jobType := P.pyStr (← field "job_type")
  let runKey := P.pyStr (← field "run_key")
  match ← field "payload" with
  | .obj payload =>
      match jobDefinition jobType with
      | none => .error (.raised .valueError "durable job message does not match a definition")
      | some definition =>
          if message.eventType ≠ definition.eventType then
            .error (.raised .valueError "durable job message does not match a definition")
          else .ok ⟨jobId, jobType, runKey, payload⟩
  | _ => .error (.raised .typeError "durable job payload must be an object")

/-- A requested job's message is read back as its execution. -/
theorem executionFromMessage_request (P : Platform) {definition : DurableJobDefinition}
    {jobType : String} (defined : jobDefinition jobType = some definition) (jobId runKey : String)
    (payload : Dict) (eventId : String) (now : Instant) :
    P.executionFromMessage (jobRequestMessage definition jobId runKey payload eventId now) =
      .ok ⟨jobId, jobType, runKey, payload⟩ := by
  obtain rfl := jobDefinition_name defined
  simp [Platform.executionFromMessage, jobRequestMessage, Dict.get, List.lookup_cons, P.pyStr_str,
    defined, bind, Except.bind]

end KisAutoTrading
