/-
# Routers.DurableJobs — the internal job routes

`trigger_durable_job` is one transaction. `cancel_durable_job` is one transaction as
well, but at READ COMMITTED its two reads and its update each see what others have
committed by then, so it is given as its three statements: a first read that may
answer at once, the compare-and-set, which commits together with the answer when it
succeeds, and the second read when it does not.
-/
import KisAutoTrading.Infrastructure.DurableJobs

namespace KisAutoTrading

open Theory

set_option autoImplicit false

structure DurableJobTriggerRequest where
  runKey : String
  payload : Dict := []

/-- `_definition`. -/
def definitionOr404 (jobType : String) : Except Failure DurableJobDefinition :=
  match jobDefinition jobType with
  | none => .error (.http 404 "durable job type not found")
  | some definition => .ok definition

/-- `_domestic_stock_code_from_payload`. -/
def domesticStockCodeFromPayload (payload : Dict) (jobType : String) : Except Failure String :=
  match payload.get "stock_code" with
  | some (.str stockCode) =>
      let normalized := pyStrip stockCode
      if normalized.toList.length ≠ 6 ∨ isAsciiDecimal normalized = false then
        .error (.raised .valueError
          (jobType ++ " stock_code must be a six-digit domestic stock code"))
      else .ok normalized
  | _ => .error (.raised .typeError (jobType ++ " payload requires a stock_code string"))

/-- `validate_durable_job_payload`. -/
def validateDurableJobPayload (jobType : String) (payload : Dict) : Except Failure Unit :=
  if jobType = "market_price_snapshot" ∨ jobType = "domestic_daily_candle_collection" then do
    let _ ← domesticStockCodeFromPayload payload jobType
  else .ok ()

/-- `trigger_durable_job`, with the `min_length` of the request's run key. -/
def triggerDurableJob (jobType : String) (request : DurableJobTriggerRequest)
    (jobId eventId : String) (now : Instant) (store : AutomationStore) :
    Except Failure (DurableJobRequestResult × AutomationStore) :=
  if request.runKey = "" then .error (.http 422 "String should have at least 1 character")
  else do
    let _ ← definitionOr404 jobType
    match validateDurableJobPayload jobType request.payload with
    | .ok () => requestJob jobType request.runKey request.payload none jobId eventId now store
    | .error (.raised _ message) => .error (.http 422 message)
    | .error failure => .error failure

/-- `get_durable_job`. -/
def getDurableJob (jobType jobId : String) (store : AutomationStore) :
    Except Failure DurableJobRecord := do
  let definition ← definitionOr404 jobType
  match store.durableJobs.find jobId with
  | none => .error (.http 404 "durable job not found")
  | some job =>
      if job.jobType ≠ definition.name then .error (.http 404 "durable job not found")
      else .ok job

/-- The first read of `cancel_durable_job`: an answer, or `none` to go on. -/
def cancelRead (jobType jobId : String) (store : AutomationStore) :
    Option (Except Failure DurableJobRecord) :=
  match definitionOr404 jobType with
  | .error failure => some (.error failure)
  | .ok definition =>
      match store.durableJobs.find jobId with
      | none => some (.error (.http 404 "durable job not found"))
      | some job =>
          if job.jobType ≠ definition.name then some (.error (.http 404 "durable job not found"))
          else if job.status = .cancelled then some (.ok job)
          else none

/-- The compare-and-set of `cancel_durable_job`, and the answer when it succeeds. -/
def cancelUpdate (jobId eventId : String) (now : Instant) (store : AutomationStore) :
    Option (Except Failure DurableJobRecord) × AutomationStore :=
  match transition jobId .requested .cancelled none none eventId now store with
  | (true, store) =>
      match store.durableJobs.find jobId with
      | some job => (some (.ok job), store)
      | none => (some (.error (.http 404 "durable job not found")), store)
  | (false, store) => (none, store)

/-- The second read of `cancel_durable_job`. -/
def cancelReread (jobId : String) (store : AutomationStore) : Except Failure DurableJobRecord :=
  match store.durableJobs.find jobId with
  | some job =>
      if job.status = .cancelled then .ok job
      else .error (.http 409 "durable job is already running or finished")
  | none => .error (.http 409 "durable job is already running or finished")

/-- A trigger raises, or it is the request. -/
theorem trigger_cases (jobType : String) (request : DurableJobTriggerRequest)
    (jobId eventId : String) (now : Instant) (store : AutomationStore) :
    (∃ failure, triggerDurableJob jobType request jobId eventId now store = .error failure) ∨
      triggerDurableJob jobType request jobId eventId now store =
        requestJob jobType request.runKey request.payload none jobId eventId now store := by
  unfold triggerDurableJob definitionOr404
  split
  · exact .inl ⟨_, rfl⟩
  · cases jobDefinition jobType with
    | none => exact .inl ⟨_, rfl⟩
    | some definition =>
        simp only [bind, Except.bind]
        split
        · exact .inr rfl
        · exact .inl ⟨_, rfl⟩
        · exact .inl ⟨_, rfl⟩

/-- The job that is answered is the stored one. -/
theorem find_of_getDurableJob {jobType jobId : String} {store : AutomationStore}
    {job : DurableJobRecord} (answered : getDurableJob jobType jobId store = .ok job) :
    store.durableJobs.find jobId = some job ∧ job.jobType = jobType := by
  unfold getDurableJob definitionOr404 at answered
  cases defined : jobDefinition jobType with
  | none =>
      rw [defined] at answered
      cases answered
  | some definition =>
      rw [defined] at answered
      simp only [bind, Except.bind] at answered
      cases found : store.durableJobs.find jobId with
      | none =>
          rw [found] at answered
          cases answered
      | some stored =>
          rw [found] at answered
          simp only at answered
          split at answered
          · cases answered
          · rename_i named
            obtain rfl := Except.ok.inj answered
            exact ⟨rfl, (not_not.mp named).trans (jobDefinition_name defined)⟩

/-- What a cancel leaves is what its transition leaves. -/
theorem cancelUpdate_store (jobId eventId : String) (now : Instant) (store : AutomationStore) :
    (cancelUpdate jobId eventId now store).2 =
      (transition jobId .requested .cancelled none none eventId now store).2 := by
  unfold cancelUpdate
  split
  · rename_i after moved
    rw [moved]
    cases after.durableJobs.find jobId <;> rfl
  · rename_i after moved
    rw [moved]

theorem cancelUpdate_cases (jobId eventId : String) (now : Instant) (store : AutomationStore)
    (keyed : Table.Keyed (·.jobId) store.durableJobs) :
    (∃ job, store.durableJobs.find jobId = some job ∧ job.status = .requested ∧
      cancelUpdate jobId eventId now store =
        (some (.ok { job with
          status := .cancelled, result := none, error := none, updatedAt := now }),
          store.moveJob job .cancelled none none eventId now)) ∨
      cancelUpdate jobId eventId now store = (none, store) := by
  unfold cancelUpdate
  rcases transition_cases jobId .requested .cancelled none none eventId now store with
    ⟨job, found, requested, moved⟩ | ⟨-, same⟩
  · obtain rfl : job.jobId = jobId := keyed _ _ found
    refine .inl ⟨job, found, requested, ?_⟩
    rw [moved]
    simp [AutomationStore.moveJob, AutomationStore.find_insertJob]
  · exact .inr (by rw [same])

end KisAutoTrading
