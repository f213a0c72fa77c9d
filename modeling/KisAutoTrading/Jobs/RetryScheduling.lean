/-
# Jobs.RetryScheduling — whether a retry is really scheduled

The news system where triggers carry no retry fields. A job that fails with a retryable
error asks for its retry under the key of its root (`newsRetryRunKey`), and the request
may go wrong in two ways: the longer key does not fit its column, which raises an error of
its own instead of the first one, or a job already stands under it.

Such a job was always triggered: no retry and no index job stands under the retry key of a
job that is being handled (`unused_retry_key`), because a chain of retries has one job for
each attempt (`runKey_of_job`). So `retry_scheduled_iff` names the two conditions.
-/
import KisAutoTrading.Jobs.NewsSystem

namespace KisAutoTrading.Jobs.RetryScheduling

open Theory Theory.Runs NewsSystem

set_option autoImplicit false

/-- The payloads of triggers have no retry fields. -/
def Plain : Action → Prop
  | .trigger _ request _ _ _ =>
      request.payload.get "_news_retry_attempt" = none ∧
        request.payload.get "_news_retry_root_run_key" = none
  | _ => True

/-- The longest root key whose retry keys fit the column. -/
def rootKeyLimit : Nat := 192

/-- The run key of the retry an execution asks for. -/
def retryKey (execution : DurableJobExecution) : String :=
  newsRetryRunKey (newsRetryRootRunKey execution) (newsRetryAttempt execution.payload + 1)

/-- The job fails with an error that asks for a retry. -/
inductive RetryableFailure (U : Upper) (S : NewsServices) (execution : DurableJobExecution)
    (store : NewsStore) (failure : Failure) : Prop where
  | collection (jobType : execution.jobType = "news_collection") (symbols : List String)
      (read : U.symbolsFromPayload execution.payload = .ok symbols)
      (failed : symbols.mapM S.collect = .error failure)
      (retryable : isYahooFinanceNewsError failure = true)
  | index (jobType : execution.jobType = "news_index") (sourceKeys : List String)
      (read : sourceKeysFromPayload execution.payload = .ok sourceKeys)
      (enabled : S.indexingEnabled = true)
      (some : store.newsArticles.findBySourceKeys sourceKeys ≠ [])
      (failed : S.index (store.newsArticles.findBySourceKeys sourceKeys) = .error failure)
      (retryable : isTransientSearchError failure = true)

/-- The handling raises the failure again and leaves a new job for the next attempt, with a
requested event of its own. -/
def Scheduled (P : Platform) (U : Upper) (S : NewsServices) (execution : DurableJobExecution)
    (store : NewsStore) (failure : Failure) : Prop :=
  ∃ after job message, handleNews U S execution store = some (.error failure, after) ∧
    store.automation.durableJobs.find S.jobId = none ∧
    after.automation.durableJobs.find S.jobId = some job ∧ job.status = .requested ∧
    job.jobType = execution.jobType ∧ job.runKey = retryKey execution ∧
    newsRetryAttempt job.payload = newsRetryAttempt execution.payload + 1 ∧
    requestedEvents after.automation job.jobType job.runKey = [message] ∧
    P.executionFromMessage message = .ok (executionOf job)

section Keys

variable {s : State} {handling : Nat} {execution : DurableJobExecution}

/-- A retry key determines its root and its attempt. -/
theorem newsRetryRunKey_inj {root root' : String} {attempt attempt' : Nat}
    (few : attempt < maxNewsDurableJobAttempts) (few' : attempt' < maxNewsDurableJobAttempts)
    (same : newsRetryRunKey root attempt = newsRetryRunKey root' attempt') :
    root = root' ∧ attempt = attempt' := by
  have digits : ∀ a < maxNewsDurableJobAttempts, (toString a).toList.length = 1 := by decide
  have chars := congrArg String.toList same
  simp only [newsRetryRunKey, String.toList_append] at chars
  obtain ⟨roots, -⟩ := List.append_inj' chars
    (by simp only [List.length_append, digits attempt few, digits attempt' few'])
  obtain rfl := String.toList_inj.mp roots
  exact ⟨rfl, NewsRetry.newsRetryRunKey_inj few few' same⟩

theorem retryKey_length (few : newsRetryAttempt execution.payload + 1 < maxNewsDurableJobAttempts) :
    (retryKey execution).toList.length = (newsRetryRootRunKey execution).toList.length + 8 := by
  have digits : ∀ a < maxNewsDurableJobAttempts, (toString a).toList.length = 1 := by decide
  have word : (":retry:".toList).length = 7 := by decide
  simp only [retryKey, newsRetryRunKey, String.toList_append, List.length_append,
    digits _ few, word]

/-- Without retry fields an execution is the first attempt under its own key. -/
theorem first_attempt (jobId jobType runKey : String) {payload : Dict}
    (noAttempt : payload.get "_news_retry_attempt" = none)
    (noRoot : payload.get "_news_retry_root_run_key" = none) :
    newsRetryAttempt payload = 0 ∧ newsRetryRootRunKey ⟨jobId, jobType, runKey, payload⟩ = runKey := by
  simp [newsRetryAttempt, newsRetryRootRunKey, noAttempt, noRoot]

/-- The root and the attempt of a job determine its run key. -/
theorem runKey_of_job (inv : Inv Plain s) {id : String} {job : DurableJobRecord}
    (found : s.store.automation.durableJobs.find id = some job) :
    job.runKey = if newsRetryAttempt job.payload = 0 then newsRetryRootRunKey (executionOf job)
      else newsRetryRunKey (newsRetryRootRunKey (executionOf job)) (newsRetryAttempt job.payload) := by
  rcases inv.origins id job found with ⟨-, jobId, eventId, now, noAttempt, noRoot⟩ |
    ⟨parent, -, -, child⟩
  · obtain ⟨zero, own⟩ := first_attempt job.jobId job.jobType job.runKey noAttempt noRoot
    rw [if_pos zero]
    exact own.symm
  · cases child with
    | index _ _ _ sourceKeys payload =>
        have read : job.payload = [("source_keys", textItems sourceKeys)] := payload
        have noAttempt : job.payload.get "_news_retry_attempt" = none := by
          rw [read]
          rfl
        have noRoot : job.payload.get "_news_retry_root_run_key" = none := by
          rw [read]
          rfl
        obtain ⟨zero, own⟩ := first_attempt job.jobId job.jobType job.runKey noAttempt noRoot
        rw [if_pos zero]
        exact own.symm
    | retry _ attempt _ _ runKey =>
        have later : newsRetryAttempt job.payload ≠ 0 := by
          rw [show newsRetryAttempt job.payload = _ from attempt]
          omega
        rw [if_neg later]
        exact runKey

/-- A job under the retry key of a job that is being handled was triggered. -/
theorem unused_retry_key (inv : Inv Plain s) (claimed : s.handlings handling = .claimed execution)
    (few : newsRetryAttempt execution.payload + 1 < maxNewsDurableJobAttempts)
    {existing : DurableJobRecord}
    (there : s.store.automation.jobFor execution.jobType (retryKey execution) = some existing) :
    (execution.jobType, retryKey execution) ∈ s.accepted := by
  obtain ⟨job, stored, read, -⟩ := inv.claimed handling execution claimed
  obtain ⟨type, runKey, id, found⟩ := AutomationStore.jobFor_eq_some there
  rcases inv.origins id existing found with ⟨accepted, -⟩ | ⟨parent, held, settled, child⟩
  · rwa [type, runKey] at accepted
  · exfalso
    cases child with
    | index _ _ named _ _ =>
        obtain ⟨u, key⟩ := inv.ids _ parent held
        have named : existing.runKey = "news-index:" ++ parent.jobId := named
        rw [key, runKey] at named
        exact retry_ne_index _ _ u named
    | retry sameType attempt fewer root named =>
        obtain ⟨roots, attempts⟩ := newsRetryRunKey_inj few fewer (runKey.symm.trans named)
        rw [root] at roots
        have sameAttempt : newsRetryAttempt parent.payload = newsRetryAttempt job.payload := by
          rw [← read] at attempts
          have := attempts.trans attempt
          simp only [executionOf] at this
          omega
        have sameKey : parent.runKey = job.runKey := by
          rw [runKey_of_job inv held, runKey_of_job inv stored, sameAttempt, ← roots, read]
        have types : parent.jobType = job.jobType := by
          rw [show parent.jobType = existing.jobType from sameType.symm, type, ← read]
          rfl
        exact settled.released handling execution claimed
          (inv.jobs.unique _ parent _ job held stored types sameKey).symm

end Keys

/-! ## Accepted triggers -/

section Accepted

variable {Allowed : Action → Prop} {P : Platform} {U : Upper} {s s' : State}

/-- Every accepted trigger has its job. -/
def AcceptedStored (s : State) : Prop :=
  ∀ pair ∈ s.accepted, ∃ id job, s.store.automation.durableJobs.find id = some job ∧
    job.jobType = pair.1 ∧ job.runKey = pair.2

theorem AcceptedStored.next (stored : AcceptedStored s)
    (stepped : StoreStep s.store.automation s'.store.automation) (same : s'.accepted = s.accepted) :
    AcceptedStored s' := by
  intro pair member
  rw [same] at member
  obtain ⟨id, job, found, type, runKey⟩ := stored pair member
  obtain ⟨job', found', -, type', runKey', -⟩ := stepped.status found
  exact ⟨id, job', found', type'.trans type, runKey'.trans runKey⟩

/-- The answer to a request names a stored job of its type and key. -/
theorem request_stored {jobType runKey jobId eventId : String} {payload : Dict}
    {availableAt : Option Instant} {now : Instant} {answer : DurableJobRequestResult}
    {store store' : AutomationStore}
    (requested : requestJob jobType runKey payload availableAt jobId eventId now store =
      .ok (answer, store')) :
    ∃ id job, store'.durableJobs.find id = some job ∧ job.jobType = jobType ∧
      job.runKey = runKey := by
  rcases request_cases jobType runKey payload availableAt jobId eventId now store with
    ⟨failure, raised⟩ | ⟨existing, there, same⟩ | ⟨definition, -, -, fresh, inserted⟩
  · rw [raised] at requested
    cases requested
  · rw [same] at requested
    obtain ⟨-, rfl⟩ := Prod.mk.inj (Except.ok.inj requested)
    obtain ⟨type, key, id, found⟩ := AutomationStore.jobFor_eq_some there
    exact ⟨id, existing, found, type, key⟩
  · rw [inserted] at requested
    obtain ⟨-, rfl⟩ := Prod.mk.inj (Except.ok.inj requested)
    exact ⟨jobId, _, (AutomationStore.find_insertJob _ _ _ _).trans (if_pos rfl), rfl, rfl⟩

theorem accepted_step (inv : Inv Allowed s) (stored : AcceptedStored s) (a : Action)
    (allowed : ok Allowed s a) : AcceptedStored (step P U s a) := by
  have stepped := (step_advance (P := P) (U := U) inv a allowed).stepped
  cases a with
  | trigger jobType request jobId eventId now =>
      simp only [step] at stepped ⊢
      split at stepped
      · rename_i answer automation answered
        intro pair member
        rcases List.mem_append.mp member with old | new
        · obtain ⟨id, job, found, type, runKey⟩ := stored pair old
          obtain ⟨job', found', -, type', runKey', -⟩ := stepped.status found
          exact ⟨id, job', found', type'.trans type, runKey'.trans runKey⟩
        · rw [List.mem_singleton.mp new]
          exact request_stored (trigger_ok answered).2
      · exact stored
  | cancel jobId eventId now => exact stored.next stepped rfl
  | deliver handling message eventId now =>
      refine stored.next stepped ?_
      simp only [step]
      split
      · split
        · rfl
        · split <;> rfl
      · rfl
  | handle handling services =>
      refine stored.next stepped ?_
      simp only [step]
      split
      · split <;> rfl
      · rfl
  | endOtherwise handling outcome =>
      refine stored.next stepped ?_
      simp only [step]
      split <;> rfl
  | settle handling error eventId now =>
      refine stored.next stepped ?_
      simp only [step]
      split <;> rfl
  | stop handling => exact stored.next stepped rfl
  | published index now => exact stored.next stepped rfl

theorem run_accepted {trace : List Action}
    (admissible : Admissible (step P U) (ok Allowed) .empty trace) :
    Inv Allowed (exec (step P U) .empty trace) ∧ AcceptedStored (exec (step P U) .empty trace) := by
  have keep : ∀ s a, (Inv Allowed s ∧ AcceptedStored s) → ok Allowed s a →
      Inv Allowed (step P U s a) ∧ AcceptedStored (step P U s a) :=
    fun _ a holds allowed =>
      ⟨(step_advance holds.1 a allowed).inv, accepted_step holds.1 holds.2 a allowed⟩
  have start : Inv Allowed .empty ∧ AcceptedStored .empty := by
    refine ⟨inv_empty, ?_⟩
    intro pair member
    cases member
  exact exec_invariant keep start admissible

end Accepted

/-! ## The retry of a failure -/

section Failures

variable {P : Platform} {U : Upper} {S : NewsServices} {execution : DurableJobExecution}
  {store : NewsStore} {failure : Failure} {s : State} {handling : Nat}

/-- A handling that fails so asks for its retry, and raises. -/
theorem RetryableFailure.handled (failed : RetryableFailure U S execution store failure) :
    ∃ texts, handleNews U S execution store = some (S.retryAndRaise execution
      [(newsField execution.jobType, textItems texts)] failure store) := by
  cases failed with
  | collection jobType symbols read failed retryable =>
      refine ⟨symbols, ?_⟩
      rw [handleNews, if_pos jobType, newsField, if_pos jobType]
      simp only [collectNews, read, failed, retryable, if_true]
  | index jobType sourceKeys read enabled some failed retryable =>
      refine ⟨sourceKeys, ?_⟩
      have other : execution.jobType ≠ "news_collection" := by
        rw [jobType]
        decide
      rw [handleNews, if_neg other, if_pos jobType, newsField, if_neg other]
      cases articles : store.newsArticles.findBySourceKeys sourceKeys with
      | nil => exact absurd articles some
      | cons article rest =>
          rw [articles] at failed
          simp only [indexNews, read, enabled, if_true, articles, failed, retryable]

/-- The error of a column that is too narrow is none that asks for a retry. -/
theorem RetryableFailure.not_dataError (failed : RetryableFailure U S execution store failure)
    (message : String) :
    failure ≠ .raised .dataError message := by
  rintro rfl
  cases failed with
  | collection _ _ _ _ retryable => cases retryable
  | index _ _ _ _ _ _ retryable => cases retryable

theorem RetryableFailure.defined (failed : RetryableFailure U S execution store failure) :
    ∃ definition, jobDefinition execution.jobType = some definition := by
  cases failed with
  | collection jobType =>
      rw [jobType]
      exact ⟨_, rfl⟩
  | index jobType =>
      rw [jobType]
      exact ⟨_, rfl⟩

variable (S store) in
/-- The request of a retry, under the retry key. -/
theorem requestNewsRetry_eq (payload : Dict)
    (few : newsRetryAttempt execution.payload + 1 < maxNewsDurableJobAttempts) :
    S.requestNewsRetry execution payload store =
      match requestJob execution.jobType (retryKey execution)
          (newsRetryPayload payload (newsRetryRootRunKey execution)
            (newsRetryAttempt execution.payload + 1))
          (some (S.now + seconds (2 ^ (newsRetryAttempt execution.payload + 1)))) S.jobId S.eventId
          S.now store.automation with
      | .ok (_, automation) => (.ok (), { store with automation })
      | .error failure => (.error failure, store) := by
  rw [NewsServices.requestNewsRetry, if_neg]
  · rfl
  · simp only [maxNewsDurableJobAttempts] at few ⊢
    omega

/-- A retry whose key fits and is free is scheduled. -/
theorem scheduled_of_free (inv : JobInv store.automation)
    (failed : RetryableFailure U S execution store failure)
    (few : newsRetryAttempt execution.payload + 1 < maxNewsDurableJobAttempts)
    (fresh : store.automation.durableJobs.find S.jobId = none)
    (fits : (retryKey execution).toList.length ≤ runKeyLimit)
    (unused : store.automation.jobFor execution.jobType (retryKey execution) = none) :
    Scheduled P U S execution store failure := by
  obtain ⟨texts, handled⟩ := failed.handled
  obtain ⟨definition, defined⟩ := failed.defined
  have created := request_creates defined fits unused fresh
    (newsRetryPayload [(newsField execution.jobType, textItems texts)]
      (newsRetryRootRunKey execution) (newsRetryAttempt execution.payload + 1))
    (some (S.now + seconds (2 ^ (newsRetryAttempt execution.payload + 1)))) S.eventId S.now
  have retried := requestNewsRetry_eq S store
    [(newsField execution.jobType, textItems texts)] few
  simp only [created] at retried
  simp only [NewsServices.retryAndRaise, retried] at handled
  refine ⟨_, _, _, handled, fresh, (AutomationStore.find_insertJob _ _ _ _).trans (if_pos rfl), rfl,
    rfl, rfl, NewsRetry.newsRetryAttempt_payload _ _ _ (NewsRetry.newsField_ne _).1, ?_,
    executionFromMessage_request P defined _ _ _ S.eventId S.now⟩
  rw [requestedEvents_append (AutomationStore.events_insertJob _ _ _),
    inv.requestedEvents_eq_nil unused, if_pos]
  · rfl
  · exact ⟨congrArg some (jobDefinition_name defined), rfl⟩

/-- A retry whose key does not fit is refused, and its error hides the first one. -/
theorem refused_of_long (failed : RetryableFailure U S execution store failure)
    (few : newsRetryAttempt execution.payload + 1 < maxNewsDurableJobAttempts)
    (long : runKeyLimit < (retryKey execution).toList.length) :
    handleNews U S execution store =
      some (.error (.raised .dataError "value too long for type character varying(200)"), store) := by
  obtain ⟨texts, handled⟩ := failed.handled
  obtain ⟨definition, defined⟩ := failed.defined
  rw [handled, NewsServices.retryAndRaise, requestNewsRetry_eq S store _ few]
  simp only [request_too_long defined long]

theorem scheduled_fits (failed : RetryableFailure U S execution store failure)
    (few : newsRetryAttempt execution.payload + 1 < maxNewsDurableJobAttempts)
    (scheduled : Scheduled P U S execution store failure) :
    (retryKey execution).toList.length ≤ runKeyLimit := by
  by_contra long
  obtain ⟨after, job, message, raised, -⟩ := scheduled
  rw [refused_of_long failed few (Nat.lt_of_not_le long)] at raised
  refine failed.not_dataError "value too long for type character varying(200)" ?_
  simpa using (congrArg (Option.map Prod.fst) raised).symm

/-- A retry whose key is taken is absorbed by the job under it. -/
theorem scheduled_unused (failed : RetryableFailure U S execution store failure)
    (few : newsRetryAttempt execution.payload + 1 < maxNewsDurableJobAttempts)
    (scheduled : Scheduled P U S execution store failure) :
    store.automation.jobFor execution.jobType (retryKey execution) = none := by
  obtain ⟨texts, handled⟩ := failed.handled
  obtain ⟨after, job, message, raised, fresh, found, -⟩ := scheduled
  cases there : store.automation.jobFor execution.jobType (retryKey execution) with
  | none => rfl
  | some existing =>
      have same : after = store := by
        have retried := requestNewsRetry_eq S store
          [(newsField execution.jobType, textItems texts)] few
        rw [handled] at raised
        have stored := congrArg Prod.snd (Option.some.inj raised)
        rw [retryAndRaise_store, retried] at stored
        rcases request_existing there _ _ S.jobId S.eventId S.now with ⟨other, answer⟩ | answer
        · rw [answer] at stored
          exact stored.symm
        · rw [answer] at stored
          exact stored.symm
      rw [same, fresh] at found
      cases found

/-- **When a retry is really scheduled.** In every run whose triggers carry no retry fields, a
news job that fails with a retryable error on its first or second attempt gets its retry, with
a requested event, and raises the error again, if and only if its root key leaves room for the
suffix and no trigger of its type was accepted under the retry key. -/
theorem retry_scheduled_iff {trace : List Action}
    (admissible : Admissible (step P U) (ok Plain) .empty trace)
    (claimed : (exec (step P U) .empty trace).handlings handling = .claimed execution)
    (few : newsRetryAttempt execution.payload + 1 < maxNewsDurableJobAttempts)
    (fresh : (exec (step P U) .empty trace).store.automation.durableJobs.find S.jobId = none)
    (failed : RetryableFailure U S execution (exec (step P U) .empty trace).store failure) :
    Scheduled P U S execution (exec (step P U) .empty trace).store failure ↔
      (newsRetryRootRunKey execution).toList.length ≤ rootKeyLimit ∧
        (execution.jobType, retryKey execution) ∉ (exec (step P U) .empty trace).accepted := by
  obtain ⟨inv, stored⟩ := run_accepted admissible
  have length := retryKey_length few
  constructor
  · intro scheduled
    have fits := scheduled_fits failed few scheduled
    refine ⟨by simp only [runKeyLimit, rootKeyLimit] at fits ⊢; omega, ?_⟩
    intro accepted
    obtain ⟨id, job, found, type, runKey⟩ := stored _ accepted
    exact AutomationStore.jobFor_eq_none (scheduled_unused failed few scheduled) found
      ⟨type, runKey⟩
  · rintro ⟨short, unclaimed⟩
    refine scheduled_of_free inv.jobs failed few fresh ?_ ?_
    · simp only [runKeyLimit, rootKeyLimit] at short ⊢
      omega
    · cases there : (exec (step P U) .empty trace).store.automation.jobFor execution.jobType
          (retryKey execution) with
      | none => rfl
      | some existing => exact absurd (unused_retry_key inv claimed few there) unclaimed

end Failures

/-! ## A key without room, and one with -/

namespace Timeout

open NewsRetry.Timeouts (platform upper timeout)

def services : NewsServices where
  collect _ := .error timeout
  indexingEnabled := true
  index _ := .ok 0
  jobId := (2 : Uuid).str
  eventId := "3d1f5a0e-52fb-4a53-8b1c-5b9a41f7e002"
  now := 3

def payload : Dict := [("symbols", .arr [.str "AAPL"])]

def eventId : String := "3d1f5a0e-52fb-4a53-8b1c-5b9a41f7e001"

def execution (runKey : String) : DurableJobExecution :=
  ⟨(1 : Uuid).str, "news_collection", runKey, payload⟩

def definition : DurableJobDefinition :=
  ⟨"news_collection", "automation", "news.collection.requested", "news.collection.requested"⟩

/-- The job is triggered and claimed. -/
def trace (runKey : String) : List Action := [
  .trigger "news_collection" ⟨runKey, payload⟩ 1 eventId 1,
  .deliver 0 (jobRequestMessage definition (1 : Uuid).str runKey payload eventId 1) eventId 2]

/-- The state after the trigger. -/
def triggered (runKey : String) : State where
  store := ⟨AutomationStore.empty.insertJob
    { jobId := (1 : Uuid).str, jobType := "news_collection", runKey, status := .requested, payload
      requestedAt := 1, updatedAt := 1 }
    (outboxRecord (jobRequestMessage definition (1 : Uuid).str runKey payload eventId 1)), ∅⟩
  handlings _ := .idle
  accepted := [("news_collection", runKey)]

/-- A key of any length the column stores is accepted and delivered. -/
theorem delivered {runKey : String} (named : runKey ≠ "")
    (fits : runKey.toList.length ≤ runKeyLimit) :
    Admissible (step platform upper) (ok Plain) .empty (trace runKey) ∧
      (exec (step platform upper) .empty (trace runKey)).handlings 0 =
        .claimed (execution runKey) := by
  have answered : triggerDurableJob "news_collection" ⟨runKey, payload⟩ (1 : Uuid).str eventId 1
      .empty = .ok (⟨(1 : Uuid).str, true⟩, (triggered runKey).store.automation) := by
    have defined : jobDefinition "news_collection" = some definition := rfl
    have unused : AutomationStore.empty.jobFor "news_collection" runKey = none := rfl
    have fresh : AutomationStore.empty.durableJobs.find (1 : Uuid).str = none := rfl
    rw [triggerDurableJob, if_neg named]
    exact request_creates defined fits unused fresh payload none eventId 1
  have stepped : step platform upper .empty (.trigger "news_collection" ⟨runKey, payload⟩ 1 eventId
      1) = triggered runKey := by
    simp only [step, State.empty, answered]
    rfl
  constructor
  · refine ⟨⟨⟨rfl, rfl⟩, trivial⟩, ⟨trivial, ?_⟩, trivial⟩
    rw [stepped]
    exact .head _
  · rw [trace, exec_cons, stepped]
    rfl

/-- The longest run key the route accepts. -/
def longKey : String := String.ofList (List.replicate 200 'a')

theorem longKey_length : longKey.toList.length = 200 := by
  have chars : longKey.toList = List.replicate 200 'a' := String.toList_ofList
  rw [chars]
  exact List.length_replicate

/-- The job with the longest key fails with a retryable error, and no retry is scheduled: the
error of the column is raised in its place. -/
theorem long_key_is_not_retried :
    Admissible (step platform upper) (ok Plain) .empty (trace longKey) ∧
      (exec (step platform upper) .empty (trace longKey)).handlings 0 =
        .claimed (execution longKey) ∧
      newsRetryAttempt (execution longKey).payload + 1 < maxNewsDurableJobAttempts ∧
      RetryableFailure upper services (execution longKey)
        (exec (step platform upper) .empty (trace longKey)).store timeout ∧
      handleNews upper services (execution longKey)
          (exec (step platform upper) .empty (trace longKey)).store =
        some (.error (.raised .dataError "value too long for type character varying(200)"),
          (exec (step platform upper) .empty (trace longKey)).store) ∧
      ¬ Scheduled platform upper services (execution longKey)
        (exec (step platform upper) .empty (trace longKey)).store timeout := by
  have named : longKey ≠ "" := by
    intro empty
    have length := longKey_length
    rw [empty] at length
    cases length
  obtain ⟨admissible, claimed⟩ := delivered named (by rw [longKey_length]; decide)
  generalize exec (step platform upper) .empty (trace longKey) = s at claimed ⊢
  have failed : RetryableFailure upper services (execution longKey) s.store timeout :=
    .collection rfl ["AAPL"] rfl rfl rfl
  have few : newsRetryAttempt (execution longKey).payload + 1 < maxNewsDurableJobAttempts := by
    decide
  have long : runKeyLimit < (retryKey (execution longKey)).toList.length := by
    have root : newsRetryRootRunKey (execution longKey) = longKey := rfl
    rw [retryKey_length few, root, longKey_length]
    decide
  refine ⟨admissible, claimed, few, failed, refused_of_long failed few long, ?_⟩
  intro scheduled
  exact absurd (scheduled_fits failed few scheduled) (Nat.not_le.mpr long)

theorem daily_is_retried :
    Scheduled platform upper services (execution "daily")
        (exec (step platform upper) .empty (trace "daily")).store timeout ↔
      (newsRetryRootRunKey (execution "daily")).toList.length ≤ rootKeyLimit ∧
        ((execution "daily").jobType, retryKey (execution "daily")) ∉
          (exec (step platform upper) .empty (trace "daily")).accepted := by
  obtain ⟨admissible, claimed⟩ := delivered (show "daily" ≠ "" by decide) (by decide)
  exact retry_scheduled_iff admissible claimed (by decide) rfl (.collection rfl ["AAPL"] rfl rfl rfl)

end Timeout

end KisAutoTrading.Jobs.RetryScheduling
