/-
# Jobs.NewsSystem — triggers, deliveries and the handlings of news jobs

The news jobs in one run: the trigger route, cancels, and any number of handlings, each
of which is delivered a message of the outbox, claims its job, handles it and records
the outcome. A message may be delivered any number of times, and a handling may stop or
fail anywhere. What a handling meets outside (the provider, the index, the ids it draws,
the clock) is an argument of its step.

Collecting reads nothing and stores everything in one transaction, so it is one step. An
index job reads the articles first and stores a retry later; the index it meets is
arbitrary, so one step at the later time has every outcome of the two.

`Inv` says where jobs come from: a job was triggered, or another job requested it while it
was handled (`Child`), and that one is not handled again.
-/
import KisAutoTrading.Jobs.Ledger
import KisAutoTrading.Jobs.NewsRetry
import KisAutoTrading.Theory.Runs

namespace KisAutoTrading.Jobs.NewsSystem

open Theory Theory.Runs

set_option autoImplicit false

/-- One handling of one message by `DurableJobMessageHandler.handle`. -/
inductive Handling where
  | idle
  | claimed (execution : DurableJobExecution)
  | handled (execution : DurableJobExecution) (outcome : Except Failure Dict)
  | settled

structure State where
  store : NewsStore
  handlings : Nat → Handling
  /-- The job types and run keys of the triggers that were answered 202. -/
  accepted : List (String × String)

def State.empty : State := ⟨⟨.empty, ∅⟩, fun _ => .idle, []⟩

inductive Action where
  | trigger (jobType : String) (request : DurableJobTriggerRequest) (jobId : Uuid)
      (eventId : String) (now : Instant)
  | cancel (jobId eventId : String) (now : Instant)
  /-- A message is delivered, for the first time or again, and the handling claims its job. -/
  | deliver (handling : Nat) (message : EventMessage) (eventId : String) (now : Instant)
  | handle (handling : Nat) (services : NewsServices)
  /-- The handler ends without a change of the two tables: a job of another type, or a
  transaction that was rolled back. -/
  | endOtherwise (handling : Nat) (outcome : Except Failure Dict)
  | settle (handling : Nat) (error eventId : String) (now : Instant)
  | stop (handling : Nat)
  | published (index : Nat) (now : Instant)

def State.enter (s : State) (handling : Nat) (phase : Handling) : State :=
  { s with handlings := Function.update s.handlings handling phase }

/-- The automation database is now this one. -/
def State.withAutomation (s : State) (automation : AutomationStore) : State :=
  { s with store := { s.store with automation } }

def step (P : Platform) (U : Upper) (s : State) : Action → State
  | .trigger jobType request jobId eventId now =>
      match triggerDurableJob jobType request jobId.str eventId now s.store.automation with
      | .ok (_, automation) =>
          { s.withAutomation automation with
            accepted := s.accepted ++ [(jobType, request.runKey)] }
      | .error _ => s
  | .cancel jobId eventId now =>
      s.withAutomation (cancelUpdate jobId eventId now s.store.automation).2
  | .deliver handling message eventId now =>
      match s.handlings handling with
      | .idle =>
          match P.executionFromMessage message with
          | .error _ => s.enter handling .settled
          | .ok execution =>
              match transition execution.jobId .requested .running none none eventId now
                  s.store.automation with
              | (true, automation) =>
                  (s.withAutomation automation).enter handling (.claimed execution)
              | (false, _) => s.enter handling .settled
      | _ => s
  | .handle handling services =>
      match s.handlings handling with
      | .claimed execution =>
          match handleNews U services execution s.store with
          | some (outcome, store) => { s with store }.enter handling (.handled execution outcome)
          | none => s
      | _ => s
  | .endOtherwise handling outcome =>
      match s.handlings handling with
      | .claimed execution => s.enter handling (.handled execution outcome)
      | _ => s
  | .settle handling error eventId now =>
      match s.handlings handling with
      | .handled execution (.ok result) =>
          (s.withAutomation (transition execution.jobId .running .succeeded (some result) none
            eventId now s.store.automation).2).enter handling .settled
      | .handled execution (.error _) =>
          (s.withAutomation (transition execution.jobId .running .failed none (some error)
            eventId now s.store.automation).2).enter handling .settled
      | _ => s
  | .stop handling => s.enter handling .settled
  | .published index now => s.withAutomation (s.store.automation.markPublished index now)

/-- Messages come from the outbox and job ids from `uuid4`; what else a run does not do is
said by `Allowed`. -/
def ok (Allowed : Action → Prop) (s : State) (a : Action) : Prop :=
  Allowed a ∧
  match a with
  | .deliver _ message _ _ => message ∈ s.store.automation.events
  | .handle _ services => ∃ jobId : Uuid, services.jobId = jobId.str
  | _ => True

/-! ## Where jobs come from -/

/-- The execution a job's message is read back as. -/
def executionOf (job : DurableJobRecord) : DurableJobExecution :=
  ⟨job.jobId, job.jobType, job.runKey, job.payload⟩

/-- A job was triggered, by an action that was allowed. -/
def Triggered (Allowed : Action → Prop) (s : State) (job : DurableJobRecord) : Prop :=
  (job.jobType, job.runKey) ∈ s.accepted ∧
    ∃ jobId eventId now, Allowed (.trigger job.jobType ⟨job.runKey, job.payload⟩ jobId eventId now)

/-- A job is the index job of a collection, or the retry of a news job. -/
inductive Child (parent job : DurableJobExecution) : Prop where
  | index (collection : parent.jobType = "news_collection") (jobType : job.jobType = "news_index")
      (runKey : job.runKey = "news-index:" ++ parent.jobId) (sourceKeys : List String)
      (payload : job.payload = [("source_keys", textItems sourceKeys)])
  | retry (jobType : job.jobType = parent.jobType)
      (attempt : newsRetryAttempt job.payload = newsRetryAttempt parent.payload + 1)
      (few : newsRetryAttempt job.payload < maxNewsDurableJobAttempts)
      (root : newsRetryRootRunKey job = newsRetryRootRunKey parent)
      (runKey : job.runKey =
        newsRetryRunKey (newsRetryRootRunKey job) (newsRetryAttempt job.payload))

/-- A job has been claimed and is not in the hands of the handler any more. -/
structure Handled (s : State) (job : DurableJobRecord) : Prop where
  begun : job.status ≠ .requested
  released : ∀ handling execution, s.handlings handling = .claimed execution →
    execution.jobId ≠ job.jobId

/-- Where a job comes from. -/
def Origin (Allowed : Action → Prop) (s : State) (job : DurableJobRecord) : Prop :=
  Triggered Allowed s job ∨
    ∃ parent, s.store.automation.durableJobs.find parent.jobId = some parent ∧ Handled s parent ∧
      Child (executionOf parent) (executionOf job)

structure Inv (Allowed : Action → Prop) (s : State) : Prop where
  jobs : JobInv s.store.automation
  ids : ∀ id job, s.store.automation.durableJobs.find id = some job → ∃ u : Uuid, id = u.str
  named : ∀ id job, s.store.automation.durableJobs.find id = some job → job.runKey ≠ ""
  claimed : ∀ handling execution, s.handlings handling = .claimed execution →
    ∃ job, s.store.automation.durableJobs.find execution.jobId = some job ∧
      executionOf job = execution ∧ job.status ≠ .requested
  exclusive : ∀ handling execution handling' execution',
    s.handlings handling = .claimed execution → s.handlings handling' = .claimed execution' →
      execution.jobId = execution'.jobId → handling = handling'
  origins : ∀ id job, s.store.automation.durableJobs.find id = some job → Origin Allowed s job

/-! ## What requests and handlings store -/

/-- A retry has two colons in its run key, an index job has one. -/
theorem retry_ne_index (root : String) (attempt : Nat) (u : Uuid) :
    newsRetryRunKey root attempt ≠ "news-index:" ++ u.str := by
  intro same
  have colons := congrArg (fun text => text.toList.count ':') same
  have none : u.chars.count ':' = 0 :=
    List.count_eq_zero.mpr (Uuid.not_mem_chars (by decide) (by decide) u)
  have two : (":retry:".toList).count ':' = 2 := by decide
  have one : ("news-index:".toList).count ':' = 1 := by decide
  simp only [newsRetryRunKey, String.toList_append, List.count_append, Uuid.str,
    String.toList_ofList, none, two, one] at colons
  omega

section Store

variable {store store' : AutomationStore}

/-- A request that is answered stores at most its own job. -/
theorem request_ok {jobType runKey jobId eventId : String} {payload : Dict}
    {availableAt : Option Instant} {now : Instant} {answer : DurableJobRequestResult}
    (requested : requestJob jobType runKey payload availableAt jobId eventId now store =
      .ok (answer, store')) :
    StoreStep store store' ∧ ∀ id job, store'.durableJobs.find id = some job →
      store.durableJobs.find id = none →
        id = jobId ∧ executionOf job = ⟨jobId, jobType, runKey, payload⟩ := by
  have stepped := request_storeStep jobType runKey payload availableAt jobId eventId now store
  rw [requested] at stepped
  refine ⟨stepped, ?_⟩
  rcases request_cases jobType runKey payload availableAt jobId eventId now store with
    ⟨failure, raised⟩ | ⟨existing, -, same⟩ | ⟨definition, -, -, fresh, inserted⟩
  · rw [raised] at requested
    cases requested
  · rw [same] at requested
    obtain ⟨-, rfl⟩ := Prod.mk.inj (Except.ok.inj requested)
    intro id job found absent
    rw [absent] at found
    cases found
  · rw [inserted] at requested
    obtain ⟨-, rfl⟩ := Prod.mk.inj (Except.ok.inj requested)
    intro id job found absent
    rw [AutomationStore.find_insertJob] at found
    split at found
    · rename_i here
      cases found
      exact ⟨here, rfl⟩
    · rw [absent] at found
      cases found

theorem trigger_ok {jobType jobId eventId : String} {request : DurableJobTriggerRequest}
    {now : Instant} {answer : DurableJobRequestResult × AutomationStore}
    (answered : triggerDurableJob jobType request jobId eventId now store = .ok answer) :
    request.runKey ≠ "" ∧
      requestJob jobType request.runKey request.payload none jobId eventId now store =
        .ok answer := by
  refine ⟨?_, ?_⟩
  · intro empty
    rw [triggerDurableJob, if_pos empty] at answered
    cases answered
  · rcases trigger_cases jobType request jobId eventId now store with ⟨failure, raised⟩ | same
    · rw [raised] at answered
      cases answered
    · rw [← same, answered]

/-- A stored job is read back as the same execution as long as it stands. -/
theorem executionOf_step (stepped : StoreStep store store') {id : String}
    {job job' : DurableJobRecord} (found : store.durableJobs.find id = some job)
    (found' : store'.durableJobs.find id = some job') : executionOf job' = executionOf job := by
  obtain ⟨after, here, key, type, runKey, payload, -⟩ := stepped.status found
  rw [found'] at here
  cases here
  simp only [executionOf, key, type, runKey, payload]

/-- No edge leads back to a requested job. -/
theorem begun_stays {old new : DurableJobStatus} (begun : old ≠ .requested)
    (moves : new = old ∨ Edge old new = true) : new ≠ .requested := by
  rcases moves with rfl | edge
  · exact begun
  · rintro rfl
    cases old <;> cases edge

end Store

section Handling

variable {U : Upper} {S : NewsServices} {execution : DurableJobExecution} {store after : NewsStore}

theorem child_retry (texts : List String) (named : execution.runKey ≠ "")
    (few : newsRetryAttempt execution.payload + 1 < maxNewsDurableJobAttempts) :
    Child execution (NewsRetry.retryOf S execution texts) := by
  obtain ⟨notAttempt, notRoot⟩ := NewsRetry.newsField_ne execution.jobType
  have attempt : newsRetryAttempt (NewsRetry.retryOf S execution texts).payload =
      newsRetryAttempt execution.payload + 1 :=
    NewsRetry.newsRetryAttempt_payload _ _ _ notAttempt
  have root : newsRetryRootRunKey (NewsRetry.retryOf S execution texts) =
      newsRetryRootRunKey execution :=
    NewsRetry.newsRetryRoot_payload _ _ _ _ _ notRoot (NewsRetry.root_ne_empty named)
  refine .retry rfl attempt (attempt ▸ few) root ?_
  rw [root, attempt]
  rfl

/-- The run key of a child is not empty. -/
theorem Child.named {job : DurableJobExecution} (child : Child execution job) : job.runKey ≠ "" := by
  intro empty
  cases child with
  | index _ _ runKey _ _ =>
      have chars := congrArg String.toList (runKey.symm.trans empty)
      simp at chars
  | retry _ _ _ _ runKey =>
      have chars := congrArg String.toList (runKey.symm.trans empty)
      simp [newsRetryRunKey] at chars

/-- Everything a handling can store: at most one job, and that is a child of its own. -/
theorem handleNews_stores {outcome : Except Failure Dict} (named : execution.runKey ≠ "")
    (handled : handleNews U S execution store = some (outcome, after)) :
    StoreStep store.automation after.automation ∧
      ∀ id job, after.automation.durableJobs.find id = some job →
        store.automation.durableJobs.find id = none →
          id = S.jobId ∧ Child execution (executionOf job) := by
  have quiet : after.automation = store.automation →
      StoreStep store.automation after.automation ∧
        ∀ id job, after.automation.durableJobs.find id = some job →
          store.automation.durableJobs.find id = none →
            id = S.jobId ∧ Child execution (executionOf job) := by
    intro same
    rw [same]
    refine ⟨.quiet rfl rfl, ?_⟩
    intro id job found absent
    rw [absent] at found
    cases found
  cases outcome with
  | error failure =>
      rcases handleNews_error handled with rfl | ⟨texts, -, rfl⟩
      · exact quiet rfl
      · rcases requestNewsRetry_cases S execution store
            [(newsField execution.jobType, textItems texts)] with
          same | ⟨definition, few, defined, unused, fresh, stored⟩
        · exact quiet (by rw [same])
        · rw [stored]
          refine ⟨.requested definition _ S.eventId S.now defined unused fresh rfl
            (fun id => AutomationStore.find_insertJob _ _ _ id)
            (AutomationStore.events_insertJob _ _ _), ?_⟩
          intro id job found absent
          simp only [AutomationStore.find_insertJob] at found
          split at found
          · rename_i here
            cases found
            exact ⟨here, child_retry texts named few⟩
          · rw [absent] at found
            cases found
  | ok result =>
      unfold handleNews at handled
      split at handled
      · rename_i collection
        obtain ⟨symbols, batches, -, -, -, ⟨-, job, requested⟩ | ⟨-, same⟩⟩ :=
          collectNews_ok (Option.some.inj handled)
        · obtain ⟨stepped, new⟩ := request_ok requested
          refine ⟨stepped, fun id job found absent => ?_⟩
          obtain ⟨here, read⟩ := new id job found absent
          refine ⟨here, ?_⟩
          rw [read]
          exact .index collection rfl rfl _ rfl
        · exact quiet same
      · split at handled
        · exact quiet (congrArg (·.automation) (indexNews_ok (Option.some.inj handled)))
        · cases handled

end Handling

/-! ## Steps -/

section Steps

variable {Allowed : Action → Prop} {P : Platform} {U : Upper} {s s' : State}

theorem enter_handlings (s : State) (handling other : Nat) (phase : Handling) :
    (s.enter handling phase).handlings other =
      if other = handling then phase else s.handlings other := by
  simp only [State.enter, Function.update_apply]

/-- A claimed handling was claimed before, or claims a job that was only requested. -/
def ClaimsFrom (s s' : State) : Prop :=
  ∀ handling execution, s'.handlings handling = .claimed execution →
    s.handlings handling = .claimed execution ∨
      statusOf s.store.automation execution.jobId = some .requested

/-- A job that was handled stays so. -/
theorem Handled.step (stepped : StoreStep s.store.automation s'.store.automation)
    (claims : ClaimsFrom s s') {job : DurableJobRecord}
    (found : s.store.automation.durableJobs.find job.jobId = some job) (handled : Handled s job) :
    ∃ job', s'.store.automation.durableJobs.find job'.jobId = some job' ∧
      executionOf job' = executionOf job ∧ Handled s' job' := by
  obtain ⟨job', found', key, type, runKey, payload, moves⟩ := stepped.status found
  refine ⟨job', by rw [key]; exact found', by simp only [executionOf, key, type, runKey, payload],
    begun_stays handled.begun moves, ?_⟩
  intro handling execution claimed
  rw [key]
  rcases claims handling execution claimed with old | requested
  · exact handled.released handling execution old
  · intro same
    rw [same, statusOf, found] at requested
    exact handled.begun (Option.some.inj requested)

theorem Origin.step (stepped : StoreStep s.store.automation s'.store.automation)
    (more : ∀ pair ∈ s.accepted, pair ∈ s'.accepted) (claims : ClaimsFrom s s')
    {job job' : DurableJobRecord} (same : executionOf job' = executionOf job)
    (origin : Origin Allowed s job) : Origin Allowed s' job' := by
  rcases origin with ⟨accepted, allowed⟩ | ⟨parent, found, handled, child⟩
  · obtain ⟨-, type, runKey, payload⟩ := (DurableJobExecution.mk.injEq ..).mp same
    refine .inl ⟨?_, ?_⟩
    · rw [type, runKey]
      exact more _ accepted
    · rw [type, runKey, payload]
      exact allowed
  · obtain ⟨parent', found', executed, handled'⟩ := handled.step stepped claims found
    refine .inr ⟨parent', found', handled', ?_⟩
    rw [executed, same]
    exact child

/-- What one step does: it keeps the invariant, moves jobs along and claims requested ones. -/
structure Advance (Allowed : Action → Prop) (s s' : State) : Prop where
  stepped : StoreStep s.store.automation s'.store.automation
  claims : ClaimsFrom s s'
  inv : Inv Allowed s'

/-- What has to be said of a step: its claims, and the jobs that are new. -/
theorem Inv.next (inv : Inv Allowed s) (stepped : StoreStep s.store.automation s'.store.automation)
    (more : ∀ pair ∈ s.accepted, pair ∈ s'.accepted) (claims : ClaimsFrom s s')
    (claimed : ∀ handling execution, s'.handlings handling = .claimed execution →
      ∃ job, s'.store.automation.durableJobs.find execution.jobId = some job ∧
        executionOf job = execution ∧ job.status ≠ .requested)
    (exclusive : ∀ handling execution handling' execution',
      s'.handlings handling = .claimed execution → s'.handlings handling' = .claimed execution' →
        execution.jobId = execution'.jobId → handling = handling')
    (new : ∀ id job, s'.store.automation.durableJobs.find id = some job →
      s.store.automation.durableJobs.find id = none →
        (∃ u : Uuid, id = u.str) ∧ job.runKey ≠ "" ∧ Origin Allowed s' job) :
    Advance Allowed s s' := by
  refine ⟨stepped, claims, jobInv_step inv.jobs stepped, ?_, ?_, claimed, exclusive, ?_⟩
  · intro id job found
    cases before : s.store.automation.durableJobs.find id with
    | none => exact (new id job found before).1
    | some old => exact inv.ids id old before
  · intro id job found
    cases before : s.store.automation.durableJobs.find id with
    | none => exact (new id job found before).2.1
    | some old =>
        have same := executionOf_step stepped before found
        rw [show job.runKey = old.runKey from congrArg (·.runKey) same]
        exact inv.named id old before
  · intro id job found
    cases before : s.store.automation.durableJobs.find id with
    | none => exact (new id job found before).2.2
    | some old =>
        exact (inv.origins id old before).step stepped more claims
          (executionOf_step stepped before found)

/-- A step that claims nothing. -/
theorem Inv.next_of_fewer (inv : Inv Allowed s)
    (stepped : StoreStep s.store.automation s'.store.automation)
    (more : ∀ pair ∈ s.accepted, pair ∈ s'.accepted)
    (fewer : ∀ handling execution, s'.handlings handling = .claimed execution →
      s.handlings handling = .claimed execution)
    (new : ∀ id job, s'.store.automation.durableJobs.find id = some job →
      s.store.automation.durableJobs.find id = none →
        (∃ u : Uuid, id = u.str) ∧ job.runKey ≠ "" ∧ Origin Allowed s' job) :
    Advance Allowed s s' := by
  refine inv.next stepped more (fun h e claimed => .inl (fewer h e claimed)) ?_ ?_ new
  · intro handling execution claimed
    obtain ⟨job, found, read, begun⟩ := inv.claimed handling execution (fewer _ _ claimed)
    obtain ⟨job', found', -, -, -, -, moves⟩ := stepped.status found
    exact ⟨job', found', (executionOf_step stepped found found').trans read, begun_stays begun moves⟩
  · intro h e h' e' first second
    exact inv.exclusive h e h' e' (fewer _ _ first) (fewer _ _ second)

/-- The jobs are those of before. -/
theorem no_new (same : ∀ id, s.store.automation.durableJobs.find id = none →
      s'.store.automation.durableJobs.find id = none) :
    ∀ id job, s'.store.automation.durableJobs.find id = some job →
      s.store.automation.durableJobs.find id = none →
        (∃ u : Uuid, id = u.str) ∧ job.runKey ≠ "" ∧ Origin Allowed s' job := by
  intro id job found absent
  rw [same id absent] at found
  cases found

/-- A handling enters a phase in which it has claimed nothing. -/
theorem fewer_enter (handling : Nat) {phase : Handling} (notClaimed : ∀ e, phase ≠ .claimed e)
    (other : Nat) (execution : DurableJobExecution)
    (claimed : (s.enter handling phase).handlings other = .claimed execution) :
    s.handlings other = .claimed execution := by
  rw [enter_handlings] at claimed
  split at claimed
  · exact absurd claimed (notClaimed execution)
  · exact claimed

theorem Inv.enter (inv : Inv Allowed s) (handling : Nat) {phase : Handling}
    (notClaimed : ∀ e, phase ≠ .claimed e) : Advance Allowed s (s.enter handling phase) :=
  inv.next_of_fewer (.quiet rfl rfl) (fun _ member => member) (fewer_enter handling notClaimed)
    (no_new fun _ absent => absent)

theorem Advance.enter (advance : Advance Allowed s s') (handling : Nat) {phase : Handling}
    (notClaimed : ∀ e, phase ≠ .claimed e) : Advance Allowed s (s'.enter handling phase) where
  stepped := advance.stepped
  claims other execution claimed :=
    advance.claims other execution (fewer_enter handling notClaimed other execution claimed)
  inv := (advance.inv.enter handling notClaimed).inv

/-- Nothing happens. -/
theorem Inv.stay (inv : Inv Allowed s) : Advance Allowed s s :=
  ⟨.quiet rfl rfl, fun _ _ claimed => .inl claimed, inv⟩

/-- A transition moves one job, and stores none. -/
theorem transition_moves (keyed : Table.Keyed (·.jobId) s.store.automation.durableJobs)
    (jobId : String) (expected status : DurableJobStatus) (edge : Edge expected status = true)
    (result : Option Dict) (error : Option String) (eventId : String) (now : Instant) :
    StoreStep s.store.automation
        (transition jobId expected status result error eventId now s.store.automation).2 ∧
      ∀ id, s.store.automation.durableJobs.find id = none →
        (transition jobId expected status result error eventId now
          s.store.automation).2.durableJobs.find id = none := by
  rcases transition_cases jobId expected status result error eventId now s.store.automation with
    ⟨job, found, rfl, moved⟩ | ⟨-, same⟩
  · obtain rfl : job.jobId = jobId := keyed _ _ found
    rw [moved]
    refine ⟨moveJob_storeStep found edge result error eventId now, fun id absent => ?_⟩
    rw [AutomationStore.moveJob, AutomationStore.find_insertJob, if_neg]
    · exact absent
    · rintro rfl
      rw [found] at absent
      cases absent
  · rw [same]
    exact ⟨.quiet rfl rfl, fun id absent => absent⟩

theorem Inv.transition (inv : Inv Allowed s) (jobId : String) (expected status : DurableJobStatus)
    (edge : Edge expected status = true) (result : Option Dict) (error : Option String)
    (eventId : String) (now : Instant) :
    Advance Allowed s (s.withAutomation
      (transition jobId expected status result error eventId now s.store.automation).2) := by
  obtain ⟨stepped, absent⟩ :=
    transition_moves inv.jobs.keyed jobId expected status edge result error eventId now
  exact inv.next_of_fewer stepped (fun _ member => member) (fun _ _ claimed => claimed)
    (no_new absent)

/-- An execution read of a message of the outbox is that of a stored job: the message is its
request. -/
theorem Inv.job_of_message (inv : Inv Allowed s) {message : EventMessage}
    (member : message ∈ s.store.automation.events) {execution : DurableJobExecution}
    (read : P.executionFromMessage message = .ok execution) :
    ∃ job, s.store.automation.durableJobs.find execution.jobId = some job ∧
      executionOf job = execution := by
  rcases inv.jobs.origin message member with
    ⟨definition, job, eventId', now', found, defined, rfl⟩ |
    ⟨job, status, result, error, eventId', now', -, rfl⟩
  · rw [executionFromMessage_request P defined] at read
    obtain rfl := Except.ok.inj read
    exact ⟨job, found, rfl⟩
  · cases result <;> cases error <;> cases read

/-- The claim: the job of a message of the outbox, which was requested. -/
theorem Inv.claim (inv : Inv Allowed s) (handling : Nat) {message : EventMessage}
    (member : message ∈ s.store.automation.events) {execution : DurableJobExecution}
    (read : P.executionFromMessage message = .ok execution) {eventId : String} {now : Instant}
    {automation : AutomationStore}
    (moved : KisAutoTrading.transition execution.jobId .requested .running none none eventId now
      s.store.automation = (true, automation)) :
    Advance Allowed s ((s.withAutomation automation).enter handling (.claimed execution)) := by
  obtain ⟨stepped, absent⟩ := transition_moves inv.jobs.keyed execution.jobId .requested .running
    rfl none none eventId now
  rcases transition_step inv.jobs execution.jobId .requested .running rfl none none eventId now with
    ⟨store', moved', -, requested, statuses⟩ | ⟨lost, -⟩
  swap
  · rw [moved] at lost
    cases lost
  rw [moved] at moved' stepped absent
  obtain rfl : automation = store' := congrArg Prod.snd moved'
  have claims : ClaimsFrom s ((s.withAutomation automation).enter handling (.claimed execution)) := by
    intro other e claimed
    rw [enter_handlings] at claimed
    split at claimed
    · cases claimed
      exact .inr requested
    · exact .inl claimed
  have nobody : ∀ other e, s.handlings other = .claimed e → e.jobId ≠ execution.jobId := by
    intro other e claimed same
    obtain ⟨job, found, -, begun⟩ := inv.claimed other e claimed
    rw [← same, statusOf, found] at requested
    exact begun (Option.some.inj requested)
  refine inv.next stepped (fun _ member => member) claims ?_ ?_ (no_new absent)
  · intro other e claimed
    rw [enter_handlings] at claimed
    split at claimed
    · cases claimed
      obtain ⟨job, found, same⟩ := inv.job_of_message member read
      obtain ⟨job', found', status⟩ : ∃ job', automation.durableJobs.find execution.jobId =
          some job' ∧ job'.status = .running := by
        have running := statuses execution.jobId
        rw [if_pos rfl] at running
        exact Option.map_eq_some_iff.mp running
      refine ⟨job', found', (executionOf_step stepped found found').trans same, ?_⟩
      rw [status]
      decide
    · obtain ⟨job, found, same, begun⟩ := inv.claimed other e claimed
      obtain ⟨job', found', -, -, -, -, moves⟩ := stepped.status found
      exact ⟨job', found', (executionOf_step stepped found found').trans same,
        begun_stays begun moves⟩
  · intro h e h' e' first second same
    rw [enter_handlings] at first second
    split at first
    · rename_i here
      cases first
      split at second
      · rename_i here'
        exact here.trans here'.symm
      · exact absurd same.symm (nobody h' e' second)
    · split at second
      · cases second
        exact absurd same (nobody h e first)
      · exact inv.exclusive h e h' e' first second same

/-- After its handling a job is in no handler's hands. -/
theorem Inv.handled (inv : Inv Allowed s) {handling : Nat} {execution : DurableJobExecution}
    (outcome : Except Failure Dict) {after : NewsStore}
    (claimed : s.handlings handling = .claimed execution)
    (stepped : StoreStep s.store.automation after.automation) :
    ∃ job, after.automation.durableJobs.find job.jobId = some job ∧ executionOf job = execution ∧
      Handled ({ s with store := after }.enter handling (.handled execution outcome)) job := by
  obtain ⟨job, found, read, begun⟩ := inv.claimed handling execution claimed
  obtain ⟨job', found', -, -, -, -, moves⟩ := stepped.status found
  have same : executionOf job' = execution := (executionOf_step stepped found found').trans read
  have key : job'.jobId = execution.jobId := congrArg (·.jobId) same
  refine ⟨job', by rw [key]; exact found', same, begun_stays begun moves, ?_⟩
  intro other e stillClaimed sameId
  have old : s.handlings other = .claimed e :=
    fewer_enter (s := { s with store := after }) handling (fun _ => Handling.noConfusion)
      other e stillClaimed
  have here : other = handling := inv.exclusive other e handling execution old claimed
    (sameId.trans key)
  rw [here, enter_handlings, if_pos rfl] at stillClaimed
  cases stillClaimed

/-- The handling of a claimed job: what it stores comes from that job. -/
theorem Inv.handle (inv : Inv Allowed s) {handling : Nat} {S : NewsServices}
    {execution : DurableJobExecution} {outcome : Except Failure Dict} {after : NewsStore}
    (drawn : ∃ jobId : Uuid, S.jobId = jobId.str)
    (claimed : s.handlings handling = .claimed execution)
    (handled : handleNews U S execution s.store = some (outcome, after)) :
    Advance Allowed s ({ s with store := after }.enter handling (.handled execution outcome)) := by
  have named : execution.runKey ≠ "" := by
    obtain ⟨job, found, read, -⟩ := inv.claimed handling execution claimed
    rw [← read]
    exact inv.named _ job found
  obtain ⟨stepped, new⟩ := handleNews_stores named handled
  obtain ⟨parent, found, read, settled⟩ := inv.handled outcome claimed stepped
  refine inv.next_of_fewer stepped (fun _ member => member)
    (fewer_enter (s := { s with store := after }) handling (fun _ => Handling.noConfusion)) ?_
  intro id job stored absent
  obtain ⟨rfl, child⟩ := new id job stored absent
  exact ⟨drawn, child.named, .inr ⟨parent, found, settled, read ▸ child⟩⟩

/-- A trigger that was answered 202: the job that is new is the one it asked for. -/
theorem Inv.trigger (inv : Inv Allowed s) {jobType eventId : String}
    {request : DurableJobTriggerRequest} {jobId : Uuid} {now : Instant}
    {answer : DurableJobRequestResult} {automation : AutomationStore}
    (allowed : Allowed (.trigger jobType request jobId eventId now))
    (answered : triggerDurableJob jobType request jobId.str eventId now s.store.automation =
      .ok (answer, automation)) :
    Advance Allowed s { s.withAutomation automation with
      accepted := s.accepted ++ [(jobType, request.runKey)] } := by
  obtain ⟨named, requested⟩ := trigger_ok answered
  obtain ⟨stepped, new⟩ := request_ok requested
  refine inv.next_of_fewer stepped (fun _ member => List.mem_append_left _ member)
    (fun _ _ claimed => claimed) ?_
  intro id job found absent
  obtain ⟨rfl, read⟩ := new id job found absent
  obtain ⟨-, type, runKey, payload⟩ := (DurableJobExecution.mk.injEq ..).mp read
  refine ⟨⟨jobId, rfl⟩, by rw [runKey]; exact named, .inl ⟨?_, ?_⟩⟩
  · rw [type, runKey]
    exact List.mem_append_right _ (List.mem_singleton.mpr rfl)
  · rw [type, runKey, payload]
    exact ⟨jobId, eventId, now, allowed⟩

theorem step_advance (inv : Inv Allowed s) (a : Action) (allowed : ok Allowed s a) :
    Advance Allowed s (step P U s a) := by
  cases a with
  | trigger jobType request jobId eventId now =>
      simp only [step]
      split
      · rename_i answer automation answered
        exact inv.trigger allowed.1 answered
      · exact inv.stay
  | cancel jobId eventId now =>
      simp only [step, cancelUpdate_store]
      exact inv.transition jobId .requested .cancelled rfl none none eventId now
  | deliver handling message eventId now =>
      simp only [step]
      split
      · split
        · exact inv.enter handling (fun _ => Handling.noConfusion)
        · rename_i execution read
          split
          · rename_i automation moved
            exact inv.claim handling allowed.2 read moved
          · exact inv.enter handling (fun _ => Handling.noConfusion)
      · exact inv.stay
  | handle handling services =>
      simp only [step]
      split
      · rename_i execution claimed
        split
        · rename_i outcome after handled
          exact inv.handle allowed.2 claimed handled
        · exact inv.stay
      · exact inv.stay
  | endOtherwise handling outcome =>
      simp only [step]
      split
      · exact inv.enter handling (fun _ => Handling.noConfusion)
      · exact inv.stay
  | settle handling error eventId now =>
      simp only [step]
      split
      · exact (inv.transition _ .running .succeeded rfl _ none eventId now).enter handling
          (fun _ => Handling.noConfusion)
      · exact (inv.transition _ .running .failed rfl none _ eventId now).enter handling
          (fun _ => Handling.noConfusion)
      · exact inv.stay
  | stop handling => exact inv.enter handling (fun _ => Handling.noConfusion)
  | published index now =>
      exact inv.next_of_fewer (.quiet rfl (AutomationStore.events_markPublished _ _ _))
        (fun _ member => member) (fun _ _ claimed => claimed) (no_new fun _ absent => absent)

/-- The handling of a claimed news job, as a step. -/
theorem step_handle {handling : Nat} {S : NewsServices} {execution : DurableJobExecution}
    (claimed : s.handlings handling = .claimed execution)
    (news : execution.jobType = "news_collection" ∨ execution.jobType = "news_index") :
    ∃ outcome after, handleNews U S execution s.store = some (outcome, after) ∧
      step P U s (.handle handling S) =
        { s with store := after }.enter handling (.handled execution outcome) := by
  obtain ⟨result, handled⟩ : ∃ result, handleNews U S execution s.store = some result := by
    unfold handleNews
    rcases news with collection | index
    · exact ⟨_, if_pos collection⟩
    · rw [index]
      exact ⟨_, rfl⟩
  exact ⟨result.1, result.2, handled, by simp only [step, claimed, handled]⟩

theorem inv_empty : Inv Allowed .empty := by
  refine ⟨jobInv_empty, ?_, ?_, ?_, ?_, ?_⟩
  · rintro id job ⟨⟩
  · rintro id job ⟨⟩
  · rintro handling execution ⟨⟩
  · rintro handling execution handling' execution' ⟨⟩
  · rintro id job ⟨⟩

theorem run_inv {trace : List Action} (admissible : Admissible (step P U) (ok Allowed) .empty trace) :
    Inv Allowed (exec (step P U) .empty trace) := by
  have keep : ∀ s a, Inv Allowed s → ok Allowed s a → Inv Allowed (step P U s a) :=
    fun _ a inv allowed => (step_advance inv a allowed).inv
  exact exec_invariant keep inv_empty admissible

/-- What holds of a stored job along a run: its execution, and that it was handled. -/
theorem run_forward {trace : List Action}
    (inv : Inv Allowed s) (admissible : Admissible (step P U) (ok Allowed) s trace) :
    (∀ id job, s.store.automation.durableJobs.find id = some job →
      ∃ job', (exec (step P U) s trace).store.automation.durableJobs.find id = some job' ∧
        executionOf job' = executionOf job) ∧
    ∀ job, s.store.automation.durableJobs.find job.jobId = some job → Handled s job →
      ∃ job', (exec (step P U) s trace).store.automation.durableJobs.find job'.jobId = some job' ∧
        executionOf job' = executionOf job ∧ Handled (exec (step P U) s trace) job' := by
  induction trace generalizing s with
  | nil => exact ⟨fun _ job found => ⟨job, found, rfl⟩, fun job found done => ⟨job, found, rfl, done⟩⟩
  | cons a rest ih =>
      obtain ⟨stepped, claims, inv'⟩ := step_advance (P := P) (U := U) inv a admissible.1
      obtain ⟨jobs, settled⟩ := ih inv' admissible.2
      constructor
      · intro id job found
        obtain ⟨job', found', -⟩ := stepped.status found
        obtain ⟨job'', found'', same⟩ := jobs id job' found'
        exact ⟨job'', found'', same.trans (executionOf_step stepped found found')⟩
      · intro job found done
        obtain ⟨job', found', same, done'⟩ := done.step stepped claims found
        obtain ⟨job'', found'', same', done''⟩ := settled job' found' done'
        exact ⟨job'', found'', same'.trans same, done''⟩

end Steps

end KisAutoTrading.Jobs.NewsSystem
