/-
# Jobs.NewsCoverage — every stored article is handed to an index job

The news system with indexing enabled, where no trigger uses the run keys of the index
jobs. A collection inserts its articles and requests one job for the keys that were new,
in one transaction. That request creates a job (`no_index_job`): the key of an index job
names the collecting job, which is handled at most once, and the key of a retry is of
another form (`retry_ne_index`). So what a collection stores is covered as soon as it is
stored, and since jobs keep their payloads and articles are never written again, it stays
so (`news_coverage`).
-/
import KisAutoTrading.Jobs.NewsSystem

namespace KisAutoTrading.Jobs.NewsCoverage

open Theory Theory.Runs NewsSystem

set_option autoImplicit false

/-- Indexing is enabled throughout, and the run keys of index jobs are left to the handler. -/
def Undisturbed : Action → Prop
  | .trigger jobType request _ _ _ =>
      jobType = "news_index" → ¬ "news-index:".toList <+: request.runKey.toList
  | .handle _ services => services.indexingEnabled = true
  | _ => True

/-- The source key is in the payload of a news_index job. -/
def Indexed (automation : AutomationStore) (key : String) : Prop :=
  ∃ id job sourceKeys, automation.durableJobs.find id = some job ∧ job.jobType = "news_index" ∧
    job.payload.get "source_keys" = some (textItems sourceKeys) ∧ key ∈ sourceKeys

/-- What a collection that succeeds leaves: the new articles, and the index job it created
for exactly their keys. -/
structure Collected (execution : DurableJobExecution) (store after : NewsStore)
    (indexJobId : String) (sourceKeys : List String) : Prop where
  distinct : sourceKeys.Nodup
  inserted : ∀ key, key ∈ sourceKeys ↔ store.newsArticles.find key = none ∧
    ∃ row, after.newsArticles.find key = some row
  created : store.automation.durableJobs.find indexJobId = none
  job : ∃ job, after.automation.durableJobs.find indexJobId = some job ∧
    executionOf job = ⟨indexJobId, "news_index", "news-index:" ++ execution.jobId,
      [("source_keys", textItems sourceKeys)]⟩

section Handling

variable {P : Platform} {U : Upper} {S : NewsServices} {s : State} {execution : DurableJobExecution}
  {store after : NewsStore} {handling : Nat} {result : Dict}

/-- A job that is being handled has no index job yet. -/
theorem no_index_job (inv : Inv Undisturbed s)
    (claimed : s.handlings handling = .claimed execution) :
    s.store.automation.jobFor "news_index" ("news-index:" ++ execution.jobId) = none := by
  obtain ⟨collecting, stored, -, -⟩ := inv.claimed handling execution claimed
  obtain ⟨u, key⟩ := inv.ids _ collecting stored
  cases existing : s.store.automation.jobFor "news_index" ("news-index:" ++ execution.jobId) with
  | none => rfl
  | some job =>
      exfalso
      obtain ⟨type, runKey, id, found⟩ := AutomationStore.jobFor_eq_some existing
      rcases inv.origins id job found with ⟨-, jobId, eventId, now, allowed⟩ |
        ⟨parent, -, settled, child⟩
      · refine allowed type ?_
        simp [runKey]
      · cases child with
        | index _ _ named _ _ =>
            have same : "news-index:" ++ execution.jobId = "news-index:" ++ parent.jobId :=
              runKey.symm.trans named
            refine settled.released handling execution claimed (String.toList_inj.mp ?_)
            simpa using congrArg String.toList same
        | retry _ _ _ _ named =>
            rw [key] at runKey
            exact retry_ne_index _ _ u (named.symm.trans runKey)

/-! ## One collection -/

theorem collected_of_ok (enabled : S.indexingEnabled = true)
    (unused : store.automation.jobFor "news_index" ("news-index:" ++ execution.jobId) = none)
    (collected : collectNews U S execution store = (.ok result, after)) :
    ∃ sourceKeys, Collected execution store after S.jobId sourceKeys := by
  obtain ⟨symbols, batches, -, -, articles, ⟨-, answer, requested⟩ | ⟨disabled, -⟩⟩ :=
    collectNews_ok collected
  swap
  · rw [enabled] at disabled
    cases disabled
  have inserted : ∀ key, key ∈ (store.newsArticles.insertManyReturningKeys batches.flatten S.now).1 ↔
      store.newsArticles.find key = none ∧ ∃ row, after.newsArticles.find key = some row := by
    intro key
    rw [articles, NewsArticles.insertManyReturningKeys_stored]
    constructor
    · intro member
      exact ⟨(NewsArticles.mem_insertManyReturningKeys.mp member).2, .inr member⟩
    · rintro ⟨absent, ⟨row, stored⟩ | member⟩
      · rw [absent] at stored
        cases stored
      · exact member
  rcases request_cases "news_index" ("news-index:" ++ execution.jobId) _ none S.jobId S.eventId
    S.now store.automation with
    ⟨failure, raised⟩ | ⟨existing, here, -⟩ | ⟨definition, -, -, fresh, created⟩
  · rw [raised] at requested
    cases requested
  · rw [unused] at here
    cases here
  · rw [created] at requested
    obtain ⟨-, same⟩ := Prod.mk.inj (Except.ok.inj requested)
    refine ⟨_, NewsArticles.insertManyReturningKeys_nodup _ _, inserted, fresh, ?_⟩
    rw [← same]
    refine ⟨_, (AutomationStore.find_insertJob _ _ _ _).trans (if_pos rfl), rfl⟩

/-- A handling stores nothing among the articles, or it is a collection that succeeds. -/
theorem articles_of_handleNews {outcome : Except Failure Dict}
    (handled : handleNews U S execution store = some (outcome, after)) :
    after.newsArticles = store.newsArticles ∨
      execution.jobType = "news_collection" ∧ ∃ result, outcome = .ok result ∧
        collectNews U S execution store = (.ok result, after) := by
  cases outcome with
  | error failure => exact .inl (NewsRetry.articles_of_error handled)
  | ok result =>
      unfold handleNews at handled
      split at handled
      · rename_i collection
        exact .inr ⟨collection, result, rfl, Option.some.inj handled⟩
      · split at handled
        · exact .inl (congrArg (·.newsArticles) (indexNews_ok (Option.some.inj handled)))
        · cases handled

end Handling

/-! ## Every run -/

/-- The articles of a committed state: rows under their own keys, each with an index job. -/
structure ArticlesInv (s : State) : Prop where
  keyed : Table.Keyed (·.sourceKey) s.store.newsArticles
  indexed : ∀ key row, s.store.newsArticles.find key = some row → Indexed s.store.automation key

section Runs

variable {P : Platform} {U : Upper} {s : State}

/-- Jobs keep their payloads, so a key stays indexed. -/
theorem Indexed.step {automation automation' : AutomationStore}
    (stepped : StoreStep automation automation') {key : String} (indexed : Indexed automation key) :
    Indexed automation' key := by
  obtain ⟨id, job, sourceKeys, found, type, payload, member⟩ := indexed
  obtain ⟨job', found', -, type', -, payload', -⟩ := stepped.status found
  exact ⟨id, job', sourceKeys, found', type'.trans type, payload' ▸ payload, member⟩

/-- What a step does to the articles. -/
inductive ArticleStep (s s' : State) : Prop where
  | same (articles : s'.store.newsArticles = s.store.newsArticles)
  | collected (execution : DurableJobExecution) (indexJobId : String) (sourceKeys : List String)
      (kept : ∀ key row, s.store.newsArticles.find key = some row →
        s'.store.newsArticles.find key = some row)
      (keyed : Table.Keyed (·.sourceKey) s.store.newsArticles →
        Table.Keyed (·.sourceKey) s'.store.newsArticles)
      (collected : Collected execution s.store s'.store indexJobId sourceKeys)

theorem articles_step (inv : Inv Undisturbed s) (a : Action) (allowed : ok Undisturbed s a) :
    ArticleStep s (step P U s a) := by
  cases a with
  | trigger jobType request jobId eventId now =>
      simp only [step]
      split <;> exact .same rfl
  | cancel jobId eventId now => exact .same rfl
  | deliver handling message eventId now =>
      simp only [step]
      split
      · split
        · exact .same rfl
        · split <;> exact .same rfl
      · exact .same rfl
  | handle handling services =>
      simp only [step]
      split
      · rename_i execution claimed
        split
        · rename_i outcome after handled
          rcases articles_of_handleNews handled with same | ⟨-, result, -, collected⟩
          · exact .same same
          · obtain ⟨sourceKeys, spec⟩ :=
              collected_of_ok allowed.1 (no_index_job inv claimed) collected
            obtain ⟨_, batches, -, -, articles, -⟩ := collectNews_ok collected
            refine .collected execution services.jobId sourceKeys ?_ ?_ spec
            · intro key row stored
              show after.newsArticles.find key = some row
              rw [articles]
              exact NewsArticles.insertManyReturningKeys_kept stored
            · intro keyed
              show Table.Keyed (·.sourceKey) after.newsArticles
              rw [articles]
              exact NewsArticles.insertManyReturningKeys_keyed keyed _
        · exact .same rfl
      · exact .same rfl
  | endOtherwise handling outcome =>
      simp only [step]
      split <;> exact .same rfl
  | settle handling error eventId now =>
      simp only [step]
      split <;> exact .same rfl
  | stop handling => exact .same rfl
  | published index now => exact .same rfl

theorem ArticleStep.kept {s' : State} (stepped : ArticleStep s s') {key : String}
    {row : NewsArticleRecord} (stored : s.store.newsArticles.find key = some row) :
    s'.store.newsArticles.find key = some row := by
  cases stepped with
  | same articles => rw [articles, stored]
  | collected _ _ _ kept _ _ => exact kept key row stored

/-- A step covers what it stores. -/
theorem ArticlesInv.step {s' : State} (inv : ArticlesInv s) (articles : ArticleStep s s')
    (stepped : StoreStep s.store.automation s'.store.automation) : ArticlesInv s' := by
  cases articles with
  | same articles =>
      refine ⟨by rw [articles]; exact inv.keyed, ?_⟩
      intro key row stored
      rw [articles] at stored
      exact (inv.indexed key row stored).step stepped
  | collected execution indexJobId sourceKeys _ keyed collected =>
      refine ⟨keyed inv.keyed, ?_⟩
      intro key row stored
      cases before : s.store.newsArticles.find key with
      | some old => exact (inv.indexed key old before).step stepped
      | none =>
          obtain ⟨job, found, read⟩ := collected.job
          obtain ⟨-, type, -, payload⟩ := (DurableJobExecution.mk.injEq ..).mp read
          refine ⟨indexJobId, job, sourceKeys, found, type, ?_, ?_⟩
          · rw [payload]
            simp [Dict.get]
          · exact (collected.inserted key).mpr ⟨before, row, stored⟩

/-- **News coverage.** What holds of every run with indexing enabled and index keys left to
the handler. -/
structure Covered (P : Platform) (U : Upper) (trace : List Action) : Prop where
  /-- Every stored article has its key in the payload of a news_index job. -/
  indexed : ∀ row ∈ (exec (step P U) .empty trace).store.newsArticles.rows,
    Indexed (exec (step P U) .empty trace).store.automation row.sourceKey
  unique : ((exec (step P U) .empty trace).store.newsArticles.rows.map (·.sourceKey)).Nodup
  /-- A row once stored is never modified. -/
  unmodified : ∀ front, front <+: trace →
    ∀ row ∈ (exec (step P U) .empty front).store.newsArticles.rows,
      row ∈ (exec (step P U) .empty trace).store.newsArticles.rows
  /-- A collection stores nothing, or it hands exactly the keys it inserted to its index job,
  which keeps them. -/
  handed : ∀ front handling S execution, front ++ [.handle handling S] <+: trace →
    (exec (step P U) .empty front).handlings handling = .claimed execution →
    execution.jobType = "news_collection" →
      (∃ failure, (exec (step P U) .empty (front ++ [.handle handling S])).handlings handling =
          .handled execution (.error failure)) ∧
        (exec (step P U) .empty (front ++ [.handle handling S])).store.newsArticles =
          (exec (step P U) .empty front).store.newsArticles ∨
      ∃ sourceKeys, Collected execution (exec (step P U) .empty front).store
          (exec (step P U) .empty (front ++ [.handle handling S])).store S.jobId sourceKeys ∧
        ∃ job, (exec (step P U) .empty trace).store.automation.durableJobs.find S.jobId = some job ∧
          executionOf job = ⟨S.jobId, "news_index", "news-index:" ++ execution.jobId,
            [("source_keys", textItems sourceKeys)]⟩
  /-- No job is handled again, whatever is delivered. -/
  once : ∀ front handling S execution back handling' execution',
    front ++ .handle handling S :: back <+: trace →
    (exec (step P U) .empty front).handlings handling = .claimed execution →
    (execution.jobType = "news_collection" ∨ execution.jobType = "news_index") →
    (exec (step P U) .empty (front ++ .handle handling S :: back)).handlings handling' =
      .claimed execution' → execution'.jobId ≠ execution.jobId

theorem run_articles {trace : List Action}
    (admissible : Admissible (step P U) (ok Undisturbed) .empty trace) :
    Inv Undisturbed (exec (step P U) .empty trace) ∧
      ArticlesInv (exec (step P U) .empty trace) := by
  have keep : ∀ s a, (Inv Undisturbed s ∧ ArticlesInv s) → ok Undisturbed s a →
      Inv Undisturbed (step P U s a) ∧ ArticlesInv (step P U s a) := by
    rintro s a ⟨inv, articles⟩ allowed
    have advance := step_advance (P := P) (U := U) inv a allowed
    exact ⟨advance.inv, articles.step (articles_step inv a allowed) advance.stepped⟩
  have start : Inv Undisturbed .empty ∧ ArticlesInv .empty := by
    refine ⟨inv_empty, Table.keyed_empty _, ?_⟩
    rintro key row ⟨⟩
  exact exec_invariant keep start admissible

/-- A row once stored stays as it is. -/
theorem run_unmodified {front back : List Action}
    (admissible : Admissible (step P U) (ok Undisturbed) .empty (front ++ back)) {key : String}
    {row : NewsArticleRecord}
    (stored : (exec (step P U) .empty front).store.newsArticles.find key = some row) :
    (exec (step P U) .empty (front ++ back)).store.newsArticles.find key = some row := by
  obtain ⟨frontOk, backOk⟩ := (admissible_append _ _ _ front back).mp admissible
  rw [exec_append]
  have keep : ∀ s a, Inv Undisturbed s → ok Undisturbed s a → Inv Undisturbed (step P U s a) :=
    fun _ a inv allowed => (step_advance inv a allowed).inv
  refine exec_monotone (R := fun s t : State =>
      s.store.newsArticles.find key = some row → t.store.newsArticles.find key = some row)
    (fun _ same => same) (fun _ _ _ first second same => second (first same)) keep ?_
    (run_inv frontOk) backOk stored
  intro s a inv allowed here
  exact (articles_step inv a allowed).kept here

/-- A collection that fails stores nothing; one that does not leaves its keys to an index job,
which keeps them. -/
theorem run_handed {front back : List Action} {handling : Nat} {S : NewsServices}
    {execution : DurableJobExecution}
    (admissible : Admissible (step P U) (ok Undisturbed) .empty
      (front ++ [.handle handling S] ++ back))
    (claimed : (exec (step P U) .empty front).handlings handling = .claimed execution)
    (collection : execution.jobType = "news_collection") :
    (∃ failure, (exec (step P U) .empty (front ++ [.handle handling S])).handlings handling =
        .handled execution (.error failure)) ∧
      (exec (step P U) .empty (front ++ [.handle handling S])).store.newsArticles =
        (exec (step P U) .empty front).store.newsArticles ∨
    ∃ sourceKeys, Collected execution (exec (step P U) .empty front).store
        (exec (step P U) .empty (front ++ [.handle handling S])).store S.jobId sourceKeys ∧
      ∃ job, (exec (step P U) .empty
          (front ++ [.handle handling S] ++ back)).store.automation.durableJobs.find S.jobId =
            some job ∧
        executionOf job = ⟨S.jobId, "news_index", "news-index:" ++ execution.jobId,
          [("source_keys", textItems sourceKeys)]⟩ := by
  obtain ⟨frontOk, backOk⟩ := (admissible_append _ _ _ _ back).mp admissible
  obtain ⟨earlier, enabled, -⟩ := (admissible_snoc _ _ _ front _).mp frontOk
  obtain ⟨outcome, after, handled, stepped⟩ :=
    step_handle (P := P) (U := U) (S := S) claimed (.inl collection)
  have later : exec (step P U) .empty (front ++ [.handle handling S]) =
      { exec (step P U) .empty front with store := after }.enter handling
        (.handled execution outcome) := by
    rw [exec_snoc, stepped]
  cases outcome with
  | error failure =>
      refine .inl ⟨⟨failure, ?_⟩, ?_⟩
      · rw [later, enter_handlings, if_pos rfl]
      · rw [later]
        exact NewsRetry.articles_of_error handled
  | ok result =>
      rw [handleNews, if_pos collection] at handled
      obtain ⟨sourceKeys, spec⟩ := collected_of_ok enabled
        (no_index_job (run_inv earlier) claimed) (Option.some.inj handled)
      refine .inr ⟨sourceKeys, ?_, ?_⟩
      · rw [later]
        exact spec
      · obtain ⟨job, found, read⟩ := spec.job
        have stored : (exec (step P U) .empty
            (front ++ [.handle handling S])).store.automation.durableJobs.find S.jobId = some job := by
          rw [later]
          exact found
        obtain ⟨job', found', same⟩ := (run_forward (run_inv frontOk) backOk).1 _ job stored
        rw [exec_append]
        exact ⟨job', found', same.trans read⟩

/-- A job that was handled is in nobody's hands later. -/
theorem run_once {front back : List Action} {handling handling' : Nat} {S : NewsServices}
    {execution execution' : DurableJobExecution}
    (admissible : Admissible (step P U) (ok Undisturbed) .empty (front ++ .handle handling S :: back))
    (claimed : (exec (step P U) .empty front).handlings handling = .claimed execution)
    (news : execution.jobType = "news_collection" ∨ execution.jobType = "news_index")
    (again : (exec (step P U) .empty (front ++ .handle handling S :: back)).handlings handling' =
      .claimed execution') : execution'.jobId ≠ execution.jobId := by
  obtain ⟨frontOk, handleOk, backOk⟩ := (admissible_append _ _ _ front _).mp admissible
  obtain ⟨outcome, after, handled, stepped⟩ := step_handle (P := P) (U := U) (S := S) claimed news
  have advance := step_advance (P := P) (U := U) (run_inv frontOk) _ handleOk
  have stores : StoreStep (exec (step P U) .empty front).store.automation after.automation := by
    rw [stepped] at advance
    exact advance.stepped
  obtain ⟨job, found, read, settled⟩ := (run_inv frontOk).handled outcome claimed stores
  rw [← stepped] at settled
  obtain ⟨job', -, same, settled'⟩ := (run_forward advance.inv backOk).2 job
    (by rw [stepped]; exact found) settled
  rw [exec_append, exec_cons] at again
  have released := settled'.released handling' execution' again
  rwa [show job'.jobId = execution.jobId from congrArg (·.jobId) (same.trans read)] at released

theorem news_coverage {trace : List Action}
    (admissible : Admissible (step P U) (ok Undisturbed) .empty trace) : Covered P U trace := by
  obtain ⟨inv, articles⟩ := run_articles admissible
  refine ⟨?_, articles.keyed.rows_nodup, ?_, ?_, ?_⟩
  · intro row member
    exact articles.indexed _ row (articles.keyed.mem_rows_iff.mp member)
  · rintro front ⟨back, rfl⟩ row member
    obtain ⟨key, stored⟩ := Table.mem_rows.mp member
    exact Table.mem_rows.mpr ⟨key, run_unmodified admissible stored⟩
  · rintro front handling S execution ⟨back, rfl⟩ claimed collection
    exact run_handed admissible claimed collection
  · rintro front handling S execution back handling' execution' ⟨tail, rfl⟩ claimed news again
    obtain ⟨handledOk, -⟩ := (admissible_append _ _ _ _ tail).mp admissible
    exact run_once handledOk claimed news again

end Runs

/-! ## A collection whose message is delivered twice -/

namespace Daily

open NewsRetry.Timeouts (platform upper)

def articles : List NewsArticle :=
  ["b7e2", "c4d1", "b7e2"].map fun sourceKey => {
    sourceKey, sourceUrl := "https://finance.example/a", provider := "yahoo_finance"
    title := "AAPL rises", symbol := "AAPL", publishedAt := none, publisher := none }

def services : NewsServices where
  collect _ := .ok articles
  indexingEnabled := true
  index articles := .ok articles.length
  jobId := (2 : Uuid).str
  eventId := "3d1f5a0e-52fb-4a53-8b1c-5b9a41f7e002"
  now := 3

def request : DurableJobTriggerRequest := ⟨"daily", [("symbols", .arr [.str "AAPL"])]⟩

def eventId : String := "3d1f5a0e-52fb-4a53-8b1c-5b9a41f7e001"

def message : EventMessage :=
  jobRequestMessage ⟨"news_collection", "automation", "news.collection.requested",
    "news.collection.requested"⟩ (1 : Uuid).str "daily" request.payload eventId 1

def trace : List Action := [
  .trigger "news_collection" request 1 eventId 1,
  .deliver 0 message eventId 2,
  .handle 0 services,
  .deliver 1 message eventId 4]

theorem covered : Covered platform upper trace := by
  refine news_coverage ⟨⟨fun index => ?_, trivial⟩, ⟨trivial, .head _⟩, ⟨rfl, 2, rfl⟩,
    ⟨trivial, .head _⟩, trivial⟩
  simp at index

end Daily

end KisAutoTrading.Jobs.NewsCoverage
