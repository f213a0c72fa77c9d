/-
# Jobs.IndexRequest — the index job a collection requests

The payload of an index job is written by one execution and read by another.
`sourceKeys_accepted_iff` says which key lists the reader accepts, and
`index_request_iff` when a collection writes such a list: the keys are those its insert
returned, so it takes an article that was not stored yet. A collection that brings
nothing new requests its index job all the same, and that job fails
(`nothing_new_is_doomed`).
-/
import KisAutoTrading.Jobs.NewsRetry

namespace KisAutoTrading.Jobs.IndexRequest

open Theory

set_option autoImplicit false

/-- The payload of the index job for these articles. -/
def indexPayload (S : NewsServices) (store : NewsStore) (articles : List NewsArticle) : Dict :=
  [("source_keys", textItems (store.newsArticles.insertManyReturningKeys articles S.now).1)]

/-- An index that works. -/
def IndexWorks (S : NewsServices) : Prop :=
  ∀ articles, ∃ indexed, S.index articles = .ok indexed

/-- The payload is accepted, and an index job with it succeeds, whenever it runs. -/
structure NotDoomed (U : Upper) (payload : Dict) : Prop where
  accepted : ∃ sourceKeys, sourceKeysFromPayload payload = .ok sourceKeys
  succeeds : ∀ (S : NewsServices) (jobId runKey : String) (store : NewsStore),
    IndexWorks S → ∃ result after,
      handleNews U S ⟨jobId, "news_index", runKey, payload⟩ store = some (.ok result, after)

section Request

variable {U : Upper} {S : NewsServices} {execution : DurableJobExecution} {store after : NewsStore}
  {result : Dict}

/-- A list of texts is accepted when one of them is not blank. -/
theorem sourceKeys_accepted_iff (keys : List String) :
    (∃ sourceKeys, sourceKeysFromPayload [("source_keys", textItems keys)] = .ok sourceKeys) ↔
      ∃ key ∈ keys, pyStrip key ≠ "" := by
  have read : sourceKeysFromPayload [("source_keys", textItems keys)] =
      if fromKeys ((keys.map Json.str).filterMap (normalizedText pyStrip)) = [] then
        .error (.raised .valueError "news_index payload requires at least one source key")
      else .ok (fromKeys ((keys.map Json.str).filterMap (normalizedText pyStrip))) := by
    simp only [sourceKeysFromPayload, normalizedTexts, Dict.get, List.lookup_cons, textItems,
      beq_self_eq_true]
  have normalized : fromKeys ((keys.map Json.str).filterMap (normalizedText pyStrip)) = [] ↔
      ∀ key ∈ keys, pyStrip key = "" := by
    simp only [List.eq_nil_iff_forall_not_mem, mem_fromKeys, List.filterMap_map, List.mem_filterMap,
      Function.comp_apply, normalizedText]
    constructor
    · intro none key member
      by_contra some
      exact none (pyStrip key) ⟨key, member, by rw [if_neg some]⟩
    · rintro blank text ⟨key, member, kept⟩
      rw [if_pos (blank key member)] at kept
      cases kept
  rw [read]
  split
  · rename_i none
    refine iff_of_false (by rintro ⟨_, ⟨⟩⟩) ?_
    rintro ⟨key, member, some⟩
    exact some (normalized.mp none key member)
  · rename_i some
    refine iff_of_true ⟨_, rfl⟩ ?_
    by_contra none
    refine some (normalized.mpr fun key member => ?_)
    by_contra notBlank
    exact none ⟨key, member, notBlank⟩

/-- An accepted payload is all an index job needs besides its index. -/
theorem notDoomed_iff (payload : Dict) :
    NotDoomed U payload ↔ ∃ sourceKeys, sourceKeysFromPayload payload = .ok sourceKeys := by
  refine ⟨fun sound => sound.accepted, fun ⟨sourceKeys, accepted⟩ => ⟨⟨_, accepted⟩, ?_⟩⟩
  intro S jobId runKey store works
  simp only [handleNews, String.reduceEq, if_false, if_true, indexNews, accepted]
  split
  · cases store.newsArticles.findBySourceKeys sourceKeys with
    | nil => exact ⟨_, _, rfl⟩
    | cons article rest =>
        obtain ⟨indexed, answer⟩ := works (article :: rest)
        simp only [answer]
        exact ⟨_, _, rfl⟩
  · exact ⟨_, _, rfl⟩

/-- **When the index job of a collection is not doomed.** A collection that succeeds requests
an index job for the keys its insert returned. That job succeeds exactly if the provider
returned an article that was not stored yet, under a key that is not blank. -/
theorem index_request_iff (enabled : S.indexingEnabled = true)
    (collected : collectNews U S execution store = (.ok result, after)) :
    ∃ symbols batches job, U.symbolsFromPayload execution.payload = .ok symbols ∧
      symbols.mapM S.collect = .ok batches ∧
      requestJob "news_index" ("news-index:" ++ execution.jobId)
        (indexPayload S store batches.flatten) none S.jobId S.eventId S.now store.automation =
          .ok (job, after.automation) ∧
      (NotDoomed U (indexPayload S store batches.flatten) ↔
        ∃ article ∈ batches.flatten, store.newsArticles.find article.sourceKey = none ∧
          pyStrip article.sourceKey ≠ "") := by
  obtain ⟨symbols, batches, read, provided, -, ⟨-, job, requested⟩ | ⟨disabled, -⟩⟩ :=
    collectNews_ok collected
  rotate_left
  · rw [enabled] at disabled
    cases disabled
  refine ⟨symbols, batches, job, read, provided, requested, ?_⟩
  rw [notDoomed_iff, indexPayload, sourceKeys_accepted_iff]
  constructor
  · rintro ⟨key, member, some⟩
    obtain ⟨⟨article, here, rfl⟩, new⟩ := NewsArticles.mem_insertManyReturningKeys.mp member
    exact ⟨article, here, new, some⟩
  · rintro ⟨article, here, new, some⟩
    exact ⟨article.sourceKey,
      NewsArticles.mem_insertManyReturningKeys.mpr ⟨⟨article, here, rfl⟩, new⟩, some⟩

end Request

/-! ## A collection of nothing, and one of something -/

namespace Daily

open NewsRetry.Timeouts (upper)

def article : NewsArticle where
  sourceKey := "b7e2"
  sourceUrl := "https://finance.example/a"
  provider := "yahoo_finance"
  title := "AAPL rises"
  symbol := "AAPL"
  publishedAt := none
  publisher := none

def services (articles : List NewsArticle) : NewsServices where
  collect _ := .ok articles
  indexingEnabled := true
  index articles := .ok articles.length
  jobId := "job-1"
  eventId := "3d1f5a0e-52fb-4a53-8b1c-5b9a41f7e001"
  now := 0

def execution : DurableJobExecution where
  jobId := "job-0"
  jobType := "news_collection"
  runKey := "daily"
  payload := [("symbols", .arr [.str "AAPL"])]

def store : NewsStore := ⟨.empty, ∅⟩

/-- Where the provider has nothing, the collection succeeds and the job it requests fails. -/
theorem nothing_new_is_doomed :
    ∃ result after row, collectNews upper (services []) execution store = (.ok result, after) ∧
      after.automation.durableJobs.find "job-1" = some row ∧ row.jobType = "news_index" ∧
      sourceKeysFromPayload row.payload =
        .error (.raised .valueError "news_index payload requires at least one source key") ∧
      ¬ NotDoomed upper row.payload := by
  refine ⟨_, _, _, rfl, rfl, rfl, rfl, ?_⟩
  rintro ⟨⟨_, ⟨⟩⟩, -⟩

theorem something_new_is_indexed :
    ∃ symbols batches job, upper.symbolsFromPayload execution.payload = .ok symbols ∧
      symbols.mapM (services [article]).collect = .ok batches ∧
      requestJob "news_index" ("news-index:" ++ execution.jobId)
        (indexPayload (services [article]) store batches.flatten) none "job-1"
        "3d1f5a0e-52fb-4a53-8b1c-5b9a41f7e001" 0 store.automation =
          .ok (job, (collectNews upper (services [article]) execution store).2.automation) ∧
      (NotDoomed upper (indexPayload (services [article]) store batches.flatten) ↔
        ∃ article ∈ batches.flatten, store.newsArticles.find article.sourceKey = none ∧
          pyStrip article.sourceKey ≠ "") := by
  have collected : collectNews upper (services [article]) execution store = (.ok [
    ("job_type", .str "news_collection"), ("symbols", textItems ["AAPL"]),
    ("articles_collected", .int 1), ("articles_inserted", .int 1),
    ("index_job_id", .str "job-1"), ("indexing_status", .str "requested")], _) := rfl
  exact index_request_iff rfl collected

end Daily

end KisAutoTrading.Jobs.IndexRequest
