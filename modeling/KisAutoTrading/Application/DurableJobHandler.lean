/-
# Application.DurableJobHandler — collecting and indexing news

`ApplicationDurableJobHandler` for its two news jobs. A handling has its answer and the
store it leaves, whether it raises or not: a retry is requested in a transaction of its
own, which stays when the error is raised again.

The provider, the search index and `str.upper` are parameters. The symbols of a
collection and the source keys of an index job are read by one function
(`normalizedTexts`), which reads back what it has written: `normalizedTexts_again`.
-/
import KisAutoTrading.Infrastructure.DurableJobs
import KisAutoTrading.Modules.News

namespace KisAutoTrading

open Theory

set_option autoImplicit false

/-- `str.upper`, as far as the handler relies on it. -/
structure Upper where
  upper : String → String
  idempotent : ∀ text, upper (upper text) = upper text
  /-- It adds no blanks around a text. -/
  stripped : ∀ text, pyStrip text = text → pyStrip (upper text) = upper text
  nonempty : ∀ text, text ≠ "" → upper text ≠ ""

/-- The automation database with the articles. -/
structure NewsStore where
  automation : AutomationStore
  newsArticles : NewsArticles

/-- What one handling meets: the provider's and the index's answers, the ids it draws and
the time. -/
structure NewsServices where
  /-- `YahooFinanceNewsProvider.collect`. -/
  collect : String → Except Failure (List NewsArticle)
  indexingEnabled : Bool
  /-- `NewsSearchIndexer.index`. -/
  index : List NewsArticle → Except Failure Nat
  jobId : String
  eventId : String
  now : Instant

def maxNewsDurableJobAttempts : Nat := 3

/-! ## Payloads -/

/-- An item of the list: a text that is not blank. -/
def normalizedText (normal : String → String) : Json → Option String
  | .str text => if pyStrip text = "" then none else some (normal text)
  | _ => none

/-- The two payload readers: a list field, its texts that are not blank, each once. -/
def normalizedTexts (field : String) (normal : String → String) (noList noText : String)
    (payload : Dict) : Except Failure (List String) :=
  match payload.get field with
  | some (.arr items) =>
      let normalized := fromKeys (items.filterMap (normalizedText normal))
      if normalized = [] then .error (.raised .valueError noText) else .ok normalized
  | _ => .error (.raised .typeError noList)

/-- `symbol.strip().upper()`. -/
def Upper.symbol (U : Upper) (text : String) : String := U.upper (pyStrip text)

/-- `_symbols_from_payload`. -/
def Upper.symbolsFromPayload (U : Upper) : Dict → Except Failure (List String) :=
  normalizedTexts "symbols" U.symbol "news_collection payload requires a symbols list"
    "news_collection payload requires at least one symbol"

/-- `_source_keys_from_payload`. -/
def sourceKeysFromPayload : Dict → Except Failure (List String) :=
  normalizedTexts "source_keys" pyStrip "news_index payload requires a source_keys list"
    "news_index payload requires at least one source key"

/-- `_news_retry_attempt`; a truth value is an integer too. -/
def newsRetryAttempt (payload : Dict) : Nat :=
  match payload.get "_news_retry_attempt" with
  | some (.int attempt) => attempt.toNat
  | some (.bool true) => 1
  | _ => 0

/-- `_news_retry_root_run_key`. -/
def newsRetryRootRunKey (execution : DurableJobExecution) : String :=
  match execution.payload.get "_news_retry_root_run_key" with
  | some (.str root) => if root = "" then execution.runKey else root
  | _ => execution.runKey

/-- The texts of a list as JSON. -/
def textItems (texts : List String) : Json := .arr (texts.map .str)

/-! ## Retries -/

def newsRetryRunKey (root : String) (attempt : Nat) : String :=
  root ++ (":retry:" ++ toString attempt)

/-- `retry_payload`; the payload has none of the two keys. -/
def newsRetryPayload (payload : Dict) (root : String) (attempt : Nat) : Dict :=
  payload ++ [("_news_retry_attempt", .int attempt), ("_news_retry_root_run_key", .str root)]

/-- `_request_news_retry`. -/
def NewsServices.requestNewsRetry (S : NewsServices) (execution : DurableJobExecution)
    (payload : Dict) (store : NewsStore) : Except Failure Unit × NewsStore :=
  let attempt := newsRetryAttempt execution.payload
  if maxNewsDurableJobAttempts - 1 ≤ attempt then (.ok (), store)
  else
    let retryAttempt := attempt + 1
    let root := newsRetryRootRunKey execution
    match requestJob execution.jobType (newsRetryRunKey root retryAttempt)
        (newsRetryPayload payload root retryAttempt)
        (some (S.now + seconds (2 ^ retryAttempt))) S.jobId S.eventId S.now store.automation with
    | .ok (_, automation) => (.ok (), { store with automation })
    | .error failure => (.error failure, store)

/-- The retry, and then the error that asked for it, unless the retry raises one. -/
def NewsServices.retryAndRaise (S : NewsServices) (execution : DurableJobExecution)
    (payload : Dict) (failure : Failure) (store : NewsStore) : Except Failure Dict × NewsStore :=
  match S.requestNewsRetry execution payload store with
  | (.ok (), store) => (.error failure, store)
  | (.error other, store) => (.error other, store)

/-- `isinstance(error, YahooFinanceNewsError)`. -/
def isYahooFinanceNewsError : Failure → Bool
  | .raised .yahooFinanceNewsError _ => true
  | .raised .yahooFinanceNewsTimeoutError _ => true
  | .raised .yahooFinanceNewsProviderError _ => true
  | _ => false

/-- `isinstance(error, httpx.HTTPError)` and `_is_transient_search_error`. -/
def isTransientSearchError : Failure → Bool
  | .raised .requestError _ => true
  | .raised (.httpStatusError statusCode) _ =>
      statusCode = 408 || statusCode = 429 || 500 ≤ statusCode
  | _ => false

/-! ## The jobs -/

section Jobs

variable (U : Upper) (S : NewsServices) (execution : DurableJobExecution) (store : NewsStore)

/-- The transaction of a collection: the articles, and the index job for the new ones. -/
def NewsServices.storeCollection (symbols : List String) (articles : List NewsArticle) :
    Except Failure (Dict × NewsStore) :=
  let (sourceKeys, newsArticles) := store.newsArticles.insertManyReturningKeys articles S.now
  let result (indexJobId : Json) (indexingStatus : String) : Dict := [
    ("job_type", .str execution.jobType),
    ("symbols", textItems symbols),
    ("articles_collected", .int articles.length),
    ("articles_inserted", .int sourceKeys.length),
    ("index_job_id", indexJobId),
    ("indexing_status", .str indexingStatus)]
  if S.indexingEnabled then
    match requestJob "news_index" ("news-index:" ++ execution.jobId)
        [("source_keys", textItems sourceKeys)] none S.jobId S.eventId S.now store.automation with
    | .ok (indexJob, automation) =>
        .ok (result (.str indexJob.jobId) "requested", { automation, newsArticles })
    | .error failure => .error failure
  else .ok (result .null "skipped", { store with newsArticles })

/-- `_collect_news`. -/
def collectNews : Except Failure Dict × NewsStore :=
  match U.symbolsFromPayload execution.payload with
  | .error failure => (.error failure, store)
  | .ok symbols =>
      match symbols.mapM S.collect with
      | .error failure =>
          if isYahooFinanceNewsError failure then
            S.retryAndRaise execution [("symbols", textItems symbols)] failure store
          else (.error failure, store)
      | .ok collected =>
          match S.storeCollection execution store symbols collected.flatten with
          | .ok (result, store) => (.ok result, store)
          | .error failure => (.error failure, store)

/-- `_index_news`. -/
def indexNews : Except Failure Dict × NewsStore :=
  match sourceKeysFromPayload execution.payload with
  | .error failure => (.error failure, store)
  | .ok sourceKeys =>
      let result (indexed : Nat) : Dict := [
        ("job_type", .str execution.jobType),
        ("source_keys_requested", .int sourceKeys.length),
        ("articles_indexed", .int indexed)]
      if S.indexingEnabled then
        match store.newsArticles.findBySourceKeys sourceKeys with
        | [] => (.ok (result 0), store)
        | articles =>
            match S.index articles with
            | .ok indexed => (.ok (result indexed), store)
            | .error failure =>
                if isTransientSearchError failure then
                  S.retryAndRaise execution [("source_keys", textItems sourceKeys)] failure store
                else (.error failure, store)
      else (.ok (result 0 ++ [("indexing_status", .str "skipped")]), store)

/-- `handle` of the two news jobs; the other three read and write other tables. -/
def handleNews : Option (Except Failure Dict × NewsStore) :=
  if execution.jobType = "news_collection" then some (collectNews U S execution store)
  else if execution.jobType = "news_index" then some (indexNews S execution store)
  else none

end Jobs

/-! ## What is read back -/

/-- Normalizing a text that is not blank leaves nothing more to normalize. -/
def Normalizes (normal : String → String) : Prop :=
  ∀ text, pyStrip text ≠ "" →
    pyStrip (normal text) = normal text ∧ normal text ≠ "" ∧ normal (normal text) = normal text

theorem normalizes_pyStrip : Normalizes pyStrip := by
  intro text some
  exact ⟨pyStrip_pyStrip text, some, pyStrip_pyStrip text⟩

theorem Upper.normalizes_symbol (U : Upper) : Normalizes U.symbol := by
  intro text some
  have plain : pyStrip (U.symbol text) = U.symbol text :=
    U.stripped (pyStrip text) (pyStrip_pyStrip text)
  refine ⟨plain, U.nonempty _ some, ?_⟩
  calc U.symbol (U.symbol text)
      = U.upper (U.symbol text) := by rw [Upper.symbol, plain]
    _ = U.symbol text := U.idempotent (pyStrip text)

section Texts

variable {field noList noText : String} {normal : String → String} {texts : List String}

theorem normalizedTexts_ok {payload : Dict}
    (read : normalizedTexts field normal noList noText payload = .ok texts) :
    texts ≠ [] ∧ texts.Nodup ∧ ∀ text ∈ texts, ∃ raw, pyStrip raw ≠ "" ∧ text = normal raw := by
  unfold normalizedTexts at read
  split at read
  · rename_i items found
    simp only at read
    split at read
    · cases read
    · rename_i some
      cases read
      refine ⟨some, fromKeys_nodup _, ?_⟩
      intro text member
      obtain ⟨item, -, kept⟩ := List.mem_filterMap.mp (mem_fromKeys.mp member)
      unfold normalizedText at kept
      split at kept
      · rename_i raw
        split at kept
        · cases kept
        · rename_i notBlank
          exact ⟨raw, notBlank, (Option.some.inj kept).symm⟩
      · cases kept
  · cases read

/-- What was normalized once reads back as it is. -/
theorem normalizedTexts_again {payload again : Dict} (normalizes : Normalizes normal)
    (read : normalizedTexts field normal noList noText payload = .ok texts)
    (written : again.get field = some (textItems texts)) :
    normalizedTexts field normal noList noText again = .ok texts := by
  obtain ⟨some, distinct, raws⟩ := normalizedTexts_ok read
  have kept : (texts.map Json.str).filterMap (normalizedText normal) = texts := by
    rw [List.filterMap_map]
    refine (List.filterMap_congr ?_).trans List.filterMap_some
    intro text member
    obtain ⟨raw, notBlank, rfl⟩ := raws text member
    obtain ⟨plain, nonempty, same⟩ := normalizes raw notBlank
    simp only [Function.comp_apply, normalizedText, plain, nonempty, if_false, same]
  simp only [normalizedTexts, written, textItems]
  rw [kept, fromKeys_of_nodup distinct, if_neg some]

end Texts

/-! ## What a handling can do -/

/-- The list field of a news job. -/
def newsField (jobType : String) : String :=
  if jobType = "news_collection" then "symbols" else "source_keys"

/-- The work of a news job: its normalized symbols or source keys. -/
def Upper.newsWork (U : Upper) (execution : DurableJobExecution) : Except Failure (List String) :=
  if execution.jobType = "news_collection" then U.symbolsFromPayload execution.payload
  else sourceKeysFromPayload execution.payload

section Handling

variable {U : Upper} {S : NewsServices} {execution : DurableJobExecution} {store after : NewsStore}

/-- Work that is written under its field is read back. -/
theorem Upper.newsWork_again {again : DurableJobExecution} {texts : List String}
    (read : U.newsWork execution = .ok texts) (sameType : again.jobType = execution.jobType)
    (written : again.payload.get (newsField execution.jobType) = some (textItems texts)) :
    U.newsWork again = .ok texts := by
  unfold Upper.newsWork newsField at *
  rw [sameType]
  split
  · rename_i collection
    rw [if_pos collection] at read written
    exact normalizedTexts_again U.normalizes_symbol read written
  · rename_i index
    rw [if_neg index] at read written
    exact normalizedTexts_again normalizes_pyStrip read written

/-- A collection that succeeds has stored its articles, together with the request of their
index job where indexing is enabled. -/
theorem collectNews_ok {result : Dict} (collected : collectNews U S execution store = (.ok result, after)) :
    ∃ symbols batches, U.symbolsFromPayload execution.payload = .ok symbols ∧
      symbols.mapM S.collect = .ok batches ∧
      after.newsArticles = (store.newsArticles.insertManyReturningKeys batches.flatten S.now).2 ∧
      (S.indexingEnabled = true ∧ (∃ job, requestJob "news_index" ("news-index:" ++ execution.jobId)
          [("source_keys", textItems
            (store.newsArticles.insertManyReturningKeys batches.flatten S.now).1)]
          none S.jobId S.eventId S.now store.automation = .ok (job, after.automation)) ∨
        S.indexingEnabled = false ∧ after.automation = store.automation) := by
  unfold collectNews at collected
  cases read : U.symbolsFromPayload execution.payload with
  | error failure =>
      rw [read] at collected
      cases congrArg Prod.fst collected
  | ok symbols =>
      simp only [read] at collected
      cases provided : symbols.mapM S.collect with
      | error failure =>
          simp only [provided] at collected
          split at collected
          · unfold NewsServices.retryAndRaise at collected
            split at collected <;> cases congrArg Prod.fst collected
          · cases congrArg Prod.fst collected
      | ok batches =>
          refine ⟨symbols, batches, rfl, provided, ?_⟩
          simp only [provided] at collected
          split at collected
          · rename_i stored
            obtain rfl := congrArg Prod.snd collected
            unfold NewsServices.storeCollection at stored
            simp only at stored
            cases enabled : S.indexingEnabled with
            | true =>
                simp only [enabled, if_true] at stored
                split at stored
                · rename_i indexJob automation requested
                  simp only [Except.ok.injEq, Prod.mk.injEq] at stored
                  obtain ⟨-, rfl⟩ := stored
                  exact ⟨rfl, .inl ⟨rfl, indexJob, requested⟩⟩
                · cases stored
            | false =>
                simp only [enabled, Bool.false_eq_true, if_false, Except.ok.injEq,
                  Prod.mk.injEq] at stored
                obtain ⟨-, rfl⟩ := stored
                exact ⟨rfl, .inr ⟨rfl, rfl⟩⟩
          · cases congrArg Prod.fst collected

/-- Indexing that succeeds stores nothing. -/
theorem indexNews_ok {result : Dict} (indexed : indexNews S execution store = (.ok result, after)) :
    after = store := by
  unfold indexNews at indexed
  split at indexed
  · cases congrArg Prod.fst indexed
  · simp only at indexed
    split at indexed
    · split at indexed
      · exact (congrArg Prod.snd indexed).symm
      · split at indexed
        · exact (congrArg Prod.snd indexed).symm
        · split at indexed
          · unfold NewsServices.retryAndRaise at indexed
            split at indexed <;> cases congrArg Prod.fst indexed
          · cases congrArg Prod.fst indexed
    · exact (congrArg Prod.snd indexed).symm

variable (S execution store) in
/-- A retry is a new job of the same type, or nothing is stored. -/
theorem requestNewsRetry_cases (payload : Dict) :
    (S.requestNewsRetry execution payload store).2 = store ∨
    ∃ definition, newsRetryAttempt execution.payload + 1 < maxNewsDurableJobAttempts ∧
      jobDefinition execution.jobType = some definition ∧
      store.automation.jobFor execution.jobType (newsRetryRunKey (newsRetryRootRunKey execution)
        (newsRetryAttempt execution.payload + 1)) = none ∧
      store.automation.durableJobs.find S.jobId = none ∧
      (S.requestNewsRetry execution payload store).2 = { store with
        automation := store.automation.insertJob {
          jobId := S.jobId
          jobType := execution.jobType
          runKey := newsRetryRunKey (newsRetryRootRunKey execution)
            (newsRetryAttempt execution.payload + 1)
          status := .requested
          payload := newsRetryPayload payload (newsRetryRootRunKey execution)
            (newsRetryAttempt execution.payload + 1)
          requestedAt := S.now
          updatedAt := S.now }
          (outboxRecord (jobRequestMessage definition S.jobId
            (newsRetryRunKey (newsRetryRootRunKey execution)
              (newsRetryAttempt execution.payload + 1))
            (newsRetryPayload payload (newsRetryRootRunKey execution)
              (newsRetryAttempt execution.payload + 1)) S.eventId S.now)
            (some (S.now + seconds (2 ^ (newsRetryAttempt execution.payload + 1))))) } := by
  unfold NewsServices.requestNewsRetry
  simp only
  split
  · exact .inl rfl
  · rename_i more
    rcases request_cases execution.jobType
        (newsRetryRunKey (newsRetryRootRunKey execution) (newsRetryAttempt execution.payload + 1))
        (newsRetryPayload payload (newsRetryRootRunKey execution)
          (newsRetryAttempt execution.payload + 1))
        (some (S.now + seconds (2 ^ (newsRetryAttempt execution.payload + 1))))
        S.jobId S.eventId S.now store.automation with
      ⟨failure, raised⟩ | ⟨existing, -, found⟩ | ⟨definition, defined, unused, fresh, created⟩
    · rw [raised]
      exact .inl rfl
    · rw [found]
      exact .inl rfl
    · rw [created]
      refine .inr ⟨definition, ?_, defined, unused, fresh, rfl⟩
      simp only [maxNewsDurableJobAttempts] at more ⊢
      omega

theorem retryAndRaise_store (payload : Dict) (failure : Failure) :
    (S.retryAndRaise execution payload failure store).2 =
      (S.requestNewsRetry execution payload store).2 := by
  unfold NewsServices.retryAndRaise
  rcases S.requestNewsRetry execution payload store with ⟨_ | _, after⟩ <;> rfl

/-- A collection that raises changes nothing, or has requested its retry. -/
theorem collectNews_error {failure : Failure}
    (raised : collectNews U S execution store = (.error failure, after)) :
    after = store ∨ ∃ symbols, U.symbolsFromPayload execution.payload = .ok symbols ∧
      after = (S.requestNewsRetry execution [("symbols", textItems symbols)] store).2 := by
  unfold collectNews at raised
  cases read : U.symbolsFromPayload execution.payload with
  | error other =>
      rw [read] at raised
      exact .inl (congrArg Prod.snd raised).symm
  | ok symbols =>
      simp only [read] at raised
      cases collected : symbols.mapM S.collect with
      | error other =>
          simp only [collected] at raised
          split at raised
          · exact .inr ⟨symbols, rfl, by rw [← retryAndRaise_store _ other, raised]⟩
          · exact .inl (congrArg Prod.snd raised).symm
      | ok articles =>
          simp only [collected] at raised
          split at raised
          · cases raised
          · exact .inl (congrArg Prod.snd raised).symm

/-- Likewise an index job that raises. -/
theorem indexNews_error {failure : Failure}
    (raised : indexNews S execution store = (.error failure, after)) :
    after = store ∨ ∃ sourceKeys, sourceKeysFromPayload execution.payload = .ok sourceKeys ∧
      after = (S.requestNewsRetry execution [("source_keys", textItems sourceKeys)] store).2 := by
  unfold indexNews at raised
  cases read : sourceKeysFromPayload execution.payload with
  | error failure =>
      rw [read] at raised
      exact .inl (congrArg Prod.snd raised).symm
  | ok sourceKeys =>
      simp only [read] at raised
      split at raised
      · split at raised
        · cases raised
        · split at raised
          · cases raised
          · rename_i failure _
            split at raised
            · exact .inr ⟨sourceKeys, rfl, by rw [← retryAndRaise_store _ failure, raised]⟩
            · exact .inl (congrArg Prod.snd raised).symm
      · cases raised

/-- A handling that raises changes nothing, or has requested the retry of its work. -/
theorem handleNews_error {failure : Failure}
    (raised : handleNews U S execution store = some (.error failure, after)) :
    after = store ∨ ∃ texts, U.newsWork execution = .ok texts ∧
      after = (S.requestNewsRetry execution
        [(newsField execution.jobType, textItems texts)] store).2 := by
  unfold handleNews at raised
  split at raised
  · rename_i collection
    rw [newsField, if_pos collection, Upper.newsWork, if_pos collection]
    exact collectNews_error (Option.some.inj raised)
  · split at raised
    · rename_i other index
      rw [newsField, if_neg other, Upper.newsWork, if_neg other]
      exact indexNews_error (Option.some.inj raised)
    · cases raised

end Handling

end KisAutoTrading
