/-
# Jobs.NewsRetry — the chain of executions a news job starts

A handling that raises may have requested the retry of its work: a job of the same type,
whose message is read back as the next execution (`Retry`). The services, the ids, the
clock and everything stored may differ from one execution to the next.

The counter and the root key travel in the payload, which also comes from outside. Whatever
it holds at first, `retry_link` says what one hop makes of it, and `news_chain_bounded` by
induction what a whole chain does: it ends after three executions, under keys of one root,
and every execution has the same work.
-/
import KisAutoTrading.Application.DurableJobHandler

namespace KisAutoTrading.Jobs.NewsRetry

open Theory

set_option autoImplicit false

section Chains

variable (P : Platform) (U : Upper)

/-- A handling of the execution raises and leaves a new record, whose message is read as
the next execution. -/
def Retry (execution next : DurableJobExecution) : Prop :=
  ∃ S store failure after record,
    handleNews U S execution store = some (.error failure, after) ∧
    after.automation.outbox = store.automation.outbox ++ [record] ∧
    P.executionFromMessage record.message = .ok next

/-- What a chain of executions keeps: the first one, and its retries in order. -/
structure Bounded (first : DurableJobExecution) (retries : List DurableJobExecution) : Prop where
  length : (first :: retries).length ≤ 3
  attempts : ((first :: retries).map fun execution =>
    newsRetryAttempt execution.payload).Pairwise (· < ·)
  keys : ∀ retry ∈ retries, retry.jobType = first.jobType ∧
    newsRetryRootRunKey retry = newsRetryRootRunKey first ∧
    retry.runKey =
      newsRetryRunKey (newsRetryRootRunKey first) (newsRetryAttempt retry.payload)
  distinct : (retries.map (·.runKey)).Nodup
  /-- Every retry parses to the normalized symbols or source keys of the first execution. -/
  work : ∀ retry ∈ retries, ∃ texts, U.newsWork first = .ok texts ∧ U.newsWork retry = .ok texts
  /-- An execution that fails stores no article, and what it requests is available
  `2 ^ attempt` seconds later, by the attempt the message carries. -/
  failing : ∀ execution ∈ first :: retries, ∀ S store failure after,
    handleNews U S execution store = some (.error failure, after) →
    after.newsArticles = store.newsArticles ∧
    ∀ record next, after.automation.outbox = store.automation.outbox ++ [record] →
      P.executionFromMessage record.message = .ok next →
      record.availableAt = S.now + seconds (2 ^ newsRetryAttempt next.payload)

end Chains

variable {P : Platform} {U : Upper} {S : NewsServices} {execution next : DurableJobExecution}
  {store after : NewsStore} {failure : Failure} {record : OutboxEventRecord}

/-! ## One hop -/

theorem newsRetryAttempt_payload {field : String} (items : Json) (root : String) (attempt : Nat)
    (other : field ≠ "_news_retry_attempt") :
    newsRetryAttempt (newsRetryPayload [(field, items)] root attempt) = attempt := by
  have differs : ("_news_retry_attempt" == field) = false := beq_eq_false_iff_ne.mpr other.symm
  simp [newsRetryAttempt, newsRetryPayload, Dict.get, List.lookup_cons, differs]

theorem newsRetryRoot_payload {field : String} {root : String} (items : Json) (attempt : Nat)
    (jobId jobType runKey : String) (other : field ≠ "_news_retry_root_run_key") (named : root ≠ "") :
    newsRetryRootRunKey ⟨jobId, jobType, runKey, newsRetryPayload [(field, items)] root attempt⟩ =
      root := by
  have differs : ("_news_retry_root_run_key" == field) = false :=
    beq_eq_false_iff_ne.mpr other.symm
  simp [newsRetryRootRunKey, newsRetryPayload, Dict.get, List.lookup_cons, differs, named]

theorem newsField_ne (jobType : String) : newsField jobType ≠ "_news_retry_attempt" ∧
    newsField jobType ≠ "_news_retry_root_run_key" := by
  unfold newsField
  split <;> decide

/-- What a retry that is requested is read back as. -/
def retryOf (S : NewsServices) (execution : DurableJobExecution) (texts : List String) :
    DurableJobExecution where
  jobId := S.jobId
  jobType := execution.jobType
  runKey := newsRetryRunKey (newsRetryRootRunKey execution)
    (newsRetryAttempt execution.payload + 1)
  payload := newsRetryPayload [(newsField execution.jobType, textItems texts)]
    (newsRetryRootRunKey execution) (newsRetryAttempt execution.payload + 1)

/-- A record that a raising handling leaves is that of the retry. -/
theorem retry_record (raised : handleNews U S execution store = some (.error failure, after))
    (recorded : after.automation.outbox = store.automation.outbox ++ [record]) :
    ∃ texts, U.newsWork execution = .ok texts ∧
      newsRetryAttempt execution.payload + 1 < maxNewsDurableJobAttempts ∧
      P.executionFromMessage record.message = .ok (retryOf S execution texts) ∧
      record.availableAt = S.now + seconds (2 ^ (newsRetryAttempt execution.payload + 1)) := by
  have different : after ≠ store := by
    rintro rfl
    have lengths := congrArg List.length recorded
    simp at lengths
  rcases handleNews_error raised with same | ⟨texts, read, rfl⟩
  · exact absurd same different
  · rcases requestNewsRetry_cases S execution store
        [(newsField execution.jobType, textItems texts)] with
      same | ⟨definition, more, defined, -, -, stored⟩
    · exact absurd same different
    · rw [stored] at recorded
      obtain rfl := List.singleton_inj.mp (List.append_cancel_left recorded)
      exact ⟨texts, read, more, executionFromMessage_request P defined _ _ _ _ _, rfl⟩

/-- **One hop of a chain.** -/
theorem retry_link (retry : Retry P U execution next) :
    ∃ texts, U.newsWork execution = .ok texts ∧ U.newsWork next = .ok texts ∧
      next.jobType = execution.jobType ∧
      newsRetryAttempt next.payload = newsRetryAttempt execution.payload + 1 ∧
      newsRetryAttempt next.payload < maxNewsDurableJobAttempts ∧
      next.runKey =
        newsRetryRunKey (newsRetryRootRunKey execution) (newsRetryAttempt next.payload) ∧
      (newsRetryRootRunKey execution ≠ "" →
        newsRetryRootRunKey next = newsRetryRootRunKey execution) := by
  obtain ⟨S, store, failure, after, record, raised, recorded, message⟩ := retry
  obtain ⟨texts, read, more, decoded, -⟩ := retry_record (P := P) raised recorded
  rw [message] at decoded
  obtain rfl := Except.ok.inj decoded
  obtain ⟨notAttempt, notRoot⟩ := newsField_ne execution.jobType
  have attempt : newsRetryAttempt (retryOf S execution texts).payload =
      newsRetryAttempt execution.payload + 1 := newsRetryAttempt_payload _ _ _ notAttempt
  refine ⟨texts, read, ?_, rfl, attempt, by omega, by rw [attempt]; rfl, ?_⟩
  · refine U.newsWork_again read rfl ?_
    simp [retryOf, newsRetryPayload, Dict.get]
  · exact fun named => newsRetryRoot_payload _ _ _ _ _ notRoot named

/-- An execution that fails stores no article. -/
theorem articles_of_error (raised : handleNews U S execution store = some (.error failure, after)) :
    after.newsArticles = store.newsArticles := by
  rcases handleNews_error raised with rfl | ⟨texts, -, rfl⟩
  · rfl
  · rcases requestNewsRetry_cases S execution store
        [(newsField execution.jobType, textItems texts)] with
      same | ⟨definition, -, -, -, -, stored⟩
    · rw [same]
    · rw [stored]

/-! ## Whole chains -/

/-- The root is never empty: a job has a run key. -/
theorem root_ne_empty (named : execution.runKey ≠ "") : newsRetryRootRunKey execution ≠ "" := by
  unfold newsRetryRootRunKey
  split
  · split
    · exact named
    · assumption
  · exact named

/-- The keys of two attempts of one root differ. -/
theorem newsRetryRunKey_inj {root : String} {attempt other : Nat}
    (few : attempt < maxNewsDurableJobAttempts) (few' : other < maxNewsDurableJobAttempts)
    (same : newsRetryRunKey root attempt = newsRetryRunKey root other) : attempt = other := by
  have texts : ∀ a < maxNewsDurableJobAttempts, ∀ b < maxNewsDurableJobAttempts,
      toString a = toString b → a = b := by decide
  apply texts attempt few other few'
  apply String.toList_inj.mp
  have chars := congrArg String.toList same
  simpa only [newsRetryRunKey, String.toList_append, List.append_cancel_left_eq] using chars

/-- The retries of a chain, by induction along it. -/
theorem chain_links {first : DurableJobExecution} {retries : List DurableJobExecution}
    (rooted : newsRetryRootRunKey first ≠ "") (chain : (first :: retries).IsChain (Retry P U)) :
    (retries ≠ [] →
      newsRetryAttempt first.payload + retries.length < maxNewsDurableJobAttempts) ∧
    ((first :: retries).map fun execution => newsRetryAttempt execution.payload).Pairwise (· < ·) ∧
    ∀ retry ∈ retries, retry.jobType = first.jobType ∧
      newsRetryRootRunKey retry = newsRetryRootRunKey first ∧
      retry.runKey = newsRetryRunKey (newsRetryRootRunKey first) (newsRetryAttempt retry.payload) ∧
      newsRetryAttempt retry.payload < maxNewsDurableJobAttempts ∧
      ∃ texts, U.newsWork first = .ok texts ∧ U.newsWork retry = .ok texts := by
  induction retries generalizing first with
  | nil => exact ⟨fun some => absurd rfl some, List.pairwise_singleton _ _, nofun⟩
  | cons next rest ih =>
      obtain ⟨hop, chain'⟩ := List.isChain_cons_cons.mp chain
      obtain ⟨texts, work, work', sameType, attempt, few, key, root⟩ := retry_link hop
      have sameRoot := root rooted
      obtain ⟨short, rising, links⟩ := ih (sameRoot ▸ rooted) chain'
      refine ⟨?_, ?_, ?_⟩
      · intro _
        cases rest with
        | nil =>
            simp only [List.length_singleton]
            omega
        | cons second later =>
            have bound := short (by simp)
            simp only [List.length_cons] at bound ⊢
            omega
      · have step : newsRetryAttempt first.payload < newsRetryAttempt next.payload := by omega
        refine List.pairwise_cons.mpr ⟨?_, rising⟩
        intro later member
        rcases List.mem_cons.mp member with rfl | member
        · exact step
        · exact step.trans ((List.pairwise_cons.mp rising).1 later member)
      · intro retry member
        rcases List.mem_cons.mp member with rfl | member
        · exact ⟨sameType, sameRoot, key, few, texts, work, work'⟩
        · obtain ⟨sameType', sameRoot', key', few', texts', next', retry'⟩ := links retry member
          rw [work'] at next'
          obtain rfl := Except.ok.inj next'
          exact ⟨sameType'.trans sameType, sameRoot'.trans sameRoot, sameRoot ▸ key', few', texts,
            work, retry'⟩

/-- **A chain of retries has at most three executions and keeps its work.** -/
theorem news_chain_bounded {first : DurableJobExecution} {retries : List DurableJobExecution}
    (named : first.runKey ≠ "") (chain : (first :: retries).IsChain (Retry P U)) :
    Bounded P U first retries := by
  obtain ⟨short, rising, links⟩ := chain_links (root_ne_empty named) chain
  refine ⟨?_, rising, ?_, ?_, ?_, ?_⟩
  · cases retries with
    | nil => simp
    | cons next rest =>
        have bound := short (by simp)
        simp only [maxNewsDurableJobAttempts, List.length_cons] at bound ⊢
        omega
  · intro retry member
    obtain ⟨sameType, sameRoot, key, -⟩ := links retry member
    exact ⟨sameType, sameRoot, key⟩
  · have risingRetries := (List.pairwise_cons.mp rising).2
    rw [List.pairwise_map] at risingRetries
    rw [List.Nodup, List.pairwise_map]
    refine risingRetries.imp_of_mem ?_
    intro retry later member member' before same
    obtain ⟨-, -, key, few, -⟩ := links retry member
    obtain ⟨-, -, key', few', -⟩ := links later member'
    rw [key, key'] at same
    have := newsRetryRunKey_inj few few' same
    omega
  · intro retry member
    obtain ⟨-, -, -, -, work⟩ := links retry member
    exact work
  · intro execution _ S store failure after raised
    refine ⟨articles_of_error raised, ?_⟩
    intro record next recorded message
    obtain ⟨texts, read, more, decoded, available⟩ := retry_record (P := P) raised recorded
    rw [message] at decoded
    obtain rfl := Except.ok.inj decoded
    have attempt : newsRetryAttempt (retryOf S execution texts).payload =
        newsRetryAttempt execution.payload + 1 :=
      newsRetryAttempt_payload _ _ _ (newsField_ne execution.jobType).1
    rw [available, attempt]

/-! ## A chain of three -/

namespace Timeouts

def platform : Platform := .reference (fun _ _ => 0) (.aware 0) "1970-01-01T00:00:00Z"

/-- Upper case of the one symbol that needs it. -/
def upper : Upper where
  upper text := if text = "aapl" then "AAPL" else text
  idempotent text := by
    by_cases lower : text = "aapl"
    · subst lower
      rfl
    · simp [lower]
  stripped text plain := by
    by_cases lower : text = "aapl"
    · subst lower
      decide +kernel
    · simp [lower, plain]
  nonempty text some := by
    by_cases lower : text = "aapl"
    · subst lower
      decide
    · simpa [lower] using some

def timeout : Failure :=
  .raised .yahooFinanceNewsTimeoutError "Yahoo Finance timed out for AAPL"

def services (jobId : String) (now : Instant) : NewsServices where
  collect _ := .error timeout
  indexingEnabled := true
  index _ := .ok 0
  jobId := jobId
  eventId := "3d1f5a0e-52fb-4a53-8b1c-5b9a41f7e001"
  now := now

/-- Mixed values, and a counter that is none. -/
def first : DurableJobExecution where
  jobId := "job-0"
  jobType := "news_collection"
  runKey := "daily"
  payload := [("symbols", .arr [.str " aapl ", .int 3, .str "", .str "MSFT", .str "AAPL"]),
    ("_news_retry_attempt", .str "2")]

def retry (jobId : String) (attempt : Nat) : DurableJobExecution where
  jobId := jobId
  jobType := "news_collection"
  runKey := newsRetryRunKey "daily" attempt
  payload := newsRetryPayload [("symbols", textItems ["AAPL", "MSFT"])] "daily" attempt

theorem three_executions :
    Bounded platform upper first [retry "job-1" 1, retry "job-2" 2] := by
  refine news_chain_bounded (by decide) (.cons_cons ?_ (.cons_cons ?_ (.singleton _)))
  · exact ⟨services "job-1" 0, ⟨.empty, ∅⟩, timeout, _, _, rfl, rfl, rfl⟩
  · exact ⟨services "job-2" 2000000, ⟨.empty, ∅⟩, timeout, _, _, rfl, rfl, rfl⟩

end Timeouts

end KisAutoTrading.Jobs.NewsRetry
