/-
# Modules.SearchIndexers — what is indexed of news and of jobs

`NewsSearchIndexer` and `DurableJobHistorySearchIndexer`: each makes of a record the source that
is stored and the text that is embedded, and hands both to its hybrid index. How a point in time
is written is a parameter.
-/
import KisAutoTrading.Modules.News
import KisAutoTrading.Modules.Models
import KisAutoTrading.Modules.Search

namespace KisAutoTrading

open Theory

set_option autoImplicit false

/-- A text, or `None`. -/
def textOrNull : Option String → Json
  | some text => .str text
  | none => .null

/-- `"\n".join` of the texts that are not empty. -/
def joinTexts (texts : List String) : String := pyJoin '\n' (texts.filter fun text => text ≠ "")

/-- The declaration of a field in the mapping. -/
def fieldType (kind : String) : Json := .obj [("type", .str kind)]

/-! ## News -/

def newsIndex : String := "news-articles-v1"

namespace NewsSearchIndexer

/-- `NewsSearchIndexer.__init__`. -/
def hybrid (embeddingModel : String) (searchBackend : SearchBackend) : HybridSearchIndex where
  indexName := newsIndex
  sourceIdField := "source_key"
  properties := [
    ("source_key", fieldType "keyword"),
    ("source_url", .obj [("type", .str "keyword"), ("index", .bool false)]),
    ("provider", fieldType "keyword"),
    ("title", fieldType "text"),
    ("content", fieldType "text"),
    ("symbol", fieldType "keyword"),
    ("published_at", fieldType "date"),
    ("publisher", fieldType "keyword")]
  keywordFields := ["title^3", "content", "symbol^2", "publisher"]
  embeddingModel
  searchBackend

/-- `_source`. -/
def source (isoformat : Datetime → String) (article : NewsArticle) : Dict := [
  ("source_key", .str article.sourceKey),
  ("source_url", .str article.sourceUrl),
  ("provider", .str article.provider),
  ("title", .str article.title),
  ("content", textOrNull article.content),
  ("symbol", .str article.symbol),
  ("published_at", textOrNull (article.publishedAt.map isoformat)),
  ("publisher", textOrNull article.publisher)]

/-- `_content`. -/
def content (article : NewsArticle) : String :=
  joinTexts [article.title, article.content.getD "", article.symbol, article.publisher.getD ""]

/-- What `index` hands to the hybrid index. -/
def documents (isoformat : Datetime → String) (articles : List NewsArticle) :
    List (Dict × String) :=
  articles.map fun article => (source isoformat article, content article)

end NewsSearchIndexer

/-! ## Jobs -/

def jobHistoryIndex : String := "operator-durable-jobs-v1"

def summaryLimit : Nat := 500

namespace DurableJobHistorySearchIndexer

/-- `DurableJobHistorySearchIndexer.__init__`. -/
def hybrid (embeddingModel : String) (searchBackend : SearchBackend) : HybridSearchIndex where
  indexName := jobHistoryIndex
  sourceIdField := "job_id"
  properties := [
    ("job_id", fieldType "keyword"),
    ("job_type", fieldType "keyword"),
    ("run_key", fieldType "keyword"),
    ("status", fieldType "keyword"),
    ("error_summary", fieldType "text"),
    ("result_summary", fieldType "text"),
    ("requested_at", fieldType "date"),
    ("updated_at", fieldType "date")]
  keywordFields := ["job_type^3", "run_key^2", "status^2", "error_summary", "result_summary"]
  embeddingModel
  searchBackend

/-- `_summary`. -/
def summary (value : Option String) : Option String := do
  let text := String.ofList ((pyStrip (← value)).toList.take summaryLimit)
  if text = "" then none else some text

/-- `_result_summary`: the names of the result, in order. -/
def resultSummary (result : Option Dict) : Option String :=
  match result with
  | none => none
  | some [] => none
  | some fields =>
      let names := (fields.map fun field => pyStrip field.1).filter fun name => name ≠ ""
      summary (some (", ".intercalate (names.insertionSort (· ≤ ·))))

/-- `_source`. -/
def source (isoformat : Datetime → String) (record : DurableJobRecord) : Dict := [
  ("job_id", .str record.jobId),
  ("job_type", .str record.jobType),
  ("run_key", .str record.runKey),
  ("status", .str record.status.value),
  ("error_summary", textOrNull (summary record.error)),
  ("result_summary", textOrNull (resultSummary record.result)),
  ("requested_at", .str (isoformat (.aware record.requestedAt))),
  ("updated_at", .str (isoformat (.aware record.updatedAt)))]

/-- `_content`. -/
def content (record : DurableJobRecord) : String :=
  joinTexts [record.jobType, record.runKey, record.status.value, (summary record.error).getD "",
    (resultSummary record.result).getD ""]

/-- What `index` hands to the hybrid index. -/
def documents (isoformat : Datetime → String) (records : List DurableJobRecord) :
    List (Dict × String) :=
  records.map fun record => (source isoformat record, content record)

end DurableJobHistorySearchIndexer

end KisAutoTrading
