/-
# Modules.Search — the hybrid index of keywords and vectors

`HybridSearchIndex`: `index` embeds the documents and posts them in one bulk request, `search`
asks for the hits of the keywords and for those of the vector and fuses the two lists by
reciprocal ranks. What the embedding service and the search backend answer is
`SearchTransport`; the two hit lists are asked for at once, and neither request depends on the
answer to the other. Scores are rational numbers.

The two dictionaries of `search` are tables: what is made of them is sorted by a key that tells
all ids apart, so their order is of no account.
-/
import KisAutoTrading.Infrastructure.Platform
import KisAutoTrading.Theory.JsonText
import KisAutoTrading.Theory.RankFusion
import KisAutoTrading.Theory.Split
import KisAutoTrading.Theory.Table
import Mathlib.Data.String.Basic
import Mathlib.Algebra.Order.Ring.Rat

namespace KisAutoTrading

open Theory

set_option autoImplicit false

inductive SearchBackend where
  | elasticsearch
  | opensearch
  deriving DecidableEq

/-- What `index` and `search` raise. -/
inductive SearchFailure where
  | httpStatusError (statusCode : Nat)
  /-- A response whose content is no JSON. -/
  | jsonDecodeError
  | keyError
  | typeError
  | attributeError
  | valueError (message : String)
  | runtimeError (message : String)
  deriving DecidableEq

/-! ## Responses -/

/-- A response; `json` is `none` if its content is no JSON. -/
structure SearchResponse where
  statusCode : Nat
  json : Option Json

/-- `value[key]` with a text for a key. -/
def searchItem (value : Json) (key : String) : Except SearchFailure Json :=
  match value with
  | .obj fields =>
      match Dict.get fields key with
      | some item => .ok item
      | none => .error .keyError
  | _ => .error .typeError

/-- What a loop over a value meets. -/
def searchElements : Json → Except SearchFailure (List Json)
  | .arr items => .ok items
  | .str text => .ok (text.toList.map fun c => .str (String.singleton c))
  | .obj fields => .ok (fields.map fun field => .str field.1)
  | _ => .error .typeError

namespace SearchResponse

variable (response : SearchResponse)

/-- `raise_for_status`. -/
def raiseForStatus : Except SearchFailure Unit :=
  if 200 ≤ response.statusCode ∧ response.statusCode < 300 then .ok ()
  else .error (.httpStatusError response.statusCode)

/-- `json()`. -/
def payload : Except SearchFailure Json :=
  match response.json with
  | some value => .ok value
  | none => .error .jsonDecodeError

/-- `json()["hits"]["hits"]`, which is enumerated. -/
def hits : Except SearchFailure (List Json) := do
  let outer ← searchItem (← response.payload) "hits"
  searchElements (← searchItem outer "hits")

end SearchResponse

/-! ## Fusion -/

/-- A hit as the loop of `search` takes it: its id, and its source without the embedding. -/
abbrev Hit : Type := String × Dict

/-- `1.0 / (60 + rank)`. -/
def rankWeight (rank : Nat) : ℚ := 1 / (60 + rank)

/-- The id and the source of a hit; `field` is `_source_id_field`. -/
def readHit (P : Platform) (field : String) (hit : Json) : Except SearchFailure Hit := do
  match ← searchItem hit "_source" with
  | .obj fields =>
      let source : Dict := fields.filter fun item => item.1 ≠ "embedding"
      match Dict.get source field with
      | some sourceId => return (P.pyStr sourceId, source)
      | none => .error .keyError
  | _ => .error .attributeError

/-- `sources` and `scores`. -/
structure Fusion where
  sources : Table String Dict
  scores : Table String ℚ

namespace Fusion

def empty : Fusion := ⟨∅, ∅⟩

variable (fusion : Fusion)

/-- `scores.get(source_id, 0.0)`. -/
def score (sourceId : String) : ℚ := (fusion.scores.find sourceId).getD 0

/-- One pass of the inner loop. -/
def add (rank : Nat) (hit : Hit) : Fusion where
  sources := fusion.sources.put hit.1 hit.2
  scores := fusion.scores.put hit.1 (fusion.score hit.1 + rankWeight rank)

/-- `sorted` by `(-scores[source_id], source_id)`. -/
def rankedIds : List String :=
  fusion.scores.keys.insertionSort fun a b =>
    RankFusion.sortKey fusion.score a ≤ RankFusion.sortKey fusion.score b

/-- `sources[source_id]`. -/
def source (sourceId : String) : Except SearchFailure Dict :=
  match fusion.sources.find sourceId with
  | some source => .ok source
  | none => .error .keyError

end Fusion

/-- The inner loop, from a rank on. -/
def fuseHits (P : Platform) (field : String) : Nat → List Json → Fusion → Except SearchFailure Fusion
  | _, [], fusion => .ok fusion
  | rank, hit :: rest, fusion => do
      let hit ← readHit P field hit
      fuseHits P field (rank + 1) rest (fusion.add rank hit)

/-- `search` from the two responses on. -/
def fuseResponses (P : Platform) (field : String) (limit : Nat)
    (keywordResponse vectorResponse : SearchResponse) : Except SearchFailure (List Dict) := do
  keywordResponse.raiseForStatus
  vectorResponse.raiseForStatus
  let fusion ← fuseHits P field 1 (← keywordResponse.hits) Fusion.empty
  let fusion ← fuseHits P field 1 (← vectorResponse.hits) fusion
  (fusion.rankedIds.take limit).mapM fusion.source

/-! ## The index -/

/-- What the embedding service and the backend answer to a request with the given body. -/
structure SearchTransport where
  embed : Json → SearchResponse
  /-- Whether there is the index. -/
  head : SearchResponse
  create : Json → SearchResponse
  bulk : String → SearchResponse
  search : Json → SearchResponse

structure HybridSearchIndex where
  indexName : String
  sourceIdField : String
  properties : Dict
  keywordFields : List String
  embeddingModel : String
  searchBackend : SearchBackend

namespace HybridSearchIndex

variable (hybrid : HybridSearchIndex)

/-- `_embed` on the response. -/
def embeddings (response : SearchResponse) : Except SearchFailure (List Json) := do
  response.raiseForStatus
  let noEmbeddings : Except SearchFailure (List Json) :=
    .error (.valueError "Ollama returned no embeddings")
  match ← searchItem (← response.payload) "embeddings" with
  | .arr [] => noEmbeddings
  | .arr (first :: rest) =>
      if first.truthy ∧ (first :: rest).all (fun vector => vector matches .arr _) then
        return first :: rest
      else noEmbeddings
  -- the subscript of what is no list, or the vectors in a text, which are no lists
  | .obj (_ :: _) => .error .keyError
  | .str _ => noEmbeddings
  | value => if value.truthy then .error .typeError else noEmbeddings

/-- `_embed`. -/
def embed (transport : SearchTransport) (inputs : List String) :
    Except SearchFailure (List Json) :=
  embeddings (transport.embed (.obj [
    ("model", .str hybrid.embeddingModel),
    ("input", .arr (inputs.map .str))]))

/-- `_index_mapping`. -/
def indexMapping (dimensions : Nat) : Json :=
  match hybrid.searchBackend with
  | .opensearch => .obj [
      ("settings", .obj [("index", .obj [("knn", .bool true)])]),
      ("mappings", .obj [("properties", .obj (Dict.set hybrid.properties "embedding" (.obj [
        ("type", .str "knn_vector"),
        ("dimension", .int dimensions),
        ("method", .obj [
          ("name", .str "hnsw"),
          ("engine", .str "faiss"),
          ("space_type", .str "cosinesimil")])])))])]
  | .elasticsearch => .obj [
      ("mappings", .obj [("properties", .obj (Dict.set hybrid.properties "embedding" (.obj [
        ("type", .str "dense_vector"),
        ("dims", .int dimensions),
        ("similarity", .str "cosine")])))])]

/-- `_ensure_index`. -/
def ensureIndex (transport : SearchTransport) (dimensions : Nat) : Except SearchFailure Unit :=
  if transport.head.statusCode = 200 then .ok ()
  else do
    if transport.head.statusCode ≠ 404 then transport.head.raiseForStatus
    let created := transport.create (hybrid.indexMapping dimensions)
    if created.statusCode ∉ [200, 201, 400] then created.raiseForStatus

/-- The action line of a document. -/
def actionLine (documentId : String) : String :=
  "\x7b\"index\":\x7b\"_index\":\"" ++ (hybrid.indexName ++ ("\",\"_id\":\"" ++
    (documentId ++ "\"\x7d\x7d")))

/-- One pass of the loop of `index`. -/
def documentLines (P : Platform) (F : JsonText.FloatRepr) (document : Dict × Json) :
    Except SearchFailure (List String) :=
  match Dict.get document.1 hybrid.sourceIdField with
  | some documentId => .ok [
      hybrid.actionLine (P.pyStr documentId),
      JsonText.encode F (.obj (Dict.set document.1 "embedding" document.2))]
  | none => .error .keyError

/-- `len(embeddings[0])`. -/
def dimensions : List Json → Nat
  | .arr first :: _ => first.length
  | _ => 0

/-- What `index` does before it posts: the content of the request. -/
def bulkContent (P : Platform) (F : JsonText.FloatRepr) (transport : SearchTransport)
    (documents : List (Dict × String)) : Except SearchFailure String := do
  let embeddings ← hybrid.embed transport (documents.map Prod.snd)
  if embeddings.length ≠ documents.length then
    .error (.valueError "embedding response does not match indexed documents")
  else
    hybrid.ensureIndex transport (dimensions embeddings)
    let lines ← ((documents.map Prod.fst).zip embeddings).mapM (hybrid.documentLines P F)
    return pyJoin '\n' lines.flatten ++ "\n"

/-- `index`: the content that was posted to `_bulk`, if any, and the outcome. -/
def index (P : Platform) (F : JsonText.FloatRepr) (transport : SearchTransport)
    (documents : List (Dict × String)) : Option String × Except SearchFailure Nat :=
  if documents.isEmpty then (none, .ok 0)
  else
    match hybrid.bulkContent P F transport documents with
    | .error failure => (none, .error failure)
    | .ok content =>
        let outcome : Except SearchFailure Nat := do
          let response := transport.bulk content
          response.raiseForStatus
          let errors ← searchItem (← response.payload) "errors"
          if errors.truthy then
            .error (.runtimeError "search backend rejected one or more documents")
          else return documents.length
        (some content, outcome)

def keywordSearchPayload (query : String) (candidateCount : Nat) : Json := .obj [
  ("size", .int candidateCount),
  ("query", .obj [
    ("multi_match", .obj [
      ("query", .str query),
      ("fields", .arr (hybrid.keywordFields.map .str))])])]

/-- `_vector_search_payload`. -/
def vectorSearchPayload (embedding : Json) (candidateCount : Nat) : Json :=
  match hybrid.searchBackend with
  | .opensearch => .obj [
      ("size", .int candidateCount),
      ("query", .obj [
        ("knn", .obj [
          ("embedding", .obj [("vector", embedding), ("k", .int candidateCount)])])])]
  | .elasticsearch => .obj [
      ("size", .int candidateCount),
      ("knn", .obj [
        ("field", .str "embedding"),
        ("query_vector", embedding),
        ("k", .int candidateCount),
        ("num_candidates", .int 100)])]

/-- `search`. -/
def search (P : Platform) (transport : SearchTransport) (query : String) (limit : Nat) :
    Except SearchFailure (List Dict) := do
  match ← hybrid.embed transport [query] with
  | [] => .error .keyError
  | embedding :: _ =>
      let candidateCount := max (limit * 2) 20
      fuseResponses P hybrid.sourceIdField limit
        (transport.search (hybrid.keywordSearchPayload query candidateCount))
        (transport.search (hybrid.vectorSearchPayload embedding candidateCount))

end HybridSearchIndex

end KisAutoTrading
