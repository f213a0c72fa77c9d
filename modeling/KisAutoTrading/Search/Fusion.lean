/-
# Search.Fusion — the fused ranking of a search

`search` keeps two dictionaries while it goes through the hits of the keywords and then those of
the vector. `addAll_score`, `addAll_mem` and `addAll_source` say what they hold after any list of
hits: the weights of all places of an id, and the source of its last one. With the library's
ranking, `search_exact`: the ids returned are the beginning of the one ranking by the sum of
1/(60 + rank), each with the source of its last occurrence; the order does not depend on which
list is which, and an id that is placed better comes first.
-/
import KisAutoTrading.Modules.Search
import Mathlib.Tactic.Positivity

namespace KisAutoTrading.Search

open Theory Theory.RankFusion

set_option autoImplicit false

/-! ## What is promised -/

section Spec

variable (P : Platform) (field : String)

/-- A response is accepted and has these hits. -/
def HasHits (response : SearchResponse) (hits : List Hit) : Prop :=
  response.raiseForStatus = .ok () ∧
    ∃ values, response.hits = .ok values ∧ values.mapM (readHit P field) = .ok hits

/-- The backend answers a search with these two lists of hits. -/
def Answers (index : HybridSearchIndex) (transport : SearchTransport) (query : String)
    (limit : Nat) (keyword vector : List Hit) : Prop :=
  ∃ embedding rest, index.embed transport [query] = .ok (embedding :: rest) ∧
    HasHits P index.sourceIdField
      (transport.search (index.keywordSearchPayload query (max (limit * 2) 20))) keyword ∧
    HasHits P index.sourceIdField
      (transport.search (index.vectorSearchPayload embedding (max (limit * 2) 20))) vector

/-- The ids of a list, by place. -/
def idsOf (hits : List Hit) : List String := hits.map Prod.fst

/-- `str(source[self._source_id_field])`. -/
def sourceId (source : Dict) : Option String := (Dict.get source field).map P.pyStr

/-- The source of the last occurrence of an id. -/
def lastSource (hits : List Hit) (id : String) : Option Dict :=
  (hits.reverse.find? fun hit => hit.1 = id).map Prod.snd

/-- The sum of 1/(60 + rank) over all occurrences. -/
def fusedScore (keyword vector : List Hit) : String → ℚ :=
  fused rankWeight (idsOf keyword) (idsOf vector)

/-- What is promised of the ids that are returned for two lists of hits. -/
structure ExactIds (keyword vector : List Hit) (limit : Nat) (ids : List String) : Prop where
  first : ∃ ranked, Ranking (fusedScore keyword vector) (idsOf (keyword ++ vector)) ranked ∧
    ids = ranked.take limit ∧ ids.length = min limit (idsOf (keyword ++ vector)).dedup.length
  nodup : ids.Nodup
  dominates : ∀ a b,
    ((idsOf keyword).count a ≤ 1 ∧ (idsOf vector).count a ≤ 1) →
    ((idsOf keyword).count b ≤ 1 ∧ (idsOf vector).count b ≤ 1) →
    NoWorse a b (idsOf keyword) ∧ NoWorse a b (idsOf vector) →
    Better a b (idsOf keyword) ∨ Better a b (idsOf vector) →
    ∀ i : Nat, ids[i]? = some b → ∃ j < i, ids[j]? = some a

/-- What is promised of the sources. -/
structure ExactFusion (keyword vector : List Hit) (limit : Nat) (results : List Dict)
    (ids : List String) : Prop extends ExactIds keyword vector limit ids where
  ids_eq : results.map (sourceId P field) = ids.map some
  noEmbedding : ∀ source ∈ results, ∀ item ∈ source, item.1 ≠ "embedding"
  last : results.map some = ids.map (lastSource (keyword ++ vector))

end Spec

/-! ## Weights -/

theorem rankWeight_pos (rank : Nat) : 0 < rankWeight rank := by
  unfold rankWeight
  positivity

theorem rankWeight_falling : StrictAnti rankWeight := by
  intro rank later before
  unfold rankWeight
  apply one_div_lt_one_div_of_lt
  · positivity
  · exact_mod_cast Nat.add_lt_add_left before 60

/-! ## Hits -/

section Hits

variable {P : Platform} {field : String} {hits : List Hit}

theorem readHit_ok {value : Json} {hit : Hit} (read : readHit P field value = .ok hit) :
    sourceId P field hit.2 = some hit.1 ∧ ∀ item ∈ hit.2, item.1 ≠ "embedding" := by
  obtain ⟨source, -, rest⟩ := bind_ok read
  split at rest
  · simp only at rest
    split at rest
    · rename_i found
      cases rest
      refine ⟨by rw [sourceId, found]; rfl, ?_⟩
      intro item member
      simpa using (List.mem_filter.mp member).2
    · cases rest
  · cases rest

/-- The inner loop over all hits, with the rank of the first. -/
def addAll : Nat → List Hit → Fusion → Fusion
  | _, [], fusion => fusion
  | rank, hit :: rest, fusion => addAll (rank + 1) rest (fusion.add rank hit)

theorem fuseHits_eq {values : List Json} (read : values.mapM (readHit P field) = .ok hits)
    (rank : Nat) (fusion : Fusion) :
    fuseHits P field rank values fusion = .ok (addAll rank hits fusion) := by
  induction values generalizing hits rank fusion with
  | nil =>
      cases read
      rfl
  | cons value rest ih =>
      rw [List.mapM_cons] at read
      obtain ⟨hit, first, more⟩ := bind_ok read
      obtain ⟨others, remaining, same⟩ := bind_ok more
      cases same
      simp only [fuseHits, first, bind, Except.bind]
      exact ih remaining (rank + 1) (fusion.add rank hit)

end Hits

/-! ## The dictionaries -/

section Dictionaries

variable (rank : Nat) (hits : List Hit) (fusion : Fusion) (id : String)

theorem add_score (hit : Hit) :
    (fusion.add rank hit).score id =
      fusion.score id + if hit.1 = id then rankWeight rank else 0 := by
  unfold Fusion.score Fusion.add
  by_cases same : hit.1 = id
  · subst same
    simp [Fusion.score]
  · simp [Table.find_put_of_ne _ _ (Ne.symm same), same]

/-- An id has the weights of all its places. -/
theorem addAll_score :
    (addAll rank hits fusion).score id =
      fusion.score id + contribution rankWeight rank (idsOf hits) id := by
  induction hits generalizing rank fusion with
  | nil => simp [addAll, idsOf, contribution]
  | cons hit rest ih =>
      rw [addAll, ih, add_score, add_assoc]
      rfl

theorem addAll_mem :
    id ∈ (addAll rank hits fusion).scores.keys ↔ id ∈ fusion.scores.keys ∨ id ∈ idsOf hits := by
  induction hits generalizing rank fusion with
  | nil => simp [addAll, idsOf]
  | cons hit rest ih =>
      rw [addAll, ih]
      simp only [Table.mem_keys, Fusion.add, Table.find_put, idsOf, List.map_cons, List.mem_cons]
      by_cases same : id = hit.1
      · simp [same]
      · simp [same]

/-- The later source takes the place of the earlier one. -/
theorem addAll_source :
    (addAll rank hits fusion).sources.find id =
      (lastSource hits id).or (fusion.sources.find id) := by
  induction hits generalizing rank fusion with
  | nil => simp [addAll, lastSource]
  | cons hit rest ih =>
      rw [addAll, ih]
      simp only [lastSource, List.reverse_cons, List.find?_append, Fusion.add, Table.find_put]
      cases rest.reverse.find? fun later => later.1 = id with
      | some later => simp
      | none =>
          by_cases same : id = hit.1
          · simp [same]
          · simp [same, Ne.symm same]

end Dictionaries

/-! ## The search -/

section Search

variable {P : Platform} {field : String} {keyword vector : List Hit} {limit : Nat}

/-- The two dictionaries when both lists are through. -/
def fuseAll (keyword vector : List Hit) : Fusion := addAll 1 vector (addAll 1 keyword Fusion.empty)

theorem lastSource_append (id : String) :
    lastSource (keyword ++ vector) id = (lastSource vector id).or (lastSource keyword id) := by
  simp only [lastSource, List.reverse_append, List.find?_append]
  cases vector.reverse.find? fun hit => hit.1 = id <;> simp

theorem fuseAll_score : (fuseAll keyword vector).score = fusedScore keyword vector := by
  funext id
  rw [fuseAll, addAll_score, addAll_score]
  simp [fusedScore, fused, Fusion.score, Fusion.empty]

theorem fuseAll_mem (id : String) :
    id ∈ (fuseAll keyword vector).scores.keys ↔ id ∈ idsOf (keyword ++ vector) := by
  rw [fuseAll, addAll_mem, addAll_mem, idsOf, idsOf, idsOf, List.map_append, List.mem_append]
  simp [Fusion.empty, Table.mem_keys]

theorem fuseAll_source (id : String) :
    (fuseAll keyword vector).sources.find id = lastSource (keyword ++ vector) id := by
  rw [fuseAll, addAll_source, addAll_source, lastSource_append]
  simp [Fusion.empty]

theorem fuseAll_ranking :
    Ranking (fusedScore keyword vector) (idsOf (keyword ++ vector))
      (fuseAll keyword vector).rankedIds := by
  obtain ⟨sorted, mem⟩ := ranking_of_sort (fuseAll keyword vector).score
    (Table.nodup_keys (fuseAll keyword vector).scores)
  rw [fuseAll_score] at sorted mem
  refine ⟨?_, fun id => ?_⟩
  · rw [Fusion.rankedIds, fuseAll_score]
    exact sorted
  · rw [Fusion.rankedIds, fuseAll_score]
    exact (mem id).trans (fuseAll_mem id)

/-- The ids of the ranking are those of the claim. -/
theorem exactIds (keyword vector : List Hit) (limit : Nat) :
    ExactIds keyword vector limit ((fuseAll keyword vector).rankedIds.take limit) where
  first := by
    refine ⟨_, fuseAll_ranking, rfl, ?_⟩
    have distinct := (List.perm_ext_iff_of_nodup fuseAll_ranking.nodup
      (List.nodup_dedup (idsOf (keyword ++ vector)))).mpr fun id =>
        (fuseAll_ranking.mem id).trans List.mem_dedup.symm
    rw [List.length_take, distinct.length_eq]
  nodup := fuseAll_ranking.nodup.sublist (List.take_sublist _ _)
  dominates := by
    intro a b onceA onceB noWorse better i place
    have before := before_of_placed rankWeight_falling rankWeight_pos onceA onceB noWorse better
    have member : a ∈ idsOf (keyword ++ vector) := by
      rw [idsOf, List.map_append, List.mem_append]
      rcases better with ⟨j, place, -⟩ | ⟨j, place, -⟩
      · exact .inl (List.mem_of_getElem? place)
      · exact .inr (List.mem_of_getElem? place)
    exact fuseAll_ranking.before_in_take before member place

/-- Which list is which does not matter for the ranking. -/
theorem rankedIds_comm :
    (fuseAll keyword vector).rankedIds = (fuseAll vector keyword).rankedIds := by
  have swapped : fusedScore vector keyword = fusedScore keyword vector := fused_comm _ _ _
  have other : Ranking (fusedScore keyword vector) (idsOf (vector ++ keyword))
      (fuseAll vector keyword).rankedIds := swapped ▸ fuseAll_ranking
  refine fuseAll_ranking.eq other fun id => ?_
  simp only [idsOf, List.map_append, List.mem_append]
  exact or_comm

/-- A last source is the source of a hit with the id. -/
theorem lastSource_some {hits : List Hit} {id : String} (member : id ∈ idsOf hits) :
    ∃ source, lastSource hits id = some source ∧ (id, source) ∈ hits := by
  obtain ⟨hit, there, rfl⟩ := List.mem_map.mp member
  obtain ⟨last, found⟩ := Option.isSome_iff_exists.mp
    (List.find?_isSome.mpr ⟨hit, List.mem_reverse.mpr there, decide_eq_true rfl⟩ :
      (hits.reverse.find? fun other => other.1 = hit.1).isSome)
  have same : last.1 = hit.1 := by simpa using List.find?_some found
  have place := List.mem_reverse.mp (List.mem_of_find?_eq_some found)
  refine ⟨last.2, by rw [lastSource, found]; rfl, ?_⟩
  rw [← same]
  exact place

/-- The hits of a response are as the loop reads them. -/
theorem HasHits.read {response : SearchResponse} {hits : List Hit}
    (has : HasHits P field response hits) : ∀ hit ∈ hits,
      sourceId P field hit.2 = some hit.1 ∧ ∀ item ∈ hit.2, item.1 ≠ "embedding" := by
  obtain ⟨-, values, -, read⟩ := has
  intro hit member
  obtain ⟨value, one⟩ := mem_of_mapM_ok read hit member
  exact readHit_ok one

variable (limit) in
theorem fuseResponses_exact {keywordResponse vectorResponse : SearchResponse}
    (keywordHits : HasHits P field keywordResponse keyword)
    (vectorHits : HasHits P field vectorResponse vector) :
    ∃ results, fuseResponses P field limit keywordResponse vectorResponse = .ok results ∧
      ExactFusion P field keyword vector limit results
        ((fuseAll keyword vector).rankedIds.take limit) := by
  have readable : ∀ hit ∈ keyword ++ vector,
      sourceId P field hit.2 = some hit.1 ∧ ∀ item ∈ hit.2, item.1 ≠ "embedding" := by
    intro hit member
    rcases List.mem_append.mp member with first | second
    · exact keywordHits.read hit first
    · exact vectorHits.read hit second
  -- each id that is returned is that of a hit, and the source that is looked up is its last
  have found : ∀ id ∈ (fuseAll keyword vector).rankedIds.take limit, ∃ source,
      lastSource (keyword ++ vector) id = some source ∧ (id, source) ∈ keyword ++ vector := by
    intro id member
    exact lastSource_some ((fuseAll_ranking.mem id).mp (List.mem_of_mem_take member))
  have each : ∀ id ∈ (fuseAll keyword vector).rankedIds.take limit,
      (fuseAll keyword vector).source id = .ok ((lastSource (keyword ++ vector) id).getD []) := by
    intro id member
    obtain ⟨source, last, -⟩ := found id member
    simp only [Fusion.source, fuseAll_source, last, Option.getD_some]
  refine ⟨((fuseAll keyword vector).rankedIds.take limit).map fun id =>
    (lastSource (keyword ++ vector) id).getD [], ?_, exactIds keyword vector limit, ?_, ?_, ?_⟩
  · obtain ⟨accepted, values, given, read⟩ := keywordHits
    obtain ⟨accepted', values', given', read'⟩ := vectorHits
    simp only [fuseResponses, accepted, accepted', given, given', bind, Except.bind,
      fuseHits_eq read, fuseHits_eq read']
    exact mapM_eq_ok each
  · rw [List.map_map]
    refine List.map_congr_left fun id member => ?_
    obtain ⟨source, last, hit⟩ := found id member
    simp only [Function.comp, last, Option.getD_some]
    exact (readable _ hit).1
  · intro source member
    obtain ⟨id, kept, rfl⟩ := List.mem_map.mp member
    obtain ⟨source, last, hit⟩ := found id kept
    rw [last]
    exact (readable _ hit).2
  · rw [List.map_map]
    refine List.map_congr_left fun id member => ?_
    obtain ⟨source, last, -⟩ := found id member
    simp only [Function.comp, last, Option.getD_some]

/-- **The search is exact reciprocal-rank fusion**, whichever list is which. -/
theorem search_exact (P : Platform) (index : HybridSearchIndex) (query : String) (limit : Nat)
    {transport : SearchTransport} (answers : Answers P index transport query limit keyword vector) :
    ∃ results ids, index.search P transport query limit = .ok results ∧
      ExactFusion P index.sourceIdField keyword vector limit results ids ∧
      ∀ transport', Answers P index transport' query limit vector keyword →
        ∃ results', index.search P transport' query limit = .ok results' ∧
          results'.map (sourceId P index.sourceIdField) =
            results.map (sourceId P index.sourceIdField) := by
  obtain ⟨embedding, rest, embedded, keywordHits, vectorHits⟩ := answers
  obtain ⟨results, fused, exact⟩ := fuseResponses_exact limit keywordHits vectorHits
  refine ⟨results, _, ?_, exact, ?_⟩
  · simp only [HybridSearchIndex.search, embedded, bind, Except.bind]
    exact fused
  · rintro transport' ⟨embedding', rest', embedded', keywordHits', vectorHits'⟩
    obtain ⟨results', fused', exact'⟩ := fuseResponses_exact limit keywordHits' vectorHits'
    refine ⟨results', ?_, ?_⟩
    · simp only [HybridSearchIndex.search, embedded', bind, Except.bind]
      exact fused'
    · rw [exact'.ids_eq, exact.ids_eq, rankedIds_comm]

end Search

/-! ## Three articles -/

namespace Sample

def platform : Platform := .reference (fun _ _ => 0) (.aware 0) "1970-01-01T00:00:00Z"

def index : HybridSearchIndex where
  indexName := "news-articles-v1"
  sourceIdField := "source_key"
  properties := []
  keywordFields := ["title^3", "content", "symbol^2", "publisher"]
  embeddingModel := "embeddinggemma"
  searchBackend := .elasticsearch

/-- A hit with its embedding. -/
def hitValue (key : String) : Json := .obj [
  ("_source", .obj [("source_key", .str key), ("embedding", .arr [])])]

def response (keys : List String) : SearchResponse where
  statusCode := 200
  json := some (.obj [("hits", .obj [("hits", .arr (keys.map hitValue))])])

/-- The keywords find the first two articles, the vector the last two. -/
def transport : SearchTransport where
  embed _ := ⟨200, some (.obj [("embeddings", .arr [.arr [.float (.finite (1 / 10))]])])⟩
  head := ⟨200, none⟩
  create _ := ⟨200, none⟩
  bulk _ := ⟨200, some (.obj [("errors", .bool false)])⟩
  search
    | .obj [_, ("query", _)] => response ["article-1", "article-2"]
    | _ => response ["article-2", "article-3"]

def hit (key : String) : Hit := (key, [("source_key", .str key)])

theorem hasHits (keys : List String) :
    HasHits platform "source_key" (response keys) (keys.map hit) := by
  refine ⟨rfl, keys.map hitValue, rfl, ?_⟩
  induction keys with
  | nil => rfl
  | cons key rest ih =>
      have first : readHit platform "source_key" (hitValue key) = .ok (hit key) := rfl
      rw [List.map_cons, List.mapM_cons, first, ih]
      rfl

theorem answers : Answers platform index transport "AAPL earnings" 10
    (["article-1", "article-2"].map hit) (["article-2", "article-3"].map hit) :=
  ⟨.arr [.float (.finite (1 / 10))], [], rfl, hasHits _, hasHits _⟩

/-- The search returns what is promised, and the article that both lists have comes before the one
that only the vector has. -/
theorem three_articles_fused :
    ∃ results ids, index.search platform transport "AAPL earnings" 10 = .ok results ∧
      ExactFusion platform "source_key" (["article-1", "article-2"].map hit)
        (["article-2", "article-3"].map hit) 10 results ids ∧
      ∀ i : Nat, ids[i]? = some "article-3" → ∃ j < i, ids[j]? = some "article-2" := by
  obtain ⟨results, ids, returned, exact, -⟩ := search_exact platform index "AAPL earnings" 10 answers
  refine ⟨results, ids, returned, exact, ?_⟩
  refine exact.dominates "article-2" "article-3" (by decide) (by decide) ⟨?_, ?_⟩ (.inr ⟨0, rfl, ?_⟩)
  · intro i place
    exact absurd (List.mem_of_getElem? place) (by decide)
  · rintro (_ | _ | i) place
    · exact absurd place (by decide)
    · exact ⟨0, Nat.zero_le _, rfl⟩
    · cases place
  · rintro (_ | i) place
    · exact absurd place (by decide)
    · exact Nat.succ_pos i

end Sample

end KisAutoTrading.Search
