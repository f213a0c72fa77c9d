/-
# Search.BulkFraming — one action and one document a line

The content that `index` posts is a list of lines, two for each document. The action line is put
together from the id and the name of the index, and the document line is what `json.dumps` makes
of the source and the embedding. No line has a line break in it (`encode_oneLine`), and an id of
plain characters makes the action line the text of the action (`actionLine_eq`), so the content
split at its line breaks gives the lines back (`index_framed`). `bulk_body_framed`: news articles,
whose ids are hexadecimal digests, and jobs, whose ids are UUIDs, are framed whatever else they
have in them.
-/
import KisAutoTrading.Infrastructure.KisMarketData
import KisAutoTrading.Modules.SearchIndexers
import KisAutoTrading.Search.Fusion

namespace KisAutoTrading.Search

open Theory Theory.JsonText

set_option autoImplicit false

/-! ## What is promised -/

section Spec

variable (loads : String → Decoded) (F : FloatRepr)

/-- The action of a document. -/
def bulkAction (indexName documentId : String) : Json := .obj [
  ("index", .obj [("_index", .str indexName), ("_id", .str documentId)])]

/-- A source with its embedding. -/
def embedded (source : Dict) (embedding : Json) : Json := .obj (source ++ [("embedding", embedding)])

/-- A document with its id and its embedding. -/
structure BulkDocument where
  id : String
  source : Dict
  embedding : Json

/-- The documents by place. -/
def bulkDocuments : List String → List Dict → List Json → List BulkDocument
  | id :: ids, source :: sources, embedding :: embeddings =>
      ⟨id, source, embedding⟩ :: bulkDocuments ids sources embeddings
  | _, _, _ => []

/-- A line is read as a value. -/
def LineIs (lines : List String) (number : Nat) (value : Json) : Prop :=
  ∃ line, lines[number]? = some line ∧ loads line = .value value

/-- The content has two lines for each document, and ends in a line break. -/
def Framed (indexName : String) (documents : List BulkDocument) (content : String) : Prop :=
  ∃ lines, pySplit '\n' content = lines ++ [""] ∧ lines.length = 2 * documents.length ∧
    ∀ i document, documents[i]? = some document →
      LineIs loads lines (2 * i) (bulkAction indexName document.id) ∧
      LineIs loads lines (2 * i + 1) (embedded document.source document.embedding)

/-- `json.loads` reads back what `json.dumps` writes of a document and its action. -/
def ReadBack (indexName : String) (document : BulkDocument) : Prop :=
  ∀ value, value = bulkAction indexName document.id ∨
    value = embedded document.source document.embedding → loads (encode F value) = .value value

/-- Whatever embeddings the documents are given, the content is posted, and framed. -/
def BulkFramed (P : Platform) (hybrid : HybridSearchIndex) (ids : List String)
    (documents : List (Dict × String)) : Prop :=
  ∀ transport embeddings, hybrid.embed transport (documents.map Prod.snd) = .ok embeddings →
    embeddings.length = documents.length →
    hybrid.ensureIndex transport (HybridSearchIndex.dimensions embeddings) = .ok () →
    (∀ document ∈ bulkDocuments ids (documents.map Prod.fst) embeddings,
      ReadBack loads F hybrid.indexName document) →
    ∃ content, (hybrid.index P F transport documents).1 = some content ∧
      Framed loads hybrid.indexName (bulkDocuments ids (documents.map Prod.fst) embeddings) content

/-- Lower-case hexadecimal digits. -/
def IsHexDigest (text : String) : Prop := ∀ c ∈ text.toList, c.isDigit = true ∨ ('a' ≤ c ∧ c ≤ 'f')

end Spec

/-! ## Lines -/

section Lines

variable {loads : String → Decoded} {F : FloatRepr} {P : Platform} {hybrid : HybridSearchIndex}
  {documents : List BulkDocument}

/-- The lines of a document. -/
def linesOf (F : FloatRepr) (hybrid : HybridSearchIndex) (document : BulkDocument) : List String :=
  [hybrid.actionLine document.id, encode F (embedded document.source document.embedding)]

/-- What the lines depend on: the id is in its field and plain, and there is no embedding yet. -/
structure Indexable (hybrid : HybridSearchIndex) (document : BulkDocument) : Prop where
  id : Dict.get document.source hybrid.sourceIdField = some (.str document.id)
  plain : ∀ c ∈ document.id.toList, IsPlain c
  new : ∀ field ∈ document.source, field.1 ≠ "embedding"

theorem documentLines_eq {document : BulkDocument} (indexable : Indexable hybrid document) :
    hybrid.documentLines P F (document.source, document.embedding) =
      .ok (linesOf F hybrid document) := by
  simp only [HybridSearchIndex.documentLines, indexable.id, P.pyStr_str, linesOf, embedded,
    Dict.set_new indexable.new]

/-- The action line is the text of the action. -/
theorem actionLine_eq (named : ∀ c ∈ hybrid.indexName.toList, IsPlain c) {documentId : String}
    (plain : ∀ c ∈ documentId.toList, IsPlain c) :
    hybrid.actionLine documentId = encode F (bulkAction hybrid.indexName documentId) := by
  have index : quote "index" = "\"index\"".toList := by decide
  have indexName : quote "_index" = "\"_index\"".toList := by decide
  have id : quote "_id" = "\"_id\"".toList := by decide
  have opening : "\x7b\"index\":\x7b\"_index\":\"".toList =
      '\x7b' :: ("\"index\"".toList ++ ':' :: '\x7b' :: ("\"_index\"".toList ++ [':', '"'])) := by
    decide
  have middle : "\",\"_id\":\"".toList = '"' :: ',' :: ("\"_id\"".toList ++ [':', '"']) := by decide
  have closing : "\"\x7d\x7d".toList = ['"', '\x7d', '\x7d'] := by decide
  have line : (hybrid.actionLine documentId).toList =
      '\x7b' :: ("\"index\"".toList ++ ':' :: '\x7b' :: ("\"_index\"".toList ++ [':', '"'])) ++
        (hybrid.indexName.toList ++ ('"' :: ',' :: ("\"_id\"".toList ++ [':', '"']) ++
          (documentId.toList ++ ['"', '\x7d', '\x7d']))) := by
    unfold HybridSearchIndex.actionLine
    rw [String.toList_append, String.toList_append, String.toList_append, String.toList_append,
      opening, middle, closing]
  have action : (encode F (bulkAction hybrid.indexName documentId)).toList =
      encodeChars F (bulkAction hybrid.indexName documentId) := String.toList_ofList
  rw [← String.toList_inj, line, action, bulkAction]
  simp only [encodeChars, encodeFields, List.isEmpty_nil, List.isEmpty_cons, if_true,
    Bool.false_eq_true, if_false, index, indexName, id, quote_plain named, quote_plain plain,
    List.append_nil, List.append_assoc, List.cons_append, List.nil_append]

theorem linesOf_oneLine (named : ∀ c ∈ hybrid.indexName.toList, IsPlain c) {document : BulkDocument}
    (plain : ∀ c ∈ document.id.toList, IsPlain c) :
    ∀ line ∈ linesOf F hybrid document, '\n' ∉ line.toList := by
  rintro line (- | ⟨-, - | ⟨-, ⟨⟩⟩⟩)
  · rw [actionLine_eq (F := F) named plain]
    exact encode_oneLine F _
  · exact encode_oneLine F _

/-! ### The whole content -/

/-- The documents whose lines they are. -/
theorem mapM_documentLines (indexable : ∀ document ∈ documents, Indexable hybrid document) :
    (documents.map fun document => (document.source, document.embedding)).mapM
        (hybrid.documentLines P F) = .ok (documents.map (linesOf F hybrid)) := by
  induction documents with
  | nil => rfl
  | cons document rest ih =>
      have first := documentLines_eq (P := P) (F := F) (indexable document List.mem_cons_self)
      have others := ih fun other member => indexable other (List.mem_cons_of_mem _ member)
      simp [List.mapM_cons, first, others, bind, Except.bind, pure, Except.pure]

variable (F hybrid) in
/-- The two lines of a document are where its place says. -/
theorem getElem_flatMap_linesOf {i : Nat} {document : BulkDocument}
    (place : documents[i]? = some document) :
    (documents.flatMap (linesOf F hybrid))[2 * i]? = some (hybrid.actionLine document.id) ∧
      (documents.flatMap (linesOf F hybrid))[2 * i + 1]? =
        some (encode F (embedded document.source document.embedding)) := by
  induction documents generalizing i with
  | nil => cases place
  | cons head rest ih =>
      cases i with
      | zero =>
          obtain rfl := Option.some.inj place
          exact ⟨rfl, rfl⟩
      | succ i => exact ih place

variable (F hybrid documents) in
theorem length_flatMap_linesOf :
    (documents.flatMap (linesOf F hybrid)).length = 2 * documents.length := by
  induction documents with
  | nil => rfl
  | cons head rest ih =>
      rw [List.flatMap_cons, List.length_append, ih, List.length_cons]
      show 2 + 2 * rest.length = 2 * (rest.length + 1)
      omega

/-- Lines without line breaks, joined and ended by one, are framed. -/
theorem framed_of_lines (named : ∀ c ∈ hybrid.indexName.toList, IsPlain c)
    (some : documents ≠ []) (indexable : ∀ document ∈ documents, Indexable hybrid document)
    (back : ∀ document ∈ documents, ReadBack loads F hybrid.indexName document) :
    Framed loads hybrid.indexName documents
      (pyJoin '\n' (documents.flatMap (linesOf F hybrid)) ++ "\n") := by
  have oneLine : ∀ line ∈ documents.flatMap (linesOf F hybrid), '\n' ∉ line.toList := by
    intro line member
    obtain ⟨document, there, inside⟩ := List.mem_flatMap.mp member
    exact linesOf_oneLine named (indexable document there).plain line inside
  have lines : documents.flatMap (linesOf F hybrid) ≠ [] := by
    intro none
    have length := length_flatMap_linesOf F hybrid documents
    rw [none] at length
    have positive := List.length_pos_iff.mpr some
    simp only [List.length_nil] at length
    omega
  refine ⟨documents.flatMap (linesOf F hybrid), ?_, length_flatMap_linesOf F hybrid documents, ?_⟩
  · have ended : pyJoin '\n' (documents.flatMap (linesOf F hybrid)) ++ "\n" =
        pyJoin '\n' (documents.flatMap (linesOf F hybrid) ++ [""]) := (pyJoin_concat_empty lines).symm
    rw [ended]
    refine pySplit_pyJoin ?_ (by simp)
    intro line member
    rcases List.mem_append.mp member with inside | last
    · exact oneLine line inside
    · obtain rfl := List.mem_singleton.mp last
      exact List.not_mem_nil
  · intro i document place
    have member := List.mem_of_getElem? place
    obtain ⟨action, source⟩ := getElem_flatMap_linesOf F hybrid place
    refine ⟨⟨_, action, ?_⟩, ⟨_, source, back document member _ (.inr rfl)⟩⟩
    rw [actionLine_eq (F := F) named (indexable document member).plain]
    exact back document member _ (.inl rfl)

/-! ### The documents by place -/

theorem bulkDocuments_fields {ids : List String} {sources : List Dict} {embeddings : List Json}
    (first : ids.length = sources.length) (second : embeddings.length = sources.length) :
    (bulkDocuments ids sources embeddings).length = sources.length ∧
      (bulkDocuments ids sources embeddings).map (fun document =>
        (document.source, document.embedding)) = sources.zip embeddings := by
  induction sources generalizing ids embeddings with
  | nil =>
      obtain rfl := List.length_eq_zero_iff.mp first
      exact ⟨rfl, rfl⟩
  | cons source sources ih =>
      obtain ⟨id, ids, rfl⟩ := List.exists_cons_of_length_eq_add_one first
      obtain ⟨embedding, embeddings, rfl⟩ := List.exists_cons_of_length_eq_add_one second
      obtain ⟨length, fields⟩ := ih (Nat.succ.inj first) (Nat.succ.inj second)
      exact ⟨congrArg Nat.succ length, congrArg (List.cons _) fields⟩

/-- A document by place has the id and the source of one place. -/
theorem mem_bulkDocuments {β : Type} {records : List β} {id : β → String} {source : β → Dict}
    {embeddings : List Json} {document : BulkDocument}
    (member : document ∈ bulkDocuments (records.map id) (records.map source) embeddings) :
    ∃ record ∈ records, document.id = id record ∧ document.source = source record := by
  induction records generalizing embeddings with
  | nil => cases member
  | cons record rest ih =>
      cases embeddings with
      | nil => cases member
      | cons embedding embeddings =>
          rcases List.mem_cons.mp member with rfl | later
          · exact ⟨record, List.mem_cons_self, rfl, rfl⟩
          · obtain ⟨other, there, same⟩ := ih later
            exact ⟨other, List.mem_cons_of_mem _ there, same⟩

/-- Documents that can be indexed are framed. -/
theorem index_framed {ids : List String} {given : List (Dict × String)}
    (named : ∀ c ∈ hybrid.indexName.toList, IsPlain c) (some : given ≠ [])
    (same : ids.length = given.length)
    (indexable : ∀ embeddings, ∀ document ∈ bulkDocuments ids (given.map Prod.fst) embeddings,
      Indexable hybrid document) :
    BulkFramed loads F P hybrid ids given := by
  intro transport embeddings embeds matching ensured back
  have first : ids.length = (given.map Prod.fst).length := by rw [List.length_map, same]
  have second : embeddings.length = (given.map Prod.fst).length := by rw [List.length_map, matching]
  obtain ⟨length, fields⟩ := bulkDocuments_fields first second
  have nonempty : bulkDocuments ids (given.map Prod.fst) embeddings ≠ [] := by
    rw [← List.length_pos_iff, length, List.length_map]
    exact List.length_pos_iff.mpr some
  have content : hybrid.bulkContent P F transport given = .ok
      (pyJoin '\n' ((bulkDocuments ids (given.map Prod.fst) embeddings).flatMap
        (linesOf F hybrid)) ++ "\n") := by
    have unlike : ¬ embeddings.length ≠ given.length := not_not.mpr matching
    have lines := mapM_documentLines (P := P) (F := F) (indexable embeddings)
    rw [fields] at lines
    simp only [HybridSearchIndex.bulkContent, embeds, bind, Except.bind, if_neg unlike, ensured,
      lines]
    rfl
  refine ⟨_, ?_, framed_of_lines named nonempty (indexable embeddings) back⟩
  have filled : ¬ given.isEmpty = true := by simpa using some
  simp only [HybridSearchIndex.index, if_neg filled, content]

end Lines

/-! ## Articles and jobs -/

theorem isPlain_of_toNat {c : Char} (low : 35 ≤ c.toNat) (high : c.toNat ≤ 126)
    (noBackslash : c.toNat ≠ 92) : IsPlain c := by
  refine ⟨?_, ?_, ?_, ?_⟩
  · rintro rfl
    exact absurd low (by decide)
  · rintro rfl
    exact noBackslash rfl
  · rw [Char.le_def, UInt32.le_iff_toNat_le]
    exact le_trans (by decide) low
  · rw [Char.le_def, UInt32.le_iff_toNat_le]
    exact high

theorem isPlain_of_hexValue {c : Char} (digit : hexValue c ≠ none) : IsPlain c := by
  unfold hexValue at digit
  simp only [Char.le_def, UInt32.le_iff_toNat_le] at digit
  split at digit
  · rename_i range
    have low : 48 ≤ c.toNat := range.1
    have high : c.toNat ≤ 57 := range.2
    exact isPlain_of_toNat (by omega) (by omega) (by omega)
  · split at digit
    · rename_i range
      have low : 97 ≤ c.toNat := range.1
      have high : c.toNat ≤ 102 := range.2
      exact isPlain_of_toNat (by omega) (by omega) (by omega)
    · split at digit
      · rename_i range
        have low : 65 ≤ c.toNat := range.1
        have high : c.toNat ≤ 70 := range.2
        exact isPlain_of_toNat (by omega) (by omega) (by omega)
      · exact absurd rfl digit

theorem IsHexDigest.plain {text : String} (hex : IsHexDigest text) : ∀ c ∈ text.toList, IsPlain c := by
  intro c member
  rcases hex c member with digit | ⟨low, high⟩
  · have range : 48 ≤ c.toNat ∧ c.toNat ≤ 57 := by
      simpa [Char.isDigit, UInt32.le_iff_toNat_le] using digit
    exact isPlain_of_toNat (by omega) (by omega) (by omega)
  · rw [Char.le_def, UInt32.le_iff_toNat_le] at low high
    have above : 97 ≤ c.toNat := low
    have below : c.toNat ≤ 102 := high
    exact isPlain_of_toNat (by omega) (by omega) (by omega)

theorem uuid_plain (u : Uuid) : ∀ c ∈ u.str.toList, IsPlain c := by
  intro c member
  rw [Uuid.str, String.toList_ofList] at member
  by_cases hyphen : c = '-'
  · subst hyphen
    decide
  · refine isPlain_of_hexValue fun outside => ?_
    exact Uuid.not_mem_chars outside hyphen u member

theorem indexNames_plain :
    (∀ c ∈ newsIndex.toList, IsPlain c) ∧ ∀ c ∈ jobHistoryIndex.toList, IsPlain c := by
  have news : newsIndex.toList.all (IsPlain ·) = true := by decide
  have jobs : jobHistoryIndex.toList.all (IsPlain ·) = true := by decide
  simp only [List.all_eq_true, decide_eq_true_eq] at news jobs
  exact ⟨news, jobs⟩

/-- **The bulk body is well framed**, whatever the articles and the jobs have in their texts. -/
theorem bulk_body_framed (loads : String → Decoded) (F : FloatRepr) (P : Platform)
    (isoformat : Datetime → String) (embeddingModel : String) (searchBackend : SearchBackend) :
    (∀ articles : List NewsArticle, articles ≠ [] →
      (∀ article ∈ articles, IsHexDigest article.sourceKey) →
      BulkFramed loads F P (NewsSearchIndexer.hybrid embeddingModel searchBackend)
        (articles.map (·.sourceKey)) (NewsSearchIndexer.documents isoformat articles)) ∧
    ∀ records : List DurableJobRecord, records ≠ [] →
      (∀ record ∈ records, ∃ id : Uuid, record.jobId = id.str) →
      BulkFramed loads F P (DurableJobHistorySearchIndexer.hybrid embeddingModel searchBackend)
        (records.map (·.jobId)) (DurableJobHistorySearchIndexer.documents isoformat records) := by
  constructor
  · intro articles some hex
    refine index_framed indexNames_plain.1 (by simpa [NewsSearchIndexer.documents] using some)
      (by simp [NewsSearchIndexer.documents]) ?_
    intro embeddings document member
    rw [NewsSearchIndexer.documents, List.map_map] at member
    obtain ⟨article, there, id, source⟩ := mem_bulkDocuments member
    refine ⟨?_, ?_, ?_⟩
    · rw [source, id]
      rfl
    · rw [id]
      exact (hex article there).plain
    · rw [source]
      simp [NewsSearchIndexer.source]
  · intro records some uuid
    refine index_framed indexNames_plain.2 (by simpa [DurableJobHistorySearchIndexer.documents] using some)
      (by simp [DurableJobHistorySearchIndexer.documents]) ?_
    intro embeddings document member
    rw [DurableJobHistorySearchIndexer.documents, List.map_map] at member
    obtain ⟨record, there, id, source⟩ := mem_bulkDocuments member
    refine ⟨?_, ?_, ?_⟩
    · rw [source, id]
      rfl
    · obtain ⟨u, named⟩ := uuid record there
      rw [id, named]
      exact uuid_plain u
    · rw [source]
      simp [DurableJobHistorySearchIndexer.source]

/-! ## An article that looks like two actions -/

namespace Sample

/-- The title ends a line and begins an action of its own. -/
def article : NewsArticle where
  sourceKey := "0f"
  sourceUrl := "https://example.test/article-1"
  provider := "test"
  title := "AAPL\"\x7d\n\x7b\"index\":\x7b\"_id\":\"other\"\x7d\x7d"
  symbol := "AAPL"
  publishedAt := none
  publisher := none

def plainArticle : NewsArticle :=
  { article with sourceKey := "a1", sourceUrl := "https://example.test/article-2", title := "MSFT" }

def embeddings : List Json := [.arr [.float (.finite (1 / 10))], .arr [.float (.finite (1 / 5))]]

def repr : FloatRepr where
  text value := if value = 1 / 10 then "0.1" else "0.2"
  oneLine value := by split <;> decide

def newsHybrid : HybridSearchIndex := NewsSearchIndexer.hybrid "embeddinggemma" .elasticsearch

def newsTransport : SearchTransport := { transport with
  embed := fun _ => ⟨200, some (.obj [("embeddings", .arr embeddings)])⟩ }

/-- Each article with its own embedding. -/
def documents : List BulkDocument := [
  ⟨"0f", NewsSearchIndexer.source (fun _ => "") article, .arr [.float (.finite (1 / 10))]⟩,
  ⟨"a1", NewsSearchIndexer.source (fun _ => "") plainArticle, .arr [.float (.finite (1 / 5))]⟩]

def values : List Json := documents.flatMap fun document =>
  [bulkAction newsIndex document.id, embedded document.source document.embedding]

/-- `json.loads` on the four lines. -/
def loads (text : String) : Decoded :=
  match values.find? fun value => encode repr value = text with
  | some value => .value value
  | none => .decodeError

theorem values_differ : (values.map (encode repr)).Nodup := by decide +kernel

theorem documents_back : ∀ document ∈ documents, ReadBack loads repr newsIndex document := by
  intro document member value asked
  have there : value ∈ values := by
    refine List.mem_flatMap.mpr ⟨document, member, ?_⟩
    simpa using asked
  obtain ⟨found, same⟩ : ∃ found, values.find? (fun other => encode repr other = encode repr value) =
      some found := Option.isSome_iff_exists.mp (List.find?_isSome.mpr ⟨value, there, by simp⟩)
  have equal : encode repr found = encode repr value := by simpa using List.find?_some same
  rw [List.inj_on_of_nodup_map values_differ (List.mem_of_find?_eq_some same) there equal] at same
  rw [loads, same]

/-- The line break in a title does not break its line, and the articles keep to their embeddings. -/
theorem title_stays_in_its_line :
    ∃ content, (newsHybrid.index platform repr newsTransport
        (NewsSearchIndexer.documents (fun _ => "") [article, plainArticle])).1 = some content ∧
      Framed loads newsIndex documents content := by
  have hex : ∀ other ∈ [article, plainArticle], IsHexDigest other.sourceKey := by
    have digits : [article, plainArticle].all (fun other => other.sourceKey.toList.all
        (fun c => c.isDigit = true ∨ ('a' ≤ c ∧ c ≤ 'f'))) = true := by decide +kernel
    simpa only [IsHexDigest, List.all_eq_true, decide_eq_true_eq] using digits
  have framed := (bulk_body_framed loads repr platform (fun _ => "") "embeddinggemma"
    .elasticsearch).1 [article, plainArticle] (List.cons_ne_nil _ _) hex
  exact framed newsTransport embeddings rfl rfl rfl documents_back

end Sample

end KisAutoTrading.Search
