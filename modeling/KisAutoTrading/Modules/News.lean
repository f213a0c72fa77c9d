/-
# Modules.News — articles and their table

`NewsArticleRepository` over the `news_articles` table, whose primary key is the source
key. An insert leaves the articles alone that are already stored, and answers the keys of
those it stored.
-/
import KisAutoTrading.Infrastructure.Messaging
import KisAutoTrading.Theory.Table

namespace KisAutoTrading

open Theory

set_option autoImplicit false

structure NewsArticle where
  sourceKey : String
  sourceUrl : String
  provider : String
  title : String
  symbol : String
  publishedAt : Option Datetime
  publisher : Option String
  content : Option String := none
  deriving DecidableEq

structure NewsArticleRecord extends NewsArticle where
  collectedAt : Instant
  deriving DecidableEq

/-- The `news_articles` table. -/
abbrev NewsArticles : Type := Table String NewsArticleRecord

namespace NewsArticles

/-- `{article.source_key: article for article in articles}`: one article for each key, where
the key first stands and the article that comes last. -/
def uniqueArticles (articles : List NewsArticle) : List NewsArticle :=
  (fromKeys (articles.map (·.sourceKey))).filterMap fun key =>
    articles.reverse.find? fun article => article.sourceKey = key

/-- The `INSERT` of one article, `ON CONFLICT DO NOTHING`, with the keys returned so far. -/
def insertArticle (collectedAt : Instant) (inserted : List String × NewsArticles)
    (article : NewsArticle) : List String × NewsArticles :=
  match inserted.2.find article.sourceKey with
  | some _ => inserted
  | none => (inserted.1 ++ [article.sourceKey],
      inserted.2.put article.sourceKey { article with collectedAt })

/-- `insert_many_returning_keys`. -/
def insertManyReturningKeys (articles : List NewsArticle) (collectedAt : Instant)
    (table : NewsArticles) : List String × NewsArticles :=
  (uniqueArticles articles).foldl (insertArticle collectedAt) ([], table)

/-- `find_by_source_keys`. -/
def findBySourceKeys (table : NewsArticles) (sourceKeys : List String) : List NewsArticle :=
  (table.rows.filter fun record => record.sourceKey ∈ sourceKeys).map (·.toNewsArticle)

/-! ## What an insert does -/

section Insert

variable {articles : List NewsArticle} {table : NewsArticles} {key : String} {now : Instant}

theorem uniqueArticles_keys (articles : List NewsArticle) :
    (uniqueArticles articles).map (·.sourceKey) = fromKeys (articles.map (·.sourceKey)) := by
  rw [uniqueArticles, List.map_filterMap]
  refine (List.filterMap_congr ?_).trans List.filterMap_some
  intro key member
  obtain ⟨article, here, rfl⟩ := List.mem_map.mp (mem_fromKeys.mp member)
  cases last : articles.reverse.find? fun other => other.sourceKey = article.sourceKey with
  | none =>
      have absent := List.find?_eq_none.mp last article (List.mem_reverse.mpr here)
      simp at absent
  | some other =>
      have same := List.find?_some last
      simpa using same

/-- The insert of one article: a key that is not stored yet is returned and stored. -/
theorem insertArticle_spec (inserted : List String × NewsArticles) (article : NewsArticle) :
    (insertArticle now inserted article).1 = inserted.1 ++
      (if inserted.2.find article.sourceKey = none then [article.sourceKey] else []) ∧
    ∀ key, (insertArticle now inserted article).2.find key =
      (inserted.2.find key).or
        (if key = article.sourceKey then some { article with collectedAt := now } else none) := by
  unfold insertArticle
  cases stored : inserted.2.find article.sourceKey with
  | some row =>
      refine ⟨by simp, fun key => ?_⟩
      by_cases same : key = article.sourceKey
      · subst same
        simp [stored]
      · simp [same]
  | none =>
      refine ⟨by simp, fun key => ?_⟩
      by_cases same : key = article.sourceKey
      · subst same
        simp [stored]
      · simp [same, Table.find_put_of_ne _ _ same]

/-- The inserts of articles with distinct keys, by induction along them: an earlier one does
not decide whether a later one is stored. -/
theorem foldl_insertArticle {unique : List NewsArticle}
    (distinct : (unique.map (·.sourceKey)).Nodup) (inserted : List String × NewsArticles) :
    (unique.foldl (insertArticle now) inserted).1 = inserted.1 ++
      (unique.map (·.sourceKey)).filter (fun key => (inserted.2.find key).isNone) ∧
    ∀ key, (unique.foldl (insertArticle now) inserted).2.find key =
      (inserted.2.find key).or ((unique.find? fun article => article.sourceKey = key).map
        fun article => { article with collectedAt := now }) := by
  induction unique generalizing inserted with
  | nil => simp
  | cons article rest ih =>
      obtain ⟨absent, distinctRest⟩ := List.nodup_cons.mp distinct
      obtain ⟨returned, stored⟩ : (insertArticle now inserted article).1 = _ ∧ _ :=
        insertArticle_spec inserted article
      obtain ⟨returnedRest, storedRest⟩ := ih distinctRest (insertArticle now inserted article)
      have unseen : ∀ key ∈ rest.map (·.sourceKey),
          ((insertArticle now inserted article).2.find key).isNone =
            (inserted.2.find key).isNone := by
        intro key member
        have differs : key ≠ article.sourceKey := by
          rintro rfl
          exact absent member
        rw [stored, if_neg differs, Option.or_none]
      constructor
      · rw [List.foldl_cons, returnedRest, returned, List.filter_congr unseen, List.map_cons,
          List.filter_cons, List.append_assoc]
        cases inserted.2.find article.sourceKey <;> simp
      · intro key
        rw [List.foldl_cons, storedRest, stored, Option.or_assoc]
        by_cases same : article.sourceKey = key
        · subst same
          simp
        · have other : ¬ key = article.sourceKey := fun here => same here.symm
          simp [same, other]

/-- **The keys an insert returns are those it found nothing under.** -/
theorem insertManyReturningKeys_keys (articles : List NewsArticle) (table : NewsArticles) :
    (insertManyReturningKeys articles now table).1 =
      (fromKeys (articles.map (·.sourceKey))).filter fun key => (table.find key).isNone := by
  have distinct : ((uniqueArticles articles).map (·.sourceKey)).Nodup := by
    rw [uniqueArticles_keys]
    exact fromKeys_nodup _
  rw [insertManyReturningKeys, (foldl_insertArticle distinct _).1, uniqueArticles_keys]
  rfl

/-- A stored row stays; a row that is new stands under one of the returned keys. -/
theorem insertManyReturningKeys_find (articles : List NewsArticle) (table : NewsArticles)
    (key : String) :
    (insertManyReturningKeys articles now table).2.find key =
      (table.find key).or (((uniqueArticles articles).find? fun article =>
        article.sourceKey = key).map fun article => { article with collectedAt := now }) := by
  have distinct : ((uniqueArticles articles).map (·.sourceKey)).Nodup := by
    rw [uniqueArticles_keys]
    exact fromKeys_nodup _
  exact (foldl_insertArticle distinct _).2 key

theorem mem_insertManyReturningKeys :
    key ∈ (insertManyReturningKeys articles now table).1 ↔
      (∃ article ∈ articles, article.sourceKey = key) ∧ table.find key = none := by
  rw [insertManyReturningKeys_keys, List.mem_filter, mem_fromKeys, List.mem_map,
    Option.isNone_iff_eq_none]

theorem insertManyReturningKeys_nodup (articles : List NewsArticle) (table : NewsArticles) :
    (insertManyReturningKeys articles now table).1.Nodup := by
  rw [insertManyReturningKeys_keys]
  exact (fromKeys_nodup _).filter _

theorem insertManyReturningKeys_kept {row : NewsArticleRecord} (stored : table.find key = some row) :
    (insertManyReturningKeys articles now table).2.find key = some row := by
  rw [insertManyReturningKeys_find, stored, Option.some_or]

theorem insertManyReturningKeys_stored :
    (∃ row, (insertManyReturningKeys articles now table).2.find key = some row) ↔
      (∃ row, table.find key = some row) ∨
        key ∈ (insertManyReturningKeys articles now table).1 := by
  rw [mem_insertManyReturningKeys, insertManyReturningKeys_find]
  have provided : (∃ article ∈ articles, article.sourceKey = key) ↔
      ∃ article, (uniqueArticles articles).find? (fun article => article.sourceKey = key) =
        some article := by
    have keys : key ∈ (uniqueArticles articles).map (·.sourceKey) ↔
        key ∈ articles.map (·.sourceKey) := by
      rw [uniqueArticles_keys, mem_fromKeys]
    rw [← Option.isSome_iff_exists, List.find?_isSome]
    simpa [List.mem_map] using keys.symm
  cases stored : table.find key with
  | some row => simp
  | none =>
      rw [provided]
      simp

/-- Every row keeps standing under its own key. -/
theorem insertManyReturningKeys_keyed (keyed : Table.Keyed (·.sourceKey) table)
    (articles : List NewsArticle) :
    Table.Keyed (·.sourceKey) (insertManyReturningKeys articles now table).2 := by
  intro key row found
  rw [insertManyReturningKeys_find] at found
  cases stored : table.find key with
  | some old =>
      rw [stored, Option.some_or] at found
      rw [← Option.some.inj found]
      exact keyed key old stored
  | none =>
      rw [stored, Option.none_or] at found
      obtain ⟨article, first, rfl⟩ := Option.map_eq_some_iff.mp found
      simpa using List.find?_some first

end Insert

end NewsArticles

end KisAutoTrading
