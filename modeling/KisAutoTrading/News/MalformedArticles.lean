/-
# News.MalformedArticles — payloads that no article can be made of

A payload without a title or a URL is skipped: the articles of the others are made as if it
were not there. `Articles` says what is expected of a list of payloads, by the payloads in
order.

Of the fields an article is made of, one can raise. A date given as a number is converted
outside any `try`, and a number that is no date of the years 1 to 9999 ends the
comprehension. `malformed_skipped_iff` says that this is all that can go wrong, and
`collection_retried` what it costs: a retry of the job with all its symbols.
-/
import KisAutoTrading.Modules.YahooNews

namespace KisAutoTrading.News.MalformedArticles

open Theory YahooFinanceNewsProvider

set_option autoImplicit false

/-- A text that is not blank stands under the key. -/
def HasText (values : Dict) (key : String) : Prop :=
  ∃ text, values.get key = some (.str text) ∧ pyStrip text ≠ ""

/-- A non-blank title and a non-blank URL can be taken from a payload. -/
def Usable (payload : Dict) : Prop :=
  let values := articleValues payload
  HasText values "title" ∧
    (HasText values "link" ∨ HasText values "displayUrl" ∨
      ∃ canonicalUrl, values.get "canonicalUrl" = some (.obj canonicalUrl) ∧
        HasText canonicalUrl "url")

/-- What is asked of the article of a payload: its source key is the digest of the URL alone,
and its date, if it has one, has a time zone. -/
structure Describes (N : YahooFinanceNewsProvider) (payload : Dict) (article : NewsArticle) :
    Prop where
  title : yahooString ((articleValues payload).get "title") = some article.title
  sourceUrl : sourceUrlOf (articleValues payload) = some article.sourceUrl
  sourceKey : article.sourceKey = N.P.sha256 article.sourceUrl
  publishedAt : ∀ date, article.publishedAt = some date → ∃ instant, date = .aware instant

/-- One article for each payload that is usable, in the order of the payloads. -/
inductive Articles (N : YahooFinanceNewsProvider) : List Dict → List NewsArticle → Prop where
  | nil : Articles N [] []
  | skipped {payload rest articles} : ¬ Usable payload → Articles N rest articles →
      Articles N (payload :: rest) articles
  | taken {payload rest article articles} : Usable payload → Describes N payload article →
      Articles N rest articles → Articles N (payload :: rest) (article :: articles)

/-- Nothing is raised, and every usable payload has its article. -/
def SkipsMalformed (N : YahooFinanceNewsProvider) (symbol : String) (payloads : List Dict) : Prop :=
  ∃ articles, N.collectPayloads symbol payloads = .ok articles ∧ Articles N payloads articles

/-- The date of a payload, where it is a number, lies in the years 1 to 9999. -/
def Datable (payload : Dict) : Prop :=
  match publishedValue (articleValues payload) with
  | some (.int value) => firstSecond ≤ value ∧ value ≤ lastSecond
  | some (.float value) => value.Datable
  | _ => True

/-! ## Titles and URLs -/

section Fields

variable {values payload : Dict} {key : String}

theorem yahooString_isSome : (yahooString (values.get key)).isSome ↔ HasText values key := by
  unfold HasText yahooString
  cases values.get key with
  | none => simp
  | some value =>
      cases value with
      | str text =>
          by_cases blank : pyStrip text = ""
          · simp [blank]
          · simp [blank]
      | _ => simp

theorem sourceUrlOf_isSome : (sourceUrlOf values).isSome ↔
    HasText values "link" ∨ HasText values "displayUrl" ∨
      ∃ canonicalUrl, values.get "canonicalUrl" = some (.obj canonicalUrl) ∧
        HasText canonicalUrl "url" := by
  rw [← yahooString_isSome, ← yahooString_isSome]
  unfold sourceUrlOf
  cases yahooString (values.get "link") with
  | some link => simp
  | none =>
      cases yahooString (values.get "displayUrl") with
      | some displayUrl => simp
      | none =>
          cases canonical : values.get "canonicalUrl" with
          | none => simp
          | some value =>
              cases value with
              | obj canonicalUrl => simp [yahooString_isSome]
              | _ => simp

/-- A payload is usable exactly if both texts are found. -/
theorem usable_iff : Usable payload ↔
    (yahooString ((articleValues payload).get "title")).isSome ∧
      (sourceUrlOf (articleValues payload)).isSome := by
  rw [yahooString_isSome, sourceUrlOf_isSome]
  rfl

end Fields

/-! ## Dates -/

section Dates

variable {N : YahooFinanceNewsProvider} {value : Option Json}

/-- A date that was made has a time zone. -/
theorem publishedAt_aware {date : Datetime} (made : N.publishedAt value = .ok (some date)) :
    ∃ instant, date = .aware instant := by
  have aware {microseconds : Int}
      (converted : some <$> fromMicroseconds microseconds = .ok (some date)) :
      ∃ instant, date = .aware instant := by
    obtain ⟨given, exact, same⟩ := map_eq_ok.mp converted
    cases same
    exact ⟨_, fromMicroseconds_aware exact⟩
  unfold publishedAt at made
  split at made
  · exact aware made
  · exact aware made
  · rename_i number
    cases number with
    | finite seconds => exact aware made
    | _ => cases made
  · rename_i text
    obtain ⟨parsed, -, rfl⟩ := Option.map_eq_some_iff.mp (Except.ok.inj made)
    cases parsed with
    | aware instant => exact ⟨instant, rfl⟩
    | naive reading => exact ⟨reading, rfl⟩
  · cases Except.ok.inj made

/-- The date raises nothing exactly if a number is a date. -/
theorem publishedAt_ok_iff (payload : Dict) :
    (∃ date, N.publishedAt (publishedValue (articleValues payload)) = .ok date) ↔
      Datable payload := by
  have mapped (result : Except TimestampError Datetime) :
      (∃ date, some <$> result = .ok date) ↔ ∃ date, result = .ok date := by
    simp only [map_eq_ok, exists_comm, exists_eq_right']
  unfold Datable
  cases publishedValue (articleValues payload) with
  | none => simp [publishedAt]
  | some value =>
      cases value with
      | bool value =>
          have first := fromSeconds_ok_iff value.toInt
          have inside : firstSecond ≤ value.toInt ∧ value.toInt ≤ lastSecond := by
            cases value <;> decide
          simp only [publishedAt, mapped, first, inside, and_self]
      | int value => simp only [publishedAt, mapped, fromSeconds_ok_iff]
      | float value => simp only [publishedAt, mapped, fromTimestamp_ok_iff]
      | _ => simp [publishedAt]

end Dates

/-! ## One payload -/

section Payload

variable {N : YahooFinanceNewsProvider} {symbol : String} {payload : Dict}

/-- A payload that is not usable is skipped, whatever else it has. -/
theorem normalize_unusable (unusable : ¬ Usable payload) :
    N.normalizeYahooArticle symbol payload = .ok none := by
  rw [usable_iff] at unusable
  cases title : yahooString ((articleValues payload).get "title") with
  | none => simp only [normalizeYahooArticle, title]
  | some text =>
      cases url : sourceUrlOf (articleValues payload) with
      | none => simp only [normalizeYahooArticle, title, url]
      | some sourceUrl => simp [title, url] at unusable

variable (N symbol) in
/-- A usable payload has its article, unless its date raises. -/
theorem normalize_usable (usable : Usable payload) :
    (∃ article, N.normalizeYahooArticle symbol payload = .ok (some article) ∧
        Describes N payload article) ∧ Datable payload ∨
      (∃ failure, N.normalizeYahooArticle symbol payload = .error failure) ∧ ¬ Datable payload := by
  obtain ⟨hasTitle, hasUrl⟩ := usable_iff.mp usable
  obtain ⟨title, taken⟩ := Option.isSome_iff_exists.mp hasTitle
  obtain ⟨sourceUrl, url⟩ := Option.isSome_iff_exists.mp hasUrl
  cases dated : N.publishedAt (publishedValue (articleValues payload)) with
  | ok date =>
      refine .inl ⟨?_, (publishedAt_ok_iff payload).mp ⟨date, dated⟩⟩
      simp only [normalizeYahooArticle, taken, url, dated]
      refine ⟨_, rfl, taken, url, rfl, ?_⟩
      rintro other rfl
      exact publishedAt_aware dated
  | error failure =>
      refine .inr ⟨⟨failure, ?_⟩, ?_⟩
      · simp only [normalizeYahooArticle, taken, url, dated]
        rfl
      · intro datable
        obtain ⟨date, made⟩ := (publishedAt_ok_iff (N := N) payload).mpr datable
        rw [dated] at made
        cases made

end Payload

/-! ## All payloads -/

section Payloads

variable {N : YahooFinanceNewsProvider} {symbol : String} {payloads : List Dict}

/-- Along datable payloads nothing is raised, by induction on them. -/
theorem skips_of_datable (datable : ∀ payload ∈ payloads, Usable payload → Datable payload) :
    SkipsMalformed N symbol payloads := by
  induction payloads with
  | nil => exact ⟨[], rfl, .nil⟩
  | cons payload rest ih =>
      obtain ⟨articles, collected, described⟩ :=
        ih fun later member => datable later (List.mem_cons_of_mem _ member)
      by_cases usable : Usable payload
      · obtain ⟨⟨article, made, describes⟩, -⟩ | ⟨-, undatable⟩ :=
          normalize_usable N symbol usable
        · refine ⟨article :: articles, ?_, .taken usable describes described⟩
          simp only [collectPayloads, made, collected]
          rfl
        · exact absurd (datable payload List.mem_cons_self usable) undatable
      · refine ⟨articles, ?_, .skipped usable described⟩
        simp only [collectPayloads, normalize_unusable usable, collected]
        rfl

variable (N symbol) in
/-- One usable payload that cannot be dated raises, wherever it stands. -/
theorem collectPayloads_raises {payload : Dict} (member : payload ∈ payloads)
    (usable : Usable payload) (undatable : ¬ Datable payload) :
    ∃ failure, N.collectPayloads symbol payloads = .error failure := by
  induction payloads with
  | nil => cases member
  | cons first rest ih =>
      cases made : N.normalizeYahooArticle symbol first with
      | error failure =>
          refine ⟨failure, ?_⟩
          simp only [collectPayloads, made]
          rfl
      | ok article =>
          rcases List.mem_cons.mp member with rfl | later
          · obtain ⟨-, datable⟩ | ⟨⟨failure, raised⟩, -⟩ :=
              normalize_usable N symbol usable
            · exact absurd datable undatable
            · rw [made] at raised
              cases raised
          · obtain ⟨failure, raised⟩ := ih later
            refine ⟨failure, ?_⟩
            simp only [collectPayloads, made, raised]
            rfl

end Payloads

/-- **Malformed payloads are skipped one by one exactly if no usable one has a number for its
date that is no date.** -/
theorem malformed_skipped_iff (N : YahooFinanceNewsProvider) (symbol : String)
    (payloads : List Dict) :
    SkipsMalformed N symbol payloads ↔
      ∀ payload ∈ payloads, Usable payload → Datable payload := by
  refine ⟨?_, skips_of_datable⟩
  rintro ⟨articles, collected, -⟩ payload member usable
  by_contra undatable
  obtain ⟨failure, raised⟩ :=
    collectPayloads_raises N symbol member usable undatable
  rw [collected] at raised
  cases raised

/-! ## What it costs -/

section Job

variable {N : YahooFinanceNewsProvider} {S : NewsServices} {execution : DurableJobExecution}
  {store : NewsStore}

/-- For a symbol that is not blank `collect` raises nothing but the provider's errors. -/
theorem collect_error {symbol : String} {failure : Failure} (named : N.U.symbol symbol ≠ "")
    (raised : N.collect symbol = .error failure) : isYahooFinanceNewsError failure = true := by
  unfold collect at raised
  simp only [if_neg named] at raised
  split at raised
  · cases raised
    rfl
  · cases raised
    rfl
  · split at raised
    · cases raised
    · cases raised
      rfl

/-- **A usable payload that cannot be dated, under any of the symbols of a job, makes the whole
job ask for its retry.** -/
theorem collection_retried {symbols : List String} {symbol : String} {payloads : List Dict}
    {payload : Dict} (collects : S.collect = N.collect)
    (read : N.U.symbolsFromPayload execution.payload = .ok symbols) (among : symbol ∈ symbols)
    (answered : N.news symbol = .answered payloads) (member : payload ∈ payloads)
    (usable : Usable payload) (undatable : ¬ Datable payload) :
    ∃ failure, collectNews N.U S execution store =
      S.retryAndRaise execution [("symbols", textItems symbols)] failure store := by
  obtain ⟨-, -, raws⟩ := normalizedTexts_ok read
  have normal : ∀ text ∈ symbols, N.U.symbol text = text ∧ text ≠ "" := by
    intro text here
    obtain ⟨raw, notBlank, rfl⟩ := raws text here
    obtain ⟨-, named, same⟩ := N.U.normalizes_symbol raw notBlank
    exact ⟨same, named⟩
  have costs : N.collect symbol = .error (providerError symbol) := by
    obtain ⟨failure, raised⟩ :=
      collectPayloads_raises N symbol member usable undatable
    obtain ⟨same, named⟩ := normal symbol among
    simp only [collect, same, if_neg named, answered, raised]
  cases provided : symbols.mapM S.collect with
  | ok batches =>
      obtain ⟨articles, here⟩ := mapM_ok_of_mem provided symbol among
      rw [collects, costs] at here
      cases here
  | error failure =>
      obtain ⟨text, here, raised⟩ := mem_of_mapM_error provided
      rw [collects] at raised
      obtain ⟨same, named⟩ := normal text here
      have provider : isYahooFinanceNewsError failure = true :=
        collect_error (by rwa [same]) raised
      refine ⟨failure, ?_⟩
      simp only [collectNews, read, provided, provider, if_true]

end Job

namespace Sample

/-- A provider whose ticker is never asked. -/
def provider : YahooFinanceNewsProvider where
  P := Platform.reference (fun _ name => Fin.ofNat _ name.length) (.aware 0) ""
  U := ⟨id, fun _ => rfl, fun _ plain => plain, fun _ named => named⟩
  fromisoformat _ := none
  news _ := .failed

/-- An article that lacks nothing. -/
def dated : Dict :=
  [("title", .str "Apple result"), ("link", .str "https://example.test/apple"),
    ("providerPublishTime", .int 1754870400)]

/-- An article whose time is given in nanoseconds. -/
def inNanoseconds : Dict :=
  [("title", .str "Apple forecast"), ("link", .str "https://example.test/forecast"),
    ("providerPublishTime", .int 1754870400000000000)]

/-- The article that lacks nothing is lost with the other. -/
theorem one_time_costs_both : ¬ SkipsMalformed provider "AAPL" [dated, inNanoseconds] := by
  rintro ⟨articles, collected, -⟩
  have raised : provider.collectPayloads "AAPL" [dated, inNanoseconds] = .error .outOfRange := by
    decide +kernel
  rw [raised] at collected
  cases collected

end Sample

end KisAutoTrading.News.MalformedArticles
