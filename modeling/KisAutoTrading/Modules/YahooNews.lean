/-
# Modules.YahooNews — articles from the payloads of a provider

`YahooFinanceNewsProvider` for one symbol. A payload has two shapes, the values directly or
under `content`, and most fields have fallbacks. The comprehension of `_collect` asks for the
articles one after another, and whatever one of them raises ends it; `collect` answers that
with a provider error for the symbol.

The ticker and `datetime.fromisoformat` are parameters, and so is how long the ticker takes:
it answers, fails or is given up.
-/
import KisAutoTrading.Application.DurableJobHandler
import KisAutoTrading.Theory.Timestamp

namespace KisAutoTrading

open Theory

set_option autoImplicit false

/-- What comes of `yfinance.Ticker(symbol).news or []`. -/
inductive TickerNews where
  | answered (payloads : List Dict)
  | timedOut
  | failed

structure YahooFinanceNewsProvider where
  P : Platform
  U : Upper
  /-- `datetime.fromisoformat`, where it raises no `ValueError`. -/
  fromisoformat : String → Option Datetime
  news : String → TickerNews

/-! ## Fields -/

/-- `_string`: what is left of a text without the blanks around it, if anything is. -/
def yahooString : Option Json → Option String
  | some (.str value) => if pyStrip value = "" then none else some (pyStrip value)
  | _ => none

/-- `first or second`, of what two keys are looked up as. -/
def firstTruthy (first second : Option Json) : Option Json :=
  if first.any Json.truthy then first else second

/-- The mapping that has the fields of the article. -/
def articleValues (payload : Dict) : Dict :=
  match payload.get "content" with
  | some (.obj content) => content
  | _ => payload

/-- `source_url`: the link, the URL for display or the canonical one. -/
def sourceUrlOf (values : Dict) : Option String :=
  match (yahooString (values.get "link")).or (yahooString (values.get "displayUrl")) with
  | some sourceUrl => some sourceUrl
  | none =>
      match values.get "canonicalUrl" with
      | some (.obj canonicalUrl) => yahooString (Dict.get canonicalUrl "url")
      | _ => none

/-- `_publisher`. -/
def yahooPublisher : Option Json → Option String
  | some (.obj value) =>
      (yahooString (Dict.get value "displayName")).or (yahooString (Dict.get value "name"))
  | value => yahooString value

/-- The value the publication date is made of. -/
def publishedValue (values : Dict) : Option Json :=
  firstTruthy (values.get "providerPublishTime") (values.get "pubDate")

namespace YahooFinanceNewsProvider

variable (N : YahooFinanceNewsProvider)

/-- `parsed.replace(tzinfo=UTC) if parsed.tzinfo is None else parsed`. -/
def withUtc : Datetime → Datetime
  | .naive reading => .aware reading
  | .aware instant => .aware instant

/-- `_published_at`; a truth value is an integer too. -/
def publishedAt : Option Json → Except TimestampError (Option Datetime)
  | some (.bool value) => some <$> fromSeconds value.toInt
  | some (.int value) => some <$> fromSeconds value
  | some (.float value) => some <$> fromTimestamp value
  | some (.str value) => .ok ((N.fromisoformat value).map withUtc)
  | _ => .ok none

/-! ## Articles -/

/-- `normalize_yahoo_article`. -/
def normalizeYahooArticle (symbol : String) (payload : Dict) :
    Except TimestampError (Option NewsArticle) :=
  let values := articleValues payload
  match yahooString (values.get "title"), sourceUrlOf values with
  | some title, some sourceUrl => do
      let publishedAt ← N.publishedAt (publishedValue values)
      return some {
        sourceKey := N.P.sha256 sourceUrl
        sourceUrl
        provider := "yahoo"
        title
        symbol := N.U.symbol symbol
        publishedAt
        publisher := yahooPublisher (firstTruthy (values.get "publisher") (values.get "provider"))
        content := ((yahooString (values.get "summary")).or
          (yahooString (values.get "description"))).or (some title) }
  | _, _ => .ok none

/-- `_collect`, once the ticker has answered: the articles of the payloads, until one raises. -/
def collectPayloads (symbol : String) : List Dict → Except TimestampError (List NewsArticle)
  | [] => .ok []
  | payload :: rest => do
      let article ← N.normalizeYahooArticle symbol payload
      let articles ← collectPayloads symbol rest
      return article.toList ++ articles

/-- `YahooFinanceNewsProviderError`, raised from whatever was raised. -/
def providerError (symbol : String) : Failure :=
  .raised .yahooFinanceNewsProviderError ("Yahoo Finance request failed for " ++ symbol)

/-- `collect`. -/
def collect (symbol : String) : Except Failure (List NewsArticle) :=
  let normalizedSymbol := N.U.symbol symbol
  if normalizedSymbol = "" then .error (.raised .valueError "symbol must not be empty")
  else
    match N.news normalizedSymbol with
    | .timedOut =>
        .error (.raised .yahooFinanceNewsTimeoutError
          ("Yahoo Finance timed out for " ++ normalizedSymbol))
    | .failed => .error (providerError normalizedSymbol)
    | .answered payloads =>
        match N.collectPayloads normalizedSymbol payloads with
        | .ok articles => .ok articles
        | .error _ => .error (providerError normalizedSymbol)

end YahooFinanceNewsProvider

end KisAutoTrading
