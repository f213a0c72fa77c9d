/-
# Infrastructure.KisMarketData — prices and daily candles, read through a cache

`KisMarketDataClient`: the two response parsers, the readers and writers of the two caches,
and the two calls. A call looks into the cache, and on a miss asks for a token, asks the
provider, parses the answer and caches the result. `CachedCall` is what the two calls, and
the holdings of the account client, have in common; what the token coordinator and the
provider answer is an argument, as are the two moments at which the cache is touched.

A parser is split after `json.loads`: what `json.loads` does with the bytes, and what is
made of the value. `JsonModule` is the module `json`; its errors are told apart, because the
parsers catch `JSONDecodeError` and nothing else. The clients have a cache, as
`from_environment` builds them.
-/
import KisAutoTrading.Infrastructure.KisTokenCoordinator
import KisAutoTrading.Theory.Digits

namespace KisAutoTrading

open Theory

set_option autoImplicit false

/-! ## The module `json` -/

/-- How `json.loads` ends. -/
inductive Decoded where
  | value (json : Json)
  /-- `JSONDecodeError`: the text is no JSON. -/
  | decodeError
  /-- Another `ValueError`: bytes that are no text, or an integer of too many digits. -/
  | valueError
  /-- Another exception: the `RecursionError` of a text nested too deeply. -/
  | raised

/-- `json.loads` on text and on bytes, and `json.dumps`. A text that `json.dumps` cannot write,
because the value is nested too deeply, is one that `json.loads` raises on. -/
structure JsonModule where
  loads : String → Decoded
  loadsBytes : List UInt8 → Decoded
  dumps : Json → String

/-- `str.encode`. -/
def utf8 (text : String) : List UInt8 := text.toUTF8.data.toList

/-- What a parser or the reader of a cache raises. -/
inductive KisRaised where
  /-- The error class of the client: `KisMarketDataError` or `KisDomesticAccountError`. -/
  | own (message : String)
  | valueError
  /-- `RecursionError`. -/
  | raised
  deriving DecidableEq

/-- What a call of one of the clients raises. -/
inductive KisCallFailure where
  /-- The `ValueError` of a stock code that is none. -/
  | stockCode
  | token (failure : TokenFailure)
  | provider (failure : ProviderFailure)
  | response (failure : KisRaised)
  | cache (failure : Failure)

/-! ## Responses -/

structure KisDomesticStockPrice where
  stockCode : String
  currentPrice : String
  output : Dict

structure KisDomesticDailyCandle where
  stockCode : String
  tradingDate : String
  openPrice : String
  highPrice : String
  lowPrice : String
  closePrice : String
  volume : Nat
  deriving DecidableEq

/-- The status check and `json.loads` at the head of each parser; `what` names the response. -/
def JsonModule.loadResponse (J : JsonModule) (what : String) (statusCode : Int)
    (content : List UInt8) : Except KisRaised Json :=
  if ¬ (200 ≤ statusCode ∧ statusCode < 300) then
    .error (.own (what ++ (" returned HTTP " ++ toString statusCode)))
  else
    match J.loadsBytes content with
    | .value payload => .ok payload
    | .decodeError => .error (.own (what ++ " response is invalid"))
    | .valueError => .error .valueError
    | .raised => .error .raised

/-- `payload.get("rt_cd") == "0"`. -/
def succeeded (payload : Dict) : Bool :=
  match payload.get "rt_cd" with
  | some (.str code) => code = "0"
  | _ => false

/-- The message of a response that reports an error. -/
def Platform.errorMessage (P : Platform) (what : String) (payload : Dict) : String :=
  what ++ (" failed: " ++ P.pyStr ((payload.get "msg1").getD (.str "unknown KIS error")))

def invalidPrice : KisRaised := .own "KIS domestic stock price response is invalid"

/-- `_parse_price_response` from the payload on. -/
def Platform.pricePayload (P : Platform) (stockCode : String) :
    Json → Except KisRaised KisDomesticStockPrice
  | .obj payload =>
      if succeeded payload then
        match Dict.get payload "output" with
        | some (.obj output) =>
            match (Dict.get output "stck_prpr").bind nonemptyText with
            | some currentPrice => .ok ⟨stockCode, currentPrice, output⟩
            | none => .error invalidPrice
        | _ => .error invalidPrice
      else .error (.own (P.errorMessage "KIS domestic stock price" payload))
  | _ => .error invalidPrice

/-- `_parse_price_response`. -/
def JsonModule.parsePriceResponse (J : JsonModule) (P : Platform) (stockCode : String)
    (statusCode : Int) (content : List UInt8) : Except KisRaised KisDomesticStockPrice := do
  let payload ← J.loadResponse "KIS domestic stock price" statusCode content
  P.pricePayload stockCode payload

def invalidDailyPrice : KisRaised := .own "KIS domestic daily price response is invalid"

/-- The six texts of a row. -/
structure DailyTexts where
  tradingDate : String
  openPrice : String
  highPrice : String
  lowPrice : String
  closePrice : String
  volume : String

/-- The texts of a row that passes every check. -/
def dailyTexts : Json → Option DailyTexts
  | .obj item => do
      let tradingDate ← (Dict.get item "stck_bsop_date").bind nonemptyText
      let openPrice ← (Dict.get item "stck_oprc").bind nonemptyText
      let highPrice ← (Dict.get item "stck_hgpr").bind nonemptyText
      let lowPrice ← (Dict.get item "stck_lwpr").bind nonemptyText
      let closePrice ← (Dict.get item "stck_clpr").bind nonemptyText
      let volume ← (Dict.get item "acml_vol").bind nonemptyText
      if tradingDate.length ≠ 8 ∨ isDigit tradingDate = false ∨ isDigit volume = false then none
      else some ⟨tradingDate, openPrice, highPrice, lowPrice, closePrice, volume⟩
  | _ => none

/-- One pass of the loop; `int` may raise on a volume that passes the check. -/
def dailyCandle (stockCode : String) (item : Json) : Except KisRaised KisDomesticDailyCandle :=
  match dailyTexts item with
  | none => .error invalidDailyPrice
  | some texts =>
      match pyInt texts.volume with
      | none => .error .valueError
      | some volume => .ok {
          stockCode
          tradingDate := texts.tradingDate
          openPrice := texts.openPrice
          highPrice := texts.highPrice
          lowPrice := texts.lowPrice
          closePrice := texts.closePrice
          volume }

/-- The rows of a payload that reports success. -/
def dailyRows : Json → Option (List Json)
  | .obj payload =>
      if succeeded payload then
        match Dict.get payload "output" with
        | some (.arr rows) => some rows
        | _ => none
      else none
  | _ => none

/-- `_parse_daily_price_response` from the payload on. -/
def dailyPayload (stockCode : String) (payload : Json) :
    Except KisRaised (List KisDomesticDailyCandle) :=
  match dailyRows payload with
  | none => .error invalidDailyPrice
  | some rows => rows.mapM (dailyCandle stockCode)

/-- `_parse_daily_price_response`. -/
def JsonModule.parseDailyPriceResponse (J : JsonModule) (stockCode : String) (statusCode : Int)
    (content : List UInt8) : Except KisRaised (List KisDomesticDailyCandle) := do
  let payload ← J.loadResponse "KIS domestic daily price" statusCode content
  dailyPayload stockCode payload

/-! ## Cache entries -/

/-- A list of items is read back if every item is. -/
theorem mapM_map_pure {α β : Type} {m : Type → Type} [Monad m] [LawfulMonad m] {read : β → m α}
    {write : α → β} {values : List α} (back : ∀ value ∈ values, read (write value) = pure value) :
    (values.map write).mapM read = pure values := by
  induction values with
  | nil => simp
  | cons value rest ih =>
      have first := back value (by simp)
      have others := ih fun other member => back other (by simp [member])
      simp [first, others]

/-- What `_write_cached_price` stores. -/
def priceEntry (price : KisDomesticStockPrice) : Json := .obj [
  ("current_price", .str price.currentPrice),
  ("output", .obj price.output)]

/-- `_read_cached_price` on the value of an entry. -/
def cachedPrice (stockCode : String) : Json → Option KisDomesticStockPrice
  | .obj payload =>
      match Dict.get payload "output", Dict.get payload "current_price" with
      | some (.obj output), some (.str currentPrice) => some ⟨stockCode, currentPrice, output⟩
      | _, _ => none
  | _ => none

/-- The object `_write_cached_daily_candles` makes of a candle. -/
def candleEntry (candle : KisDomesticDailyCandle) : Json := .obj [
  ("stck_bsop_date", .str candle.tradingDate),
  ("stck_oprc", .str candle.openPrice),
  ("stck_hgpr", .str candle.highPrice),
  ("stck_lwpr", .str candle.lowPrice),
  ("stck_clpr", .str candle.closePrice),
  ("acml_vol", .str (toString candle.volume))]

/-- What `_write_cached_daily_candles` stores. -/
def candlesEntry (candles : List KisDomesticDailyCandle) : Json := .arr (candles.map candleEntry)

/-- The provider's envelope, which `_read_cached_daily_candles` puts around an entry. -/
def dailyEnvelope (rows : List Json) : Json := .obj [("rt_cd", .str "0"), ("output", .arr rows)]

section Entries

variable (J : JsonModule)

/-- `_read_cached_price` on the text it found. -/
def JsonModule.readPrice (stockCode text : String) :
    Except KisRaised (Option KisDomesticStockPrice) :=
  match J.loads text with
  | .value payload => .ok (cachedPrice stockCode payload)
  | .decodeError => .ok none
  | .valueError => .ok none
  | .raised => .error .raised

/-- `_read_cached_daily_candles` on the text it found: the list is wrapped, written and parsed
once more. -/
def JsonModule.readDailyCandles (stockCode text : String) :
    Except KisRaised (Option (List KisDomesticDailyCandle)) :=
  match J.loads text with
  | .value (.arr rows) =>
      match J.parseDailyPriceResponse stockCode 200 (utf8 (J.dumps (dailyEnvelope rows))) with
      | .ok candles => .ok (some candles)
      | .error .raised => .error .raised
      | .error _ => .ok none
  | .value _ => .ok none
  | .decodeError => .ok none
  | .valueError => .ok none
  | .raised => .error .raised

end Entries

/-! ## The calls -/

/-- A cache as a call finds it at some moment. -/
structure Moment where
  now : Instant
  store : TextStore

/-- A call through a cache: its key, how long its results are kept, how the text of an entry is
read, and what is written. -/
structure CachedCall (α : Type) where
  key : String
  ttlSeconds : Int
  read : String → Except KisRaised (Option α)
  write : α → String

namespace CachedCall

variable {α : Type} (call : CachedCall α)

/-- `_read_cached_…`. -/
def lookup (moment : Moment) : Except KisCallFailure (Option α) :=
  match KeyValueStore.get call.key moment.now moment.store with
  | .error failure => .error (.cache failure)
  | .ok none => .ok none
  | .ok (some text) =>
      match call.read text with
      | .ok cached => .ok cached
      | .error failure => .error (.response failure)

/-- `_write_cached_…`. -/
def save (value : α) (moment : Moment) : Except KisCallFailure TextStore :=
  match KeyValueStore.set call.key (call.write value) call.ttlSeconds moment.now moment.store with
  | .ok store => .ok store
  | .error failure => .error (.cache failure)

/-- The call: what it answers, and the cache at the second moment as it leaves it. -/
def run (fetch : Except KisCallFailure α) (before after : Moment) :
    Except KisCallFailure α × TextStore :=
  match call.lookup before with
  | .error failure => (.error failure, after.store)
  | .ok (some value) => (.ok value, after.store)
  | .ok none =>
      match fetch with
      | .error failure => (.error failure, after.store)
      | .ok value =>
          match call.save value after with
          | .ok store => (.ok value, store)
          | .error failure => (.error failure, after.store)

variable {call} {fetch : Except KisCallFailure α} {before after : Moment} {value : α}
  {store : TextStore}

theorem run_missed (missed : call.lookup before = .ok none)
    (answered : call.run fetch before after = (.ok value, store)) :
    fetch = .ok value ∧ call.save value after = .ok store := by
  cases fetched : fetch with
  | error failure =>
      simp only [run, missed, fetched] at answered
      cases answered
  | ok given =>
      cases saved : call.save given after with
      | error failure =>
          simp only [run, missed, fetched, saved] at answered
          cases answered
      | ok left =>
          simp only [run, missed, fetched, saved, Prod.mk.injEq, Except.ok.injEq] at answered
          obtain ⟨rfl, rfl⟩ := answered
          exact ⟨rfl, saved⟩

/-- A hit is answered without the provider, and the cache stays as it is. -/
theorem run_found (found : call.lookup before = .ok (some value)) :
    call.run fetch before after = (.ok value, after.store) := by
  simp only [run, found]

/-- What was saved is found until its time is over, if its text is read back. -/
theorem lookup_of_save {later : Instant} (saved : call.save value after = .ok store)
    (back : call.read (call.write value) = .ok (some value))
    (alive : later ≤ after.now + seconds call.ttlSeconds) :
    call.lookup ⟨later, store⟩ = .ok (some value) := by
  unfold save at saved
  split at saved
  · rename_i left stored
    cases saved
    simp only [lookup, KeyValueStore.get_of_set stored alive, back]
  · cases saved

end CachedCall

/-- `_STOCK_CODE_PATTERN.fullmatch`. -/
def isStockCode (stockCode : String) : Bool :=
  stockCode.length = 6 && isAsciiDecimal stockCode

/-- The token and the response a call is given; the parser follows. -/
def fetchWith {α : Type} (token : Except TokenFailure KisAccessToken)
    (answer : Except ProviderFailure ExternalResponse)
    (parse : Int → List UInt8 → Except KisRaised α) : Except KisCallFailure α :=
  match token with
  | .error failure => .error (.token failure)
  | .ok _ =>
      match answer with
      | .error failure => .error (.provider failure)
      | .ok response =>
          match parse response.statusCode response.content with
          | .error failure => .error (.response failure)
          | .ok value => .ok value

structure KisMarketDataClient where
  J : JsonModule
  P : Platform
  credentials : KisTokenCredentials

namespace KisMarketDataClient

variable (client : KisMarketDataClient) (stockCode : String)

/-- `_cache_key` with what `get` and `set` do under it. -/
def priceCache : CachedCall KisDomesticStockPrice where
  key := "market:domestic-price:" ++ (client.P.tokenSuffix client.credentials ++ (":" ++ stockCode))
  ttlSeconds := 2
  read := client.J.readPrice stockCode
  write price := client.J.dumps (priceEntry price)

/-- `_daily_cache_key` with what `get` and `set` do under it. -/
def dailyCache : CachedCall (List KisDomesticDailyCandle) where
  key := "market:domestic-daily:" ++ (client.P.tokenSuffix client.credentials ++ (":" ++ stockCode))
  ttlSeconds := 300
  read := client.J.readDailyCandles stockCode
  write candles := client.J.dumps (candlesEntry candles)

variable (token : Except TokenFailure KisAccessToken)
  (answer : Except ProviderFailure ExternalResponse) (before after : Moment)

/-- `get_domestic_stock_price`. -/
def getDomesticStockPrice : Except KisCallFailure KisDomesticStockPrice × TextStore :=
  if isStockCode stockCode then
    (client.priceCache stockCode).run
      (fetchWith token answer (client.J.parsePriceResponse client.P stockCode)) before after
  else (.error .stockCode, after.store)

/-- `get_domestic_daily_candles`. -/
def getDomesticDailyCandles :
    Except KisCallFailure (List KisDomesticDailyCandle) × TextStore :=
  if isStockCode stockCode then
    (client.dailyCache stockCode).run
      (fetchWith token answer (client.J.parseDailyPriceResponse stockCode)) before after
  else (.error .stockCode, after.store)

end KisMarketDataClient

end KisAutoTrading
