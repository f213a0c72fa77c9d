/-
# Kis.CacheTransparency — a cached answer is the answer

Each of the four caches has a writer and a reader of its own. `Transparent` compares the two
ways a cached call can be answered: whatever it answered when it missed the cache, it
answers again, from the cache and without the provider, for as long as the entry is kept.
`caches_transparent` says so of the prices, the daily candles and the holdings, and for the
access token that the coordinator finds the token it was given while that is unexpired.

What `json` has to do with it is `Survives`: a value that is written is read back.
-/
import KisAutoTrading.Infrastructure.KisDomesticAccount

namespace KisAutoTrading.Kis.CacheTransparency

open Theory

set_option autoImplicit false

/-- `json.loads` reads the value back that `json.dumps` wrote, from the text and from its
bytes. -/
structure Survives (J : JsonModule) (json : Json) : Prop where
  text : J.loads (J.dumps json) = .value json
  bytes : J.loadsBytes (utf8 (J.dumps json)) = .value json

/-- A call that missed the cache is answered from the cache next, with the same value; the
values with `kept` are those whose entries survive. -/
def Transparent {α : Type} (call : CachedCall α) (kept : α → Prop)
    (perform : Moment → Moment → Except KisCallFailure α × TextStore)
    (again : Moment → Moment → Except KisCallFailure α × TextStore) : Prop :=
  ∀ before after value store, call.lookup before = .ok none →
    perform before after = (.ok value, store) → kept value →
    ∀ later next, later ≤ after.now + seconds call.ttlSeconds →
      call.lookup ⟨later, store⟩ = .ok (some value) ∧
        again ⟨later, store⟩ next = (.ok value, next.store)

def PricesTransparent (client : KisMarketDataClient) : Prop :=
  ∀ stockCode token answer token' answer',
    Transparent (client.priceCache stockCode) (fun price => Survives client.J (priceEntry price))
      (client.getDomesticStockPrice stockCode token answer)
      (client.getDomesticStockPrice stockCode token' answer')

def CandlesTransparent (client : KisMarketDataClient) : Prop :=
  ∀ stockCode token answer token' answer',
    Transparent (client.dailyCache stockCode)
      (fun candles => Survives client.J (candlesEntry candles) ∧
        Survives client.J (dailyEnvelope (candles.map candleEntry)))
      (client.getDomesticDailyCandles stockCode token answer)
      (client.getDomesticDailyCandles stockCode token' answer')

def HoldingsTransparent (client : KisDomesticAccountClient) : Prop :=
  ∀ token answers token' answers',
    Transparent client.holdingsCache (fun holdings => Survives client.J (holdingsEntry holdings))
      (client.listDomesticStockHoldings token answers)
      (client.listDomesticStockHoldings token' answers')

/-- What the cache holds for a token. -/
def tokenEntry (C : Codec) (token : KisAccessToken) : Json := .obj [
  ("access_token", .str token.value),
  ("token_type", .str token.tokenType),
  ("expires_at", .str (C.isoformat token.expiresAt))]

/-- The token of an answer, once it is stored, is what any other call reads while it is
unexpired, wherever that call stands. -/
def TokensTransparent (X : TokenCoordinator.Setup) : Prop :=
  ∀ asked answer token, X.C.tokenFromAnswer asked answer = .ok token →
    X.C.loads (X.C.dumps (tokenEntry X.C token)) = .value (tokenEntry X.C token) →
    X.C.fromisoformat (X.C.isoformat token.expiresAt) = some (.aware token.expiresAt) →
    ∀ s s' call, X.perform s call (.storing token) .set = (.releasing (.refreshed token), s') →
      ∀ later stage, later ≤ s.now + seconds (tokenTtlSeconds token s.now) →
        later < token.expiresAt →
        X.afterGet later stage (KeyValueStore.get X.cacheKey later s'.cache) =
          TokenCoordinator.leave stage (.cached token)

/-! ## Calls -/

section Calls

variable {α : Type} {call : CachedCall α} {kept : α → Prop} {fetch fetch' : Except KisCallFailure α}

/-- A call is transparent whose reader reads back what its writer wrote of an answer. -/
theorem transparent_run
    (back : ∀ value, fetch = .ok value → kept value →
      call.read (call.write value) = .ok (some value)) :
    Transparent call kept (call.run fetch) (call.run fetch') := by
  intro before after value store missed answered survives later next alive
  obtain ⟨fetched, saved⟩ := CachedCall.run_missed missed answered
  have found := CachedCall.lookup_of_save saved (back value fetched survives) alive
  exact ⟨found, CachedCall.run_found found⟩

/-- A call that refuses its argument answers nothing. -/
theorem transparent_refused (failure : KisCallFailure)
    (again : Moment → Moment → Except KisCallFailure α × TextStore) :
    Transparent call kept (fun _ after => (.error failure, after.store)) again := by
  intro before after value store missed answered
  cases answered

/-- A call that looks at its argument first is transparent if what follows is. -/
theorem transparent_guarded {accepted : Prop} [Decidable accepted] {failure : KisCallFailure}
    (back : ∀ value, fetch = .ok value → kept value →
      call.read (call.write value) = .ok (some value)) :
    Transparent call kept
      (fun before after =>
        if accepted then call.run fetch before after else (.error failure, after.store))
      (fun before after =>
        if accepted then call.run fetch' before after else (.error failure, after.store)) := by
  by_cases given : accepted
  · simp only [if_pos given]
    exact transparent_run back
  · simp only [if_neg given]
    exact transparent_refused failure _

theorem fetchWith_ok {token : Except TokenFailure KisAccessToken}
    {answer : Except ProviderFailure ExternalResponse}
    {parse : Int → List UInt8 → Except KisRaised α} {value : α}
    (fetched : fetchWith token answer parse = .ok value) :
    ∃ statusCode content, parse statusCode content = .ok value := by
  unfold fetchWith at fetched
  split at fetched
  · cases fetched
  · split at fetched
    · cases fetched
    · rename_i response
      split at fetched
      · cases fetched
      · rename_i parsed
        cases fetched
        exact ⟨_, _, parsed⟩

end Calls

/-! ## Prices -/

section Prices

variable {J : JsonModule} {P : Platform} {stockCode : String} {price : KisDomesticStockPrice}

theorem pricePayload_stockCode {payload : Json}
    (parsed : P.pricePayload stockCode payload = .ok price) : price.stockCode = stockCode := by
  unfold Platform.pricePayload at parsed
  repeat' split at parsed
  all_goals cases parsed
  rfl

theorem parsePriceResponse_stockCode {statusCode : Int} {content : List UInt8}
    (parsed : J.parsePriceResponse P stockCode statusCode content = .ok price) :
    price.stockCode = stockCode := by
  obtain ⟨payload, -, priced⟩ := bind_ok parsed
  exact pricePayload_stockCode priced

theorem readPrice_back (survives : Survives J (priceEntry price)) :
    J.readPrice price.stockCode (J.dumps (priceEntry price)) = .ok (some price) := by
  simp only [JsonModule.readPrice, survives.text]
  rfl

theorem prices_transparent (client : KisMarketDataClient) : PricesTransparent client := by
  intro stockCode token answer token' answer'
  apply transparent_guarded
  intro price fetched survives
  obtain ⟨statusCode, content, parsed⟩ := fetchWith_ok fetched
  obtain rfl := parsePriceResponse_stockCode parsed
  exact readPrice_back survives

end Prices

/-! ## Daily candles -/

section Candles

variable {J : JsonModule} {stockCode : String} {candle : KisDomesticDailyCandle}
  {candles : List KisDomesticDailyCandle}

/-- What is known of a candle that was parsed. -/
structure Parsed (stockCode : String) (candle : KisDomesticDailyCandle) : Prop where
  stockCode_eq : candle.stockCode = stockCode
  date : candle.tradingDate.length = 8 ∧ isDigit candle.tradingDate = true
  prices : candle.openPrice ≠ "" ∧ candle.highPrice ≠ "" ∧ candle.lowPrice ≠ "" ∧
    candle.closePrice ≠ ""
  volume : ∃ text, isDigit text = true ∧ pyInt text = some candle.volume

theorem dailyTexts_some {item : Json} {texts : DailyTexts} (checked : dailyTexts item = some texts) :
    (texts.tradingDate.length = 8 ∧ isDigit texts.tradingDate = true) ∧
      (texts.openPrice ≠ "" ∧ texts.highPrice ≠ "" ∧ texts.lowPrice ≠ "" ∧
        texts.closePrice ≠ "") ∧ isDigit texts.volume = true := by
  cases item with
  | obj fields =>
      simp only [dailyTexts, Option.bind_eq_bind, Option.bind_eq_some_iff] at checked
      obtain ⟨date, -, openPrice, ⟨_, -, opened⟩, highPrice, ⟨_, -, high⟩, lowPrice, ⟨_, -, low⟩,
        closePrice, ⟨_, -, closed⟩, volume, -, accepted⟩ := checked
      split at accepted
      · cases accepted
      · rename_i passes
        cases accepted
        simp only [not_or, not_not, Bool.not_eq_false] at passes
        exact ⟨⟨passes.1, passes.2.1⟩, ⟨nonemptyText_ne opened, nonemptyText_ne high,
          nonemptyText_ne low, nonemptyText_ne closed⟩, passes.2.2⟩
  | _ => cases checked

theorem dailyCandle_parsed {item : Json} (parsed : dailyCandle stockCode item = .ok candle) :
    Parsed stockCode candle := by
  unfold dailyCandle at parsed
  split at parsed
  · cases parsed
  · rename_i texts checked
    split at parsed
    · cases parsed
    · rename_i volume read
      cases parsed
      obtain ⟨date, prices, digits⟩ := dailyTexts_some checked
      exact ⟨rfl, date, prices, texts.volume, digits, read⟩

/-- The object of texts that pass every check. -/
theorem dailyTexts_obj (texts : DailyTexts) (length : texts.tradingDate.length = 8)
    (dated : isDigit texts.tradingDate = true) (opened : texts.openPrice ≠ "")
    (high : texts.highPrice ≠ "") (low : texts.lowPrice ≠ "") (closed : texts.closePrice ≠ "")
    (counted : texts.volume ≠ "") (digits : isDigit texts.volume = true) :
    dailyTexts (.obj [
      ("stck_bsop_date", .str texts.tradingDate),
      ("stck_oprc", .str texts.openPrice),
      ("stck_hgpr", .str texts.highPrice),
      ("stck_lwpr", .str texts.lowPrice),
      ("stck_clpr", .str texts.closePrice),
      ("acml_vol", .str texts.volume)]) = some texts := by
  have named : texts.tradingDate ≠ "" := by
    intro empty
    simp [empty] at length
  simp [dailyTexts, Dict.get, List.lookup_cons, nonemptyText_str, named, opened, high, low, closed,
    counted, length, dated, digits]

/-- The texts that are written of a candle. -/
def textsOf (candle : KisDomesticDailyCandle) : DailyTexts where
  tradingDate := candle.tradingDate
  openPrice := candle.openPrice
  highPrice := candle.highPrice
  lowPrice := candle.lowPrice
  closePrice := candle.closePrice
  volume := toString candle.volume

theorem dailyCandle_back (parsed : Parsed stockCode candle) :
    dailyCandle stockCode (candleEntry candle) = .ok candle := by
  obtain ⟨code, ⟨length, dated⟩, ⟨opened, high, low, closed⟩, text, digits, read⟩ := parsed
  have written := isDigit_toString candle.volume
  have counted : toString candle.volume ≠ "" := by
    intro empty
    rw [empty] at written
    exact absurd written (by decide)
  have texts : dailyTexts (candleEntry candle) = some (textsOf candle) :=
    dailyTexts_obj (textsOf candle) length dated opened high low closed counted written
  have number : pyInt (textsOf candle).volume = some candle.volume := pyInt_toString digits read
  simp only [dailyCandle, texts, number]
  simp only [textsOf, ← code]

/-- The whole list survives the envelope and the second parse. -/
theorem readDailyCandles_back (parsed : ∀ candle ∈ candles, Parsed stockCode candle)
    (entry : Survives J (candlesEntry candles))
    (envelope : Survives J (dailyEnvelope (candles.map candleEntry))) :
    J.readDailyCandles stockCode (J.dumps (candlesEntry candles)) = .ok (some candles) := by
  have rows : (candles.map candleEntry).mapM (dailyCandle stockCode) = .ok candles :=
    mapM_map_pure fun candle member => dailyCandle_back (parsed candle member)
  have again : J.parseDailyPriceResponse stockCode 200
      (utf8 (J.dumps (dailyEnvelope (candles.map candleEntry)))) = .ok candles := by
    have loaded : J.loadResponse "KIS domestic daily price" 200
        (utf8 (J.dumps (dailyEnvelope (candles.map candleEntry)))) =
          .ok (dailyEnvelope (candles.map candleEntry)) := by
      simp [JsonModule.loadResponse, envelope.bytes]
    rw [JsonModule.parseDailyPriceResponse, loaded]
    exact rows
  have text : J.loads (J.dumps (candlesEntry candles)) = .value (.arr (candles.map candleEntry)) :=
    entry.text
  simp only [JsonModule.readDailyCandles, text, again]

theorem parseDailyPriceResponse_parsed {statusCode : Int} {content : List UInt8}
    (parsed : J.parseDailyPriceResponse stockCode statusCode content = .ok candles) :
    ∀ candle ∈ candles, Parsed stockCode candle := by
  obtain ⟨payload, -, rows⟩ := bind_ok parsed
  unfold dailyPayload at rows
  split at rows
  · cases rows
  · intro candle member
    obtain ⟨item, read⟩ := mem_of_mapM_ok rows candle member
    exact dailyCandle_parsed read

theorem candles_transparent (client : KisMarketDataClient) : CandlesTransparent client := by
  intro stockCode token answer token' answer'
  apply transparent_guarded
  rintro candles fetched ⟨entry, envelope⟩
  obtain ⟨statusCode, content, parsed⟩ := fetchWith_ok fetched
  exact readDailyCandles_back (parseDailyPriceResponse_parsed parsed) entry envelope

end Candles

/-! ## Holdings -/

theorem readHoldings_back {J : JsonModule} {holdings : List KisDomesticStockHolding}
    (survives : Survives J (holdingsEntry holdings)) :
    J.readHoldings (J.dumps (holdingsEntry holdings)) = .ok (some holdings) := by
  have items : (holdings.map holdingEntry).mapM cachedHolding = some holdings :=
    mapM_map_pure fun _ _ => rfl
  simp only [JsonModule.readHoldings, survives.text]
  exact congrArg Except.ok items

theorem holdings_transparent (client : KisDomesticAccountClient) : HoldingsTransparent client := by
  intro token answers token' answers'
  exact transparent_run fun holdings _ survives => readHoldings_back survives

/-! ## Tokens -/

section Tokens

variable {C : Codec} {now later : Instant} {token : KisAccessToken}

/-- What is known of a token that was accepted. -/
theorem tokenFromAnswer_ok {answer : Except ProviderFailure ExternalResponse}
    (accepted : C.tokenFromAnswer now answer = .ok token) :
    token.value ≠ "" ∧ token.tokenType ≠ "" ∧ token.expiresAt ≤ maxInstant := by
  unfold Codec.tokenFromAnswer at accepted
  split at accepted
  · cases accepted
  · split at accepted
    · unfold Codec.parseTokenResponse at accepted
      split at accepted
      · cases accepted
      · cases accepted
      · split at accepted
        · split at accepted
          · rename_i value kind valued kinded
            obtain ⟨number, -, more⟩ := bind_ok accepted
            cases number with
            | none => cases more
            | some lifetime =>
                simp only at more
                split at more
                · cases more
                · rename_i early
                  cases more
                  exact ⟨nonemptyText_ne valued, nonemptyText_ne kinded, not_lt.mp early⟩
          · cases accepted
        · cases accepted
    · cases accepted

theorem readCached_back (valued : token.value ≠ "") (kinded : token.tokenType ≠ "")
    (early : token.expiresAt ≤ maxInstant) (unexpired : later < token.expiresAt)
    (json : C.loads (C.dumps (tokenEntry C token)) = .value (tokenEntry C token))
    (iso : C.fromisoformat (C.isoformat token.expiresAt) = some (.aware token.expiresAt)) :
    C.readCached later (C.cachedText token) = .token token := by
  have loaded : C.loads (C.cachedText token) = .value (tokenEntry C token) := json
  have fields : C.cachedFields (tokenEntry C token) =
      some (.str token.value, .str token.tokenType, .aware token.expiresAt) := by
    simp [Codec.cachedFields, tokenEntry, subscript, Dict.get, List.lookup_cons, iso]
  simp only [Codec.readCached, loaded, fields, Codec.checkCached, nonemptyText_str valued,
    nonemptyText_str kinded, if_neg (not_le.mpr unexpired), if_neg (not_lt.mpr early)]

theorem tokens_transparent (X : TokenCoordinator.Setup) : TokensTransparent X := by
  intro asked answer token accepted json iso s s' call stored later stage alive unexpired
  obtain ⟨valued, kinded, early⟩ := tokenFromAnswer_ok accepted
  have read := readCached_back valued kinded early unexpired json iso
  simp only [TokenCoordinator.Setup.perform] at stored
  split at stored
  · rename_i cache saved
    cases stored
    simp only [TokenCoordinator.Setup.afterGet, KeyValueStore.get_of_set saved alive, read]
  · cases stored

end Tokens

/-- **The caches are transparent**: what a call answered afresh it answers from the cache. -/
theorem caches_transparent (market : KisMarketDataClient) (account : KisDomesticAccountClient)
    (X : TokenCoordinator.Setup) :
    PricesTransparent market ∧ CandlesTransparent market ∧ HoldingsTransparent account ∧
      TokensTransparent X :=
  ⟨prices_transparent market, candles_transparent market, holdings_transparent account,
    tokens_transparent X⟩

/-! ## A volume that changes its text -/

namespace Sample

def candle : KisDomesticDailyCandle where
  stockCode := "005930"
  tradingDate := "20260928"
  openPrice := "71000"
  highPrice := "71500"
  lowPrice := "70500"
  closePrice := "71200"
  volume := 12

/-- The provider's row, with a leading zero and full-width digits. -/
def row : Json := .obj [
  ("stck_bsop_date", .str "20260928"),
  ("stck_oprc", .str "71000"),
  ("stck_hgpr", .str "71500"),
  ("stck_lwpr", .str "70500"),
  ("stck_clpr", .str "71200"),
  ("acml_vol", .str "０１２")]

def responseText : String :=
  "\x7b\"rt_cd\":\"0\",\"output\":[\x7b\"stck_bsop_date\":\"20260928\",\"stck_oprc\":\"71000\"," ++
  "\"stck_hgpr\":\"71500\",\"stck_lwpr\":\"70500\",\"stck_clpr\":\"71200\"," ++
  "\"acml_vol\":\"０１２\"\x7d]\x7d"

def entryText : String :=
  "[\x7b\"stck_bsop_date\":\"20260928\",\"stck_oprc\":\"71000\",\"stck_hgpr\":\"71500\"," ++
  "\"stck_lwpr\":\"70500\",\"stck_clpr\":\"71200\",\"acml_vol\":\"12\"\x7d]"

def envelopeText : String :=
  "\x7b\"rt_cd\": \"0\", \"output\": [\x7b\"stck_bsop_date\": \"20260928\", " ++
  "\"stck_oprc\": \"71000\", \"stck_hgpr\": \"71500\", \"stck_lwpr\": \"70500\", " ++
  "\"stck_clpr\": \"71200\", \"acml_vol\": \"12\"\x7d]\x7d"

/-- `json.loads` on the texts above. -/
def loads (text : String) : Decoded :=
  if text = entryText then .value (candlesEntry [candle])
  else if text = envelopeText then .value (dailyEnvelope [candleEntry candle])
  else if text = responseText then .value (dailyEnvelope [row])
  else .decodeError

def json : JsonModule where
  loads := loads
  loadsBytes content :=
    if content = utf8 entryText then loads entryText
    else if content = utf8 envelopeText then loads envelopeText
    else if content = utf8 responseText then loads responseText
    else .decodeError
  dumps
    | .arr _ => entryText
    | _ => envelopeText

def market : KisMarketDataClient where
  J := json
  P := .reference (fun _ _ => 0) (.aware 0) "1970-01-01T00:00:00Z"
  credentials := ⟨"test-app-key", "test-app-secret", "sandbox"⟩

def account : KisDomesticAccountClient where
  J := json
  P := market.P
  accountCredentials := ⟨"12345678", "01", "demo"⟩

theorem texts_differ : envelopeText ≠ entryText ∧ responseText ≠ entryText ∧
    responseText ≠ envelopeText := by
  decide +kernel

theorem bytes_differ : utf8 envelopeText ≠ utf8 entryText ∧ utf8 responseText ≠ utf8 entryText ∧
    utf8 responseText ≠ utf8 envelopeText := by
  decide +kernel

theorem entry_survives : Survives json (candlesEntry [candle]) := by
  have written : json.dumps (candlesEntry [candle]) = entryText := rfl
  have loaded : loads entryText = .value (candlesEntry [candle]) := by
    simp only [loads, if_true]
  constructor
  · rw [written]
    exact loaded
  · rw [written]
    simp only [json, if_true, loaded]

theorem envelope_survives : Survives json (dailyEnvelope [candleEntry candle]) := by
  have written : json.dumps (dailyEnvelope [candleEntry candle]) = envelopeText := rfl
  have loaded : json.loads envelopeText = .value (dailyEnvelope [candleEntry candle]) := by
    simp only [json, loads, if_neg texts_differ.1, if_true]
  constructor
  · rw [written]
    exact loaded
  · rw [written, ← loaded]
    simp only [json, if_neg bytes_differ.1, if_true]

theorem response_loads : json.loadsBytes (utf8 responseText) = .value (dailyEnvelope [row]) := by
  obtain ⟨-, text, text'⟩ := texts_differ
  obtain ⟨-, bytes, bytes'⟩ := bytes_differ
  simp only [json, loads, if_neg bytes, if_neg bytes', if_neg text, if_neg text', if_true]

theorem row_parsed : dailyCandle "005930" row = .ok candle := by
  have texts : dailyTexts row = some ⟨"20260928", "71000", "71500", "70500", "71200", "０１２"⟩ :=
    rfl
  have volume : pyInt "０１２" = some 12 := by decide +kernel
  simp only [dailyCandle, texts, volume]
  rfl

theorem response_parsed :
    json.parseDailyPriceResponse "005930" 200 (utf8 responseText) = .ok [candle] := by
  have loaded : json.loadResponse "KIS domestic daily price" 200 (utf8 responseText) =
      .ok (dailyEnvelope [row]) := by
    simp [JsonModule.loadResponse, response_loads]
  have rows : [row].mapM (dailyCandle "005930") = .ok [candle] := by
    simp [row_parsed]
  rw [JsonModule.parseDailyPriceResponse, loaded]
  exact rows

def answer : Except ProviderFailure ExternalResponse := .ok ⟨200, utf8 responseText⟩

def token : Except TokenFailure KisAccessToken := .ok ⟨"token-value", "Bearer", 3600000000⟩

def before : Moment := ⟨0, Expiring.empty⟩

def kept : TextStore :=
  Expiring.set Expiring.empty ("kis-cache:" ++ (market.dailyCache "005930").key) entryText
    (seconds 300)

theorem missed : (market.dailyCache "005930").lookup before = .ok none := by
  have named : (market.dailyCache "005930").key ≠ "" := by decide +kernel
  simp only [CachedCall.lookup, KeyValueStore.get_named named]
  rfl

theorem first_answered :
    market.getDomesticDailyCandles "005930" token answer before before = (.ok [candle], kept) := by
  have code : isStockCode "005930" = true := by decide +kernel
  have named : (market.dailyCache "005930").key ≠ "" := by decide +kernel
  have fetched : fetchWith token answer (json.parseDailyPriceResponse "005930") = .ok [candle] := by
    have parsed : json.parseDailyPriceResponse "005930" (200 : Nat) (utf8 responseText) =
        .ok [candle] := response_parsed
    simp only [fetchWith, token, answer, parsed]
  have saved : (market.dailyCache "005930").save [candle] before = .ok kept := by
    have redis : KeyValueStore.redisKey (market.dailyCache "005930").key =
        .ok ("kis-cache:" ++ (market.dailyCache "005930").key) := if_neg named
    simp only [CachedCall.save, KeyValueStore.set, redis]
    rfl
  have parser : market.J = json := rfl
  simp only [KisMarketDataClient.getDomesticDailyCandles, if_pos code, CachedCall.run, missed,
    parser, fetched, saved]

/-- A coordinator that is about to store the token it was given. -/
def refreshing : TokenCoordinator.State :=
  ⟨seconds 1, Expiring.empty, Expiring.empty, fun _ => .idle, []⟩

theorem token_accepted :
    TokenCoordinator.Sample.setup.C.tokenFromAnswer (seconds 1)
      (.ok ⟨200, TokenCoordinator.Sample.content⟩) = .ok TokenCoordinator.Sample.token := by
  decide +kernel

/-- Ten seconds later the provider is down, and the leading zero of the volume is gone from the
cache: the candle is the same. A token is the same after half an hour. -/
theorem second_is_answered_from_the_cache :
    (market.getDomesticDailyCandles "005930" token (.error .requestError)
      ⟨seconds 10, kept⟩ ⟨seconds 10, kept⟩).1 = .ok [candle] ∧
    TokenCoordinator.Sample.setup.afterGet (seconds 1800) .first
      (KeyValueStore.get TokenCoordinator.Sample.setup.cacheKey (seconds 1800)
        (TokenCoordinator.Sample.setup.perform refreshing 0
          (.storing TokenCoordinator.Sample.token) .set).2.cache) =
      TokenCoordinator.leave .first (.cached TokenCoordinator.Sample.token) := by
  obtain ⟨-, candles, -, tokens⟩ :=
    caches_transparent market account TokenCoordinator.Sample.setup
  constructor
  · have again := candles "005930" token answer token (.error .requestError) before before [candle]
      kept missed first_answered ⟨entry_survives, envelope_survives⟩ (seconds 10)
      ⟨seconds 10, kept⟩ (by decide)
    rw [again.2]
  · exact tokens (seconds 1) _ _ token_accepted rfl rfl refreshing _ 0 rfl (seconds 1800) .first
      (by decide +kernel) (by decide)

end Sample

end KisAutoTrading.Kis.CacheTransparency
