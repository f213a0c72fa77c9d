/-
# Kis.MalformedEntries — what a reader makes of any text in its cache

Whatever text stands under the key of one of the three caches, `MissOrParsed` asks two things
of the read: it raises nothing, and what it finds, if it finds anything, is a value the parser
of the responses makes of some payload.

Two of the readers check as much as the parsers do: the candles are parsed once more, and the
strings of a holding are all that its parser asks for. The reader of a price checks types
only. And the three catch `TypeError` and `ValueError`, not the `RecursionError` of a text
that is nested too deeply. `miss_or_parsed_iff` says for which texts neither matters.
-/
import KisAutoTrading.Infrastructure.KisDomesticAccount

namespace KisAutoTrading.Kis.MalformedEntries

open Theory

set_option autoImplicit false

/-- A read under the key of a call that finds this text raises nothing, and finds nothing or
something that is produced. -/
def SafeRead {α : Type} (call : CachedCall α) (produced : α → Prop) (text : String) : Prop :=
  ∀ moment, KeyValueStore.get call.key moment.now moment.store = .ok (some text) →
    ∃ cached, call.lookup moment = .ok cached ∧ ∀ value ∈ cached, produced value

/-- The three caches; two of them have an entry for each stock code. -/
inductive Cache where
  | price (stockCode : String)
  | daily (stockCode : String)
  | holdings

section Read

variable (market : KisMarketDataClient) (account : KisDomesticAccountClient)

/-- A malformed entry is a miss. -/
def MissOrParsed (text : String) : Cache → Prop
  | .price stockCode => SafeRead (market.priceCache stockCode)
      (fun price => ∃ payload, market.P.pricePayload stockCode payload = .ok price) text
  | .daily stockCode => SafeRead (market.dailyCache stockCode)
      (fun candles => ∃ payload, dailyPayload stockCode payload = .ok candles) text
  | .holdings => SafeRead account.holdingsCache
      (fun holdings => ∃ payload fields, account.P.balancePayload payload = .ok fields ∧
        parseHoldings fields = .ok holdings) text

/-- Neither the text nor, around a list, the envelope of the candles is nested too deeply, and
a price that is given with an output is the output's own and not empty. -/
def Wellformed (text : String) : Cache → Prop
  | .price _ => market.J.loads text ≠ .raised ∧ ∀ fields output currentPrice,
      market.J.loads text = .value (.obj fields) → Dict.get fields "output" = some (.obj output) →
      Dict.get fields "current_price" = some (.str currentPrice) →
      currentPrice ≠ "" ∧ Dict.get output "stck_prpr" = some (.str currentPrice)
  | .daily _ => market.J.loads text ≠ .raised ∧ ∀ rows,
      market.J.loads text = .value (.arr rows) →
      market.J.loadsBytes (utf8 (market.J.dumps (dailyEnvelope rows))) ≠ .raised
  | .holdings => account.J.loads text ≠ .raised

end Read

/-! ## From the cache to the reader -/

section Lookup

variable {α : Type} {call : CachedCall α} {produced : α → Prop} {text : String}

/-- A moment at which the text is stored. -/
def stored (key text : String) : Moment :=
  ⟨0, Expiring.set Expiring.empty ("kis-cache:" ++ key) text 0⟩

theorem get_stored {key : String} (named : key ≠ "") :
    KeyValueStore.get key (stored key text).now (stored key text).store = .ok (some text) := by
  rw [KeyValueStore.get_named named]
  simp [stored, Expiring.get_set_self]

/-- What the read does with the text is all that counts. -/
theorem safeRead_iff (named : call.key ≠ "") :
    SafeRead call produced text ↔
      ∃ cached, call.read text = .ok cached ∧ ∀ value ∈ cached, produced value := by
  constructor
  · intro safe
    have found := @get_stored text call.key named
    obtain ⟨cached, read, sound⟩ := safe (stored call.key text) found
    simp only [CachedCall.lookup, found] at read
    split at read
    · rename_i given answered
      cases read
      exact ⟨cached, answered, sound⟩
    · cases read
  · rintro ⟨cached, read, sound⟩ moment found
    refine ⟨cached, ?_, sound⟩
    simp only [CachedCall.lookup, found, read]

/-- A key that starts with a text is not empty. -/
theorem append_ne_empty {first rest : String} (start : first ≠ "") : first ++ rest ≠ "" := by
  intro empty
  exact start (String.append_eq_empty_iff.mp empty).1

end Lookup

/-! ## Prices -/

section Prices

variable {J : JsonModule} {P : Platform} {stockCode text currentPrice : String} {output : Dict}

/-- A price is one the parser makes exactly if it is the output's own. -/
theorem pricePayload_iff :
    (∃ payload, P.pricePayload stockCode payload = .ok ⟨stockCode, currentPrice, output⟩) ↔
      currentPrice ≠ "" ∧ Dict.get output "stck_prpr" = some (.str currentPrice) := by
  constructor
  · rintro ⟨payload, parsed⟩
    unfold Platform.pricePayload at parsed
    repeat' split at parsed
    all_goals cases parsed
    rename_i given
    obtain ⟨json, own, named⟩ := Option.bind_eq_some_iff.mp given
    obtain ⟨rfl, nonempty⟩ := nonemptyText_eq_some.mp named
    exact ⟨nonempty, own⟩
  · rintro ⟨nonempty, own⟩
    have price : (Dict.get output "stck_prpr").bind nonemptyText = some currentPrice := by
      simp [own, nonemptyText_str nonempty]
    have success : succeeded [("rt_cd", .str "0"), ("output", .obj output)] = true := by
      simp [succeeded, Dict.get]
    have given : Dict.get [("rt_cd", .str "0"), ("output", .obj output)] "output" =
        some (.obj output) := by
      simp [Dict.get, List.lookup_cons]
    refine ⟨.obj [("rt_cd", .str "0"), ("output", .obj output)], ?_⟩
    simp only [Platform.pricePayload, success, given, price, if_true]

/-- An entry is read as a price exactly if it has the two fields. -/
theorem cachedPrice_eq_some {payload : Json} {price : KisDomesticStockPrice} :
    cachedPrice stockCode payload = some price ↔ ∃ fields output currentPrice,
      payload = .obj fields ∧ Dict.get fields "output" = some (.obj output) ∧
      Dict.get fields "current_price" = some (.str currentPrice) ∧
      price = ⟨stockCode, currentPrice, output⟩ := by
  constructor
  · intro read
    cases payload with
    | obj fields =>
        simp only [cachedPrice] at read
        split at read
        · rename_i output currentPrice given priced
          cases read
          exact ⟨fields, output, currentPrice, rfl, given, priced, rfl⟩
        · cases read
    | _ => cases read
  · rintro ⟨fields, output, currentPrice, rfl, given, priced, rfl⟩
    simp only [cachedPrice, given, priced]

theorem readPrice_iff :
    (∃ cached, J.readPrice stockCode text = .ok cached ∧ ∀ price ∈ cached,
      ∃ payload, P.pricePayload stockCode payload = .ok price) ↔
    J.loads text ≠ .raised ∧ ∀ fields output currentPrice,
      J.loads text = .value (.obj fields) → Dict.get fields "output" = some (.obj output) →
      Dict.get fields "current_price" = some (.str currentPrice) →
      currentPrice ≠ "" ∧ Dict.get output "stck_prpr" = some (.str currentPrice) := by
  cases loaded : J.loads text with
  | value payload =>
      simp only [JsonModule.readPrice, loaded]
      constructor
      · rintro ⟨_, ⟨⟩, sound⟩
        refine ⟨nofun, ?_⟩
        rintro fields output currentPrice ⟨⟩ given priced
        have read : cachedPrice stockCode (.obj fields) = some ⟨stockCode, currentPrice, output⟩ :=
          cachedPrice_eq_some.mpr ⟨fields, output, currentPrice, rfl, given, priced, rfl⟩
        exact pricePayload_iff.mp (sound _ read)
      · rintro ⟨-, own⟩
        refine ⟨_, rfl, ?_⟩
        intro price read
        obtain ⟨fields, output, currentPrice, rfl, given, priced, rfl⟩ :=
          cachedPrice_eq_some.mp read
        exact pricePayload_iff.mpr (own fields output currentPrice rfl given priced)
  | decodeError | valueError | raised => simp [JsonModule.readPrice, loaded]

end Prices

/-! ## Daily candles -/

section Candles

variable {J : JsonModule} {stockCode text : String}

theorem dailyCandle_ne_raised (item : Json) : dailyCandle stockCode item ≠ .error .raised := by
  unfold dailyCandle
  split
  · nofun
  · split <;> nofun

/-- The payload of a daily response raises the client's error or a `ValueError`. -/
theorem dailyPayload_ne_raised (payload : Json) : dailyPayload stockCode payload ≠ .error .raised := by
  unfold dailyPayload
  split
  · nofun
  · intro raised
    obtain ⟨item, -, here⟩ := mem_of_mapM_error raised
    exact dailyCandle_ne_raised item here

/-- With status 200 the parser lets nothing else escape than what `json.loads` does. -/
theorem parseDailyPriceResponse_raised_iff {content : List UInt8} :
    J.parseDailyPriceResponse stockCode 200 content = .error .raised ↔
      J.loadsBytes content = .raised := by
  cases loaded : J.loadsBytes content with
  | value payload =>
      simp only [JsonModule.parseDailyPriceResponse, JsonModule.loadResponse, loaded]
      exact ⟨fun raised => absurd raised (dailyPayload_ne_raised payload), nofun⟩
  | decodeError | valueError | raised =>
      simp [JsonModule.parseDailyPriceResponse, JsonModule.loadResponse, loaded, bind, Except.bind]

/-- Candles that are parsed are made of some payload. -/
theorem parseDailyPriceResponse_produced {statusCode : Int} {content : List UInt8}
    {candles : List KisDomesticDailyCandle}
    (parsed : J.parseDailyPriceResponse stockCode statusCode content = .ok candles) :
    ∃ payload, dailyPayload stockCode payload = .ok candles := by
  obtain ⟨payload, -, rows⟩ := bind_ok parsed
  exact ⟨payload, rows⟩

/-- A list is read through the parser, of which only what `json.loads` raises is not caught. -/
theorem readDailyCandles_arr {rows : List Json} (loaded : J.loads text = .value (.arr rows)) :
    (∃ cached, J.readDailyCandles stockCode text = .ok cached ∧ ∀ candles ∈ cached,
      ∃ payload, dailyPayload stockCode payload = .ok candles) ↔
    J.loadsBytes (utf8 (J.dumps (dailyEnvelope rows))) ≠ .raised := by
  rw [ne_eq, ← @parseDailyPriceResponse_raised_iff J stockCode]
  simp only [JsonModule.readDailyCandles, loaded]
  cases parsed : J.parseDailyPriceResponse stockCode 200 (utf8 (J.dumps (dailyEnvelope rows))) with
  | ok candles => simp [parseDailyPriceResponse_produced parsed]
  | error failure => cases failure <;> simp

theorem readDailyCandles_iff :
    (∃ cached, J.readDailyCandles stockCode text = .ok cached ∧ ∀ candles ∈ cached,
      ∃ payload, dailyPayload stockCode payload = .ok candles) ↔
    J.loads text ≠ .raised ∧ ∀ rows, J.loads text = .value (.arr rows) →
      J.loadsBytes (utf8 (J.dumps (dailyEnvelope rows))) ≠ .raised := by
  cases loaded : J.loads text with
  | value payload =>
      cases payload with
      | arr rows =>
          rw [readDailyCandles_arr loaded]
          simp
      | _ => simp [JsonModule.readDailyCandles, loaded]
  | decodeError | valueError | raised => simp [JsonModule.readDailyCandles, loaded]

end Candles

/-! ## Holdings -/

/-- A record of the provider that has the strings of a holding. -/
def holdingRecord (holding : KisDomesticStockHolding) : Json := .obj [
  ("pdno", .str holding.stockCode),
  ("prdt_name", .str holding.productName),
  ("hldg_qty", .str holding.holdingQuantity),
  ("ord_psbl_qty", .str holding.orderableQuantity),
  ("prpr", .str holding.currentPrice)]

/-- Every list of holdings is one that the parser makes. -/
theorem holdings_produced (P : Platform) (holdings : List KisDomesticStockHolding) :
    ∃ payload fields, P.balancePayload payload = .ok fields ∧
      parseHoldings fields = .ok holdings := by
  have records : (holdings.map holdingRecord).mapM parseHolding = .ok holdings :=
    mapM_map_pure fun _ _ => rfl
  refine ⟨.obj [("rt_cd", .str "0"), ("output1", .arr (holdings.map holdingRecord))], _, rfl, ?_⟩
  exact records

theorem readHoldings_iff {J : JsonModule} {P : Platform} {text : String} :
    (∃ cached, J.readHoldings text = .ok cached ∧ ∀ holdings ∈ cached,
      ∃ payload fields, P.balancePayload payload = .ok fields ∧
        parseHoldings fields = .ok holdings) ↔ J.loads text ≠ .raised := by
  have produced := holdings_produced P
  cases loaded : J.loads text <;> simp [JsonModule.readHoldings, loaded, produced]

/-! ## The three caches -/

section Caches

variable (market : KisMarketDataClient) (account : KisDomesticAccountClient) (text : String)

theorem price_iff (stockCode : String) : MissOrParsed market account text (.price stockCode) ↔
    Wellformed market account text (.price stockCode) :=
  (safeRead_iff (append_ne_empty (by decide))).trans readPrice_iff

theorem daily_iff (stockCode : String) : MissOrParsed market account text (.daily stockCode) ↔
    Wellformed market account text (.daily stockCode) :=
  (safeRead_iff (append_ne_empty (by decide))).trans readDailyCandles_iff

theorem holdings_iff : MissOrParsed market account text .holdings ↔
    Wellformed market account text .holdings :=
  (safeRead_iff (append_ne_empty (by decide))).trans readHoldings_iff

end Caches

/-- **A malformed entry is a miss exactly if it is not nested too deeply and, for a price, is
not one that contradicts its own output.** -/
theorem miss_or_parsed_iff (market : KisMarketDataClient) (account : KisDomesticAccountClient)
    (text : String) (cache : Cache) :
    MissOrParsed market account text cache ↔ Wellformed market account text cache := by
  cases cache with
  | price stockCode => exact price_iff market account text stockCode
  | daily stockCode => exact daily_iff market account text stockCode
  | holdings => exact holdings_iff market account text

/-! ## Two entries that are not misses -/

namespace Sample

/-- `json.loads` fails on this text in all three readers. -/
def nested : String := String.ofList (List.replicate 100000 '[')

def emptyPrice : String := "\x7b\"current_price\":\"\",\"output\":\x7b\x7d\x7d"

/-- The module `json` on the two texts. -/
def json : JsonModule where
  loads text :=
    if text = nested then .raised
    else if text = emptyPrice then .value (.obj [("current_price", .str ""), ("output", .obj [])])
    else .decodeError
  loadsBytes _ := .decodeError
  dumps _ := ""

def market : KisMarketDataClient where
  J := json
  P := .reference (fun _ _ => 0) (.aware 0) "1970-01-01T00:00:00Z"
  credentials := ⟨"test-app-key", "test-app-secret", "sandbox"⟩

def account : KisDomesticAccountClient where
  J := json
  P := market.P
  accountCredentials := ⟨"12345678", "01", "demo"⟩

theorem emptyPrice_ne_brackets (n : Nat) :
    emptyPrice ≠ String.ofList (List.replicate (n + 1) '[') := by
  intro same
  have first : emptyPrice.toList.head? = some '[' := by
    rw [same, String.toList_ofList]
    rfl
  revert first
  decide +kernel

/-- The empty price is answered, and the nested text raises. -/
theorem empty_price_and_nested_text_are_no_misses :
    ¬ MissOrParsed market account emptyPrice (.price "005930") ∧
      ∀ cache, ¬ MissOrParsed market account nested cache := by
  have raised : json.loads nested = .raised := by
    simp only [json, if_true]
  have read : json.loads emptyPrice =
      .value (.obj [("current_price", .str ""), ("output", .obj [])]) := by
    have other : emptyPrice ≠ nested := emptyPrice_ne_brackets 99999
    simp only [json, if_neg other, if_true]
  constructor
  · intro safe
    obtain ⟨-, own⟩ := (price_iff market account emptyPrice "005930").mp safe
    exact (own _ [] "" read rfl rfl).1 rfl
  · intro cache safe
    cases cache with
    | price stockCode => exact ((price_iff market account nested stockCode).mp safe).1 raised
    | daily stockCode => exact ((daily_iff market account nested stockCode).mp safe).1 raised
    | holdings => exact (holdings_iff market account nested).mp safe raised

end Sample

end KisAutoTrading.Kis.MalformedEntries
