/-
# Infrastructure.KisDomesticAccount — the holdings of the account, page by page

`KisDomesticAccountClient`: the response parser, the parser of the holdings, the cache of
the whole list, and the call that collects up to ten pages. A response says with its
`tr_cont` header whether another page follows, which is then asked for with the two context
fields of its payload. What the provider answers to the requests, in order, is an argument.
`listWithRequests` is the same call with the requests it sends.
-/
import KisAutoTrading.Infrastructure.KisMarketData
import KisAutoTrading.Modules.BrokerageAccount
import KisAutoTrading.Modules.Portfolio

namespace KisAutoTrading

open Theory

set_option autoImplicit false

/-- A response with its `tr_cont` header. -/
structure BalanceResponse extends ExternalResponse where
  trCont : Option String

def maxBalancePages : Nat := 10

def invalidBalance : KisRaised := .own "KIS domestic balance response is invalid"

/-! ## Responses -/

/-- `_parse_response` from the payload on. -/
def Platform.balancePayload (P : Platform) : Json → Except KisRaised Dict
  | .obj payload =>
      if succeeded payload then .ok payload
      else .error (.own (P.errorMessage "KIS domestic balance" payload))
  | _ => .error invalidBalance

/-- `_parse_response`. -/
def JsonModule.parseResponse (J : JsonModule) (P : Platform) (statusCode : Int)
    (content : List UInt8) : Except KisRaised Dict := do
  let payload ← J.loadResponse "KIS domestic balance" statusCode content
  P.balancePayload payload

/-- `_required_string`. -/
def requiredString (payload : Dict) (name : String) : Except KisRaised String :=
  match payload.get name with
  | some (.str value) => .ok value
  | _ => .error invalidBalance

/-- One pass of the loop of `_parse_holdings`. -/
def parseHolding : Json → Except KisRaised KisDomesticStockHolding
  | .obj record => do
      let stockCode ← requiredString record "pdno"
      let productName ← requiredString record "prdt_name"
      let holdingQuantity ← requiredString record "hldg_qty"
      let orderableQuantity ← requiredString record "ord_psbl_qty"
      let currentPrice ← requiredString record "prpr"
      return { stockCode, productName, holdingQuantity, orderableQuantity, currentPrice }
  | _ => .error invalidBalance

/-- `_parse_holdings`. -/
def parseHoldings (payload : Dict) : Except KisRaised (List KisDomesticStockHolding) :=
  match payload.get "output1" with
  | some (.arr records) => records.mapM parseHolding
  | _ => .error invalidBalance

/-! ## Cache entries -/

/-- The object `_write_cached_holdings` makes of a holding. -/
def holdingEntry (holding : KisDomesticStockHolding) : Json := .obj [
  ("stock_code", .str holding.stockCode),
  ("product_name", .str holding.productName),
  ("holding_quantity", .str holding.holdingQuantity),
  ("orderable_quantity", .str holding.orderableQuantity),
  ("current_price", .str holding.currentPrice)]

/-- What `_write_cached_holdings` stores. -/
def holdingsEntry (holdings : List KisDomesticStockHolding) : Json :=
  .arr (holdings.map holdingEntry)

/-- `_required_holding_string`; `none` is its `TypeError`. -/
def requiredHoldingString (value : Json) (name : String) : Option String :=
  match value with
  | .obj fields =>
      match Dict.get fields name with
      | some (.str field) => some field
      | _ => none
  | _ => none

/-- A cached holding. -/
def cachedHolding (item : Json) : Option KisDomesticStockHolding := do
  let stockCode ← requiredHoldingString item "stock_code"
  let productName ← requiredHoldingString item "product_name"
  let holdingQuantity ← requiredHoldingString item "holding_quantity"
  let orderableQuantity ← requiredHoldingString item "orderable_quantity"
  let currentPrice ← requiredHoldingString item "current_price"
  return { stockCode, productName, holdingQuantity, orderableQuantity, currentPrice }

/-- `_read_cached_holdings` on the value of an entry. -/
def cachedHoldings : Json → Option (List KisDomesticStockHolding)
  | .arr items => items.mapM cachedHolding
  | _ => none

/-- `_read_cached_holdings` on the text it found. -/
def JsonModule.readHoldings (J : JsonModule) (text : String) :
    Except KisRaised (Option (List KisDomesticStockHolding)) :=
  match J.loads text with
  | .value payload => .ok (cachedHoldings payload)
  | .decodeError => .ok none
  | .valueError => .ok none
  | .raised => .error .raised

/-! ## The call -/

structure KisDomesticAccountClient where
  J : JsonModule
  P : Platform
  accountCredentials : KisAccountCredentials

namespace KisDomesticAccountClient

variable (client : KisDomesticAccountClient)

/-- `_holdings_cache_key` with what `get` and `set` do under it. -/
def holdingsCache : CachedCall (List KisDomesticStockHolding) where
  key := "portfolio:domestic-stock-holdings:" ++
    String.ofList ((client.P.sha256 (client.accountCredentials.environment ++
      (":" ++ (client.accountCredentials.accountNumber ++
        (":" ++ client.accountCredentials.accountProductCode))))).toList.take 16)
  ttlSeconds := 15
  read := client.J.readHoldings
  write holdings := client.J.dumps (holdingsEntry holdings)

/-- One page: its holdings, and whether another follows. -/
def page (response : BalanceResponse) : Except KisRaised (List KisDomesticStockHolding × Bool) := do
  let payload ← client.J.parseResponse client.P response.statusCode response.content
  let holdings ← parseHoldings payload
  if response.trCont ∈ [some "M", some "F"] then
    let _ ← requiredString payload "ctx_area_fk100"
    let _ ← requiredString payload "ctx_area_nk100"
    return (holdings, true)
  else return (holdings, false)

/-- The loop over the pages, with the pages that may still be asked for and the holdings
collected so far. -/
def collect (answers : Nat → Except ProviderFailure BalanceResponse) :
    Nat → Nat → List KisDomesticStockHolding →
      Except KisCallFailure (List KisDomesticStockHolding)
  | 0, _, _ => .error (.response (.own "KIS domestic balance pagination limit exceeded"))
  | remaining + 1, number, holdings =>
      match answers number with
      | .error failure => .error (.provider failure)
      | .ok response =>
          match client.page response with
          | .error failure => .error (.response failure)
          | .ok (more, false) => .ok (holdings ++ more)
          | .ok (more, true) => collect answers remaining (number + 1) (holdings ++ more)

/-- `list_domestic_stock_holdings`. -/
def listDomesticStockHoldings (token : Except TokenFailure KisAccessToken)
    (answers : Nat → Except ProviderFailure BalanceResponse) (before after : Moment) :
    Except KisCallFailure (List KisDomesticStockHolding) × TextStore :=
  let fetch := match token with
    | .error failure => .error (.token failure)
    | .ok _ => client.collect answers maxBalancePages 0 []
  client.holdingsCache.run fetch before after

/-! ### The requests -/

/-- What distinguishes the requests of one call: the context and the continuation flag. -/
structure PageContext where
  contextFk : String
  contextNk : String
  continuation : String
  deriving DecidableEq

/-- Before the first page. -/
def PageContext.start : PageContext := ⟨"", "", ""⟩

structure BalanceRequest where
  headers : List (String × String)
  params : List (String × String)
  deriving DecidableEq

/-- The requests that were sent, and what the pages came to. -/
abbrev PagesResult : Type :=
  List BalanceRequest × Except KisCallFailure (List KisDomesticStockHolding)

section Requests

variable (tokenCredentials : KisTokenCredentials) (token : KisAccessToken)

/-- `_headers`. -/
def headers (continuation : String) : List (String × String) := [
  ("content-type", "application/json"),
  ("accept", "text/plain"),
  ("charset", "UTF-8"),
  ("authorization", token.tokenType ++ (" " ++ token.value)),
  ("appkey", tokenCredentials.appKey),
  ("appsecret", tokenCredentials.appSecret),
  ("tr_id", if client.accountCredentials.environment = "real" then "TTTC8434R" else "VTTC8434R"),
  ("custtype", "P"),
  ("tr_cont", continuation)]

/-- `_params`. -/
def params (contextFk contextNk : String) : List (String × String) := [
  ("CANO", client.accountCredentials.accountNumber),
  ("ACNT_PRDT_CD", client.accountCredentials.accountProductCode),
  ("AFHR_FLPR_YN", "N"),
  ("OFL_YN", ""),
  ("INQR_DVSN", "01"),
  ("UNPR_DVSN", "01"),
  ("FUND_STTL_ICLD_YN", "N"),
  ("FNCG_AMT_AUTO_RDPT_YN", "N"),
  ("PRCS_DVSN", "00"),
  ("CTX_AREA_FK100", contextFk),
  ("CTX_AREA_NK100", contextNk)]

def request (context : PageContext) : BalanceRequest where
  headers := client.headers tokenCredentials token context.continuation
  params := client.params context.contextFk context.contextNk

/-- One page: its holdings, and the context of the next request if another page follows. -/
def readPage (response : BalanceResponse) :
    Except KisRaised (List KisDomesticStockHolding × Option PageContext) := do
  let payload ← client.J.parseResponse client.P response.statusCode response.content
  let holdings ← parseHoldings payload
  if response.trCont ∈ [some "M", some "F"] then
    let contextFk ← requiredString payload "ctx_area_fk100"
    let contextNk ← requiredString payload "ctx_area_nk100"
    return (holdings, some ⟨contextFk, contextNk, "N"⟩)
  else return (holdings, none)

/-- The loop over the pages, with the requests it sends. -/
def collectPages (answers : Nat → Except ProviderFailure BalanceResponse) :
    Nat → Nat → PageContext → List KisDomesticStockHolding → PagesResult
  | 0, _, _, _ => ([], .error (.response (.own "KIS domestic balance pagination limit exceeded")))
  | remaining + 1, number, context, holdings =>
      let rest : PagesResult := match answers number with
        | .error failure => ([], .error (.provider failure))
        | .ok response =>
            match client.readPage response with
            | .error failure => ([], .error (.response failure))
            | .ok (more, none) => ([], .ok (holdings ++ more))
            | .ok (more, some next) =>
                collectPages answers remaining (number + 1) next (holdings ++ more)
      (client.request tokenCredentials token context :: rest.1, rest.2)

end Requests

/-- `list_domestic_stock_holdings` with the requests it sends. -/
def listWithRequests (tokenCredentials : KisTokenCredentials)
    (token : Except TokenFailure KisAccessToken)
    (answers : Nat → Except ProviderFailure BalanceResponse) (before after : Moment) :
    List BalanceRequest × Except KisCallFailure (List KisDomesticStockHolding) × TextStore :=
  let fetched : PagesResult := match token with
    | .error failure => ([], .error (.token failure))
    | .ok token => client.collectPages tokenCredentials token answers maxBalancePages 0 .start []
  (match client.holdingsCache.lookup before with
    | .ok none => fetched.1
    | _ => [],
    client.holdingsCache.run fetched.2 before after)

/-! ### The two descriptions of the call -/

section Requests

variable {client} {tokenCredentials : KisTokenCredentials} {token : KisAccessToken}

/-- `page` says of the next context only that there is one. -/
theorem page_eq (response : BalanceResponse) :
    client.page response =
      (client.readPage response).map fun page => (page.1, page.2.isSome) := by
  simp only [page, readPage]
  cases client.J.parseResponse client.P response.statusCode response.content with
  | error failure => rfl
  | ok payload =>
      simp only [bind, Except.bind]
      cases parseHoldings payload with
      | error failure => rfl
      | ok holdings =>
          by_cases more : response.trCont ∈ [some "M", some "F"]
          · simp only [if_pos more]
            cases requiredString payload "ctx_area_fk100" with
            | error failure => rfl
            | ok contextFk => cases requiredString payload "ctx_area_nk100" <;> rfl
          · simp only [if_neg more]
            rfl

theorem collectPages_snd (answers : Nat → Except ProviderFailure BalanceResponse)
    (remaining number : Nat) (context : PageContext) (holdings : List KisDomesticStockHolding) :
    (client.collectPages tokenCredentials token answers remaining number context holdings).2 =
      client.collect answers remaining number holdings := by
  induction remaining generalizing number context holdings with
  | zero => rfl
  | succ remaining ih =>
      simp only [collectPages, collect]
      cases answers number with
      | error failure => rfl
      | ok response =>
          simp only [page_eq]
          rcases client.readPage response with failure | ⟨more, _ | next⟩
          · rfl
          · rfl
          · exact ih (number + 1) next (holdings ++ more)

/-- The call and what it leaves do not depend on whether the requests are recorded. -/
theorem listWithRequests_snd (token : Except TokenFailure KisAccessToken)
    (answers : Nat → Except ProviderFailure BalanceResponse) (before after : Moment) :
    (client.listWithRequests tokenCredentials token answers before after).2 =
      client.listDomesticStockHoldings token answers before after := by
  cases token with
  | error failure => rfl
  | ok token => simp only [listWithRequests, listDomesticStockHoldings, collectPages_snd]

end Requests

end KisDomesticAccountClient

end KisAutoTrading
