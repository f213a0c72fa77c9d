/-
# Routers.OperatorMarketData — what the operator routes make of a failed KIS call

`_get_domestic_stock_price` and `_get_domestic_daily_candles`, and the route of the
holdings, have the same two `except` clauses around the call of their client: an unusable
response is a 502, a failed token or a transport error a 503. Whatever else the call raises
leaves the route.
-/
import KisAutoTrading.Infrastructure.KisDomesticAccount

namespace KisAutoTrading

set_option autoImplicit false

/-- How a route ends. -/
inductive Answered (α : Type) where
  | returned (value : α)
  | http (statusCode : Nat) (detail : String)
  /-- An exception that the route does not catch. -/
  | escaped (failure : KisCallFailure)

/-- The two `except` clauses. -/
def answerKisCall {α : Type} (unavailable : String) : Except KisCallFailure α → Answered α
  | .ok value => .returned value
  | .error (.response (.own _)) => .http 502 unavailable
  | .error (.token (.coordinator _)) => .http 503 unavailable
  | .error (.token .refreshInProgress) => .http 503 unavailable
  | .error (.token (.provider .requestError)) => .http 503 unavailable
  | .error (.provider .requestError) => .http 503 unavailable
  | .error failure => .escaped failure

def marketDataUnavailable : String := "KIS market data is unavailable"

def domesticAccountUnavailable : String := "KIS domestic account is unavailable"

section Routes

variable (token : Except TokenFailure KisAccessToken) (before after : Moment)

/-- `_get_domestic_stock_price`. -/
def getDomesticStockPriceAnswer (client : KisMarketDataClient) (stockCode : String)
    (answer : Except ProviderFailure ExternalResponse) : Answered KisDomesticStockPrice :=
  answerKisCall marketDataUnavailable
    (client.getDomesticStockPrice stockCode token answer before after).1

/-- `_get_domestic_daily_candles`. -/
def getDomesticDailyCandlesAnswer (client : KisMarketDataClient) (stockCode : String)
    (answer : Except ProviderFailure ExternalResponse) : Answered (List KisDomesticDailyCandle) :=
  answerKisCall marketDataUnavailable
    (client.getDomesticDailyCandles stockCode token answer before after).1

/-- `list_domestic_stock_holdings`, up to the encoding of the holdings. -/
def listDomesticStockHoldingsAnswer (client : KisDomesticAccountClient)
    (answers : Nat → Except ProviderFailure BalanceResponse) :
    Answered (List KisDomesticStockHolding) :=
  answerKisCall domesticAccountUnavailable
    (client.listDomesticStockHoldings token answers before after).1

end Routes

end KisAutoTrading
