/-
# Infrastructure.ExternalProvider — requests to a provider, with retries

`HttpExternalProviderClient.request`: up to `max_retries` further exchanges after the
first, for a transport error or a status that may pass, and only where retrying is safe.
How an exchange ends is the transport's business (`Transported`); what the loop makes of
it is `afterExchange`. `request` counts the exchanges it makes: where retrying is not
safe there is exactly one (`request_once`).
-/
import Mathlib.Data.List.Basic

namespace KisAutoTrading

set_option autoImplicit false

structure ExternalProviderConfig where
  maxRetries : Nat := 2

structure ExternalResponse where
  statusCode : Nat
  content : List UInt8

/-- How one HTTP exchange ends: with a response, an `httpx.RequestError`, or another
exception, a cancellation for instance. -/
inductive Transported where
  | response (response : ExternalResponse)
  | requestError
  | raised

inductive ProviderFailure where
  | invalidPath
  | requestError
  | raised
  /-- The assertion behind the loop. -/
  | retryLoop
  deriving DecidableEq

/-- `_is_retryable_status`. -/
def isRetryableStatus (statusCode : Nat) : Bool :=
  statusCode ∈ [408, 425, 429] || statusCode ≥ 500

/-- `retries_allowed`: what the caller says, or by the method. -/
def retriesAllowed (method : String) (retrySafe : Option Bool) : Bool :=
  retrySafe.getD (method ∈ ["GET", "HEAD", "OPTIONS"])

namespace ExternalProviderConfig

variable (config : ExternalProviderConfig)

/-- The loop after an exchange: what it returns or raises, or `none` to try again. -/
def afterExchange (allowed : Bool) (attempt : Nat) :
    Transported → Option (Except ProviderFailure ExternalResponse)
  | .raised => some (.error .raised)
  | .requestError =>
      if !allowed || attempt = config.maxRetries then some (.error .requestError) else none
  | .response response =>
      if !allowed || !isRetryableStatus response.statusCode || attempt = config.maxRetries then
        some (.ok response)
      else none

/-- The loop over the remaining attempts, with the number of exchanges it makes. -/
def requestLoop (allowed : Bool) (exchange : Nat → Transported) :
    Nat → Nat → Nat × Except ProviderFailure ExternalResponse
  | 0, _ => (0, .error .retryLoop)
  | remaining + 1, attempt =>
      match config.afterExchange allowed attempt (exchange attempt) with
      | some result => (1, result)
      | none =>
          let (sent, result) := requestLoop allowed exchange remaining (attempt + 1)
          (sent + 1, result)

/-- `request`; the method is given in upper case. -/
def request (method path : String) (retrySafe : Option Bool) (exchange : Nat → Transported) :
    Nat × Except ProviderFailure ExternalResponse :=
  if path.toList.head? ≠ some '/' then (0, .error .invalidPath)
  else config.requestLoop (retriesAllowed method retrySafe) exchange (config.maxRetries + 1) 0

/-- Where retrying is not safe, every exchange ends the loop. -/
theorem afterExchange_unsafe (attempt : Nat) (answer : Transported) :
    (config.afterExchange false attempt answer).isSome := by
  cases answer <;> simp [afterExchange]

/-- Where retrying is not safe there is one exchange, however it ends. -/
theorem request_once (method : String) {path : String} (rooted : path.toList.head? = some '/')
    (exchange : Nat → Transported) :
    (config.request method path (some false) exchange).1 = 1 := by
  obtain ⟨result, ended⟩ :=
    Option.isSome_iff_exists.mp (config.afterExchange_unsafe 0 (exchange 0))
  simp [request, rooted, retriesAllowed, requestLoop, ended]

end ExternalProviderConfig

end KisAutoTrading
