/-
# Routers.Replayed — the four routes behind an idempotency key

`PUT /api/account/profile`, `PUT /api/brokerage-account/connection`, and `PUT` and
`DELETE /api/signal/subscription` are generated from one template: check the access
level, claim the `Idempotency-Key` header, answer from the record if there is one,
otherwise run the handler and complete or abort the claim. `ReplayedRoute` is what
one of them fills into the template; `Exchange.step` is the template, one step for
the claim, one for the handler's transaction, one for the completion. Between two
steps of one exchange any other process may run.
-/
import KisAutoTrading.Infrastructure.RequestReplay
import KisAutoTrading.Modules.Account
import KisAutoTrading.Modules.BrokerageAccount
import KisAutoTrading.Modules.Signal

namespace KisAutoTrading

open Theory

set_option autoImplicit false

/-! ## Access levels -/

inductive AccessLevel where
  | user
  | operator
  | developer
  | administrator
  deriving DecidableEq

/-- `AccessLevel(value)`. -/
def AccessLevel.ofJson : Option Json → Option AccessLevel
  | some (.str "user") => some .user
  | some (.str "operator") => some .operator
  | some (.str "developer") => some .developer
  | some (.str "administrator") => some .administrator
  | _ => none

/-- `ACCESS_LEVEL_RANK`. -/
def AccessLevel.rank : AccessLevel → Nat
  | .user => 10
  | .operator => 20
  | .developer => 30
  | .administrator => 40

/-- `require_access_level`. -/
def requireAccessLevel (required : AccessLevel) (session : SessionData) : Except Failure Unit :=
  match AccessLevel.ofJson (session.data.get "access_level") with
  | none => .error (.http 403 "session access level is invalid")
  | some actual =>
      if actual.rank < required.rank then .error (.http 403 "insufficient access level")
      else .ok ()

/-! ## The routes -/

/-- What a route fills into the template: the text its fingerprint is taken of, and
its handler with the encoded result. -/
structure ReplayedRoute where
  fingerprintSource : String
  handler : String → Instant → Databases → Except Failure (Json × Databases)

/-- The handler's result, encoded for the record. -/
def encoded {α : Type} (encode : α → Json) (result : Except Failure (α × Databases)) :
    Except Failure (Json × Databases) :=
  match result with
  | .ok (value, dbs) => .ok (encode value, dbs)
  | .error failure => .error failure

/-- An encoded answer is that of its handler, which left the same databases. -/
theorem encoded_ok {α : Type} {encode : α → Json} {result : Except Failure (α × Databases)}
    {body : Json} {dbs : Databases} (answered : encoded encode result = .ok (body, dbs)) :
    ∃ value, result = .ok (value, dbs) := by
  unfold encoded at answered
  split at answered
  · rename_i value after
    simp only [Except.ok.injEq, Prod.mk.injEq] at answered
    exact ⟨value, by rw [answered.2]⟩
  · cases answered

/-- `jsonable_encoder` of a subscription. -/
def SignalSubscription.json (subscription : SignalSubscription) : Json := .obj [
  ("subscription_id", .str subscription.subscriptionId.str),
  ("user_id", .str subscription.userId.str),
  ("stock_code", .str subscription.stockCode),
  ("enabled", .bool subscription.enabled),
  ("revision", .int subscription.revision)]

namespace Routers

variable (P : Platform) (environ : Environ) (session : SessionData)

/-- `PUT /api/account/profile`. -/
def updateProfile (request : UpdateProfileRequest) : ReplayedRoute where
  fingerprintSource := "PUT:/profile:" ++ P.modelDumpJson (.obj [
    ("investment_experience", .str request.investmentExperience),
    ("risk_tolerance", .str request.riskTolerance),
    ("investment_goal", .str request.investmentGoal),
    ("monthly_budget", .float request.monthlyBudget)])
  handler eventId now dbs :=
    encoded UserProfile.json (KisAutoTrading.updateProfile request session eventId now dbs)

/-- `PUT /api/brokerage-account/connection`. -/
def linkDefaultConnection : ReplayedRoute where
  fingerprintSource := "PUT:/connection:" ++ ""
  handler eventId now dbs :=
    encoded P.connectionJson (P.linkDefaultConnection environ session eventId now dbs)

/-- `PUT /api/signal/subscription`. -/
def subscribe (request : SubscribeRequest) : ReplayedRoute where
  fingerprintSource :=
    "PUT:/subscription:" ++ P.modelDumpJson (.obj [("stock_code", .str request.stockCode)])
  handler eventId now dbs :=
    encoded SignalSubscription.json (P.subscribe request session eventId now dbs)

/-- `DELETE /api/signal/subscription`. -/
def unsubscribe (request : UnsubscribeRequest) : ReplayedRoute where
  fingerprintSource :=
    "DELETE:/subscription:" ++ P.modelDumpJson (.obj [("stock_code", .str request.stockCode)])
  handler eventId now dbs :=
    encoded SignalSubscription.json (P.unsubscribe request session eventId now dbs)

end Routers

/-- A request to one of the four routes. -/
inductive ReplayedRequest where
  | updateProfile (request : UpdateProfileRequest)
  | linkDefaultConnection
  | subscribe (request : SubscribeRequest)
  | unsubscribe (request : UnsubscribeRequest)

def ReplayedRequest.route (P : Platform) (environ : Environ) (session : SessionData) :
    ReplayedRequest → ReplayedRoute
  | .updateProfile request => Routers.updateProfile P session request
  | .linkDefaultConnection => Routers.linkDefaultConnection P environ session
  | .subscribe request => Routers.subscribe P session request
  | .unsubscribe request => Routers.unsubscribe P session request

/-! ## The template -/

/-- One request with what the runtime draws for it: the claim's token, the id of the
event it may enqueue, and the times its three steps are taken at. -/
structure Exchange where
  request : ReplayedRequest
  sessionId : String
  user : Uuid
  data : Dict
  idempotencyKey : Option String
  token : String
  eventId : String
  claimedAt : Instant
  handledAt : Instant
  finishedAt : Instant
  claimed_le_handled : claimedAt ≤ handledAt
  handled_le_finished : handledAt ≤ finishedAt

/-- The session `get_current_session` finds for the request. -/
def Exchange.session (exchange : Exchange) : SessionData :=
  ⟨exchange.sessionId, exchange.user.str, exchange.data⟩

/-- What the client is answered: a status with a body, or a failure. -/
abbrev Response : Type := Except Failure (Nat × Json)

inductive Phase where
  | sent
  | claimed (claim : ReplayClaim)
  | handled (claim : ReplayClaim) (outcome : Except Failure Json)
  | answered (response : Response)

/-- What the routes read and write. -/
structure ApiState where
  dbs : Databases
  replay : ReplayStore

/-- How long a claim and a record are kept. -/
def replayTtlSeconds : Int := 86400

/-- The route's two `except` clauses around the claim. -/
def claimFailure : Failure → Failure
  | .raised .requestReplayConflict message => .http 409 message
  | .raised .requestReplayInProgress message => .http 409 message
  | failure => failure

namespace Exchange

variable (P : Platform) (environ : Environ) (exchange : Exchange)

def route : ReplayedRoute := exchange.request.route P environ exchange.session

def fingerprint : String := P.sha256 (exchange.route P environ).fingerprintSource

/-- Up to the answer of `replay_store.claim`. -/
def claimStep (state : ApiState) : ApiState × Phase :=
  match requireAccessLevel .user exchange.session with
  | .error failure => (state, .answered (.error failure))
  | .ok () =>
      match exchange.idempotencyKey with
      | none => (state, .answered (.error (.http 400 "Idempotency-Key header is required")))
      | some key =>
          if key = "" then
            (state, .answered (.error (.http 400 "Idempotency-Key header is required")))
          else
            match P.claim key (exchange.fingerprint P environ) replayTtlSeconds exchange.token
              exchange.claimedAt state.replay with
            | (.error failure, replay) =>
                ({ state with replay }, .answered (.error (claimFailure failure)))
            | (.ok (.inr record), replay) =>
                ({ state with replay }, .answered (.ok (record.statusCode, record.body)))
            | (.ok (.inl claim), replay) => ({ state with replay }, .claimed claim)

/-- The handler, which commits its own transaction. -/
def handleStep (claim : ReplayClaim) (state : ApiState) : ApiState × Phase :=
  match (exchange.route P environ).handler exchange.eventId exchange.handledAt state.dbs with
  | .ok (body, dbs) => ({ state with dbs }, .handled claim (.ok body))
  | .error failure => (state, .handled claim (.error failure))

/-- `complete`, and `abort` when it or the handler raised. -/
def finishStep (claim : ReplayClaim) (outcome : Except Failure Json) (state : ApiState) :
    ApiState × Phase :=
  let aborted (failure : Failure) (replay : ReplayStore) : ApiState × Phase :=
    ({ state with replay := P.abort claim exchange.finishedAt replay },
      .answered (.error failure))
  match outcome with
  | .error failure => aborted failure state.replay
  | .ok body =>
      match P.complete claim 200 body exchange.finishedAt state.replay with
      | (.ok (), replay) => ({ state with replay }, .answered (.ok (200, body)))
      | (.error failure, replay) => aborted failure replay

/-- One step of the route. -/
def step : ApiState × Phase → ApiState × Phase
  | (state, .sent) => exchange.claimStep P environ state
  | (state, .claimed claim) => exchange.handleStep P environ claim state
  | (state, .handled claim outcome) => exchange.finishStep P claim outcome state
  | (state, .answered response) => (state, .answered response)

/-- The request after its first `n` steps. -/
def advance (n : Nat) (state : ApiState) : ApiState × Phase :=
  (exchange.step P environ)^[n] (state, .sent)

/-- The request from its first step to its answer. -/
def serve (state : ApiState) : ApiState × Phase := exchange.advance P environ 3 state

/-- The request gets to its handler. -/
def entersHandler (state : ApiState) : Prop :=
  ∃ claim, (exchange.claimStep P environ state).2 = .claimed claim

end Exchange

end KisAutoTrading
