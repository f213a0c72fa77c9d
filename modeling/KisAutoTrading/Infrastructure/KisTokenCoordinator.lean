/-
# Infrastructure.KisTokenCoordinator — one OAuth token for all replicas

`KisTokenCoordinator.get_access_token` as a process: look into the cache; if there is no
valid token, take the refresh lock, look again, request a token and cache it, and release
the lock in any case; whoever does not get the lock polls the cache until its deadline.
`Phase` is where a call stands, `perform` one command of it: a cache or lock command,
sending the request, its answer. Between two commands every other call may run. Redis may
fail on the cache; the two lock commands are taken to be carried out.

A call's lock token is drawn when it acquires; calls are numbered and `tokens` is what
each draws. `json` and `datetime` are `Codec`. The `total_seconds()` of a lifetime is
taken as the exact quotient.
-/
import KisAutoTrading.Infrastructure.ExternalProvider
import KisAutoTrading.Infrastructure.RedisStores
import KisAutoTrading.Theory.Timestamp

namespace KisAutoTrading

open Theory

set_option autoImplicit false

/-- What `json.loads` does: a value, a `ValueError` (`JSONDecodeError` is one), or another
exception, such as the `RecursionError` of a text nested too deeply. -/
inductive Loaded where
  | value (json : Json)
  | valueError
  | raised

/-- `json.loads` on text and on bytes, `json.dumps`, and the ISO conversions; `none` is a
`ValueError`. -/
structure Codec where
  loads : String → Loaded
  loadsBytes : List UInt8 → Loaded
  dumps : Json → String
  isoformat : Instant → String
  fromisoformat : String → Option Datetime

/-- The last instant a `datetime` can hold, in UTC. -/
def maxInstant : Instant := 253402300799999999

structure KisTokenCredentials where
  appKey : String
  appSecret : String
  scope : String := "default"

structure KisAccessToken where
  value : String
  tokenType : String
  expiresAt : Instant
  deriving DecidableEq

inductive TokenFailure where
  /-- `KisTokenCoordinatorError`. -/
  | coordinator (message : String)
  /-- `KisTokenRefreshInProgress`. -/
  | refreshInProgress
  | provider (failure : ProviderFailure)
  | overflow
  | raised
  deriving DecidableEq

def tokenPath : String := "/oauth2/tokenP"
def tokenExpirySafetySeconds : Int := 60
def refreshLockTtlSeconds : Int := 30

namespace Platform

variable (P : Platform) (credentials : KisTokenCredentials)

def tokenSuffix : String :=
  String.ofList ((P.sha256 (credentials.scope ++ (":" ++ credentials.appKey))).toList.take 16)

def tokenCacheKey : String := "oauth:token:" ++ P.tokenSuffix credentials

def refreshLockKey : String := "oauth:refresh:" ++ P.tokenSuffix credentials

end Platform

/-- `payload[key]`; `none` is its `KeyError` or `TypeError`. -/
def subscript (payload : Json) (key : String) : Option Json :=
  match payload with
  | .obj fields => Dict.get fields key
  | _ => none

/-- A non-empty `str`. -/
def nonemptyText : Json → Option String
  | .str text => if text = "" then none else some text
  | _ => none

theorem nonemptyText_str {text : String} (some : text ≠ "") :
    nonemptyText (.str text) = .some text := if_neg some

theorem nonemptyText_eq_some {json : Json} {text : String} :
    nonemptyText json = some text ↔ json = .str text ∧ text ≠ "" := by
  constructor
  · intro read
    cases json with
    | str value =>
        by_cases empty : value = ""
        · simp [nonemptyText, empty] at read
        · simp only [nonemptyText, if_neg empty, Option.some.injEq] at read
          exact read ▸ ⟨rfl, empty⟩
    | _ => cases read
  · rintro ⟨rfl, named⟩
    exact nonemptyText_str named

theorem nonemptyText_ne {json : Json} {text : String} (read : nonemptyText json = some text) :
    text ≠ "" :=
  (nonemptyText_eq_some.mp read).2

/-! ## The cached value -/

/-- What `_read_cached_token` makes of a value it found. -/
inductive Reading where
  | token (token : KisAccessToken)
  /-- Not a token, or no longer one: the key is deleted next. -/
  | invalid
  | raised
  deriving DecidableEq

namespace Codec

variable (C : Codec)

/-- The three subscripts and `fromisoformat`, inside the `try`. -/
def cachedFields (payload : Json) : Option (Json × Json × Datetime) := do
  let accessToken ← subscript payload "access_token"
  let tokenType ← subscript payload "token_type"
  let expiresAt ← subscript payload "expires_at"
  let expiresAt ← match expiresAt with
    | .str text => C.fromisoformat text
    | _ => none
  return (accessToken, tokenType, expiresAt)

/-- The checks behind the `try`; `astimezone(UTC)` can overflow. -/
def checkCached (now : Instant) : Json × Json × Datetime → Reading
  | (accessToken, tokenType, .aware expiresAt) =>
      match nonemptyText accessToken, nonemptyText tokenType with
      | some value, some tokenType =>
          if expiresAt ≤ now then .invalid
          else if maxInstant < expiresAt then .raised
          else .token ⟨value, tokenType, expiresAt⟩
      | _, _ => .invalid
  | (_, _, .naive _) => .invalid

/-- `_read_cached_token` on a value found in the cache. -/
def readCached (now : Instant) (value : String) : Reading :=
  match C.loads value with
  | .valueError => .invalid
  | .raised => .raised
  | .value payload =>
      match C.cachedFields payload with
      | none => .invalid
      | some fields => checkCached now fields

/-- The text `_request_and_cache_token` stores. -/
def cachedText (token : KisAccessToken) : String :=
  C.dumps (.obj [
    ("access_token", .str token.value),
    ("token_type", .str token.tokenType),
    ("expires_at", .str (C.isoformat token.expiresAt))])

theorem checkCached_invalid_mono {now later : Instant} {fields : Json × Json × Datetime}
    (invalid : checkCached now fields = .invalid) (order : now ≤ later) :
    checkCached later fields = .invalid := by
  obtain ⟨accessToken, tokenType, expiresAt⟩ := fields
  cases expiresAt with
  | naive reading => rfl
  | aware expiry =>
      simp only [checkCached] at invalid ⊢
      split at invalid
      · rename_i value kind
        by_cases expired : expiry ≤ now
        · simp only [le_trans expired order, if_true]
        · rw [if_neg expired] at invalid
          split at invalid <;> cases invalid
      · rfl

/-- What is no token stays none: the text does not change and expiry is for good. -/
theorem readCached_invalid_mono {now later : Instant} {value : String}
    (invalid : C.readCached now value = .invalid) (order : now ≤ later) :
    C.readCached later value = .invalid := by
  unfold readCached at invalid ⊢
  cases loaded : C.loads value with
  | valueError => rfl
  | raised => simp [loaded] at invalid
  | value payload =>
      simp only [loaded] at invalid ⊢
      cases read : C.cachedFields payload with
      | none => rfl
      | some fields =>
          simp only [read] at invalid ⊢
          exact checkCached_invalid_mono invalid order

end Codec

/-! ## The response -/

/-- An integer too large for `float`, which `math.isfinite` refuses to look at. -/
def overflowsFloat (value : Int) : Bool := 2 ^ 1024 - 2 ^ 970 ≤ value.natAbs

/-- The value of `expires_in`, if it is a positive finite number. -/
def positiveNumber : Json → Except TokenFailure (Option ℚ)
  | .int value =>
      if overflowsFloat value then .error .overflow
      else if value ≤ 0 then .ok none
      else .ok (some value)
  | .float (.finite value) => if value ≤ 0 then .ok none else .ok (some value)
  | _ => .ok none

def invalidResponse : TokenFailure := .coordinator "KIS token response is invalid"

/-- `_parse_token_response`; the clock is read for the expiry. -/
def Codec.parseTokenResponse (C : Codec) (content : List UInt8) (now : Instant) :
    Except TokenFailure KisAccessToken :=
  match C.loadsBytes content with
  | .valueError => .error invalidResponse
  | .raised => .error .raised
  | .value payload =>
      match subscript payload "access_token", subscript payload "token_type",
        subscript payload "expires_in" with
      | some accessToken, some tokenType, some expiresIn =>
          match nonemptyText accessToken, nonemptyText tokenType with
          | some value, some tokenType => do
              match ← positiveNumber expiresIn with
              | none => .error invalidResponse
              | some lifetime =>
                  let expiresAt := now + roundHalfEven (lifetime * 1000000)
                  if maxInstant < expiresAt then .error .overflow
                  else .ok ⟨value, tokenType, expiresAt⟩
          | _, _ => .error invalidResponse
      | _, _, _ => .error invalidResponse

/-- How long the token is cached. -/
def tokenTtlSeconds (token : KisAccessToken) (now : Instant) : Int :=
  max 1 ((token.expiresAt - now) / 1000000 - tokenExpirySafetySeconds)

/-- `_request_and_cache_token` after the provider has answered, up to the cache's `set`. -/
def Codec.tokenFromAnswer (C : Codec) (now : Instant) :
    Except ProviderFailure ExternalResponse → Except TokenFailure KisAccessToken
  | .error failure => .error (.provider failure)
  | .ok response =>
      if 200 ≤ response.statusCode ∧ response.statusCode < 300 then
        C.parseTokenResponse response.content now
      else
        .error (.coordinator
          ("KIS token request returned HTTP " ++ toString response.statusCode))

/-! ## A call -/

namespace TokenCoordinator

/-- Why a call reads the cache: at its start, while it waits for another's refresh, or
holding the lock. -/
inductive Stage where
  | first
  | polling (deadline : Instant)
  | locked
  deriving DecidableEq

/-- How a call ends. -/
inductive Outcome where
  | cached (token : KisAccessToken)
  | refreshed (token : KisAccessToken)
  | refreshFailed (failure : TokenFailure)
  | raised (failure : TokenFailure)
  deriving DecidableEq

/-- Where a call of `get_access_token` stands: the command it takes next. -/
inductive Phase where
  | idle
  | reading (stage : Stage)
  /-- The value it fetched is no token. -/
  | deleting (stage : Stage) (value : String)
  | acquiring
  | waiting (deadline : Instant)
  | requesting (attempt : Nat)
  /-- The POST is outstanding. -/
  | posted (attempt : Nat)
  | storing (token : KisAccessToken)
  | releasing (outcome : Outcome)
  | done (outcome : Outcome)
  deriving DecidableEq

/-- What all calls share: the platform, the credentials they have in common, and what
each call draws. -/
structure Setup where
  P : Platform
  C : Codec
  credentials : KisTokenCredentials
  config : ExternalProviderConfig
  refreshWaitTimeout : Int
  tokens : Nat → String

structure State where
  now : Instant
  lock : TextStore
  cache : TextStore
  phase : Nat → Phase
  /-- The calls that have sent a POST, in order. -/
  requests : List Nat

/-- The commands of a call. -/
inductive Command where
  | start
  | get
  | delete
  | acquire
  /-- The head of the loop of `_wait_for_refresh`. -/
  | poll
  | send
  | answer (answer : Transported)
  | set
  | release
  /-- The cache command the call is at raises. -/
  | fail

inductive Action where
  | wait (duration : Nat)
  | act (call : Nat) (command : Command)

/-- The call moves on. -/
def State.move (s : State) (call : Nat) (phase : Phase) : State :=
  { s with phase := Function.update s.phase call phase }

/-- After a cache read that gave no token. -/
def afterMiss : Stage → Phase
  | .first => .acquiring
  | .polling deadline => .waiting deadline
  | .locked => .requesting 0

/-- The call ends here; with the lock held, `finally` comes first. -/
def leave : Stage → Outcome → Phase
  | .locked, outcome => .releasing outcome
  | _, outcome => .done outcome

namespace Setup

variable (X : Setup)

def cacheKey : String := X.P.tokenCacheKey X.credentials

def lockKey : String := X.P.refreshLockKey X.credentials

/-- After the `GET` of `_read_cached_token`. -/
def afterGet (now : Instant) (stage : Stage) : Except Failure (Option String) → Phase
  | .error _ => leave stage (.raised .raised)
  | .ok none => afterMiss stage
  | .ok (some value) =>
      match X.C.readCached now value with
      | .token token => leave stage (.cached token)
      | .invalid => .deleting stage value
      | .raised => leave stage (.raised .raised)

/-- After an exchange with the token endpoint, for which retrying is not safe. -/
def afterAnswer (now : Instant) (attempt : Nat) (answer : Transported) : Phase :=
  match X.config.afterExchange (retriesAllowed "POST" (some false)) attempt answer with
  | none => .requesting (attempt + 1)
  | some result =>
      match X.C.tokenFromAnswer now result with
      | .ok token => .storing token
      | .error failure => .releasing (.refreshFailed failure)

/-- A command of a call in the given phase: where the call stands after it, and what it
leaves of the rest. A command that is not the call's next one changes nothing. -/
def perform (s : State) (call : Nat) : Phase → Command → Phase × State
  | .idle, .start => (.reading .first, s)
  | .reading stage, .get =>
      (X.afterGet s.now stage (KeyValueStore.get X.cacheKey s.now s.cache), s)
  | .deleting stage _, .delete =>
      match KeyValueStore.delete X.cacheKey s.cache with
      | .ok cache => (afterMiss stage, { s with cache })
      | .error _ => (leave stage (.raised .raised), s)
  | .acquiring, .acquire =>
      match DistributedLock.acquire X.lockKey refreshLockTtlSeconds (X.tokens call) s.now
        s.lock with
      | .ok (some _, lock) => (.reading .locked, { s with lock })
      | .ok (none, lock) => (.waiting (s.now + X.refreshWaitTimeout), { s with lock })
      | .error _ => (.done (.raised .raised), s)
  | .waiting deadline, .poll =>
      -- the sleep is part of the time until the read
      if s.now < deadline then (.reading (.polling deadline), s)
      else (.done (.raised .refreshInProgress), s)
  | .requesting attempt, .send => (.posted attempt, { s with requests := s.requests ++ [call] })
  | .posted attempt, .answer answer => (X.afterAnswer s.now attempt answer, s)
  | .storing token, .set =>
      match KeyValueStore.set X.cacheKey (X.C.cachedText token) (tokenTtlSeconds token s.now)
        s.now s.cache with
      | .ok cache => (.releasing (.refreshed token), { s with cache })
      | .error _ => (.releasing (.refreshFailed .raised), s)
  | .releasing outcome, .release =>
      match DistributedLock.release X.lockKey (X.tokens call) s.now s.lock with
      | .ok (_, lock) => (.done outcome, { s with lock })
      | .error _ => (.done (.raised .raised), s)
  | .reading stage, .fail => (leave stage (.raised .raised), s)
  | .deleting stage _, .fail => (leave stage (.raised .raised), s)
  | .storing _, .fail => (.releasing (.refreshFailed .raised), s)
  | phase, _ => (phase, s)

def step (s : State) : Action → State
  | .wait duration => { s with now := s.now + duration }
  | .act call command =>
      let (phase, rest) := X.perform s call (s.phase call) command
      rest.move call phase

/-! ### Where a command takes its call -/

/-- A command takes no time and moves no other call. -/
theorem perform_rest (s : State) (call : Nat) (phase : Phase) (command : Command) :
    (X.perform s call phase command).2.now = s.now ∧
      (X.perform s call phase command).2.phase = s.phase := by
  unfold perform
  split
  case h_3 => split <;> exact ⟨rfl, rfl⟩
  case h_4 => split <;> exact ⟨rfl, rfl⟩
  case h_5 => split <;> exact ⟨rfl, rfl⟩
  case h_8 => split <;> exact ⟨rfl, rfl⟩
  case h_9 => split <;> exact ⟨rfl, rfl⟩
  all_goals exact ⟨rfl, rfl⟩

theorem lockKey_ne : X.lockKey ≠ "" := by
  intro empty
  have length := congrArg (fun text => text.toList.length) empty
  simp [lockKey, Platform.refreshLockKey] at length

theorem cacheKey_ne : X.cacheKey ≠ "" := by
  intro empty
  have length := congrArg (fun text => text.toList.length) empty
  simp [cacheKey, Platform.tokenCacheKey] at length

/-- The token's key in Redis. -/
def redisCacheKey : String := "kis-cache:" ++ X.cacheKey

/-- After a read the call has missed, leaves, or deletes what is no token. -/
theorem afterGet_cases (now : Instant) (stage : Stage) (found : Option String) :
    X.afterGet now stage (.ok found) = afterMiss stage ∨
      (∃ outcome, X.afterGet now stage (.ok found) = leave stage outcome) ∨
      ∃ value, (found = some value ∧ X.C.readCached now value = .invalid) ∧
        X.afterGet now stage (.ok found) = .deleting stage value := by
  cases found with
  | none => exact .inl rfl
  | some value =>
      refine .inr ?_
      cases read : X.C.readCached now value with
      | token token => exact .inl ⟨.cached token, by simp only [afterGet, read]⟩
      | raised => exact .inl ⟨.raised .raised, by simp only [afterGet, read]⟩
      | invalid => exact .inr ⟨value, ⟨rfl, read⟩, by simp only [afterGet, read]⟩

/-- An answer ends the exchange: there is no second request. -/
theorem afterAnswer_cases (now : Instant) (attempt : Nat) (answer : Transported) :
    (∃ token, X.afterAnswer now attempt answer = .storing token) ∨
      ∃ failure, X.afterAnswer now attempt answer = .releasing (.refreshFailed failure) := by
  have ended := X.config.afterExchange_unsafe attempt answer
  obtain ⟨result, ends⟩ := Option.isSome_iff_exists.mp ended
  unfold afterAnswer
  simp only [retriesAllowed, Option.getD_some, ends]
  cases X.C.tokenFromAnswer now result with
  | ok token => exact .inl ⟨token, rfl⟩
  | error failure => exact .inr ⟨failure, rfl⟩

/-- The ways a command moves its call. -/
inductive Moves (s : State) : Phase → Command → Phase → Prop where
  | stay (phase : Phase) (command : Command) : Moves s phase command phase
  | start : Moves s .idle .start (.reading .first)
  | get (stage : Stage) : Moves s (.reading stage) .get
      (X.afterGet s.now stage (.ok (s.cache.get s.now X.redisCacheKey)))
  | deleted (stage : Stage) (value : String) :
      Moves s (.deleting stage value) .delete (afterMiss stage)
  | acquired : Moves s .acquiring .acquire (.reading .locked)
  | refused : Moves s .acquiring .acquire (.waiting (s.now + X.refreshWaitTimeout))
  | poll (deadline : Instant) : Moves s (.waiting deadline) .poll (.reading (.polling deadline))
  | timedOut (deadline : Instant) :
      Moves s (.waiting deadline) .poll (.done (.raised .refreshInProgress))
  | send (attempt : Nat) : Moves s (.requesting attempt) .send (.posted attempt)
  | answered (attempt : Nat) (answer : Transported) (token : KisAccessToken) :
      Moves s (.posted attempt) (.answer answer) (.storing token)
  | refreshFailed (attempt : Nat) (answer : Transported) (failure : TokenFailure) :
      Moves s (.posted attempt) (.answer answer) (.releasing (.refreshFailed failure))
  | stored (token : KisAccessToken) :
      Moves s (.storing token) .set (.releasing (.refreshed token))
  | storeRaised (token : KisAccessToken) (command : Command) :
      Moves s (.storing token) command (.releasing (.refreshFailed .raised))
  | released (outcome : Outcome) : Moves s (.releasing outcome) .release (.done outcome)
  | readRaised (stage : Stage) :
      Moves s (.reading stage) .fail (leave stage (.raised .raised))
  | deleteRaised (stage : Stage) (value : String) :
      Moves s (.deleting stage value) .fail (leave stage (.raised .raised))

theorem perform_moves (s : State) (call : Nat) (phase : Phase) (command : Command) :
    X.Moves s phase command (X.perform s call phase command).1 := by
  cases phase with
  | idle =>
      cases command with
      | start => exact .start
      | _ => exact .stay _ _
  | reading stage =>
      cases command with
      | get =>
          rw [perform, KeyValueStore.get_named X.cacheKey_ne]
          exact .get stage
      | fail => exact .readRaised stage
      | _ => exact .stay _ _
  | deleting stage value =>
      cases command with
      | delete =>
          simp only [perform, KeyValueStore.delete_named X.cacheKey_ne]
          exact .deleted stage value
      | fail => exact .deleteRaised stage value
      | _ => exact .stay _ _
  | acquiring =>
      cases command with
      | acquire =>
          rcases DistributedLock.acquire_cases (X.tokens call) s.now s.lock X.lockKey_ne
            (show 0 < refreshLockTtlSeconds by decide) with ⟨-, taken⟩ | ⟨-, refused⟩
          · simp only [perform, taken]
            exact .acquired
          · simp only [perform, refused]
            exact .refused
      | _ => exact .stay _ _
  | waiting deadline =>
      cases command with
      | poll =>
          simp only [perform]
          split
          · exact .poll deadline
          · exact .timedOut deadline
      | _ => exact .stay _ _
  | requesting attempt =>
      cases command with
      | send => exact .send attempt
      | _ => exact .stay _ _
  | posted attempt =>
      cases command with
      | answer answer =>
          rcases X.afterAnswer_cases s.now attempt answer with ⟨token, storing⟩ | ⟨failure, failed⟩
          · simp only [perform, storing]
            exact .answered attempt answer token
          · simp only [perform, failed]
            exact .refreshFailed attempt answer failure
      | _ => exact .stay _ _
  | storing token =>
      cases command with
      | set =>
          simp only [perform]
          split
          · exact .stored token
          · exact .storeRaised token .set
      | fail => exact .storeRaised token .fail
      | _ => exact .stay _ _
  | releasing outcome =>
      cases command with
      | release =>
          rcases DistributedLock.release_cases (X.tokens call) s.now s.lock X.lockKey_ne with
            ⟨-, freed⟩ | ⟨-, kept⟩
          · simp only [perform, freed]
            exact .released outcome
          · simp only [perform, kept]
            exact .released outcome
      | _ => exact .stay _ _
  | done outcome =>
      cases command <;> exact .stay _ _

end Setup

/-! ## Two calls and one token -/

namespace Sample

/-- The token a refresh at one second past the epoch is given for an hour. -/
def token : KisAccessToken := ⟨"token-value", "Bearer", seconds 3601⟩

def isoText : String := "1970-01-01T01:00:01+00:00"

def tokenText : String :=
  "\x7b\"access_token\":\"token-value\",\"token_type\":\"Bearer\"," ++
  "\"expires_at\":\"1970-01-01T01:00:01+00:00\"\x7d"

/-- The content of the response: `{"access_token":"token-value","token_type":"Bearer","expires_in":3600}`. -/
def content : List UInt8 := [
  123, 34, 97, 99, 99, 101, 115, 115, 95, 116, 111, 107, 101, 110, 34, 58, 34, 116, 111, 107, 101,
  110, 45, 118, 97, 108, 117, 101, 34, 44, 34, 116, 111, 107, 101, 110, 95, 116, 121, 112, 101, 34,
  58, 34, 66, 101, 97, 114, 101, 114, 34, 44, 34, 101, 120, 112, 105, 114, 101, 115, 95, 105, 110,
  34, 58, 51, 54, 48, 48, 125]

/-- The object of `tokenText`. -/
def tokenJson : Json := .obj [
  ("access_token", .str "token-value"),
  ("token_type", .str "Bearer"),
  ("expires_at", .str isoText)]

def codec : Codec where
  loads text := if text = tokenText then .value tokenJson else .valueError
  loadsBytes bytes :=
    if bytes = content then
      .value (.obj [("access_token", .str "token-value"), ("token_type", .str "Bearer"),
        ("expires_in", .int 3600)])
    else .valueError
  dumps _ := tokenText
  isoformat _ := isoText
  fromisoformat text := if text = isoText then some (.aware (seconds 3601)) else none

def setup : Setup where
  P := { Platform.reference (fun _ _ => 0) (.aware 0) "1970-01-01T00:00:00Z" with
    sha256 := fun _ => "3d0e3387a0a205d96c5bfbe8364607ad0e5a169a19bae23a15e1c53513eab916" }
  C := codec
  credentials := ⟨"test-app-key", "test-app-secret", "sandbox"⟩
  config := ⟨2⟩
  refreshWaitTimeout := seconds 10
  tokens call := String.ofList (List.replicate call 'x')

end Sample

end TokenCoordinator

end KisAutoTrading
