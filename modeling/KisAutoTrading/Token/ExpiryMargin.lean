/-
# Token.ExpiryMargin — how much of its life a token has left

Any number of calls of `get_access_token` over one `FakeKeyValueStoreClient` and one clock. An
action is what a call does between two of its suspensions, so a read with its delete is one
action, and so are parsing a response, computing the lifetime of the entry and storing it. What
the lock answers to a call is part of the action.

`returned` records what the calls return and when, and the last token that was granted before;
`granted` what the provider's answers were made of. `KeepsMargin` is what is promised of them:
lifetimes are positive, no token is returned that has expired, and one that was granted for 61
seconds or more has more than 60 left when it is served from the cache. `granted_inv` needs no
assumption on the answers. A token that is granted for half a microsecond or less expires when it
is granted, and is returned nevertheless; `expiry_margin_iff`: a run keeps the margin exactly if
no answer in it grants such a token (`Lasts`).
-/
import KisAutoTrading.Infrastructure.FakeKeyValueStore
import KisAutoTrading.Theory.Runs
import KisAutoTrading.Token.ResponseParsing

namespace KisAutoTrading.Token.ExpiryMargin

open Theory Theory.Runs ResponseParsing

open TokenCoordinator (Stage Setup)

set_option autoImplicit false

/-! ## The two halves of a call -/

section Functions

variable (C : Codec) (key : String) (now : Instant)

/-- `_read_cached_token`. -/
def readCachedToken (cache : FakeKeyValueStoreClient) :
    Except TokenFailure (Option KisAccessToken) × FakeKeyValueStoreClient :=
  match cache.get key now with
  | .error _ => (.error .raised, cache)
  | .ok (none, cache) => (.ok none, cache)
  | .ok (some value, cache) =>
      match C.readCached now value with
      | .token token => (.ok (some token), cache)
      | .raised => (.error .raised, cache)
      | .invalid =>
          match cache.delete key with
          | .error _ => (.error .raised, cache)
          | .ok (_, cache) => (.ok none, cache)

/-- `_request_and_cache_token` behind the suspension. -/
def cacheToken (answer : Except ProviderFailure ExternalResponse)
    (cache : FakeKeyValueStoreClient) :
    Except TokenFailure KisAccessToken × FakeKeyValueStoreClient :=
  match C.tokenFromAnswer now answer with
  | .error failure => (.error failure, cache)
  | .ok token =>
      match cache.set key (C.cachedText token) (some (tokenTtlSeconds token now)) now with
      | .error _ => (.error .raised, cache)
      | .ok cache => (.ok token, cache)

/-- The positive number that the answer has for `expires_in`. -/
def expiresIn : Except ProviderFailure ExternalResponse → Option ℚ
  | .error _ => none
  | .ok response =>
      match C.loadsBytes response.content with
      | .value payload =>
          match (subscript payload "expires_in").map positiveNumber with
          | some (.ok lifetime) => lifetime
          | _ => none
      | _ => none

end Functions

/-! ## Calls over one cache -/

inductive Phase where
  | idle
  | reading (stage : Stage)
  | acquiring
  /-- Before the next pass of the loop of `_wait_for_refresh`. -/
  | waiting (deadline : Instant)
  /-- The POST is outstanding. -/
  | posted
  | done

inductive Source where
  | cache
  | refresh
  deriving DecidableEq

/-- An answer that was made a token. -/
structure Granted where
  token : KisAccessToken
  expiresIn : Option ℚ
  asked : Instant
  /-- What was passed to the cache. -/
  ttlSeconds : Int
  deriving DecidableEq

/-- What a call returned, and the last token that was granted before. -/
structure Returned where
  source : Source
  token : KisAccessToken
  time : Instant
  last : Option Granted

structure State where
  now : Instant
  cache : FakeKeyValueStoreClient
  phase : Nat → Phase
  returned : List Returned
  granted : List Granted

inductive Action where
  | wait (duration : Nat)
  | start (call : Nat)
  | look (call : Nat)
  | acquire (call : Nat) (acquired : Bool)
  /-- The head of the loop of `_wait_for_refresh`. -/
  | poll (call : Nat)
  | answer (call : Nat) (answer : Except ProviderFailure ExternalResponse)

namespace State

def move (s : State) (call : Nat) (phase : Phase) : State :=
  { s with phase := Function.update s.phase call phase }

/-- The call returns a token. -/
def give (s : State) (call : Nat) (source : Source) (token : KisAccessToken) : State :=
  { s with returned := ⟨source, token, s.now, s.granted.head?⟩ :: s.returned }.move call .done

end State

/-- Where a call stands that has read no token. -/
def afterMiss : Stage → Phase
  | .first => .acquiring
  | .polling deadline => .waiting deadline
  | .locked => .posted

section Run

variable (X : Setup)

def look (s : State) (call : Nat) (stage : Stage) : State :=
  match readCachedToken X.C X.cacheKey s.now s.cache with
  | (.error _, cache) => { s with cache }.move call .done
  | (.ok none, cache) => { s with cache }.move call (afterMiss stage)
  | (.ok (some token), cache) => { s with cache }.give call .cache token

def receive (s : State) (call : Nat) (answer : Except ProviderFailure ExternalResponse) : State :=
  match cacheToken X.C X.cacheKey s.now answer s.cache with
  | (.error _, cache) => { s with cache }.move call .done
  | (.ok token, cache) =>
      { s with
        cache
        granted := ⟨token, expiresIn X.C answer, s.now, tokenTtlSeconds token s.now⟩ ::
          s.granted }.give call .refresh token

/-- One action; one that is not the call's next changes nothing. -/
def step (s : State) : Action → State
  | .wait duration => { s with now := s.now + duration }
  | .start call =>
      match s.phase call with
      | .idle => s.move call (.reading .first)
      | _ => s
  | .look call =>
      match s.phase call with
      | .reading stage => look X s call stage
      | _ => s
  | .acquire call acquired =>
      match s.phase call with
      | .acquiring =>
          s.move call (if acquired then .reading .locked else .waiting (s.now + X.refreshWaitTimeout))
      | _ => s
  | .poll call =>
      match s.phase call with
      | .waiting deadline => s.move call (if s.now < deadline then .reading (.polling deadline) else .done)
      | _ => s
  | .answer call answer =>
      match s.phase call with
      | .posted => receive X s call answer
      | _ => s

/-- Nothing was granted yet, and the cache has nothing under the key. -/
structure Initial (s : State) : Prop where
  cache : s.cache.values X.cacheKey = none
  returned : s.returned = []
  granted : s.granted = []

end Run

/-- What is promised of the tokens that were returned. -/
structure KeepsMargin (s : State) : Prop where
  positive : ∀ granted ∈ s.granted, 0 < granted.ttlSeconds
  unexpired : ∀ returned ∈ s.returned, returned.time < returned.token.expiresAt
  margin : ∀ returned ∈ s.returned, returned.source = .cache →
    ∃ granted ∈ s.granted, returned.last = some granted ∧ returned.token = granted.token ∧
      ∀ lifetime, granted.expiresIn = some lifetime → 61 ≤ lifetime →
        returned.time + seconds 60 < returned.token.expiresAt

/-- The token is granted for more than half a microsecond. -/
def Lasting (granted : Granted) : Prop :=
  ∀ lifetime, granted.expiresIn = some lifetime → 1 / 2000000 < lifetime

/-- An answer that a call waits for, and that is made a token, makes one that lasts. -/
def Lasts (X : Setup) (s : State) : Action → Prop
  | .answer call answer =>
      match s.phase call with
      | .posted => ∀ token, X.C.tokenFromAnswer s.now answer = .ok token →
          ∀ lifetime, expiresIn X.C answer = some lifetime → 1 / 2000000 < lifetime
      | _ => True
  | _ => True

/-- `json` and `datetime` read back what they wrote of a token. -/
structure ReadsBack (C : Codec) (token : KisAccessToken) : Prop where
  json : C.loads (C.cachedText token) = .value (.obj [
    ("access_token", .str token.value),
    ("token_type", .str token.tokenType),
    ("expires_at", .str (C.isoformat token.expiresAt))])
  iso : C.fromisoformat (C.isoformat token.expiresAt) = some (.aware token.expiresAt)

/-! ## Lifetimes -/

section Lifetimes

variable {C : Codec} {now : Instant} {token : KisAccessToken} {lifetime : ℚ}

/-- A half is rounded to the even number, which is 0. -/
theorem microseconds_pos_iff : 0 < microseconds lifetime ↔ 1 / 2000000 < lifetime := by
  obtain ⟨low, high⟩ := roundHalfEven_bounds (lifetime * 1000000)
  constructor
  · intro positive
    have one : (1 : ℚ) ≤ roundHalfEven (lifetime * 1000000) := by exact_mod_cast positive
    rcases lt_or_eq_of_le (show 1 / 2000000 ≤ lifetime by linarith) with more | half
    · exact more
    · have none : microseconds (1 / 2000000) = 0 := by decide +kernel
      rw [← half, none] at positive
      exact absurd positive (lt_irrefl 0)
  · intro more
    have positive : (0 : ℚ) < roundHalfEven (lifetime * 1000000) := by linarith
    exact_mod_cast positive

theorem le_microseconds {whole : Int} (long : (whole : ℚ) ≤ lifetime) :
    whole * 1000000 ≤ microseconds lifetime := by
  obtain ⟨-, high⟩ := roundHalfEven_bounds (lifetime * 1000000)
  have above : ((whole * 1000000 : Int) : ℚ) < (roundHalfEven (lifetime * 1000000) + 1 : Int) := by
    push_cast
    linarith
  exact Int.lt_add_one_iff.mp (by exact_mod_cast above)

/-- The lifetime of an entry is a positive number of seconds. -/
theorem tokenTtlSeconds_pos : 0 < tokenTtlSeconds token now :=
  lt_of_lt_of_le one_pos (le_max_left _ _)

/-- The entry of a token with 61 seconds to live is gone a minute before the token. -/
theorem margin_of_alive {asked expiresAt later : Int} (long : asked + 61 * 1000000 ≤ expiresAt)
    (alive : later < asked + max 1 ((expiresAt - asked) / 1000000 - 60) * 1000000) :
    later + 60 * 1000000 < expiresAt := by
  have whole : 61 ≤ (expiresAt - asked) / 1000000 := by omega
  rw [max_eq_right (by omega)] at alive
  omega

/-- An accepted answer has a positive number for `expires_in`, and the token expires when that
is over. -/
theorem tokenFromAnswer_expiresIn {answer : Except ProviderFailure ExternalResponse}
    (accepted : C.tokenFromAnswer now answer = .ok token) :
    ∃ lifetime, expiresIn C answer = some lifetime ∧
      token.expiresAt = now + microseconds lifetime := by
  cases answer with
  | error failure => cases accepted
  | ok response =>
      unfold Codec.tokenFromAnswer at accepted
      simp only at accepted
      split at accepted
      · unfold Codec.parseTokenResponse at accepted
        cases loaded : C.loadsBytes response.content with
        | valueError => rw [loaded] at accepted; cases accepted
        | raised => rw [loaded] at accepted; cases accepted
        | value payload =>
            simp only [loaded] at accepted
            split at accepted
            · rename_i given _ _ found
              split at accepted
              · obtain ⟨number, positive, more⟩ := bind_ok accepted
                cases number with
                | none => cases more
                | some lifetime =>
                    simp only at more
                    split at more
                    · cases more
                    · cases more
                      refine ⟨lifetime, ?_, rfl⟩
                      simp only [expiresIn, loaded, found, Option.map_some, positive]
              · cases accepted
            · cases accepted
      · cases accepted

end Lifetimes

/-! ## Reading -/

section Reading

variable {C : Codec} {key : String} {now : Instant} {token : KisAccessToken}
  {cache : FakeKeyValueStoreClient}

theorem checkCached_token {fields : Json × Json × Datetime}
    (read : Codec.checkCached now fields = .token token) :
    fields = (.str token.value, .str token.tokenType, .aware token.expiresAt) ∧
      now < token.expiresAt := by
  obtain ⟨accessToken, tokenType, expiresAt⟩ := fields
  cases expiresAt with
  | naive reading => cases read
  | aware expiry =>
      simp only [Codec.checkCached] at read
      split at read
      · rename_i value kind valued kinded
        obtain ⟨rfl, -⟩ := nonemptyText_eq_some.mp valued
        obtain ⟨rfl, -⟩ := nonemptyText_eq_some.mp kinded
        split at read
        · cases read
        · rename_i unexpired
          split at read
          · cases read
          · cases read
            exact ⟨rfl, not_le.mp unexpired⟩
      · cases read

/-- What is read of a text has not expired. -/
theorem readCached_unexpired {text : String} (read : C.readCached now text = .token token) :
    now < token.expiresAt := by
  unfold Codec.readCached at read
  split at read
  · cases read
  · cases read
  · split at read
    · cases read
    · exact (checkCached_token read).2

/-- The token that is read of the text of a token is that token. -/
theorem readCached_same {other : KisAccessToken} (back : ReadsBack C token)
    (read : C.readCached now (C.cachedText token) = .token other) : other = token := by
  have fields : C.cachedFields (.obj [
      ("access_token", .str token.value),
      ("token_type", .str token.tokenType),
      ("expires_at", .str (C.isoformat token.expiresAt))]) =
        some (.str token.value, .str token.tokenType, .aware token.expiresAt) := by
    simp [Codec.cachedFields, subscript, Dict.get, List.lookup_cons, back.iso]
  simp only [Codec.readCached, back.json, fields] at read
  obtain ⟨same, -⟩ := checkCached_token read
  simp only [Prod.mk.injEq, Json.str.injEq, Datetime.aware.injEq] at same
  obtain ⟨value, kind, expiry⟩ := same
  cases other
  cases token
  simp_all

variable (C now cache) in
/-- A read gives the token of an entry whose time is not over, and leaves it, or it gives none,
and leaves the entry or removes it. -/
theorem readCachedToken_cases (named : key ≠ "") :
    (∃ text expiresAt token, cache.values key = some (text, expiresAt) ∧ now < expiresAt ∧
        C.readCached now text = .token token ∧
        readCachedToken C key now cache = (.ok (some token), cache)) ∨
      ∃ result left, readCachedToken C key now cache = (result, left) ∧
        (∀ token, result ≠ .ok (some token)) ∧
        (left = cache ∨ left = cache.remove key) := by
  rcases cache.get_cases named now with
    ⟨text, expiresAt, entry, alive, found⟩ | ⟨left, missed, kept⟩
  · cases read : C.readCached now text with
    | token token =>
        refine .inl ⟨text, expiresAt, token, entry, alive, read, ?_⟩
        simp only [readCachedToken, found, read]
    | raised =>
        refine .inr ⟨.error .raised, cache, ?_, nofun, .inl rfl⟩
        simp only [readCachedToken, found, read]
    | invalid =>
        refine .inr ⟨.ok none, cache.remove key, ?_, nofun, .inr rfl⟩
        simp only [readCachedToken, found, read, FakeKeyValueStoreClient.delete_named named]
  · refine .inr ⟨.ok none, left, ?_, nofun, kept⟩
    simp only [readCachedToken, missed]

variable (C now cache) in
/-- An answer that is made a token replaces the entry. -/
theorem cacheToken_spec (named : key ≠ "") (answer : Except ProviderFailure ExternalResponse) :
    (∃ failure, C.tokenFromAnswer now answer = .error failure ∧
        cacheToken C key now answer cache = (.error failure, cache)) ∨
      ∃ token left, C.tokenFromAnswer now answer = .ok token ∧
        cacheToken C key now answer cache = (.ok token, left) ∧
        left.values key = some (C.cachedText token, now + seconds (tokenTtlSeconds token now)) := by
  cases made : C.tokenFromAnswer now answer with
  | error failure => exact .inl ⟨failure, rfl, by simp only [cacheToken, made]⟩
  | ok token =>
      refine .inr ⟨token, cache.put key
        (C.cachedText token, now + seconds (tokenTtlSeconds token now)), rfl, ?_, by simp⟩
      simp only [cacheToken, made, FakeKeyValueStoreClient.set_named named _ tokenTtlSeconds_pos]

end Reading

/-! ## Runs -/

section Runs

variable {X : Setup} {s : State}

/-- A grant is of an accepted answer, and its token is returned at once. -/
structure Sound (returns : List Returned) (granted : Granted) : Prop where
  lifetime : ∃ lifetime, granted.expiresIn = some lifetime ∧
    granted.token.expiresAt = granted.asked + microseconds lifetime
  ttlSeconds : granted.ttlSeconds = tokenTtlSeconds granted.token granted.asked
  returned : ∃ returned ∈ returns, returned.token = granted.token ∧ returned.time = granted.asked

/-- A token from the cache is what is read of the last grant while its entry is there. -/
structure Served (C : Codec) (grants : List Granted) (returned : Returned) : Prop where
  unexpired : returned.time < returned.token.expiresAt
  last : ∃ granted ∈ grants, returned.last = some granted ∧
    returned.time < granted.asked + seconds granted.ttlSeconds ∧
    C.readCached returned.time (C.cachedText granted.token) = .token returned.token

/-- What holds in every run, whatever the answers grant. -/
structure GrantedInv (X : Setup) (s : State) : Prop where
  /-- The entry is that of the last grant. -/
  entry : ∀ text expiresAt, s.cache.values X.cacheKey = some (text, expiresAt) →
    ∃ granted, s.granted.head? = some granted ∧ text = X.C.cachedText granted.token ∧
      expiresAt = granted.asked + seconds granted.ttlSeconds
  granted : ∀ granted ∈ s.granted, Sound s.returned granted
  served : ∀ returned ∈ s.returned, returned.source = .cache → Served X.C s.granted returned
  refreshed : ∀ returned ∈ s.returned, returned.source = .refresh →
    ∃ granted ∈ s.granted, returned.token = granted.token ∧ returned.time = granted.asked

theorem Initial.inv (initial : Initial X s) : GrantedInv X s where
  entry := by simp [initial.cache]
  granted := by simp [initial.granted]
  served := by simp [initial.returned]
  refreshed := by simp [initial.returned]

theorem Sound.mono {returns : List Returned} {granted : Granted} (sound : Sound returns granted)
    (more : Returned) : Sound (more :: returns) granted := by
  obtain ⟨returned, member, same⟩ := sound.returned
  exact ⟨sound.lifetime, sound.ttlSeconds, returned, List.mem_cons_of_mem _ member, same⟩

theorem Served.mono {C : Codec} {grants : List Granted} {returned : Returned}
    (served : Served C grants returned) (more : Granted) : Served C (more :: grants) returned := by
  obtain ⟨granted, member, facts⟩ := served.last
  exact ⟨served.unexpired, granted, List.mem_cons_of_mem _ member, facts⟩

/-- Only what is under the key, what was granted and what was returned matters. -/
theorem GrantedInv.move (inv : GrantedInv X s) (call : Nat) (phase : Phase) :
    GrantedInv X (s.move call phase) :=
  ⟨inv.entry, inv.granted, inv.served, inv.refreshed⟩

theorem GrantedInv.left (inv : GrantedInv X s) {cache : FakeKeyValueStoreClient}
    (kept : cache = s.cache ∨ cache = s.cache.remove X.cacheKey) : GrantedInv X { s with cache } := by
  refine ⟨?_, inv.granted, inv.served, inv.refreshed⟩
  rcases kept with rfl | rfl
  · exact inv.entry
  · simp

/-- A token is served while the entry of the last grant is there. -/
theorem GrantedInv.serve (inv : GrantedInv X s) (call : Nat) {token : KisAccessToken}
    {text : String} {expiresAt : Instant}
    (found : s.cache.values X.cacheKey = some (text, expiresAt)) (alive : s.now < expiresAt)
    (read : X.C.readCached s.now text = .token token) : GrantedInv X (s.give call .cache token) := by
  obtain ⟨last, latest, rfl, rfl⟩ := inv.entry text expiresAt found
  refine ⟨inv.entry, fun granted member => (inv.granted granted member).mono _, ?_, ?_⟩
  · intro returned member source
    rcases List.mem_cons.mp member with rfl | before
    · exact ⟨readCached_unexpired read, last, List.mem_of_head? latest, latest, alive, read⟩
    · exact inv.served returned before source
  · intro returned member source
    rcases List.mem_cons.mp member with rfl | before
    · cases source
    · exact inv.refreshed returned before source

theorem look_inv (inv : GrantedInv X s) (call : Nat) (stage : Stage) :
    GrantedInv X (look X s call stage) := by
  rcases readCachedToken_cases X.C s.now s.cache X.cacheKey_ne with
    ⟨text, expiresAt, token, found, alive, read, looked⟩ | ⟨result, cache, looked, none, kept⟩
  · simp only [look, looked]
    exact inv.serve call found alive read
  · cases result with
    | error failure =>
        simp only [look, looked]
        exact (inv.left kept).move call _
    | ok found =>
        cases found with
        | none =>
            simp only [look, looked]
            exact (inv.left kept).move call _
        | some token => exact absurd rfl (none token)

/-- The grant of an answer. -/
def grantOf (X : Setup) (s : State) (answer : Except ProviderFailure ExternalResponse)
    (token : KisAccessToken) : Granted :=
  ⟨token, expiresIn X.C answer, s.now, tokenTtlSeconds token s.now⟩

variable (X) in
/-- An answer is refused, or granted and stored. -/
theorem receive_cases (s : State) (call : Nat) (answer : Except ProviderFailure ExternalResponse) :
    (∃ failure, X.C.tokenFromAnswer s.now answer = .error failure ∧
        receive X s call answer = s.move call .done) ∨
      ∃ token cache, X.C.tokenFromAnswer s.now answer = .ok token ∧
        cache.values X.cacheKey = some (X.C.cachedText token,
          s.now + seconds (tokenTtlSeconds token s.now)) ∧
        receive X s call answer = { s with
          cache, granted := grantOf X s answer token :: s.granted }.give call .refresh token := by
  rcases cacheToken_spec X.C s.now s.cache X.cacheKey_ne answer with
    ⟨failure, refused, result⟩ | ⟨token, cache, made, result, entry⟩
  · exact .inl ⟨failure, refused, by simp only [receive, result]⟩
  · exact .inr ⟨token, cache, made, entry, by simp only [receive, result]; rfl⟩

theorem receive_inv (inv : GrantedInv X s) (call : Nat)
    (answer : Except ProviderFailure ExternalResponse) : GrantedInv X (receive X s call answer) := by
  rcases receive_cases X s call answer with
    ⟨failure, -, result⟩ | ⟨token, cache, made, stored, result⟩
  · rw [result]
    exact inv.move call _
  · rw [result]
    obtain ⟨lifetime, expiresIn, expiresAt⟩ := tokenFromAnswer_expiresIn made
    refine ⟨?_, ?_, ?_, ?_⟩
    · intro text expiresAt found
      cases stored.symm.trans found
      exact ⟨_, rfl, rfl, rfl⟩
    · intro granted member
      rcases List.mem_cons.mp member with rfl | before
      · exact ⟨⟨lifetime, expiresIn, expiresAt⟩, rfl, _, List.mem_cons_self, rfl, rfl⟩
      · exact (inv.granted granted before).mono _
    · intro returned member source
      rcases List.mem_cons.mp member with rfl | before
      · cases source
      · exact (inv.served returned before source).mono _
    · intro returned member source
      rcases List.mem_cons.mp member with rfl | before
      · exact ⟨_, List.mem_cons_self, rfl, rfl⟩
      · obtain ⟨granted, member, same⟩ := inv.refreshed returned before source
        exact ⟨granted, List.mem_cons_of_mem _ member, same⟩

theorem step_inv (inv : GrantedInv X s) (action : Action) : GrantedInv X (step X s action) := by
  cases action with
  | wait duration => exact ⟨inv.entry, inv.granted, inv.served, inv.refreshed⟩
  | start call =>
      simp only [step]
      split
      · exact inv.move call _
      · exact inv
  | look call =>
      simp only [step]
      split
      · exact look_inv inv call _
      · exact inv
  | acquire call acquired =>
      simp only [step]
      split
      · exact inv.move call _
      · exact inv
  | poll call =>
      simp only [step]
      split
      · exact inv.move call _
      · exact inv
  | answer call answer =>
      simp only [step]
      split
      · exact receive_inv inv call answer
      · exact inv

/-- Whatever the answers grant, what is served from the cache is the last grant, while its entry
is there. -/
theorem granted_inv {start : State} (initial : Initial X start) (trace : List Action) :
    GrantedInv X (exec (step X) start trace) := by
  have admissible : Admissible (step X) (fun _ _ => True) start trace := admissible_true start trace
  have keep : ∀ s action, GrantedInv X s → True → GrantedInv X (step X s action) :=
    fun _ action inv _ => step_inv inv action
  exact exec_invariant keep initial.inv admissible

/-! ### The grants that last -/

theorem give_granted (s : State) (call : Nat) (source : Source) (token : KisAccessToken) :
    (s.give call source token).granted = s.granted := rfl

theorem look_granted (s : State) (call : Nat) (stage : Stage) :
    (look X s call stage).granted = s.granted := by
  unfold look
  split <;> rfl

/-- A step adds a grant that lasts exactly if its action is allowed. -/
theorem lasting_step (action : Action) :
    (∀ granted ∈ (step X s action).granted, Lasting granted) ↔
      (∀ granted ∈ s.granted, Lasting granted) ∧ Lasts X s action := by
  cases action with
  | wait duration => simp [step, Lasts]
  | start call =>
      simp only [step, Lasts, and_true]
      split <;> rfl
  | look call =>
      simp only [step, Lasts, and_true]
      split
      · rw [look_granted]
      · rfl
  | acquire call acquired =>
      simp only [step, Lasts, and_true]
      split <;> rfl
  | poll call =>
      simp only [step, Lasts, and_true]
      split <;> rfl
  | answer call answer =>
      simp only [step, Lasts]
      split
      · rcases receive_cases X s call answer with
          ⟨failure, refused, result⟩ | ⟨token, cache, made, -, result⟩
        · rw [result, refused]
          simp [State.move]
        · rw [result, give_granted, made]
          simp only [List.forall_mem_cons, Except.ok.injEq, forall_eq']
          exact and_comm
      · simp

theorem lasting_iff {start : State} (initial : Initial X start) (trace : List Action) :
    (∀ granted ∈ (exec (step X) start trace).granted, Lasting granted) ↔
      Admissible (step X) (Lasts X) start trace := by
  induction trace using List.reverseRecOn with
  | nil => simp [initial.granted, Admissible]
  | append_singleton front action ih => rw [exec_snoc, admissible_snoc, lasting_step, ih]

/-- What is promised holds exactly if all grants last. -/
theorem GrantedInv.keepsMargin_iff (inv : GrantedInv X s)
    (back : ∀ granted ∈ s.granted, ReadsBack X.C granted.token) :
    KeepsMargin s ↔ ∀ granted ∈ s.granted, Lasting granted := by
  constructor
  · intro keeps granted member lifetime expiresIn
    obtain ⟨⟨lifetime', expiresIn', expiresAt⟩, -, returned, was, token, time⟩ :=
      inv.granted granted member
    obtain rfl := Option.some.inj (expiresIn.symm.trans expiresIn')
    have ahead := keeps.unexpired returned was
    rw [token, time, expiresAt] at ahead
    exact microseconds_pos_iff.mp (lt_add_iff_pos_right _ |>.mp ahead)
  · intro lasting
    refine ⟨?_, ?_, ?_⟩
    · intro granted member
      rw [(inv.granted granted member).ttlSeconds]
      exact tokenTtlSeconds_pos
    · intro returned member
      cases source : returned.source with
      | cache => exact (inv.served returned member source).unexpired
      | refresh =>
          obtain ⟨granted, grant, token, time⟩ := inv.refreshed returned member source
          obtain ⟨lifetime, expiresIn, expiresAt⟩ := (inv.granted granted grant).lifetime
          rw [token, time, expiresAt]
          have positive := microseconds_pos_iff.mpr (lasting granted grant lifetime expiresIn)
          exact lt_add_of_pos_right _ positive
    · intro returned member source
      obtain ⟨granted, grant, last, alive, read⟩ := (inv.served returned member source).last
      have token := readCached_same (back granted grant) read
      refine ⟨granted, grant, last, token, ?_⟩
      intro lifetime expiresIn long
      obtain ⟨⟨lifetime', expiresIn', expiresAt⟩, ttlSeconds, -⟩ := inv.granted granted grant
      obtain rfl := Option.some.inj (expiresIn.symm.trans expiresIn')
      have whole : 61 * 1000000 ≤ microseconds lifetime := le_microseconds (by exact_mod_cast long)
      rw [token]
      rw [ttlSeconds] at alive
      have minutes : granted.asked + 61 * 1000000 ≤ granted.token.expiresAt := by
        rw [expiresAt]
        exact Int.add_le_add_left whole _
      exact margin_of_alive minutes alive

end Runs

/-- **A run keeps the margin exactly if no answer grants a token for half a microsecond or less.** -/
theorem expiry_margin_iff (X : Setup) {start : State} (initial : Initial X start)
    (trace : List Action)
    (back : ∀ granted ∈ (exec (step X) start trace).granted, ReadsBack X.C granted.token) :
    KeepsMargin (exec (step X) start trace) ↔ Admissible (step X) (Lasts X) start trace :=
  ((granted_inv initial trace).keepsMargin_iff back).trans (lasting_iff initial trace)

/-! ## An hour, and a quarter of a microsecond -/

namespace Sample

/-- `json` and `datetime` on the one token of a run that begins a second after the epoch. -/
def codec (literal : String) (expiresIn : Json) (iso : String) (expiresAt : Instant) : Codec :=
  { ResponseParsing.Sample.codec literal expiresIn with
    loads := fun _ => .value (.obj [
      ("access_token", .str "token-value"),
      ("token_type", .str "Bearer"),
      ("expires_at", .str iso)])
    dumps := fun _ =>
      "\x7b\"access_token\":\"token-value\",\"token_type\":\"Bearer\",\"expires_at\":\"" ++
        (iso ++ "\"\x7d")
    isoformat := fun _ => iso
    fromisoformat := fun _ => some (.aware expiresAt) }

def setup (C : Codec) : Setup := { TokenCoordinator.Sample.setup with C }

def hour : Setup := setup
  (codec "3600" (.int 3600) "1970-01-01T01:00:01+00:00" (seconds 3601))

/-- The lifetime is 2 to the power of -22 seconds. -/
def instant : Setup := setup
  (codec "2.384185791015625e-07" (.float (.finite (1 / 4194304))) "1970-01-01T00:00:01+00:00"
    (seconds 1))

def start : State where
  now := seconds 1
  cache := ⟨3600, by decide, fun _ => none⟩
  phase _ := .idle
  returned := []
  granted := []

theorem start_initial (X : Setup) : Initial X start := ⟨rfl, rfl, rfl⟩

/-- A call requests a token, and half an hour later another one finds it. -/
def trace (literal : String) : List Action := [
  .start 0,
  .look 0,
  .acquire 0 true,
  .look 0,
  .answer 0 (.ok ⟨200, utf8 (ResponseParsing.Sample.responseText literal)⟩),
  .wait 1800000000,
  .start 1,
  .look 1]

def hourGranted : Granted :=
  ⟨⟨"token-value", "Bearer", seconds 3601⟩, some 3600, seconds 1, 3540⟩

def instantGranted : Granted :=
  ⟨⟨"token-value", "Bearer", seconds 1⟩, some (1 / 4194304), seconds 1, 1⟩

theorem hour_granted : (exec (step hour) start (trace "3600")).granted = [hourGranted] := by
  decide +kernel

theorem instant_granted :
    (exec (step instant) start (trace "2.384185791015625e-07")).granted = [instantGranted] := by
  decide +kernel

theorem hour_back : ∀ granted ∈ (exec (step hour) start (trace "3600")).granted,
    ReadsBack hour.C granted.token := by
  rw [hour_granted]
  rintro granted (- | ⟨-, ⟨⟩⟩)
  exact ⟨rfl, rfl⟩

/-- The second call has half an hour left. -/
theorem hour_keeps_margin : KeepsMargin (exec (step hour) start (trace "3600")) := by
  refine (expiry_margin_iff hour (start_initial hour) (trace "3600") hour_back).mpr ?_
  refine (lasting_iff (start_initial hour) (trace "3600")).mp ?_
  rw [hour_granted]
  rintro granted (- | ⟨-, ⟨⟩⟩) lifetime given
  cases given
  norm_num

/-- The token that is returned has expired. -/
theorem instant_breaks_margin :
    Initial instant start ∧
      (∀ granted ∈ (exec (step instant) start (trace "2.384185791015625e-07")).granted,
        ReadsBack instant.C granted.token) ∧
      ¬ KeepsMargin (exec (step instant) start (trace "2.384185791015625e-07")) := by
  have back : ∀ granted ∈ (exec (step instant) start (trace "2.384185791015625e-07")).granted,
      ReadsBack instant.C granted.token := by
    rw [instant_granted]
    rintro granted (- | ⟨-, ⟨⟩⟩)
    exact ⟨rfl, rfl⟩
  refine ⟨start_initial instant, back, fun keeps => ?_⟩
  have lasting := ((granted_inv (start_initial instant) _).keepsMargin_iff back).mp keeps
  rw [instant_granted] at lasting
  have long := lasting instantGranted List.mem_cons_self (1 / 4194304) rfl
  norm_num at long

end Sample

end KisAutoTrading.Token.ExpiryMargin
