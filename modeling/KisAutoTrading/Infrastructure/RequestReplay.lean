/-
# Infrastructure.RequestReplay — the store of answered requests

`RedisRequestReplayStore`: `claim` reserves an idempotency key for a request, or
finds what is stored under it; `complete` stores the answer for the claim's holder,
`abort` gives the key up. The last two are Lua scripts and run as a whole; the two
commands of `claim` are taken as one as well. A payload is the JSON object the code
writes, the body in it the value that `json.dumps` encodes. Where Redis itself fails,
every one of these raises; that is left to the environment.

`reserve` and `lookup` are the two commands of `claim` apart, for callers that interleave;
`claim_eq` puts them together again.
-/
import KisAutoTrading.Infrastructure.Messaging
import KisAutoTrading.Theory.Expiring

namespace KisAutoTrading

open Theory

set_option autoImplicit false

inductive ReplayStatus where
  | pending
  | completed (statusCode : Nat) (body : Json)

structure ReplayPayload where
  fingerprint : String
  token : String
  status : ReplayStatus

/-- The keys of the request-replay namespace in Redis. -/
abbrev ReplayStore : Type := Expiring String ReplayPayload Instant

structure ReplayClaim where
  key : String
  fingerprint : String
  token : String
  ttlSeconds : Int

structure ReplayRecord where
  statusCode : Nat
  body : Json

/-- The namespace the application gives its store. -/
def replayNamespace : String := "kis_session"

namespace Platform

variable (P : Platform)

/-- `_key`. -/
def replayKey (key : String) : String :=
  replayNamespace ++ (":\x7breplay\x7d:request:" ++ P.sha256 key)

/-- `RedisRequestReplayStore.claim`. -/
def claim (key fingerprint : String) (ttlSeconds : Int) (token : String) (now : Instant)
    (store : ReplayStore) : Except Failure (ReplayClaim ⊕ ReplayRecord) × ReplayStore :=
  if pyStrip key = "" then
    (.error (.raised .valueError "idempotency key must not be empty"), store)
  else if ttlSeconds ≤ 0 then
    (.error (.raised .valueError "idempotency ttl must be positive"), store)
  else
    let payload : ReplayPayload := ⟨fingerprint, token, .pending⟩
    match store.setNx now (P.replayKey key) payload (now + seconds ttlSeconds) with
    | (true, created) => (.ok (.inl ⟨key, fingerprint, token, ttlSeconds⟩), created)
    | (false, store) =>
        match store.get now (P.replayKey key) with
        | none =>
            (.error (.raised .requestReplayInProgress "request replay claim is changing"), store)
        | some existing =>
            if existing.fingerprint ≠ fingerprint then
              (.error (.raised .requestReplayConflict
                "idempotency key was reused with a different request"), store)
            else
              match existing.status with
              | .completed statusCode body => (.ok (.inr ⟨statusCode, body⟩), store)
              | .pending =>
                  (.error (.raised .requestReplayInProgress
                    "request with this idempotency key is in progress"), store)

/-- `RedisRequestReplayStore.complete`. -/
def complete (claim : ReplayClaim) (statusCode : Nat) (body : Json) (now : Instant)
    (store : ReplayStore) : Except Failure Unit × ReplayStore :=
  match store.get now (P.replayKey claim.key) with
  | none => (.error (.raised .sessionStoreError "request replay claim was lost"), store)
  | some payload =>
      if payload.token ≠ claim.token then
        (.error (.raised .sessionStoreError "request replay claim was lost"), store)
      else
        (.ok (), store.set (P.replayKey claim.key)
          { payload with status := .completed statusCode body } (now + seconds claim.ttlSeconds))

/-- `RedisRequestReplayStore.abort`. -/
def abort (claim : ReplayClaim) (now : Instant) (store : ReplayStore) : ReplayStore :=
  match store.get now (P.replayKey claim.key) with
  | none => store
  | some payload =>
      if payload.token ≠ claim.token then store else store.delete (P.replayKey claim.key)

/-- The `SET … NX` of `claim`, with the checks before it: a claim, or nothing where
something is stored already. -/
def reserve (key fingerprint : String) (ttlSeconds : Int) (token : String) (now : Instant)
    (store : ReplayStore) : Except Failure (Option ReplayClaim) × ReplayStore :=
  if pyStrip key = "" then
    (.error (.raised .valueError "idempotency key must not be empty"), store)
  else if ttlSeconds ≤ 0 then
    (.error (.raised .valueError "idempotency ttl must be positive"), store)
  else
    let payload : ReplayPayload := ⟨fingerprint, token, .pending⟩
    match store.setNx now (P.replayKey key) payload (now + seconds ttlSeconds) with
    | (true, created) => (.ok (some ⟨key, fingerprint, token, ttlSeconds⟩), created)
    | (false, store) => (.ok none, store)

/-- The `GET` of `claim`, and what it makes of the value. -/
def lookup (key fingerprint : String) (now : Instant) (store : ReplayStore) :
    Except Failure ReplayRecord :=
  match store.get now (P.replayKey key) with
  | none => .error (.raised .requestReplayInProgress "request replay claim is changing")
  | some existing =>
      if existing.fingerprint ≠ fingerprint then
        .error (.raised .requestReplayConflict
          "idempotency key was reused with a different request")
      else
        match existing.status with
        | .completed statusCode body => .ok ⟨statusCode, body⟩
        | .pending =>
            .error (.raised .requestReplayInProgress
              "request with this idempotency key is in progress")

section Commands

variable {P} {key fingerprint token : String} {ttlSeconds : Int} {now : Instant}
  {store : ReplayStore}

/-- `claim` is its two commands with nothing in between. -/
theorem claim_eq : P.claim key fingerprint ttlSeconds token now store =
    match P.reserve key fingerprint ttlSeconds token now store with
    | (.ok (some claim), after) => (.ok (.inl claim), after)
    | (.ok none, after) => ((P.lookup key fingerprint now after).map .inr, after)
    | (.error failure, after) => (.error failure, after) := by
  unfold claim reserve
  split
  · rfl
  split
  · rfl
  cases held : store.get now (P.replayKey key) with
  | none => simp only [Expiring.setNx, held]
  | some existing =>
      simp only [Expiring.setNx, held, lookup]
      split
      · rfl
      · cases existing.status with
        | pending => rfl
        | completed statusCode body => rfl

/-- A valid claim is given exactly where nothing can be read. -/
theorem reserve_cases (named : pyStrip key ≠ "") (positive : 0 < ttlSeconds) :
    (store.get now (P.replayKey key) = none ∧
      P.reserve key fingerprint ttlSeconds token now store =
        (.ok (some ⟨key, fingerprint, token, ttlSeconds⟩),
          store.set (P.replayKey key) ⟨fingerprint, token, .pending⟩
            (now + seconds ttlSeconds))) ∨
    ((store.get now (P.replayKey key)).isSome ∧
      P.reserve key fingerprint ttlSeconds token now store = (.ok none, store)) := by
  have valid : ¬ ttlSeconds ≤ 0 := by omega
  cases held : store.get now (P.replayKey key) with
  | none => exact .inl ⟨rfl, by simp [reserve, named, valid, Expiring.setNx, held]⟩
  | some existing => exact .inr ⟨rfl, by simp [reserve, named, valid, Expiring.setNx, held]⟩

/-- A completed record answers its own request and refuses every other. -/
theorem lookup_completed {payload : ReplayPayload} {statusCode : Nat} {body : Json}
    (found : store.get now (P.replayKey key) = some payload)
    (completed : payload.status = .completed statusCode body) :
    P.lookup key fingerprint now store =
      if fingerprint = payload.fingerprint then .ok ⟨statusCode, body⟩
      else .error (.raised .requestReplayConflict
        "idempotency key was reused with a different request") := by
  simp only [lookup, found, completed]
  by_cases same : payload.fingerprint = fingerprint
  · simp [same]
  · simp [same, Ne.symm same]

/-- `complete` writes over the record with the claim's token and nothing else. -/
theorem complete_cases (claim : ReplayClaim) (statusCode : Nat) (body : Json) :
    (∃ payload, store.get now (P.replayKey claim.key) = some payload ∧
      payload.token = claim.token ∧ (P.complete claim statusCode body now store).1 = .ok () ∧
      (P.complete claim statusCode body now store).2 = store.set (P.replayKey claim.key)
        { payload with status := .completed statusCode body }
        (now + seconds claim.ttlSeconds)) ∨
    ((P.complete claim statusCode body now store).1 =
        .error (.raised .sessionStoreError "request replay claim was lost") ∧
      (P.complete claim statusCode body now store).2 = store) := by
  unfold complete
  cases held : store.get now (P.replayKey claim.key) with
  | none => exact .inr ⟨rfl, rfl⟩
  | some payload =>
      by_cases mine : payload.token = claim.token
      · exact .inl ⟨payload, rfl, mine, by simp [mine], by simp [mine]⟩
      · exact .inr ⟨by simp [mine], by simp [mine]⟩

/-- `abort` removes the record with the claim's token and nothing else. -/
theorem abort_cases (claim : ReplayClaim) :
    (∃ payload, store.get now (P.replayKey claim.key) = some payload ∧
      payload.token = claim.token ∧
      P.abort claim now store = store.delete (P.replayKey claim.key)) ∨
    P.abort claim now store = store := by
  unfold abort
  cases held : store.get now (P.replayKey claim.key) with
  | none => exact .inr rfl
  | some payload =>
      by_cases mine : payload.token = claim.token
      · exact .inl ⟨payload, rfl, mine, by simp [mine]⟩
      · exact .inr (by simp [mine])

end Commands

end Platform

end KisAutoTrading
