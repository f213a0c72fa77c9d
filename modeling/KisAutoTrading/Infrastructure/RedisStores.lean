/-
# Infrastructure.RedisStores — the distributed lock and the key-value store

`RedisDistributedLockClient` and `RedisKeyValueStoreClient`, one command each. `acquire`
is `SET … NX EX`, `release` the script that deletes the key only for its owner; `get`,
`set` and `delete` of the key-value store are the plain commands. Both clients put their
prefix in front of a key and refuse an empty one.

`acquire_cases` and `release_cases` say all that the two can do; whoever holds the lock
loses it only by its own token.
-/
import KisAutoTrading.Infrastructure.Messaging
import KisAutoTrading.Theory.Expiring

namespace KisAutoTrading

open Theory

set_option autoImplicit false

/-- The text values of a Redis database. -/
abbrev TextStore : Type := Expiring String String Instant

/-- `_ttl` of both clients. -/
def positiveTtl (ttlSeconds : Int) : Except Failure Int :=
  if ttlSeconds ≤ 0 then .error (.raised .valueError "ttl_seconds must be positive")
  else .ok ttlSeconds

namespace DistributedLock

/-- `_key`, with the default prefix. -/
def redisKey (key : String) : Except Failure String :=
  if key = "" then .error (.raised .valueError "lock key must not be empty")
  else .ok ("kis-lock:" ++ key)

/-- `acquire`: the token when the lock was free, which is then held until the lease ends. -/
def acquire (key : String) (ttlSeconds : Int) (token : String) (now : Instant)
    (store : TextStore) : Except Failure (Option String × TextStore) := do
  let ttl ← positiveTtl ttlSeconds
  let key ← redisKey key
  match store.setNx now key token (now + seconds ttl) with
  | (true, store) => return (some token, store)
  | (false, store) => return (none, store)

/-- `release`: whether the lock was the owner's and is free now. -/
def release (key token : String) (now : Instant) (store : TextStore) :
    Except Failure (Bool × TextStore) := do
  let key ← redisKey key
  match store.get now key with
  | some owner => return if owner = token then (true, store.delete key) else (false, store)
  | none => return (false, store)

section Cases

variable {key : String} (token : String) (now : Instant) (store : TextStore)

/-- The lifetime is looked at first, whatever the key. -/
theorem acquire_refused (key : String) {ttlSeconds : Int} (negative : ttlSeconds ≤ 0) :
    acquire key ttlSeconds token now store =
      .error (.raised .valueError "ttl_seconds must be positive") := by
  simp [acquire, positiveTtl, negative, bind, Except.bind]

/-- A free lock is taken, a held one is left alone. -/
theorem acquire_cases {ttlSeconds : Int} (named : key ≠ "") (positive : 0 < ttlSeconds) :
    (store.get now ("kis-lock:" ++ key) = none ∧
      acquire key ttlSeconds token now store = .ok (some token,
        store.set ("kis-lock:" ++ key) token (now + seconds ttlSeconds))) ∨
    ((store.get now ("kis-lock:" ++ key)).isSome ∧
      acquire key ttlSeconds token now store = .ok (none, store)) := by
  have ttl : positiveTtl ttlSeconds = .ok ttlSeconds := if_neg (by omega)
  have redis : redisKey key = .ok ("kis-lock:" ++ key) := if_neg named
  cases held : store.get now ("kis-lock:" ++ key) with
  | none =>
      refine .inl ⟨rfl, ?_⟩
      simp [acquire, ttl, redis, Expiring.setNx, held, bind, Except.bind, pure, Except.pure]
  | some owner =>
      refine .inr ⟨rfl, ?_⟩
      simp [acquire, ttl, redis, Expiring.setNx, held, bind, Except.bind, pure, Except.pure]

/-- The owner frees the lock, anybody else changes nothing. -/
theorem release_cases (named : key ≠ "") :
    (store.get now ("kis-lock:" ++ key) = some token ∧
      release key token now store = .ok (true, store.delete ("kis-lock:" ++ key))) ∨
    (store.get now ("kis-lock:" ++ key) ≠ some token ∧
      release key token now store = .ok (false, store)) := by
  have redis : redisKey key = .ok ("kis-lock:" ++ key) := if_neg named
  cases held : store.get now ("kis-lock:" ++ key) with
  | none =>
      refine .inr ⟨by simp, ?_⟩
      simp [release, redis, held, bind, Except.bind, pure, Except.pure]
  | some owner =>
      by_cases mine : owner = token
      · refine .inl ⟨by rw [mine], ?_⟩
        simp [release, redis, held, mine, bind, Except.bind, pure, Except.pure]
      · refine .inr ⟨by simpa using mine, ?_⟩
        simp [release, redis, held, mine, bind, Except.bind, pure, Except.pure]

end Cases

end DistributedLock

namespace KeyValueStore

/-- `_key`, with the default prefix. -/
def redisKey (key : String) : Except Failure String :=
  if key = "" then .error (.raised .valueError "cache key must not be empty")
  else .ok ("kis-cache:" ++ key)

def get (key : String) (now : Instant) (store : TextStore) : Except Failure (Option String) := do
  let key ← redisKey key
  return store.get now key

def set (key value : String) (ttlSeconds : Int) (now : Instant) (store : TextStore) :
    Except Failure TextStore := do
  let key ← redisKey key
  let ttl ← positiveTtl ttlSeconds
  return store.set key value (now + seconds ttl)

def delete (key : String) (store : TextStore) : Except Failure TextStore := do
  let key ← redisKey key
  return store.delete key

section Named

variable {key : String} {now : Instant} {store : TextStore} (named : key ≠ "")

include named

theorem get_named : get key now store = .ok (store.get now ("kis-cache:" ++ key)) := by
  simp [get, redisKey, named, bind, Except.bind, pure, Except.pure]

theorem delete_named : delete key store = .ok (Expiring.delete store ("kis-cache:" ++ key)) := by
  simp [delete, redisKey, named, bind, Except.bind, pure, Except.pure]

end Named

/-- What was set can be read until its time is over. -/
theorem get_of_set {key value : String} {ttlSeconds : Int} {now later : Instant}
    {store after : TextStore} (saved : set key value ttlSeconds now store = .ok after)
    (alive : later ≤ now + seconds ttlSeconds) : get key later after = .ok (some value) := by
  by_cases named : key = ""
  · simp [set, redisKey, named, bind, Except.bind] at saved
  · by_cases negative : ttlSeconds ≤ 0
    · simp [set, redisKey, named, positiveTtl, negative, bind, Except.bind] at saved
    · simp only [set, redisKey, if_neg named, positiveTtl, if_neg negative, bind, Except.bind, pure,
        Except.pure, Except.ok.injEq] at saved
      rw [get_named named, ← saved, Expiring.get_set_self, if_pos alive]

end KeyValueStore

end KisAutoTrading
