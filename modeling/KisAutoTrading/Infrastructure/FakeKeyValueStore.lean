/-
# Infrastructure.FakeKeyValueStore — the cache of the tests

`FakeKeyValueStoreClient` keeps each text with the time at which it expires, and at that very
time the text is gone (`get_cases`). The clock is that of the caller. None of its methods
suspends, so what a caller does with it between two suspensions of its own happens at once.
-/
import KisAutoTrading.Infrastructure.RedisStores

namespace KisAutoTrading

open Theory

set_option autoImplicit false

structure FakeKeyValueStoreClient where
  defaultTtlSeconds : Int
  /-- The check of the constructor. -/
  positive : 0 < defaultTtlSeconds
  values : String → Option (String × Instant)

namespace FakeKeyValueStoreClient

variable (client : FakeKeyValueStoreClient)

/-- `_require_key`. -/
def requireKey (key : String) : Except Failure Unit :=
  if key = "" then .error (.raised .valueError "cache key must not be empty") else .ok ()

/-- `_ttl`. -/
def ttl (ttlSeconds : Option Int) : Except Failure Int :=
  positiveTtl (ttlSeconds.getD client.defaultTtlSeconds)

/-- `del self._values[key]`. -/
def remove (key : String) : FakeKeyValueStoreClient :=
  { client with values := Function.update client.values key none }

/-- `self._values[key] = entry`. -/
def put (key : String) (entry : String × Instant) : FakeKeyValueStoreClient :=
  { client with values := Function.update client.values key (some entry) }

@[simp] theorem remove_self (key : String) : (client.remove key).values key = none :=
  Function.update_self _ _ _

@[simp] theorem put_self (key : String) (entry : String × Instant) :
    (client.put key entry).values key = some entry :=
  Function.update_self _ _ _

def get (key : String) (clock : Instant) :
    Except Failure (Option String × FakeKeyValueStoreClient) := do
  requireKey key
  match client.values key with
  | none => return (none, client)
  | some (value, expiresAt) =>
      if expiresAt ≤ clock then return (none, client.remove key) else return (some value, client)

def set (key value : String) (ttlSeconds : Option Int) (clock : Instant) :
    Except Failure FakeKeyValueStoreClient := do
  requireKey key
  let ttl ← client.ttl ttlSeconds
  return client.put key (value, clock + seconds ttl)

def delete (key : String) : Except Failure (Bool × FakeKeyValueStoreClient) := do
  requireKey key
  return ((client.values key).isSome, client.remove key)

section Named

variable {client} {key : String} (named : key ≠ "")

include named

theorem requireKey_named : requireKey key = .ok () := if_neg named

variable (client) in
/-- A read finds the text before its time, and nothing from then on. -/
theorem get_cases (clock : Instant) :
    (∃ value expiresAt, client.values key = some (value, expiresAt) ∧ clock < expiresAt ∧
        client.get key clock = .ok (some value, client)) ∨
      ∃ left, client.get key clock = .ok (none, left) ∧
        (left = client ∨ left = client.remove key) := by
  simp only [get, requireKey_named named, bind, Except.bind, pure, Except.pure]
  cases client.values key with
  | none => exact .inr ⟨client, rfl, .inl rfl⟩
  | some entry =>
      by_cases expired : entry.2 ≤ clock
      · exact .inr ⟨client.remove key, by simp [expired], .inr rfl⟩
      · exact .inl ⟨entry.1, entry.2, rfl, not_le.mp expired, by simp [expired]⟩

theorem delete_named : client.delete key = .ok ((client.values key).isSome, client.remove key) := by
  simp only [delete, requireKey_named named, bind, Except.bind, pure, Except.pure]

theorem set_named (value : String) {ttlSeconds : Int} (positive : 0 < ttlSeconds)
    (clock : Instant) :
    client.set key value (some ttlSeconds) clock =
      .ok (client.put key (value, clock + seconds ttlSeconds)) := by
  simp only [set, requireKey_named named, ttl, positiveTtl, Option.getD_some,
    if_neg (not_le.mpr positive), bind, Except.bind, pure, Except.pure]

end Named

end FakeKeyValueStoreClient

end KisAutoTrading
