/-
# Infrastructure.FakeDistributedLock — the lock of the tests

`FakeDistributedLockClient` keeps of every key the token and the time its lease is over, and at
that very time nobody holds the key any more. Its tokens are numbered. The clock is that of the
caller. `acquire` checks the lifetime only once it has found the key free, so a call may raise
after an expired lease is gone, and the client comes back beside the answer.
-/
import KisAutoTrading.Infrastructure.RedisStores

namespace KisAutoTrading

open Theory

set_option autoImplicit false

structure FakeDistributedLockClient where
  defaultTtlSeconds : Int
  /-- The check of the constructor. -/
  positive : 0 < defaultTtlSeconds
  leases : String → Option (String × Instant)
  nextToken : Nat

namespace FakeDistributedLockClient

variable (client : FakeDistributedLockClient)

/-- `_require_key`. -/
def requireKey (key : String) : Except Failure Unit :=
  if key = "" then .error (.raised .valueError "lock key must not be empty") else .ok ()

/-- `_ttl`. -/
def ttl (ttlSeconds : Option Int) : Except Failure Int :=
  positiveTtl (ttlSeconds.getD client.defaultTtlSeconds)

/-- `del self._leases[key]`. -/
def remove (key : String) : FakeDistributedLockClient :=
  { client with leases := Function.update client.leases key none }

/-- `_expire`. -/
def expire (key : String) (clock : Instant) : FakeDistributedLockClient :=
  match client.leases key with
  | some (_, expiresAt) => if expiresAt ≤ clock then client.remove key else client
  | none => client

/-- The text of a token. -/
def tokenText (number : Nat) : String := "lock-token-" ++ toString number

/-- The next token takes the key. -/
def take (key : String) (expiresAt : Instant) : FakeDistributedLockClient :=
  { client with
    leases := Function.update client.leases key (some (tokenText (client.nextToken + 1), expiresAt))
    nextToken := client.nextToken + 1 }

def acquire (key : String) (ttlSeconds : Option Int) (clock : Instant) :
    Except Failure (Option String) × FakeDistributedLockClient :=
  match requireKey key with
  | .error failure => (.error failure, client)
  | .ok () =>
      let client := client.expire key clock
      if (client.leases key).isSome then (.ok none, client)
      else
        match client.ttl ttlSeconds with
        | .error failure => (.error failure, client)
        | .ok ttl =>
            (.ok (some (tokenText (client.nextToken + 1))), client.take key (clock + seconds ttl))

def release (key token : String) (clock : Instant) :
    Except Failure Bool × FakeDistributedLockClient :=
  match requireKey key with
  | .error failure => (.error failure, client)
  | .ok () =>
      let client := client.expire key clock
      match client.leases key with
      | some (owner, _) => if owner = token then (.ok true, client.remove key) else (.ok false, client)
      | none => (.ok false, client)

/-- Whose lease is not over. -/
def holder (now : Instant) (key : String) : Option String :=
  match client.leases key with
  | some (token, expiresAt) => if expiresAt ≤ now then none else some token
  | none => none

section Lemmas

variable {client} {key other : String} {clock now : Instant}

theorem requireKey_named (named : key ≠ "") : requireKey key = .ok () := if_neg named

/-- Nobody notices that an expired lease is removed. -/
theorem holder_expire (order : clock ≤ now) :
    (client.expire key clock).holder now other = client.holder now other := by
  unfold expire
  split
  · rename_i token expiresAt lease
    split
    · rename_i past
      by_cases same : other = key
      · subst same
        simp [holder, remove, lease, past.trans order]
      · simp [holder, remove, same]
    · rfl
  · rfl

/-- After `_expire` the lease that is left is the holder's. -/
theorem leases_expire : ((client.expire key clock).leases key).map Prod.fst = client.holder clock key := by
  unfold expire holder
  cases lease : client.leases key with
  | none => simp [lease]
  | some entry =>
      by_cases past : entry.2 ≤ clock
      · simp [past, remove]
      · simp [past, lease]

@[simp] theorem expire_nextToken : (client.expire key clock).nextToken = client.nextToken := by
  unfold expire
  split
  · split <;> rfl
  · rfl

variable (client) (clock) in
/-- A lifetime that is not positive is only noticed where the key is free. -/
theorem acquire_refused (named : key ≠ "") {ttlSeconds : Int} (negative : ttlSeconds ≤ 0) :
    client.acquire key (some ttlSeconds) clock =
      (if (client.holder clock key).isSome then .ok none
        else .error (.raised .valueError "ttl_seconds must be positive"), client.expire key clock) := by
  have left : ((client.expire key clock).leases key).isSome = (client.holder clock key).isSome := by
    rw [← leases_expire, Option.isSome_map]
  simp only [acquire, requireKey_named named, left]
  split
  · rfl
  · simp only [ttl, positiveTtl, Option.getD_some, if_pos negative]

variable (client) (clock) in
/-- A free key is taken, a held one is left alone. -/
theorem acquire_cases (named : key ≠ "") {ttlSeconds : Int} (positive : 0 < ttlSeconds) :
    (client.holder clock key = none ∧ ∃ after,
      client.acquire key (some ttlSeconds) clock =
          (.ok (some (tokenText (client.nextToken + 1))), after) ∧
        after.nextToken = client.nextToken + 1 ∧
        ∀ now, clock ≤ now → ∀ other, after.holder now other =
          if other = key then
            if clock + seconds ttlSeconds ≤ now then none else some (tokenText (client.nextToken + 1))
          else client.holder now other) ∨
    ((client.holder clock key).isSome ∧ ∃ after,
      client.acquire key (some ttlSeconds) clock = (.ok none, after) ∧
        after.nextToken = client.nextToken ∧
        ∀ now, clock ≤ now → ∀ other, after.holder now other = client.holder now other) := by
  have ttl : (client.expire key clock).ttl (some ttlSeconds) = .ok ttlSeconds :=
    if_neg (by simpa using positive)
  have left : ((client.expire key clock).leases key).map Prod.fst = client.holder clock key :=
    leases_expire
  cases held : client.holder clock key with
  | none =>
      rw [held, Option.map_eq_none_iff] at left
      refine .inl ⟨rfl, (client.expire key clock).take key (clock + seconds ttlSeconds), ?_, ?_, ?_⟩
      · simp only [acquire, requireKey_named named, left, Option.isSome_none, Bool.false_eq_true,
          if_false, ttl, expire_nextToken]
      · exact congrArg (· + 1) expire_nextToken
      · intro now order other
        by_cases same : other = key
        · subst same
          simp [holder, take]
        · have kept : (client.expire key clock).holder now other = client.holder now other :=
            holder_expire order
          simpa [holder, take, same] using kept
  | some token =>
      have some : ((client.expire key clock).leases key).isSome := by
        rw [held] at left
        obtain ⟨lease, found, -⟩ := Option.map_eq_some_iff.mp left
        simp [found]
      refine .inr ⟨rfl, client.expire key clock, ?_, expire_nextToken, ?_⟩
      · simp only [acquire, requireKey_named named, some, if_true]
      · exact fun now order other => holder_expire order

variable (client) (clock) in
/-- The holder frees the key, anybody else changes nothing. -/
theorem release_cases (named : key ≠ "") (token : String) :
    (client.holder clock key = some token ∧ ∃ after,
      client.release key token clock = (.ok true, after) ∧ after.nextToken = client.nextToken ∧
        ∀ now, clock ≤ now → ∀ other, after.holder now other =
          if other = key then none else client.holder now other) ∨
    (client.holder clock key ≠ some token ∧ ∃ after,
      client.release key token clock = (.ok false, after) ∧ after.nextToken = client.nextToken ∧
        ∀ now, clock ≤ now → ∀ other, after.holder now other = client.holder now other) := by
  have left : ((client.expire key clock).leases key).map Prod.fst = client.holder clock key :=
    leases_expire
  cases lease : (client.expire key clock).leases key with
  | none =>
      rw [lease, Option.map_none] at left
      refine .inr ⟨by simp [← left], client.expire key clock, ?_, expire_nextToken, ?_⟩
      · simp only [release, requireKey_named named, lease]
      · exact fun now order other => holder_expire order
  | some entry =>
      rw [lease, Option.map_some] at left
      by_cases mine : entry.1 = token
      · refine .inl ⟨by rw [← left, mine], (client.expire key clock).remove key, ?_, ?_, ?_⟩
        · simp only [release, requireKey_named named, lease, mine, if_true]
        · exact expire_nextToken
        · intro now order other
          by_cases same : other = key
          · subst same
            simp [holder, remove]
          · have kept : (client.expire key clock).holder now other = client.holder now other :=
            holder_expire order
            simpa [holder, remove, same] using kept
      · refine .inr ⟨by simpa [← left] using mine, client.expire key clock, ?_, expire_nextToken, ?_⟩
        · simp only [release, requireKey_named named, lease, if_neg mine]
        · exact fun now order other => holder_expire order

end Lemmas

end FakeDistributedLockClient

end KisAutoTrading
