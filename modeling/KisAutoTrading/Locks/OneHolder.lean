/-
# Locks.OneHolder — the Redis lock and the fake one, over any run of calls

Both clients are `LeaseLock`s: a key that is free is taken for a lease, and only the token of its
holder frees it before. They differ at the last instant of a lease, at which Redis has the key
still and the fake has not. `one_holder` says for both that two grants of one key do not overlap.
-/
import KisAutoTrading.Infrastructure.FakeDistributedLock
import KisAutoTrading.Theory.LeaseLock

namespace KisAutoTrading.Locks

open Theory Theory.Runs Theory.LeaseLock

set_option autoImplicit false

/-- A call of any client, or time that passes. -/
inductive Call where
  | acquire (key : String) (ttlSeconds : Int) (drawn : String)
  | release (key token : String)
  | wait (duration : Int)

def Forward : Call → Prop
  | .wait duration => 0 ≤ duration
  | _ => True

/-! ## Redis -/

structure Redis where
  store : TextStore
  now : Instant

namespace Redis

def step (s : Redis) : Call → Redis
  | .acquire key ttlSeconds drawn =>
      match DistributedLock.acquire key ttlSeconds drawn s.now s.store with
      | .ok (_, store) => { s with store }
      | .error _ => s
  | .release key token =>
      match DistributedLock.release key token s.now s.store with
      | .ok (_, store) => { s with store }
      | .error _ => s
  | .wait duration => { s with now := s.now + duration }

/-- The call is given its token. -/
def Granted (s : Redis) (key : String) (ttlSeconds : Int) (drawn : String) : Prop :=
  ∃ store, DistributedLock.acquire key ttlSeconds drawn s.now s.store = .ok (some drawn, store)

/-- The call frees the key. -/
def Freed (s : Redis) (key token : String) : Prop :=
  ∃ store, DistributedLock.release key token s.now s.store = .ok (true, store)

def holder (store : TextStore) (now : Instant) (key : String) : Option String :=
  store.get now ("kis-lock:" ++ key)

def effect (s : Redis) : Call → Effect String String Instant
  | .acquire key ttlSeconds drawn =>
      match DistributedLock.acquire key ttlSeconds drawn s.now s.store with
      | .ok (some token, _) => .take key token (s.now + seconds ttlSeconds)
      | _ => .nothing
  | .release key token =>
      match DistributedLock.release key token s.now s.store with
      | .ok (true, _) => .free key token
      | _ => .nothing
  | .wait _ => .nothing

theorem acquire_invalid {key : String} {ttlSeconds : Int} (invalid : ¬ (key ≠ "" ∧ 0 < ttlSeconds))
    (drawn : String) (now : Instant) (store : TextStore) :
    ∃ failure, DistributedLock.acquire key ttlSeconds drawn now store = .error failure := by
  by_cases positive : 0 < ttlSeconds
  · obtain rfl : key = "" := by
      by_contra named
      exact invalid ⟨named, positive⟩
    simp [DistributedLock.acquire, positiveTtl, not_le.mpr positive, DistributedLock.redisKey, bind,
      Except.bind]
  · exact ⟨_, DistributedLock.acquire_refused drawn now store key (not_lt.mp positive)⟩

theorem lockKey_inj {key other : String} : "kis-lock:" ++ other = "kis-lock:" ++ key ↔ other = key := by
  simp

/-- The Redis lock is a lock with leases. -/
theorem lawful : Lawful holder (· ≤ ·) step (fun _ => Forward) store now effect := by
  refine ⟨fun now later last order alive => order.trans alive, ?_, ?_⟩
  · intro s a forward
    cases a with
    | wait duration =>
        simp only [step]
        exact le_add_of_nonneg_right forward
    | acquire key ttlSeconds drawn =>
        simp only [step]
        split <;> exact le_rfl
    | release key token =>
        simp only [step]
        split <;> exact le_rfl
  · intro s a forward
    cases a with
    | wait duration => exact fun later order key _ => rfl
    | acquire key ttlSeconds drawn =>
        by_cases valid : key ≠ "" ∧ 0 < ttlSeconds
        · rcases DistributedLock.acquire_cases drawn s.now s.store valid.1 valid.2 with
            ⟨free, granted⟩ | ⟨held, refused⟩
          · simp only [step, effect, granted]
            refine ⟨free, ?_, ?_⟩
            · intro later _ alive
              exact (Expiring.get_set_self ..).trans (if_pos alive)
            · intro later _ other apart
              have ne : "kis-lock:" ++ other ≠ "kis-lock:" ++ key := fun same => apart (lockKey_inj.mp same)
              simp only [holder, Expiring.get, Expiring.set_of_ne _ _ ne]
          · simp only [step, effect, refused]
            exact fun later order key _ => rfl
        · obtain ⟨failure, raised⟩ := acquire_invalid valid drawn s.now s.store
          simp only [step, effect, raised]
          exact fun later order key _ => rfl
    | release key token =>
        by_cases named : key = ""
        · have raised : ∃ failure, DistributedLock.release key token s.now s.store = .error failure := by
            simp [DistributedLock.release, DistributedLock.redisKey, named, bind, Except.bind]
          obtain ⟨failure, raised⟩ := raised
          simp only [step, effect, raised]
          exact fun later order key _ => rfl
        · rcases DistributedLock.release_cases token s.now s.store named with
            ⟨mine, freed⟩ | ⟨other, refused⟩
          · simp only [step, effect, freed]
            refine ⟨mine, ?_⟩
            intro later _ other apart
            have ne : "kis-lock:" ++ other ≠ "kis-lock:" ++ key := fun same => apart (lockKey_inj.mp same)
            simp only [holder, Expiring.get, Expiring.delete_of_ne _ ne]
          · simp only [step, effect, refused]
            exact fun later order key _ => rfl

theorem effect_granted {s : Redis} {key drawn : String} {ttlSeconds : Int}
    (granted : s.Granted key ttlSeconds drawn) :
    effect s (.acquire key ttlSeconds drawn) = .take key drawn (s.now + seconds ttlSeconds) := by
  obtain ⟨store, granted⟩ := granted
  simp only [effect, granted]

theorem freed_of_effect {s : Redis} {call : Call} {key token : String}
    (freed : effect s call = .free key token) : call = .release key token ∧ s.Freed key token := by
  cases call with
  | wait duration => cases freed
  | acquire key' ttlSeconds drawn =>
      simp only [effect] at freed
      split at freed <;> cases freed
  | release key' token' =>
      simp only [effect] at freed
      split at freed
      · rename_i store released
        cases freed
        exact ⟨rfl, store, released⟩
      · cases freed

end Redis

/-! ## The fake -/

structure Fake where
  client : FakeDistributedLockClient
  now : Instant

namespace Fake

open FakeDistributedLockClient

def step (s : Fake) : Call → Fake
  | .acquire key ttlSeconds _ => { s with client := (s.client.acquire key (some ttlSeconds) s.now).2 }
  | .release key token => { s with client := (s.client.release key token s.now).2 }
  | .wait duration => { s with now := s.now + duration }

def Granted (s : Fake) (key : String) (ttlSeconds : Int) (token : String) : Prop :=
  (s.client.acquire key (some ttlSeconds) s.now).1 = .ok (some token)

def Freed (s : Fake) (key token : String) : Prop :=
  (s.client.release key token s.now).1 = .ok true

def effect (s : Fake) : Call → Effect String String Instant
  | .acquire key ttlSeconds _ =>
      match (s.client.acquire key (some ttlSeconds) s.now).1 with
      | .ok (some token) => .take key token (s.now + seconds ttlSeconds)
      | _ => .nothing
  | .release key token =>
      match (s.client.release key token s.now).1 with
      | .ok true => .free key token
      | _ => .nothing
  | .wait _ => .nothing

section

variable {client : FakeDistributedLockClient} {clock : Instant} {ttlSeconds : Int} {key : String}

variable (client) (clock) in
/-- A call with a lifetime that is not positive finds the key held, or raises. -/
theorem acquire_invalid (invalid : ¬ (key ≠ "" ∧ 0 < ttlSeconds)) :
    ((client.acquire key (some ttlSeconds) clock).1 = .ok none ∨
        ∃ failure, (client.acquire key (some ttlSeconds) clock).1 = .error failure) ∧
      ∀ now, clock ≤ now → ∀ other,
        (client.acquire key (some ttlSeconds) clock).2.holder now other = client.holder now other := by
  by_cases named : key = ""
  · simp [acquire, requireKey, named]
  · have negative : ttlSeconds ≤ 0 := by
      by_contra positive
      exact invalid ⟨named, not_le.mp positive⟩
    have kept : ∀ now, clock ≤ now → ∀ other,
        (client.expire key clock).holder now other = client.holder now other :=
      fun now order other => holder_expire order
    rw [acquire_refused client clock named negative]
    refine ⟨?_, kept⟩
    split
    · exact .inl rfl
    · exact .inr ⟨_, rfl⟩

end

/-- The fake lock is a lock with leases. -/
theorem lawful : Lawful FakeDistributedLockClient.holder (· < ·) step (fun _ => Forward) client now
    effect := by
  refine ⟨fun now later last order alive => order.trans_lt alive, ?_, ?_⟩
  · intro s a forward
    cases a with
    | wait duration => exact le_add_of_nonneg_right forward
    | _ => exact le_rfl
  · intro s a forward
    cases a with
    | wait duration => exact fun later order key _ => rfl
    | acquire key ttlSeconds drawn =>
        by_cases valid : key ≠ "" ∧ 0 < ttlSeconds
        · rcases acquire_cases s.client s.now valid.1 valid.2 with
            ⟨free, after, granted, -, holders⟩ | ⟨held, after, refused, -, holders⟩
          · simp only [step, effect, granted]
            refine ⟨free, ?_, ?_⟩
            · intro later order alive
              rw [holders later order, if_pos rfl, if_neg (not_le.mpr alive)]
            · intro later order other apart
              rw [holders later order, if_neg apart]
          · simp only [step, effect, refused]
            exact fun later order key _ => holders later order key
        · obtain ⟨answer, holders⟩ := acquire_invalid s.client s.now valid
          have nothing : effect s (.acquire key ttlSeconds drawn) = .nothing := by
            rcases answer with none | ⟨failure, raised⟩
            · simp only [effect, none]
            · simp only [effect, raised]
          rw [nothing]
          exact fun later order other _ => holders later order other
    | release key token =>
        by_cases named : key = ""
        · simp only [step, effect, release, requireKey, if_pos named]
          exact fun later order key _ => rfl
        · rcases release_cases s.client s.now named token with
            ⟨mine, after, freed, -, holders⟩ | ⟨other, after, refused, -, holders⟩
          · simp only [step, effect, freed]
            refine ⟨mine, ?_⟩
            intro later order other apart
            rw [holders later order, if_neg apart]
          · simp only [step, effect, refused]
            exact fun later order key _ => holders later order key

theorem effect_granted {s : Fake} {key drawn token : String} {ttlSeconds : Int}
    (granted : s.Granted key ttlSeconds token) :
    effect s (.acquire key ttlSeconds drawn) = .take key token (s.now + seconds ttlSeconds) := by
  unfold Granted at granted
  simp only [effect, granted]

theorem freed_of_effect {s : Fake} {call : Call} {key token : String}
    (freed : effect s call = .free key token) : call = .release key token ∧ s.Freed key token := by
  cases call with
  | wait duration => cases freed
  | acquire key' ttlSeconds drawn =>
      simp only [effect] at freed
      split at freed <;> cases freed
  | release key' token' =>
      simp only [effect] at freed
      split at freed
      · rename_i released
        cases freed
        exact ⟨rfl, released⟩
      · cases freed

end Fake

/-- **One holder at a time, of both locks.** In every run of calls, if a key is granted a second
time, then the first lease is over, or the first token has freed the key in between. -/
theorem one_holder (key : String) (ttlSeconds ttlSeconds' : Int) (drawn drawn' : String)
    (front mid back : List Call) :
    (∀ start : Redis, Admissible Redis.step (fun _ => Forward) start
        (front ++ .acquire key ttlSeconds drawn ::
          (mid ++ .acquire key ttlSeconds' drawn' :: back)) →
      let first := exec Redis.step start front
      let second := exec Redis.step start (front ++ .acquire key ttlSeconds drawn :: mid)
      first.Granted key ttlSeconds drawn → second.Granted key ttlSeconds' drawn' →
        first.now + seconds ttlSeconds < second.now ∨
          ∃ early late, mid = early ++ .release key drawn :: late ∧
            (exec Redis.step start (front ++ .acquire key ttlSeconds drawn :: early)).Freed key drawn) ∧
    (∀ start : Fake, Admissible Fake.step (fun _ => Forward) start
        (front ++ .acquire key ttlSeconds drawn ::
          (mid ++ .acquire key ttlSeconds' drawn' :: back)) →
      let first := exec Fake.step start front
      let second := exec Fake.step start (front ++ .acquire key ttlSeconds drawn :: mid)
      ∀ token token', first.Granted key ttlSeconds token → second.Granted key ttlSeconds' token' →
        first.now + seconds ttlSeconds ≤ second.now ∨
          ∃ early late, mid = early ++ .release key token :: late ∧
            (exec Fake.step start (front ++ .acquire key ttlSeconds drawn :: early)).Freed key token) := by
  constructor
  · intro start admissible first second granted granted'
    rcases second_take Redis.lawful admissible (Redis.effect_granted granted)
        (Redis.effect_granted granted') with past | ⟨early, call, late, same, freed⟩
    · exact .inl (not_le.mp past)
    · obtain ⟨rfl, gone⟩ := Redis.freed_of_effect freed
      exact .inr ⟨early, late, same, gone⟩
  · intro start admissible first second token token' granted granted'
    rcases second_take Fake.lawful admissible (Fake.effect_granted granted)
        (Fake.effect_granted granted') with past | ⟨early, call, late, same, freed⟩
    · exact .inl (not_lt.mp past)
    · obtain ⟨rfl, gone⟩ := Fake.freed_of_effect freed
      exact .inr ⟨early, late, same, gone⟩

namespace Sample

/-- A second client asks and releases in vain, and a second later the first one frees the key. -/
def between (token : String) : List Call :=
  [.acquire "token" 30 "other", .release "token" "other", .wait 1000000, .release "token" token]

/-- A fake that nobody has used. -/
def unused : Fake := ⟨⟨60, by decide, fun _ => none, 0⟩, 0⟩

theorem forward (first second token : String) :
    Admissible Redis.step (fun _ => Forward) ⟨.empty, 0⟩
        (.acquire "token" 30 first :: (between token ++ [.acquire "token" 30 second])) ∧
      Admissible Fake.step (fun _ => Forward) unused
        (.acquire "token" 30 first :: (between token ++ [.acquire "token" 30 second])) :=
  ⟨⟨trivial, trivial, trivial, (by decide : (0 : Int) ≤ 1000000), trivial, trivial, trivial⟩,
    ⟨trivial, trivial, trivial, (by decide : (0 : Int) ≤ 1000000), trivial, trivial, trivial⟩⟩

/-- Within the first lease both locks are granted again, since the first token has freed them. -/
theorem second_lease :
    (∃ early late, between "first" = early ++ .release "token" "first" :: late ∧
      (exec Redis.step ⟨.empty, 0⟩ (.acquire "token" 30 "first" :: early)).Freed "token" "first") ∧
    (∃ early late, between "lock-token-1" = early ++ .release "token" "lock-token-1" :: late ∧
      (exec Fake.step unused (.acquire "token" 30 "first" :: early)).Freed "token" "lock-token-1") := by
  have running : ¬ ((0 : Int) + seconds 30 < 1000000) ∧ ¬ ((0 : Int) + seconds 30 ≤ 1000000) := by decide
  constructor
  · have either := (one_holder "token" 30 30 "first" "second" [] (between "first") []).1 ⟨.empty, 0⟩
      (forward "first" "second" "first").1 ⟨_, rfl⟩ ⟨_, rfl⟩
    exact either.resolve_left running.1
  · have either := (one_holder "token" 30 30 "first" "second" [] (between "lock-token-1") []).2 unused
      (forward "first" "second" "lock-token-1").2 "lock-token-1" "lock-token-2" rfl rfl
    exact either.resolve_left running.2

end Sample

end KisAutoTrading.Locks
