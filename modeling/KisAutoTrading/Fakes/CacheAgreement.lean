/-
# Fakes.CacheAgreement — a test against the fake cache is a test against Redis

One script of reads, writes and deletions runs against both clients. As with the locks it is
compared where no call falls on the last instant of an entry. Then reads and writes get the same
answers, errors included. A deletion does not always: the fake says of an entry that is over and
has not been read since that it was there, and Redis that it was not (`fake_cache_agrees_iff`).
-/
import KisAutoTrading.Infrastructure.FakeKeyValueStore
import KisAutoTrading.Theory.Runs

namespace KisAutoTrading.Fakes.Cache

open Theory Theory.Runs

set_option autoImplicit false

structure State where
  store : TextStore
  client : FakeKeyValueStoreClient
  now : Instant

inductive Call where
  | get (key : String)
  | set (key value : String) (ttlSeconds : Int)
  | delete (key : String)
  | wait (duration : Int)

inductive Answer where
  | text (value : Option String)
  | stored
  | deleted (existed : Bool)
  deriving DecidableEq

/-- What `delete` of the Redis client returns: whether `DEL` has found the key. -/
def existed (key : String) (now : Instant) (store : TextStore) : Except Failure Bool := do
  let value ← KeyValueStore.get key now store
  return value.isSome

/-- The answer of the Redis client, and its store after. -/
def redis (s : State) : Call → Except Failure Answer × TextStore
  | .get key => ((KeyValueStore.get key s.now s.store).map .text, s.store)
  | .set key value ttlSeconds =>
      match KeyValueStore.set key value ttlSeconds s.now s.store with
      | .ok store => (.ok .stored, store)
      | .error failure => (.error failure, s.store)
  | .delete key =>
      match KeyValueStore.delete key s.store with
      | .ok store => ((existed key s.now s.store).map .deleted, store)
      | .error failure => (.error failure, s.store)
  | .wait _ => (.ok .stored, s.store)

/-- The answer of the fake, and the fake after. -/
def fake (s : State) : Call → Except Failure Answer × FakeKeyValueStoreClient
  | .get key =>
      match s.client.get key s.now with
      | .ok (value, client) => (.ok (.text value), client)
      | .error failure => (.error failure, s.client)
  | .set key value ttlSeconds =>
      match s.client.set key value (some ttlSeconds) s.now with
      | .ok client => (.ok .stored, client)
      | .error failure => (.error failure, s.client)
  | .delete key =>
      match s.client.delete key with
      | .ok (existed, client) => (.ok (.deleted existed), client)
      | .error failure => (.error failure, s.client)
  | .wait _ => (.ok .stored, s.client)

def Call.duration : Call → Int
  | .wait duration => duration
  | _ => 0

def next (s : State) (call : Call) : State :=
  ⟨(redis s call).2, (fake s call).2, s.now + call.duration⟩

/-- No entry ends at this very instant. -/
def Between (s : State) : Prop := ∀ key value, s.store ("kis-cache:" ++ key) ≠ some (value, s.now)

def Allowed (s : State) : Call → Prop
  | .wait duration => 0 ≤ duration
  | _ => Between s

/-- The fake's entry of a key is over. -/
def Over (s : State) (key : String) : Prop :=
  ∃ value expiresAt, s.client.values key = some (value, expiresAt) ∧ expiresAt ≤ s.now

/-- The stores have one entry of a key, or none that can be read. -/
def SameKey (s : State) (key : String) : Prop :=
  (∃ value last, s.store ("kis-cache:" ++ key) = some (value, last) ∧
      s.client.values key = some (value, last)) ∨
    s.store.get s.now ("kis-cache:" ++ key) = none ∧ (s.client.values key = none ∨ Over s key)

def Same (s : State) : Prop := ∀ key, SameKey s key

section Steps

variable {s t : State} {key : String}

/-- What can be read of a key between two ends of entries. -/
theorem SameKey.read (same : SameKey s key) (between : Between s) :
    (∃ value last, s.store.get s.now ("kis-cache:" ++ key) = some value ∧
        s.client.values key = some (value, last) ∧ s.now < last) ∨
      s.store.get s.now ("kis-cache:" ++ key) = none ∧ (s.client.values key = none ∨ Over s key) := by
  rcases same with ⟨value, last, entry, copy⟩ | gone
  · have apart : last ≠ s.now := fun here => between key value (here ▸ entry)
    rcases lt_or_gt_of_ne apart with past | alive
    · refine .inr ⟨?_, .inr ⟨value, last, copy, past.le⟩⟩
      simp [Expiring.get, entry, not_le.mpr past]
    · refine .inl ⟨value, last, ?_, copy, alive⟩
      simp [Expiring.get, entry, le_of_lt alive]
  · exact .inr gone

/-- The entries are as they were, some time later. -/
theorem SameKey.later (same : SameKey s key) (order : s.now ≤ t.now)
    (entry : t.store ("kis-cache:" ++ key) = s.store ("kis-cache:" ++ key))
    (copy : t.client.values key = s.client.values key) : SameKey t key := by
  rcases same with ⟨value, last, held, held'⟩ | ⟨none, rest⟩
  · exact .inl ⟨value, last, entry.trans held, copy.trans held'⟩
  · refine .inr ⟨?_, ?_⟩
    · have gone := Expiring.get_none_mono s.store none order
      simpa only [Expiring.get, entry] using gone
    · rcases rest with absent | ⟨value, last, held, past⟩
      · exact .inl (copy.trans absent)
      · exact .inr ⟨value, last, copy.trans held, past.trans order⟩

/-- One key of both stores is written. -/
theorem Same.of_key (same : Same s) (key : String) (order : s.now ≤ t.now) (mine : SameKey t key)
    (entries : ∀ other, other ≠ key → t.store ("kis-cache:" ++ other) = s.store ("kis-cache:" ++ other))
    (copies : ∀ other, other ≠ key → t.client.values other = s.client.values other) : Same t := by
  intro other
  by_cases here : other = key
  · exact here ▸ mine
  · exact (same other).later order (entries other here) (copies other here)

theorem ne_key {other : String} (apart : other ≠ key) : "kis-cache:" ++ other ≠ "kis-cache:" ++ key := by
  simpa using apart

theorem now_next (call : Call) (still : call.duration = 0) : (next s call).now = s.now := by
  simp [next, still]

/-- Both clients read one answer. -/
theorem get_same (same : Same s) (between : Between s) (key : String) :
    (redis s (.get key)).1 = (fake s (.get key)).1 ∧ Same (next s (.get key)) := by
  have now := now_next (s := s) (.get key) rfl
  by_cases named : key = ""
  · have raised : fake s (.get key) =
        (.error (.raised .valueError "cache key must not be empty"), s.client) := by
      simp [fake, FakeKeyValueStoreClient.get, FakeKeyValueStoreClient.requireKey, named, bind, Except.bind]
    refine ⟨?_, fun other => (same other).later now.ge rfl (by rw [next, raised])⟩
    rw [raised]
    simp [redis, KeyValueStore.get, KeyValueStore.redisKey, named, bind, Except.bind, Except.map]
  have read : (redis s (.get key)).1 = .ok (.text (s.store.get s.now ("kis-cache:" ++ key))) := by
    simp [redis, KeyValueStore.get_named named, Except.map]
  rcases (same key).read between with ⟨value, last, alive, copy, order⟩ | ⟨none, rest⟩
  · have found : fake s (.get key) = (.ok (.text (some value)), s.client) := by
      simp [fake, FakeKeyValueStoreClient.get, FakeKeyValueStoreClient.requireKey_named named, copy,
        not_le.mpr order, bind, Except.bind, pure, Except.pure]
    refine ⟨by rw [read, alive, found], fun other => (same other).later now.ge rfl (by rw [next, found])⟩
  rcases rest with absent | ⟨value, last, copy, past⟩
  · have missed : fake s (.get key) = (.ok (.text Option.none), s.client) := by
      simp [fake, FakeKeyValueStoreClient.get, FakeKeyValueStoreClient.requireKey_named named, absent,
        bind, Except.bind, pure, Except.pure]
    refine ⟨by rw [read, none, missed], fun other => (same other).later now.ge rfl (by rw [next, missed])⟩
  · have missed : fake s (.get key) = (.ok (.text Option.none), s.client.remove key) := by
      simp [fake, FakeKeyValueStoreClient.get, FakeKeyValueStoreClient.requireKey_named named, copy,
        past, bind, Except.bind, pure, Except.pure]
    refine ⟨by rw [read, none, missed],
      same.of_key key now.ge (.inr ⟨?_, .inl ?_⟩) (fun _ _ => rfl) ?_⟩
    · rw [now]
      exact none
    · simp [next, missed]
    · intro other apart
      simp [next, missed, FakeKeyValueStoreClient.remove, apart]

theorem set_same (same : Same s) (key value : String) (ttlSeconds : Int) :
    (redis s (.set key value ttlSeconds)).1 = (fake s (.set key value ttlSeconds)).1 ∧
      Same (next s (.set key value ttlSeconds)) := by
  have now := now_next (s := s) (.set key value ttlSeconds) rfl
  by_cases valid : key ≠ "" ∧ 0 < ttlSeconds
  · obtain ⟨named, positive⟩ := valid
    have stored : s.client.set key value (some ttlSeconds) s.now =
        .ok (s.client.put key (value, s.now + seconds ttlSeconds)) :=
      FakeKeyValueStoreClient.set_named named value positive s.now
    have redis' : KeyValueStore.set key value ttlSeconds s.now s.store =
        .ok (s.store.set ("kis-cache:" ++ key) value (s.now + seconds ttlSeconds)) := by
      simp [KeyValueStore.set, KeyValueStore.redisKey, named, positiveTtl, not_le.mpr positive, bind,
        Except.bind, pure, Except.pure]
    refine ⟨by simp only [redis, redis', fake, stored], ?_⟩
    refine same.of_key key now.ge (.inl ⟨value, s.now + seconds ttlSeconds, ?_, ?_⟩) ?_ ?_
    · simp only [next, redis, redis', Expiring.set_self]
    · simp only [next, fake, stored, FakeKeyValueStoreClient.put_self]
    · intro other apart
      simp only [next, redis, redis', Expiring.set_of_ne _ _ (ne_key apart)]
    · intro other apart
      simp [next, fake, stored, FakeKeyValueStoreClient.put, apart]
  · -- Both clients look at the key first.
    have raised : ∃ failure, KeyValueStore.set key value ttlSeconds s.now s.store = .error failure ∧
        s.client.set key value (some ttlSeconds) s.now = .error failure := by
      by_cases named : key = ""
      · simp [KeyValueStore.set, KeyValueStore.redisKey, FakeKeyValueStoreClient.set,
          FakeKeyValueStoreClient.requireKey, named, bind, Except.bind]
      · have negative : ttlSeconds ≤ 0 := by
          by_contra positive
          exact valid ⟨named, not_le.mp positive⟩
        simp [KeyValueStore.set, KeyValueStore.redisKey, FakeKeyValueStoreClient.set,
          FakeKeyValueStoreClient.requireKey, FakeKeyValueStoreClient.ttl, positiveTtl, named, negative,
          bind, Except.bind]
    obtain ⟨failure, redis', fake'⟩ := raised
    refine ⟨by simp only [redis, redis', fake, fake'], fun other => (same other).later now.ge ?_ ?_⟩
    · simp only [next, redis, redis']
    · simp only [next, fake, fake']

theorem delete_same (same : Same s) (between : Between s) (key : String) :
    ((redis s (.delete key)).1 = (fake s (.delete key)).1 ↔ key = "" ∨ ¬ Over s key) ∧
      (key ≠ "" → Over s key → (redis s (.delete key)).1 = .ok (.deleted false) ∧
        (fake s (.delete key)).1 = .ok (.deleted true)) ∧
      Same (next s (.delete key)) := by
  have now := now_next (s := s) (.delete key) rfl
  by_cases named : key = ""
  · have redis' : KeyValueStore.delete key s.store =
        .error (.raised .valueError "cache key must not be empty") := by
      simp [KeyValueStore.delete, KeyValueStore.redisKey, named, bind, Except.bind]
    have fake' : s.client.delete key = .error (.raised .valueError "cache key must not be empty") := by
      simp [FakeKeyValueStoreClient.delete, FakeKeyValueStoreClient.requireKey, named, bind, Except.bind]
    refine ⟨?_, fun apart => absurd named apart, fun other => (same other).later now.ge ?_ ?_⟩
    · simp only [redis, redis', fake, fake', true_iff]
      exact .inl named
    · simp only [next, redis, redis']
    · simp only [next, fake, fake']
  have fake' : s.client.delete key = .ok ((s.client.values key).isSome, s.client.remove key) :=
    FakeKeyValueStoreClient.delete_named named
  have redis' : KeyValueStore.delete key s.store =
      .ok (Expiring.delete s.store ("kis-cache:" ++ key)) := KeyValueStore.delete_named named
  have answer : (redis s (.delete key)).1 =
      .ok (.deleted (s.store.get s.now ("kis-cache:" ++ key)).isSome) := by
    simp [redis, redis', existed, KeyValueStore.get_named named, bind, Except.bind, pure, Except.pure,
      Except.map]
  have answer' : (fake s (.delete key)).1 = .ok (.deleted (s.client.values key).isSome) := by
    simp [fake, fake']
  refine ⟨?_, fun _ past => ?_, same.of_key key now.ge (.inr ⟨?_, .inl ?_⟩) ?_ ?_⟩
  · rw [answer, answer']
    simp only [named, false_or, Except.ok.injEq, Answer.deleted.injEq]
    rcases (same key).read between with ⟨value, last, alive, copy, order⟩ | ⟨none, absent | past⟩
    · have running : ¬ Over s key := by
        rintro ⟨other, ends, copy', past⟩
        rw [copy] at copy'
        cases copy'
        exact absurd past (not_le.mpr order)
      simp [alive, copy, running]
    · have never : ¬ Over s key := by
        rintro ⟨other, ends, copy, -⟩
        rw [absent] at copy
        cases copy
      simp [none, absent, never]
    · obtain ⟨value, ends, copy, -⟩ := id past
      simp [none, copy, past]
  · obtain ⟨value, ends, copy, past⟩ := past
    rw [answer, answer', copy]
    rcases (same key).read between with ⟨value', last, -, copy', order⟩ | ⟨none, -⟩
    · rw [copy] at copy'
      cases copy'
      exact absurd past (not_le.mpr order)
    · rw [none]
      exact ⟨rfl, rfl⟩
  · simp [next, redis, redis']
  · simp [next, fake, fake']
  · intro other apart
    simp only [next, redis, redis', Expiring.delete_of_ne _ (ne_key apart)]
  · intro other apart
    simp [next, fake, fake', FakeKeyValueStoreClient.remove, apart]

/-- The answers differ on a deletion of an entry that is over, and nowhere else. There the fake has
found the entry, and Redis has not. -/
structure Agrees (s : State) (call : Call) : Prop where
  same_iff : (redis s call).1 = (fake s call).1 ↔
    ∀ key, call = .delete key → key = "" ∨ ¬ Over s key
  late : ∀ key, call = .delete key → key ≠ "" → Over s key →
    (redis s call).1 = .ok (.deleted false) ∧ (fake s call).1 = .ok (.deleted true)

theorem agrees_of_same {call : Call} (kept : ∀ key, call ≠ .delete key)
    (same : (redis s call).1 = (fake s call).1) : Agrees s call where
  same_iff := iff_of_true same fun key deleted => absurd deleted (kept key)
  late key deleted := absurd deleted (kept key)

theorem step_same (s : State) (call : Call) (same : Same s) (allowed : Allowed s call) :
    Agrees s call ∧ Same (next s call) := by
  cases call with
  | get key =>
      obtain ⟨answer, after⟩ := get_same same allowed key
      exact ⟨agrees_of_same nofun answer, after⟩
  | set key value ttlSeconds =>
      obtain ⟨answer, after⟩ := set_same same key value ttlSeconds
      exact ⟨agrees_of_same nofun answer, after⟩
  | delete key =>
      obtain ⟨answer, late, after⟩ := delete_same same allowed key
      refine ⟨⟨by simpa using answer, ?_⟩, after⟩
      intro other deleted
      cases deleted
      exact late
  | wait duration =>
      refine ⟨agrees_of_same nofun rfl, fun key => (same key).later ?_ rfl rfl⟩
      exact le_add_of_nonneg_right allowed

end Steps

/-- Neither client has been used. -/
def start (defaultTtlSeconds : Int) (positive : 0 < defaultTtlSeconds) (now : Instant) : State :=
  ⟨.empty, ⟨defaultTtlSeconds, positive, fun _ => none⟩, now⟩

namespace Sample

def script : List Call := [.set "news" "cached" 60, .wait 90000000, .delete "news"]

theorem admissible : Admissible next Allowed (start 60 (by decide) 0) script := by
  have first : Between (start 60 (by decide) 0) := by
    intro key value entry
    cases entry
  have last : Between (exec next (start 60 (by decide) 0) (script.take 2)) := by
    intro key value
    have only : (exec next (start 60 (by decide) 0) (script.take 2)).store =
        Expiring.set .empty "kis-cache:news" "cached" 60000000 := rfl
    rw [only]
    by_cases same : "kis-cache:" ++ key = "kis-cache:news"
    · rw [same, Expiring.set_self]
      intro entry
      cases entry
    · rw [Expiring.set_of_ne _ _ same]
      intro entry
      cases entry
  exact ⟨first, (by decide : (0 : Int) ≤ 90000000), last, trivial⟩

end Sample

end KisAutoTrading.Fakes.Cache
