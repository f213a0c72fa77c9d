/-
# Fakes.LockAgreement — a test against the fake lock is a test against Redis

One script runs against both clients. It passes on only tokens it was given, so it names them by
the grant they came from: the fake numbers its tokens, Redis' are drawn. At the last instant of a
lease Redis still has the key and the fake has not, so a script is compared only where no call
falls on such an instant.

Redis looks at the lifetime first and the fake last, so an `acquire` for no time at all is
answered differently where the key has no name or is held (`fake_lock_agrees_iff`); every other
call gets one answer. `Same` relates the two stores and `step_same` is the one step.
-/
import KisAutoTrading.Locks.OneHolder
import Mathlib.Data.List.GetD
import Mathlib.Data.List.Nodup

namespace KisAutoTrading.Fakes.Lock

open Theory Theory.Runs FakeDistributedLockClient
open Locks.Redis (lockKey_inj)

set_option autoImplicit false

/-- Both clients, with the tokens Redis has granted; the fake's are numbered from one. -/
structure State where
  store : TextStore
  client : FakeDistributedLockClient
  now : Instant
  drawn : List String

inductive Call where
  | acquire (key : String) (ttlSeconds : Int) (token : String)
  | release (key : String) (grant : Nat)
  | wait (duration : Int)

/-- What a call is told: whether it has the key, or has freed it. -/
abbrev Answer : Type := Except Failure Bool

def State.token (s : State) (grant : Nat) : String := s.drawn.getD grant ""

/-- The answer of each client, and both clients after. -/
def step (s : State) : Call → Answer × Answer × State
  | .acquire key ttlSeconds token =>
      let (answer, client) := s.client.acquire key (some ttlSeconds) s.now
      match DistributedLock.acquire key ttlSeconds token s.now s.store with
      | .ok (granted, store) =>
          (.ok granted.isSome, answer.map Option.isSome,
            { s with store, client, drawn := s.drawn ++ granted.toList })
      | .error failure => (.error failure, answer.map Option.isSome, { s with client })
  | .release key grant =>
      let (answer, client) := s.client.release key (tokenText (grant + 1)) s.now
      match DistributedLock.release key (s.token grant) s.now s.store with
      | .ok (freed, store) => (.ok freed, answer, { s with store, client })
      | .error failure => (.error failure, answer, { s with client })
  | .wait duration => (.ok true, .ok true, { s with now := s.now + duration })

def next (s : State) (call : Call) : State := (step s call).2.2

/-- No lease ends at this very instant. -/
def Between (s : State) : Prop := ∀ key token, s.store ("kis-lock:" ++ key) ≠ some (token, s.now)

def Allowed (s : State) : Call → Prop
  | .acquire _ _ token => Between s ∧ token ∉ s.drawn
  | .release _ grant => Between s ∧ grant < s.drawn.length
  | .wait duration => 0 ≤ duration

/-- A key is held under one grant in both stores, or in neither. -/
def SameKey (s : State) (key : String) : Prop :=
  (∃ grant last, grant < s.drawn.length ∧
      s.store ("kis-lock:" ++ key) = some (s.token grant, last) ∧
      ∀ later, s.now ≤ later → s.client.holder later key =
        if last ≤ later then none else some (tokenText (grant + 1))) ∨
    s.store.get s.now ("kis-lock:" ++ key) = none ∧
      ∀ later, s.now ≤ later → s.client.holder later key = none

/-- The key has a holder, as Redis knows it. -/
def Held (s : State) (key : String) : Prop := (s.store.get s.now ("kis-lock:" ++ key)).isSome

structure Same (s : State) : Prop where
  keys : ∀ key, SameKey s key
  numbered : s.client.nextToken = s.drawn.length
  distinct : s.drawn.Nodup

section Steps

variable {s : State}

theorem tokenText_inj {n m : Nat} : tokenText n = tokenText m ↔ n = m := by
  constructor
  · intro same
    have texts : toString n = toString m := by simpa [tokenText] using same
    have digits := congrArg String.toList texts
    rw [Nat.toString_eq_ofList_toDigits, Nat.toString_eq_ofList_toDigits, String.toList_ofList,
      String.toList_ofList] at digits
    rw [← Nat.ofDigitChars_ten_toDigits (n := n), digits, Nat.ofDigitChars_ten_toDigits]
  · rintro rfl
    rfl

theorem token_inj (distinct : s.drawn.Nodup) {n m : Nat} (short : n < s.drawn.length)
    (short' : m < s.drawn.length) : s.token n = s.token m ↔ n = m := by
  simp only [State.token, List.getD_eq_getElem _ _ short, List.getD_eq_getElem _ _ short']
  exact distinct.getElem_inj_iff

/-- Between two ends of leases the clients know the same holder. -/
theorem SameKey.holder {key : String} (same : SameKey s key) (between : Between s) :
    (s.store.get s.now ("kis-lock:" ++ key) = none ∧ s.client.holder s.now key = none) ∨
      ∃ grant, grant < s.drawn.length ∧
        s.store.get s.now ("kis-lock:" ++ key) = some (s.token grant) ∧
        s.client.holder s.now key = some (tokenText (grant + 1)) := by
  rcases same with ⟨grant, last, granted, entry, holder⟩ | ⟨none, holder⟩
  · have apart : last ≠ s.now := fun here => between key (s.token grant) (here ▸ entry)
    rcases lt_or_gt_of_ne apart with past | alive
    · refine .inl ⟨?_, (holder _ le_rfl).trans (if_pos past.le)⟩
      simp [Expiring.get, entry, not_le.mpr past]
    · refine .inr ⟨grant, granted, ?_, (holder _ le_rfl).trans (if_neg (not_le.mpr alive))⟩
      simp [Expiring.get, entry, le_of_lt alive]
  · exact .inl ⟨none, holder _ le_rfl⟩

/-- Time passes, and the clients forget what they did not have in common. -/
theorem SameKey.later {key : String} {t : State} (same : SameKey s key)
    (drawn : ∃ more, t.drawn = s.drawn ++ more)
    (entry : t.store ("kis-lock:" ++ key) = s.store ("kis-lock:" ++ key)) (order : s.now ≤ t.now)
    (holder : ∀ later, t.now ≤ later → t.client.holder later key = s.client.holder later key) :
    SameKey t key := by
  obtain ⟨more, drawn⟩ := drawn
  rcases same with ⟨grant, last, granted, held, holds⟩ | ⟨none, holds⟩
  · refine .inl ⟨grant, last, ?_, ?_, ?_⟩
    · rw [drawn, List.length_append]
      omega
    · have token : t.token grant = s.token grant := by
        simp only [State.token, drawn, List.getD_append _ _ _ _ granted]
      rw [entry, held, token]
    · intro later after
      rw [holder later after, holds later (order.trans after)]
  · refine .inr ⟨?_, ?_⟩
    · have gone := Expiring.get_none_mono s.store none order
      simpa only [Expiring.get, entry] using gone
    · intro later after
      rw [holder later after, holds later (order.trans after)]

/-- Only the clients change, and of all keys but one nobody notices. -/
theorem Same.of_key (same : Same s) {t : State} (key : String) (now : t.now = s.now)
    (drawn : ∃ more, t.drawn = s.drawn ++ more) (numbered : t.client.nextToken = t.drawn.length)
    (distinct : t.drawn.Nodup) (mine : SameKey t key)
    (entries : ∀ other, other ≠ key → t.store ("kis-lock:" ++ other) = s.store ("kis-lock:" ++ other))
    (holders : ∀ other, other ≠ key → ∀ later, s.now ≤ later →
      t.client.holder later other = s.client.holder later other) : Same t := by
  refine ⟨fun other => ?_, numbered, distinct⟩
  by_cases here : other = key
  · exact here ▸ mine
  · exact (same.keys other).later drawn (entries other here) now.ge
      fun later order => holders other here later (now ▸ order)

/-- Both clients grant a key, or neither does. -/
theorem acquire_same (same : Same s) (between : Between s) (key : String) {token : String}
    {ttlSeconds : Int} (positive : 0 < ttlSeconds) (fresh : token ∉ s.drawn) :
    (step s (.acquire key ttlSeconds token)).1 = (step s (.acquire key ttlSeconds token)).2.1 ∧
      Same (next s (.acquire key ttlSeconds token)) := by
  by_cases named : key = ""
  · have ttl : positiveTtl ttlSeconds = .ok ttlSeconds := if_neg (not_le.mpr positive)
    simp only [next, step, DistributedLock.acquire, ttl, DistributedLock.redisKey, if_pos named, acquire,
      requireKey, bind, Except.bind, Except.map]
    exact ⟨trivial, same.keys, same.numbered, same.distinct⟩
  rcases (same.keys key).holder between with ⟨free, none⟩ | ⟨grant, granted, held, holds⟩
  · rcases DistributedLock.acquire_cases token s.now s.store named positive with ⟨-, redis⟩ | ⟨held, -⟩
    · rcases acquire_cases s.client s.now named positive with
        ⟨-, after, fake, number, holders⟩ | ⟨held, -⟩
      · simp only [next, step, redis, fake, Except.map, Option.isSome_some, Option.toList_some, true_and]
        have last : (s.drawn ++ [token]).length = s.drawn.length + 1 := by simp
        refine same.of_key key rfl ⟨[token], rfl⟩ ?_ ?_ ?_ ?_ ?_
        · rw [number, last, same.numbered]
        · refine List.nodup_append.mpr ⟨same.distinct, by simp, ?_⟩
          rintro _ member _ new rfl
          exact fresh (List.mem_singleton.mp new ▸ member)
        · refine .inl ⟨s.drawn.length, s.now + seconds ttlSeconds, by rw [last]; omega, ?_, ?_⟩
          · refine (Expiring.set_self ..).trans ?_
            simp [State.token]
          · intro later order
            rw [holders later order, if_pos rfl, same.numbered]
        · exact fun other apart => Expiring.set_of_ne _ _ (lockKey_inj.not.mpr apart)
        · exact fun other apart later order => (holders later order other).trans (if_neg apart)
      · simp [none] at held
    · simp [free] at held
  · rcases DistributedLock.acquire_cases token s.now s.store named positive with ⟨free, -⟩ | ⟨-, redis⟩
    · rw [held] at free
      cases free
    · rcases acquire_cases s.client s.now named positive with ⟨free, -⟩ | ⟨-, after, fake, number, holders⟩
      · rw [holds] at free
        cases free
      · simp only [next, step, redis, fake, Except.map, Option.isSome_none, Option.toList_none,
          List.append_nil, true_and]
        refine ⟨fun other => ?_, number.trans same.numbered, same.distinct⟩
        exact (same.keys other).later ⟨[], by simp⟩ rfl le_rfl fun later order => holders later order other

/-- What an `acquire` for no time is told, and that nobody gets the key by it. -/
theorem acquire_refused_same (same : Same s) (between : Between s) (key : String)
    {ttlSeconds : Int} (negative : ttlSeconds ≤ 0) (token : String) :
    (step s (.acquire key ttlSeconds token)).1 =
        .error (.raised .valueError "ttl_seconds must be positive") ∧
      (key = "" → (step s (.acquire key ttlSeconds token)).2.1 =
        .error (.raised .valueError "lock key must not be empty")) ∧
      (key ≠ "" → Held s key → (step s (.acquire key ttlSeconds token)).2.1 = .ok false) ∧
      (key ≠ "" → ¬ Held s key → (step s (.acquire key ttlSeconds token)).2.1 =
        .error (.raised .valueError "ttl_seconds must be positive")) ∧
      Same (next s (.acquire key ttlSeconds token)) := by
  have redis := DistributedLock.acquire_refused token s.now s.store key negative
  by_cases named : key = ""
  · simp only [next, step, redis, acquire, requireKey, if_pos named, Except.map]
    exact ⟨trivial, fun _ => trivial, fun apart => absurd named apart, fun apart => absurd named apart,
      same.keys, same.numbered, same.distinct⟩
  · have fake := acquire_refused s.client s.now named negative
    have known : Held s key ↔ (s.client.holder s.now key).isSome := by
      unfold Held
      rcases (same.keys key).holder between with ⟨free, none⟩ | ⟨grant, -, held, holds⟩
      · rw [free, none]
      · rw [held, holds, Option.isSome_some, Option.isSome_some]
    simp only [next, step, redis, fake]
    refine ⟨trivial, fun unnamed => absurd unnamed named, fun _ held => ?_, fun _ free => ?_, ?_⟩
    · rw [if_pos (known.mp held)]
      rfl
    · rw [if_neg (known.not.mp free)]
      rfl
    · refine ⟨fun other => ?_, expire_nextToken.trans same.numbered, same.distinct⟩
      exact (same.keys other).later ⟨[], by simp⟩ rfl le_rfl fun later order => holder_expire order

/-- Both clients free a key, or neither does. -/
theorem release_same (same : Same s) (between : Between s) (key : String) {grant : Nat}
    (granted : grant < s.drawn.length) :
    (step s (.release key grant)).1 = (step s (.release key grant)).2.1 ∧
      Same (next s (.release key grant)) := by
  by_cases named : key = ""
  · simp only [next, step, DistributedLock.release, DistributedLock.redisKey, if_pos named, release,
      requireKey, bind, Except.bind]
    exact ⟨trivial, same.keys, same.numbered, same.distinct⟩
  -- Whose key it is, both clients know alike.
  have owner : s.store.get s.now ("kis-lock:" ++ key) = some (s.token grant) ↔
      s.client.holder s.now key = some (tokenText (grant + 1)) := by
    rcases (same.keys key).holder between with ⟨free, none⟩ | ⟨other, granted', held, holds⟩
    · simp [free, none]
    · simp only [held, holds, Option.some.injEq, tokenText_inj, Nat.add_right_cancel_iff,
        token_inj same.distinct granted' granted]
  rcases DistributedLock.release_cases (s.token grant) s.now s.store named with
    ⟨mine, redis⟩ | ⟨other, redis⟩
  · rcases release_cases s.client s.now named (tokenText (grant + 1)) with
      ⟨-, after, fake, number, holders⟩ | ⟨apart, -⟩
    · simp only [next, step, redis, fake, true_and]
      refine same.of_key key rfl ⟨[], by simp⟩ (number.trans same.numbered) same.distinct ?_ ?_ ?_
      · refine .inr ⟨Expiring.get_delete_self _, fun later order => ?_⟩
        rw [holders later order, if_pos rfl]
      · exact fun other apart => Expiring.delete_of_ne _ (lockKey_inj.not.mpr apart)
      · exact fun other apart later order => (holders later order other).trans (if_neg apart)
    · exact absurd (owner.mp mine) apart
  · rcases release_cases s.client s.now named (tokenText (grant + 1)) with
      ⟨mine, -⟩ | ⟨-, after, fake, number, holders⟩
    · exact absurd (owner.mpr mine) other
    · simp only [next, step, redis, fake, true_and]
      refine ⟨fun other => ?_, number.trans same.numbered, same.distinct⟩
      exact (same.keys other).later ⟨[], by simp⟩ rfl le_rfl fun later order => holders later order other

/-- The call is an `acquire` of this key for no time at all. -/
def Call.Futile (call : Call) (key : String) : Prop :=
  ∃ ttlSeconds token, call = .acquire key ttlSeconds token ∧ ttlSeconds ≤ 0

/-- The answers differ on a futile `acquire` of a key that has no name or is held, and nowhere else.
There Redis complains of the lifetime; the fake of the name, or of nothing. -/
structure Agrees (s : State) (call : Call) : Prop where
  same_iff : (step s call).1 = (step s call).2.1 ↔
    ∀ key, call.Futile key → key ≠ "" ∧ ¬ Held s key
  redis : ∀ key, call.Futile key →
    (step s call).1 = .error (.raised .valueError "ttl_seconds must be positive")
  unnamed : call.Futile "" →
    (step s call).2.1 = .error (.raised .valueError "lock key must not be empty")
  held : ∀ key, call.Futile key → key ≠ "" → Held s key → (step s call).2.1 = .ok false

theorem agrees_of_same {call : Call} (earnest : ∀ key, ¬ call.Futile key)
    (same : (step s call).1 = (step s call).2.1) : Agrees s call where
  same_iff := iff_of_true same fun key futile => absurd futile (earnest key)
  redis key futile := absurd futile (earnest key)
  unnamed futile := absurd futile (earnest "")
  held key futile := absurd futile (earnest key)

theorem agrees_of_futile (same : Same s) (between : Between s) {key : String} {ttlSeconds : Int}
    (negative : ttlSeconds ≤ 0) (token : String) : Agrees s (.acquire key ttlSeconds token) := by
  obtain ⟨redis, unnamed, held, free, -⟩ := acquire_refused_same same between key negative token
  have only {other : String} (futile : (Call.acquire key ttlSeconds token).Futile other) : other = key := by
    obtain ⟨_, _, call, -⟩ := futile
    cases call
    rfl
  refine ⟨⟨?_, ?_⟩, fun _ _ => redis, fun futile => unnamed (only futile).symm, ?_⟩
  · intro agree other futile
    obtain rfl := only futile
    rw [redis] at agree
    refine ⟨fun empty => ?_, fun here => ?_⟩
    · rw [unnamed empty] at agree
      simp at agree
    · by_cases empty : other = ""
      · rw [unnamed empty] at agree
        simp at agree
      · rw [held empty here] at agree
        cases agree
  · intro proper
    obtain ⟨named, none⟩ := proper key ⟨ttlSeconds, token, rfl, negative⟩
    rw [redis, free named none]
  · intro other futile named here
    obtain rfl := only futile
    exact held named here

theorem step_same (s : State) (call : Call) (same : Same s) (allowed : Allowed s call) :
    Agrees s call ∧ Same (next s call) := by
  cases call with
  | acquire key ttlSeconds token =>
      by_cases positive : 0 < ttlSeconds
      · obtain ⟨answer, after⟩ := acquire_same same allowed.1 key positive allowed.2
        refine ⟨agrees_of_same ?_ answer, after⟩
        rintro other ⟨_, _, call, negative⟩
        cases call
        omega
      · have negative : ttlSeconds ≤ 0 := by omega
        exact ⟨agrees_of_futile same allowed.1 negative token,
          (acquire_refused_same same allowed.1 key negative token).2.2.2.2⟩
  | release key grant =>
      obtain ⟨answer, after⟩ := release_same same allowed.1 key allowed.2
      refine ⟨agrees_of_same ?_ answer, after⟩
      rintro other ⟨_, _, call, -⟩
      cases call
  | wait duration =>
      have order : s.now ≤ s.now + duration := le_add_of_nonneg_right allowed
      refine ⟨agrees_of_same ?_ rfl, fun key => ?_, same.numbered, same.distinct⟩
      · rintro other ⟨_, _, call, -⟩
        cases call
      · exact (same.keys key).later ⟨[], by simp [next, step]⟩ rfl order fun _ _ => rfl

end Steps

/-- Neither client has been used. -/
def start (defaultTtlSeconds : Int) (positive : 0 < defaultTtlSeconds) (now : Instant) : State :=
  ⟨.empty, ⟨defaultTtlSeconds, positive, fun _ => none, 0⟩, now, []⟩

theorem same_start (defaultTtlSeconds : Int) (positive : 0 < defaultTtlSeconds) (now : Instant) :
    Same (start defaultTtlSeconds positive now) :=
  ⟨fun _ => .inr ⟨rfl, fun _ _ => rfl⟩, rfl, List.nodup_nil⟩

/-- **The fake lock agrees with Redis** on every call of a script, but for an `acquire` for no time
of a key that has no name or is held. -/
theorem fake_lock_agrees_iff {defaultTtlSeconds : Int} (positive : 0 < defaultTtlSeconds) (now : Instant)
    {script : List Call}
    (admissible : Admissible next Allowed (start defaultTtlSeconds positive now) script) :
    ∀ front call, front ++ [call] <+: script →
      Agrees (exec next (start defaultTtlSeconds positive now) front) call := by
  intro front call isPrefix
  obtain ⟨frontOk, allowed⟩ := (admissible_snoc _ _ _ _ _).mp (admissible.of_prefix isPrefix)
  have same := exec_invariant (fun s a same allowed => (step_same s a same allowed).2)
    (same_start defaultTtlSeconds positive now) frontOk
  exact (step_same _ call same allowed).1

/-! ## Two clients of one key -/

namespace Sample

/-- Held twice over, asked for in vain, freed by its first token and taken again. -/
def script : List Call :=
  [.acquire "token" 30 "first", .wait 1, .acquire "token" 30 "second", .acquire "token" 0 "second",
    .release "token" 0, .acquire "token" 30 "second"]

/-- The one lease there was ends at another time, or is gone. -/
theorem between {s : State} (lease : Option (String × Instant))
    (only : s.store = Function.update (fun _ => none) "kis-lock:token" lease)
    (apart : ∀ token, lease ≠ some (token, s.now)) : Between s := by
  intro key token
  rw [only]
  by_cases same : "kis-lock:" ++ key = "kis-lock:token"
  · rw [same, Function.update_self]
    exact apart token
  · rw [Function.update_of_ne same]
    intro entry
    cases entry

theorem admissible : Admissible next Allowed (start 30 (by decide) 0) script := by
  have first : Between (start 30 (by decide) 0) := by
    intro key token entry
    cases entry
  have held {s : State} (only : s.store = Function.update (fun _ => none) "kis-lock:token"
      (some ("first", 30000000))) (now : s.now = 1) : Between s := by
    refine between (some ("first", 30000000)) only fun token same => ?_
    rw [now] at same
    cases same
  have freed : Between (exec next (start 30 (by decide) 0) (script.take 5)) :=
    between none (Function.update_idem ..) (by simp)
  exact ⟨⟨first, by decide⟩, (by decide : (0 : Int) ≤ 1), ⟨held rfl rfl, by decide +kernel⟩,
    ⟨held rfl rfl, by decide +kernel⟩, ⟨held rfl rfl, by decide +kernel⟩,
    ⟨freed, by decide +kernel⟩, trivial⟩

/-- Both clients grant the last call; the one in vain raises in Redis, and the fake says no. -/
theorem held_key_differs :
    (step (exec next (start 30 (by decide) 0) (script.take 5)) (.acquire "token" 30 "second")).1 =
        (step (exec next (start 30 (by decide) 0) (script.take 5)) (.acquire "token" 30 "second")).2.1 ∧
      (step (exec next (start 30 (by decide) 0) (script.take 3)) (.acquire "token" 0 "second")).1 =
        .error (.raised .valueError "ttl_seconds must be positive") ∧
      (step (exec next (start 30 (by decide) 0) (script.take 3)) (.acquire "token" 0 "second")).2.1 =
        .ok false := by
  have last := fake_lock_agrees_iff (by decide) 0 admissible (script.take 5) _ List.prefix_rfl
  have vain := fake_lock_agrees_iff (by decide) 0 admissible (script.take 3)
    (.acquire "token" 0 "second") (List.take_prefix 4 script)
  have futile : (Call.acquire "token" 0 "second").Futile "token" := ⟨0, "second", rfl, le_rfl⟩
  refine ⟨last.same_iff.mpr ?_, vain.redis _ futile, vain.held _ futile (by decide) ?_⟩
  · rintro key ⟨_, _, call, negative⟩
    cases call
    omega
  · show ((exec next (start 30 (by decide) 0) (script.take 3)).store.get 1 "kis-lock:token").isSome
    decide +kernel

end Sample

end KisAutoTrading.Fakes.Lock
