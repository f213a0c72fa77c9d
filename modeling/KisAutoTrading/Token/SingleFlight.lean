/-
# Token.SingleFlight — one token request at a time

Any number of calls of `get_access_token`, on any number of coordinators with the same
credentials, interleave command by command. As long as no lease ends while its holder is
between acquiring and releasing (`LeaseKept`), whoever is there holds the lock (`Inv`), so
there is never more than one such call, and with it never more than one outstanding POST.

`single_flight` collects what follows: the POST comes from a call that looked into the
cache after it had the lock and found no token; a refresh makes one HTTP request, however
it ends; and the lock is freed by its holder, at the end of every refresh, and by nobody
else.
-/
import KisAutoTrading.Infrastructure.KisTokenCoordinator
import KisAutoTrading.Theory.Runs

namespace KisAutoTrading.Token.SingleFlight

open Theory Theory.Runs TokenCoordinator

set_option autoImplicit false

/-- Between acquiring and releasing. -/
def Inside : TokenCoordinator.Phase → Prop
  | .reading stage => stage = .locked
  | .deleting stage _ => stage = .locked
  | .requesting _ => True
  | .posted _ => True
  | .storing _ => True
  | .releasing _ => True
  | _ => False

/-- The HTTP requests a call with this outcome has made. -/
def outcomeRequests : Outcome → Nat
  | .refreshed _ => 1
  | .refreshFailed _ => 1
  | _ => 0

/-- The HTTP requests a call has made by the time it is here. -/
def requestsSent : TokenCoordinator.Phase → Nat
  | .posted _ => 1
  | .storing _ => 1
  | .releasing outcome => outcomeRequests outcome
  | .done outcome => outcomeRequests outcome
  | _ => 0

/-- There is no second attempt. -/
def FirstAttempt : TokenCoordinator.Phase → Prop
  | .requesting attempt => attempt = 0
  | .posted attempt => attempt = 0
  | _ => True

section

variable (X : Setup)

/-- The lock's key in Redis. -/
def redisLockKey : String := "kis-lock:" ++ X.lockKey

/-- The token in the lock. -/
def holder (s : State) : Option String := s.lock.get s.now (redisLockKey X)

/-- No lease ends while its holder is between acquiring and releasing. -/
def LeaseKept (s : State) : Action → Prop
  | .wait duration => ∀ call, Inside (s.phase call) → holder X s = some (X.tokens call) →
      holder X { s with now := s.now + duration } = some (X.tokens call)
  | _ => True

/-- No call has begun, and the lock does not hold a token that is still to be drawn. -/
structure Start (s : State) : Prop where
  idle : ∀ call, s.phase call = .idle
  requests : s.requests = []
  fresh : ∀ call last, s.lock (redisLockKey X) ≠ some (X.tokens call, last)

structure Inv (s : State) : Prop where
  holds : ∀ call, Inside (s.phase call) → holder X s = some (X.tokens call)
  owner : ∀ call last, s.lock (redisLockKey X) = some (X.tokens call, last) →
    Inside (s.phase call)
  first : ∀ call, FirstAttempt (s.phase call)
  counts : ∀ call, s.requests.count call = requestsSent (s.phase call)

end

variable {X : Setup} {s : State}

theorem move_phase (call other : Nat) (phase : TokenCoordinator.Phase) :
    (s.move call phase).phase other = if other = call then phase else s.phase other := by
  by_cases same : other = call
  · subst same
    simp [State.move]
  · simp [State.move, same]

/-! ## Steps that do not concern the lock -/

/-- The call neither enters nor leaves, and sends nothing. -/
structure Quiet (old new : TokenCoordinator.Phase) : Prop where
  inside : Inside new ↔ Inside old
  sent : requestsSent new = requestsSent old
  first : FirstAttempt new

theorem Inv.quiet (inv : Inv X s) {call : Nat} {phase : TokenCoordinator.Phase}
    (quiet : Quiet (s.phase call) phase) (cache : TextStore) :
    Inv X (State.move { s with cache } call phase) := by
  have phases : ∀ other,
      Quiet (s.phase other) ((State.move { s with cache } call phase).phase other) := by
    intro other
    rw [move_phase]
    split
    · rename_i same
      rw [same]
      exact quiet
    · exact ⟨Iff.rfl, rfl, inv.first other⟩
  refine ⟨?_, ?_, fun other => (phases other).first, ?_⟩
  · exact fun other inside => inv.holds other ((phases other).inside.mp inside)
  · exact fun other last found => (phases other).inside.mpr (inv.owner other last found)
  · exact fun other => (inv.counts other).trans (phases other).sent.symm

theorem inside_leave (stage : Stage) (outcome : Outcome) :
    Inside (leave stage outcome) ↔ stage = .locked := by
  cases stage <;> simp [leave, Inside]

theorem inside_afterMiss (stage : Stage) : Inside (afterMiss stage) ↔ stage = .locked := by
  cases stage <;> simp [afterMiss, Inside]

theorem quiet_leave {stage : Stage} {old : TokenCoordinator.Phase} {outcome : Outcome}
    (inside : Inside old ↔ stage = .locked) (sent : requestsSent old = outcomeRequests outcome) :
    Quiet old (leave stage outcome) := by
  refine ⟨(inside_leave stage outcome).trans inside.symm, ?_, ?_⟩
  · rw [sent]
    cases stage <;> rfl
  · cases stage <;> trivial

theorem quiet_afterMiss {stage : Stage} {old : TokenCoordinator.Phase}
    (inside : Inside old ↔ stage = .locked)
    (sent : requestsSent old = 0) : Quiet old (afterMiss stage) := by
  refine ⟨(inside_afterMiss stage).trans inside.symm, ?_, ?_⟩
  · rw [sent]
    cases stage <;> rfl
  · cases stage <;> trivial

theorem quiet_afterGet (now : Instant) (stage : Stage) (found : Except Failure (Option String)) :
    Quiet (.reading stage) (X.afterGet now stage found) := by
  have inside : Inside (.reading stage) ↔ stage = .locked := Iff.rfl
  cases found with
  | error failure => exact quiet_leave inside rfl
  | ok value =>
      cases value with
      | none => exact quiet_afterMiss inside rfl
      | some value =>
          cases read : X.C.readCached now value with
          | token token =>
              simp only [Setup.afterGet, read]
              exact quiet_leave inside rfl
          | invalid =>
              simp only [Setup.afterGet, read]
              exact ⟨Iff.rfl, rfl, trivial⟩
          | raised =>
              simp only [Setup.afterGet, read]
              exact quiet_leave inside rfl

theorem quiet_afterAnswer (now : Instant) (attempt : Nat) (answer : Transported) :
    Quiet (.posted attempt) (X.afterAnswer now attempt answer) := by
  rcases X.afterAnswer_cases now attempt answer with ⟨token, storing⟩ | ⟨failure, releasing⟩
  · rw [storing]
    exact ⟨Iff.rfl, rfl, trivial⟩
  · rw [releasing]
    exact ⟨Iff.rfl, rfl, trivial⟩

/-! ## One step -/

/-- There is one call inside at most. -/
theorem Inv.unique (inv : Inv X s) (distinct : Function.Injective X.tokens) {call other : Nat}
    (inside : Inside (s.phase call)) (insideOther : Inside (s.phase other)) : call = other :=
  distinct (Option.some.inj ((inv.holds call inside).symm.trans (inv.holds other insideOther)))

theorem Inv.send (inv : Inv X s) {call attempt : Nat} (here : s.phase call = .requesting attempt) :
    Inv X (State.move { s with requests := s.requests ++ [call] } call (.posted attempt)) := by
  have wasFirst := inv.first call
  rw [here] at wasFirst
  refine ⟨?_, ?_, ?_, ?_⟩
  · intro other inside
    refine inv.holds other ?_
    simp only [move_phase] at inside
    split at inside
    · rename_i same
      rw [same, here]
      trivial
    · exact inside
  · intro other last found
    have before := inv.owner other last found
    simp only [move_phase]
    split
    · trivial
    · exact before
  · intro other
    simp only [move_phase]
    split
    · exact wasFirst
    · exact inv.first other
  · intro other
    show (s.requests ++ [call]).count other = _
    rw [List.count_append, inv.counts other, move_phase]
    by_cases same : other = call
    · subst same
      simp [here, requestsSent]
    · have different : call ≠ other := fun h => same h.symm
      simp [same, different]

theorem Inv.acquire (inv : Inv X s) (distinct : Function.Injective X.tokens) {call : Nat}
    (here : s.phase call = .acquiring) (free : holder X s = none) (last : Instant)
    (lasting : s.now ≤ last) :
    Inv X (State.move { s with lock := s.lock.set (redisLockKey X) (X.tokens call) last } call
      (.reading .locked)) := by
  have nobody : ∀ other, ¬ Inside (s.phase other) := by
    intro other inside
    rw [inv.holds other inside] at free
    cases free
  refine ⟨?_, ?_, ?_, ?_⟩
  · intro other inside
    simp only [move_phase] at inside
    split at inside
    · rename_i same
      subst same
      exact (Expiring.get_set_self s.lock _).trans (if_pos lasting)
    · exact absurd inside (nobody other)
  · intro other until_ found
    simp only [State.move, Expiring.set_self, Option.some.injEq, Prod.mk.injEq] at found
    obtain rfl := distinct found.1
    simp only [move_phase, if_true]
    rfl
  · intro other
    simp only [move_phase]
    split
    · trivial
    · exact inv.first other
  · intro other
    show s.requests.count other = _
    rw [inv.counts other]
    simp only [move_phase]
    split
    · rename_i same
      rw [same, here]
      rfl
    · rfl

theorem Inv.release (inv : Inv X s) (distinct : Function.Injective X.tokens) {call : Nat}
    {outcome : Outcome} (here : s.phase call = .releasing outcome) :
    Inv X (State.move { s with lock := s.lock.delete (redisLockKey X) } call (.done outcome)) := by
  have mine : Inside (s.phase call) := by
    rw [here]
    trivial
  refine ⟨?_, ?_, ?_, ?_⟩
  · intro other inside
    simp only [move_phase] at inside
    split at inside
    · cases inside
    · rename_i different
      exact absurd (inv.unique distinct inside mine) different
  · intro other last found
    simp [State.move] at found
  · intro other
    simp only [move_phase]
    split
    · trivial
    · exact inv.first other
  · intro other
    show s.requests.count other = _
    rw [inv.counts other]
    simp only [move_phase]
    split
    · rename_i same
      rw [same, here]
      rfl
    · rfl

theorem Inv.wait (inv : Inv X s) {duration : Nat} (kept : LeaseKept X s (.wait duration)) :
    Inv X { s with now := s.now + duration } :=
  ⟨fun call inside => kept call inside (inv.holds call inside), inv.owner, inv.first, inv.counts⟩

/-- A call that acquires takes the free lock, or begins to wait. -/
theorem acquire_cases (s : State) (call : Nat) :
    (holder X s = none ∧ X.perform s call .acquiring .acquire = (.reading .locked, { s with
      lock := s.lock.set (redisLockKey X) (X.tokens call)
        (s.now + seconds refreshLockTtlSeconds) })) ∨
    X.perform s call .acquiring .acquire = (.waiting (s.now + X.refreshWaitTimeout), s) := by
  rcases DistributedLock.acquire_cases (X.tokens call) s.now s.lock X.lockKey_ne
    (show 0 < refreshLockTtlSeconds by decide) with
    ⟨free, taken⟩ | ⟨-, refused⟩
  · refine .inl ⟨free, ?_⟩
    simp only [Setup.perform, taken]
    rfl
  · refine .inr ?_
    simp only [Setup.perform, refused]

/-- A call that releases frees the lock if it is its own. -/
theorem release_cases (s : State) (call : Nat) (outcome : Outcome) :
    (holder X s = some (X.tokens call) ∧ X.perform s call (.releasing outcome) .release =
      (.done outcome, { s with lock := s.lock.delete (redisLockKey X) })) ∨
    holder X s ≠ some (X.tokens call) ∧
      X.perform s call (.releasing outcome) .release = (.done outcome, s) := by
  rcases DistributedLock.release_cases (X.tokens call) s.now s.lock X.lockKey_ne with
    ⟨mine, freed⟩ | ⟨other, kept⟩
  · refine .inl ⟨mine, ?_⟩
    simp only [Setup.perform, freed]
    rfl
  · refine .inr ⟨other, ?_⟩
    simp only [Setup.perform, kept]

/-- What a command does: it is quiet and leaves the lock and the requests alone, or sends
the request, or takes the free lock, or is the last command of a call that holds it. -/
theorem perform_cases (s : State) (call : Nat) (command : Command)
    (first : FirstAttempt (s.phase call)) :
    (∃ phase cache, Quiet (s.phase call) phase ∧
      X.perform s call (s.phase call) command = (phase, { s with cache })) ∨
    (∃ attempt, s.phase call = .requesting attempt ∧ command = .send ∧
      X.perform s call (s.phase call) command =
        (.posted attempt, { s with requests := s.requests ++ [call] })) ∨
    (s.phase call = .acquiring ∧ command = .acquire ∧ holder X s = none ∧
      X.perform s call (s.phase call) command = (.reading .locked, { s with
        lock := s.lock.set (redisLockKey X) (X.tokens call)
          (s.now + seconds refreshLockTtlSeconds) })) ∨
    ∃ outcome, s.phase call = .releasing outcome ∧ command = .release ∧
      (holder X s = some (X.tokens call) ∧ X.perform s call (s.phase call) command =
          (.done outcome, { s with lock := s.lock.delete (redisLockKey X) }) ∨
        holder X s ≠ some (X.tokens call) ∧
          X.perform s call (s.phase call) command = (.done outcome, s)) := by
  generalize s.phase call = phase at first
  cases phase with
  | acquiring =>
      cases command with
      | acquire =>
          rcases acquire_cases (X := X) s call with ⟨free, taken⟩ | refused
          · exact .inr (.inr (.inl ⟨rfl, rfl, free, taken⟩))
          · exact .inl ⟨.waiting _, s.cache, ⟨Iff.rfl, rfl, trivial⟩, refused⟩
      | _ => exact .inl ⟨_, s.cache, ⟨Iff.rfl, rfl, trivial⟩, rfl⟩
  | releasing outcome =>
      cases command with
      | release =>
          exact .inr (.inr (.inr ⟨outcome, rfl, rfl, release_cases (X := X) s call outcome⟩))
      | _ => exact .inl ⟨_, s.cache, ⟨Iff.rfl, rfl, trivial⟩, rfl⟩
  | requesting attempt =>
      cases command with
      | send => exact .inr (.inl ⟨attempt, rfl, rfl, rfl⟩)
      | _ => exact .inl ⟨_, s.cache, ⟨Iff.rfl, rfl, first⟩, rfl⟩
  | idle =>
      cases command with
      | start => exact .inl ⟨.reading .first, s.cache, ⟨by simp [Inside], rfl, trivial⟩, rfl⟩
      | _ => exact .inl ⟨_, s.cache, ⟨Iff.rfl, rfl, trivial⟩, rfl⟩
  | reading stage =>
      cases command with
      | get => exact .inl ⟨_, s.cache, quiet_afterGet _ _ _, rfl⟩
      | fail => exact .inl ⟨_, s.cache, quiet_leave Iff.rfl rfl, rfl⟩
      | _ => exact .inl ⟨_, s.cache, ⟨Iff.rfl, rfl, trivial⟩, rfl⟩
  | deleting stage value =>
      cases command with
      | delete =>
          cases deleted : KeyValueStore.delete X.cacheKey s.cache with
          | ok cache =>
              refine .inl ⟨_, cache, quiet_afterMiss Iff.rfl rfl, ?_⟩
              simp only [Setup.perform, deleted]
          | error failure =>
              refine .inl ⟨leave stage (.raised .raised), s.cache, quiet_leave Iff.rfl rfl, ?_⟩
              simp only [Setup.perform, deleted]
      | fail => exact .inl ⟨_, s.cache, quiet_leave Iff.rfl rfl, rfl⟩
      | _ => exact .inl ⟨_, s.cache, ⟨Iff.rfl, rfl, trivial⟩, rfl⟩
  | waiting deadline =>
      cases command with
      | poll =>
          by_cases early : s.now < deadline
          · refine .inl ⟨.reading (.polling deadline), s.cache, ⟨by simp [Inside], rfl, trivial⟩, ?_⟩
            simp only [Setup.perform, if_pos early]
          · refine .inl ⟨.done (.raised .refreshInProgress), s.cache, ⟨Iff.rfl, rfl, trivial⟩, ?_⟩
            simp only [Setup.perform, if_neg early]
      | _ => exact .inl ⟨_, s.cache, ⟨Iff.rfl, rfl, trivial⟩, rfl⟩
  | posted attempt =>
      cases command with
      | answer answer => exact .inl ⟨_, s.cache, quiet_afterAnswer _ _ _, rfl⟩
      | _ => exact .inl ⟨_, s.cache, ⟨Iff.rfl, rfl, first⟩, rfl⟩
  | storing token =>
      cases command with
      | set =>
          cases stored : KeyValueStore.set X.cacheKey (X.C.cachedText token)
            (tokenTtlSeconds token s.now) s.now s.cache with
          | ok cache =>
              refine .inl ⟨.releasing (.refreshed token), cache, ⟨Iff.rfl, rfl, trivial⟩, ?_⟩
              simp only [Setup.perform, stored]
          | error failure =>
              refine .inl ⟨.releasing (.refreshFailed .raised), s.cache,
                ⟨Iff.rfl, rfl, trivial⟩, ?_⟩
              simp only [Setup.perform, stored]
      | fail =>
          exact .inl ⟨.releasing (.refreshFailed .raised), s.cache, ⟨Iff.rfl, rfl, trivial⟩, rfl⟩
      | _ => exact .inl ⟨_, s.cache, ⟨Iff.rfl, rfl, trivial⟩, rfl⟩
  | done outcome => exact .inl ⟨_, s.cache, ⟨Iff.rfl, rfl, trivial⟩, by cases command <;> rfl⟩

theorem inv_step (distinct : Function.Injective X.tokens) (action : Action) (inv : Inv X s)
    (kept : LeaseKept X s action) : Inv X (X.step s action) := by
  cases action with
  | wait duration => exact inv.wait kept
  | act call command =>
      simp only [Setup.step]
      rcases perform_cases (X := X) s call command (inv.first call) with
        ⟨phase, cache, quiet, same⟩ | ⟨attempt, here, -, sent⟩ | ⟨here, -, free, taken⟩ |
        ⟨outcome, here, -, ⟨-, freed⟩ | ⟨lost, -⟩⟩
      · rw [same]
        exact inv.quiet quiet cache
      · rw [sent]
        exact inv.send here
      · rw [taken]
        exact inv.acquire distinct here free _ (Int.le_add_of_nonneg_right (by decide))
      · rw [freed]
        exact inv.release distinct here
      · exact absurd (inv.holds call (by rw [here]; trivial)) lost

theorem inv_start (start : Start X s) : Inv X s := by
  refine ⟨?_, ?_, ?_, ?_⟩
  · intro call inside
    rw [start.idle call] at inside
    cases inside
  · intro call last found
    exact absurd found (start.fresh call last)
  · intro call
    rw [start.idle call]
    trivial
  · intro call
    rw [start.idle call, start.requests]
    rfl

/-! ## Before the request -/

/-- The cache holds no valid token. -/
def NoToken (X : Setup) (s : State) : Prop :=
  ∀ value, s.cache.get s.now X.redisCacheKey = some value →
    ∀ token, X.C.readCached s.now value ≠ .token token

/-- Past the read under the lock, before the request is sent. -/
def PastLook : TokenCoordinator.Phase → Prop
  | .deleting stage _ => stage = .locked
  | .requesting _ => True
  | _ => False

theorem pastLook_leave (stage : Stage) (outcome : Outcome) : ¬ PastLook (leave stage outcome) := by
  cases stage <;> exact id

theorem pastLook_afterMiss {stage : Stage} (past : PastLook (afterMiss stage)) :
    stage = .locked := by
  cases stage with
  | locked => rfl
  | _ => cases past

/-- A read leads on to the request only under the lock and without a token. -/
theorem pastLook_afterGet {stage : Stage}
    (past : PastLook (X.afterGet s.now stage (.ok (s.cache.get s.now X.redisCacheKey)))) :
    stage = .locked ∧ NoToken X s := by
  cases found : s.cache.get s.now X.redisCacheKey with
  | none =>
      rw [found] at past
      refine ⟨pastLook_afterMiss past, ?_⟩
      intro value present
      rw [found] at present
      cases present
  | some value =>
      rw [found] at past
      cases read : X.C.readCached s.now value with
      | token token =>
          simp only [Setup.afterGet, read] at past
          exact absurd past (pastLook_leave _ _)
      | raised =>
          simp only [Setup.afterGet, read] at past
          exact absurd past (pastLook_leave _ _)
      | invalid =>
          simp only [Setup.afterGet, read] at past
          refine ⟨past, ?_⟩
          intro other present token
          obtain rfl : value = other := Option.some.inj (found.symm.trans present)
          rw [read]
          intro impossible
          cases impossible

theorem perform_pastLook {call : Nat} {phase : TokenCoordinator.Phase} {command : Command}
    (past : PastLook (X.perform s call phase command).1) :
    PastLook phase ∨ (phase = .reading .locked ∧ command = .get ∧ NoToken X s) := by
  have moves := X.perform_moves s call phase command
  generalize (X.perform s call phase command).1 = next at moves past
  cases moves with
  | stay => exact .inl past
  | get stage =>
      obtain ⟨rfl, none⟩ := pastLook_afterGet past
      exact .inr ⟨rfl, rfl, none⟩
  | deleted stage value => exact .inl (pastLook_afterMiss past)
  | readRaised stage => exact absurd past (pastLook_leave _ _)
  | deleteRaised stage value => exact absurd past (pastLook_leave _ _)
  | _ => cases past

theorem perform_locked {call : Nat} {phase : TokenCoordinator.Phase} {command : Command}
    (locked : (X.perform s call phase command).1 = .reading .locked) :
    phase = .reading .locked ∨ (phase = .acquiring ∧ command = .acquire) := by
  have notLeft : ∀ stage outcome, leave stage outcome ≠ .reading .locked := by
    intro stage outcome
    cases stage <;> simp [leave]
  have notMissed : ∀ stage, afterMiss stage ≠ .reading .locked := by
    intro stage
    cases stage <;> simp [afterMiss]
  have moves := X.perform_moves s call phase command
  generalize (X.perform s call phase command).1 = next at moves locked
  cases moves with
  | stay => exact .inl locked
  | get stage =>
      rcases X.afterGet_cases s.now stage (s.cache.get s.now X.redisCacheKey) with
        missed | ⟨outcome, left⟩ | ⟨value, -, deleting⟩
      · exact absurd (missed.symm.trans locked) (notMissed _)
      · exact absurd (left.symm.trans locked) (notLeft _ _)
      · cases deleting.symm.trans locked
  | acquired => exact .inr ⟨rfl, rfl⟩
  | deleted stage value => exact absurd locked (notMissed _)
  | readRaised stage => exact absurd locked (notLeft _ _)
  | deleteRaised stage value => exact absurd locked (notLeft _ _)
  | _ => cases locked

/-! ## Whole runs -/

/-- The state a trace leads to. -/
def run (X : Setup) (start : State) (trace : List Action) : State := exec X.step start trace

/-- The call found the lock free and took it. -/
def Acquired (X : Setup) (start : State) (call : Nat) (trace : List Action) : Prop :=
  ∃ before between, trace = before ++ .act call .acquire :: between ∧
    (run X start before).phase call = .acquiring ∧ holder X (run X start before) = none ∧
    holder X (run X start (before ++ [.act call .acquire])) = some (X.tokens call)

/-- The call read the cache after it had acquired the lock, which it held then, and there
was no valid token. -/
def Looked (X : Setup) (start : State) (call : Nat) (trace : List Action) : Prop :=
  ∃ before after, trace = before ++ .act call .get :: after ∧
    Acquired X start call before ∧ (run X start before).phase call = .reading .locked ∧
    holder X (run X start before) = some (X.tokens call) ∧ NoToken X (run X start before)

section Traces

variable {start : State} {call : Nat} {trace : List Action} {action : Action}

theorem run_snoc :
    run X start (trace ++ [action]) = X.step (run X start trace) action :=
  exec_snoc X.step start trace action

theorem Acquired.snoc (acquired : Acquired X start call trace) (action : Action) :
    Acquired X start call (trace ++ [action]) := by
  obtain ⟨before, between, rfl, facts⟩ := acquired
  exact ⟨before, between ++ [action], by simp, facts⟩

theorem Looked.snoc (looked : Looked X start call trace) (action : Action) :
    Looked X start call (trace ++ [action]) := by
  obtain ⟨before, after, rfl, facts⟩ := looked
  exact ⟨before, after ++ [action], by simp, facts⟩

theorem run_inv (distinct : Function.Injective X.tokens) (begins : Start X start)
    (admissible : Admissible X.step (LeaseKept X) start trace) : Inv X (run X start trace) :=
  exec_invariant (fun _ action inv kept => inv_step distinct action inv kept) (inv_start begins)
    admissible

/-- A command moves its own call only. -/
theorem step_phase (inv : Inv X s) (command : Command) (other : Nat) :
    (X.step s (.act call command)).phase other =
      if other = call then (X.perform s call (s.phase call) command).1 else s.phase other := by
  simp only [Setup.step]
  rw [move_phase]
  rcases perform_cases (X := X) s call command (inv.first call) with
    ⟨phase, cache, -, same⟩ | ⟨attempt, -, -, sent⟩ | ⟨-, -, -, taken⟩ |
    ⟨outcome, -, -, ⟨-, freed⟩ | ⟨-, kept⟩⟩
  · rw [same]
  · rw [sent]
  · rw [taken]
  · rw [freed]
  · rw [kept]

theorem looked_step (inv : Inv X (run X start trace))
    (acquired : ∀ call, (run X start trace).phase call = .reading .locked →
      Acquired X start call trace)
    (looked : ∀ call, PastLook ((run X start trace).phase call) → Looked X start call trace)
    (past : PastLook ((run X start (trace ++ [action])).phase call)) :
    Looked X start call (trace ++ [action]) := by
  rw [run_snoc] at past
  cases action with
  | wait duration => exact (looked call past).snoc _
  | act actor command =>
      rw [step_phase inv] at past
      split at past
      · rename_i same
        subst same
        rcases perform_pastLook past with already | ⟨here, rfl, none⟩
        · exact (looked call already).snoc _
        · refine ⟨trace, [], rfl, acquired call here, here, inv.holds call ?_, none⟩
          rw [here]
          rfl
      · exact (looked call past).snoc _

theorem acquired_step (inv : Inv X (run X start trace))
    (after : Inv X (run X start (trace ++ [action])))
    (acquired : ∀ call, (run X start trace).phase call = .reading .locked →
      Acquired X start call trace)
    (here : (run X start (trace ++ [action])).phase call = .reading .locked) :
    Acquired X start call (trace ++ [action]) := by
  have mine : holder X (run X start (trace ++ [action])) = some (X.tokens call) := by
    apply after.holds call
    rw [here]
    rfl
  rw [run_snoc] at here
  cases action with
  | wait duration => exact (acquired call here).snoc _
  | act actor command =>
      rw [step_phase inv] at here
      split at here
      · rename_i same
        subst same
        rcases perform_locked here with already | ⟨acquiring, rfl⟩
        · exact (acquired call already).snoc _
        · refine ⟨trace, [], rfl, acquiring, ?_, mine⟩
          by_contra held
          rcases acquire_cases (X := X) (run X start trace) call with ⟨free, -⟩ | refused
          · exact held free
          · rw [acquiring, refused] at here
            cases here
      · exact (acquired call here).snoc _

/-- Whoever is past the look has looked. -/
theorem run_looked (distinct : Function.Injective X.tokens) (begins : Start X start)
    (admissible : Admissible X.step (LeaseKept X) start trace)
    (past : PastLook ((run X start trace).phase call)) : Looked X start call trace := by
  have both := trace_induction (motive := fun front s =>
      (∀ call, s.phase call = .reading .locked → Acquired X start call front) ∧
        ∀ call, PastLook (s.phase call) → Looked X start call front)
    ⟨fun call here => by simp [begins.idle call] at here,
      fun call past => by simp [begins.idle call, PastLook] at past⟩ ?_ admissible
  · exact both.2 call past
  · intro front action frontOk ih kept
    have inv := run_inv distinct begins frontOk
    have after : Inv X (run X start (front ++ [action])) :=
      run_inv distinct begins ((admissible_snoc _ _ _ _ _).mpr ⟨frontOk, kept⟩)
    have same : X.step (exec X.step start front) action = run X start (front ++ [action]) :=
      run_snoc.symm
    rw [same]
    exact ⟨fun call here => acquired_step inv after ih.1 here,
      fun call past => looked_step inv ih.1 ih.2 past⟩

end Traces

/-- What holds of a run up to its last action. -/
structure Coordinated (X : Setup) (start : State) (trace : List Action) : Prop where
  /-- At most one POST is outstanding. -/
  one : ∀ call other attempt attempt', (run X start trace).phase call = .posted attempt →
    (run X start trace).phase other = .posted attempt' → call = other
  /-- A POST is sent by a call that looked after it had acquired the lock. -/
  looked : ∀ front call attempt, front ++ [.act call .send] <+: trace →
    (run X start front).phase call = .requesting attempt → Looked X start call front
  /-- A refresh makes one HTTP request, any other call none. -/
  sent : ∀ call, (run X start trace).requests.count call =
    requestsSent ((run X start trace).phase call)
  /-- However the exchange ends, the HTTP client makes no second one. -/
  once : ∀ exchange, (X.config.request "POST" tokenPath (some false) exchange).1 = 1
  /-- A call that took the lock ends by releasing it. -/
  left : ∀ front action call, front ++ [action] <+: trace →
    Inside ((run X start front).phase call) →
    ¬ Inside ((run X start (front ++ [action])).phase call) →
    action = .act call .release ∧ holder X (run X start front) = some (X.tokens call) ∧
      holder X (run X start (front ++ [action])) = none
  /-- A call that is over does not hold the lock. -/
  freed : ∀ call outcome, (run X start trace).phase call = .done outcome →
    holder X (run X start trace) ≠ some (X.tokens call)
  /-- No command takes the lock from another. -/
  others : ∀ front call command owner, front ++ [.act call command] <+: trace →
    holder X (run X start front) = some owner → owner ≠ X.tokens call →
    holder X (run X start (front ++ [.act call command])) = some owner

section Steps

variable {call : Nat} {command : Command}

theorem holder_move (phase : TokenCoordinator.Phase) :
    holder X (s.move call phase) = holder X s := rfl

/-- The lock stays with whoever has it, unless its owner releases it. -/
theorem step_others (inv : Inv X s) {owner : String} (held : holder X s = some owner)
    (other : owner ≠ X.tokens call) : holder X (X.step s (.act call command)) = some owner := by
  simp only [Setup.step, holder_move]
  rcases perform_cases (X := X) s call command (inv.first call) with
    ⟨phase, cache, -, same⟩ | ⟨attempt, -, -, sent⟩ | ⟨-, -, free, -⟩ |
    ⟨outcome, -, -, ⟨mine, -⟩ | ⟨-, kept⟩⟩
  · rw [same]
    exact held
  · rw [sent]
    exact held
  · rw [held] at free
    cases free
  · rw [held] at mine
    exact absurd (Option.some.inj mine) other
  · rw [kept]
    exact held

/-- The only way out is to release the lock. -/
theorem step_left (inv : Inv X s) {action : Action} (inside : Inside (s.phase call))
    (outside : ¬ Inside ((X.step s action).phase call)) :
    action = .act call .release ∧ holder X s = some (X.tokens call) ∧
      holder X (X.step s action) = none := by
  cases action with
  | wait duration => exact absurd inside outside
  | act actor command =>
      rw [step_phase inv] at outside
      split at outside
      · rename_i same
        subst same
        rcases perform_cases (X := X) s call command (inv.first call) with
          ⟨phase, cache, quiet, same⟩ | ⟨attempt, -, -, sent⟩ | ⟨-, -, -, taken⟩ |
          ⟨outcome, -, rfl, ⟨mine, freed⟩ | ⟨lost, -⟩⟩
        · rw [same] at outside
          exact absurd (quiet.inside.mpr inside) outside
        · rw [sent] at outside
          exact absurd trivial outside
        · rw [taken] at outside
          exact absurd rfl outside
        · refine ⟨rfl, mine, ?_⟩
          simp only [Setup.step, holder_move, freed]
          exact Expiring.get_delete_self _
        · exact absurd (inv.holds call inside) lost
      · exact absurd inside outside

end Steps

/-- **One refresh at a time.** -/
theorem single_flight {start : State} (distinct : Function.Injective X.tokens)
    (begins : Start X start) {trace : List Action}
    (admissible : Admissible X.step (LeaseKept X) start trace) :
    Coordinated X start trace := by
  have inv := run_inv distinct begins admissible
  have earlier : ∀ {front action}, front ++ [action] <+: trace →
      Inv X (run X start front) := by
    intro front action isPrefix
    refine run_inv distinct begins (admissible.of_prefix ?_)
    exact (List.prefix_append _ _).trans isPrefix
  refine ⟨?_, ?_, inv.counts, X.config.request_once "POST" rfl, ?_, ?_, ?_⟩
  · intro call other attempt attempt' mine others
    refine inv.unique distinct ?_ ?_
    · rw [mine]
      trivial
    · rw [others]
      trivial
  · intro front call attempt isPrefix here
    refine run_looked distinct begins
      (admissible.of_prefix ((List.prefix_append _ _).trans isPrefix)) ?_
    rw [here]
    trivial
  · intro front action call isPrefix inside outside
    rw [run_snoc] at outside ⊢
    exact step_left (earlier isPrefix) inside outside
  · intro call outcome finished held
    obtain ⟨last, entry, -⟩ := (Expiring.get_eq_some _ _).mp held
    have inside := inv.owner call last entry
    rw [finished] at inside
    exact inside
  · intro front call command owner isPrefix held other
    rw [run_snoc]
    exact step_others (earlier isPrefix) held other

/-! ## A refresh that fails and one that succeeds -/

namespace Sample

open TokenCoordinator.Sample

def start : State := ⟨0, Expiring.empty, Expiring.empty, fun _ => .idle, []⟩

/-- Both calls find the cache empty; the first is turned away by the provider while the
second waits, and a third one gets the token. -/
def trace : List Action := [
  .act 0 .start, .act 1 .start, .act 0 .get, .act 1 .get, .act 0 .acquire, .act 1 .acquire,
  .act 0 .get, .act 0 .send, .wait 1000000, .act 0 (.answer (.response ⟨500, []⟩)),
  .act 0 .release, .act 2 .start, .act 2 .get, .act 2 .acquire, .act 2 .get, .act 2 .send,
  .act 2 (.answer (.response ⟨200, content⟩)), .act 2 .set, .act 2 .release, .act 1 .poll,
  .act 1 .get]

theorem tokens_injective : Function.Injective setup.tokens := by
  intro call other same
  have length := congrArg (fun text => text.toList.length) same
  simpa [setup] using length

theorem begins : Start setup start := ⟨fun _ => rfl, rfl, fun _ _ found => by cases found⟩

theorem admissible : Admissible setup.step (LeaseKept setup) start trace := by
  refine ⟨trivial, trivial, trivial, trivial, trivial, trivial, trivial, trivial, ?_, trivial,
    trivial, trivial, trivial, trivial, trivial, trivial, trivial, trivial, trivial, trivial,
    trivial, trivial⟩
  intro call _ mine
  exact mine

theorem third_call_refreshes :
    Coordinated setup start trace ∧
      (run setup start trace).requests = [0, 2] ∧
      (run setup start trace).phase 1 = .done (.cached token) ∧
      (run setup start trace).phase 2 = .done (.refreshed token) :=
  ⟨single_flight tokens_injective begins admissible, by decide +kernel, by decide +kernel,
    by decide +kernel⟩

end Sample

end KisAutoTrading.Token.SingleFlight
