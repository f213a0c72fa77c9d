/-
# Replay.Fencing — claims, completions and late writers

Any number of clients claim, complete and abort, command by command, and a record may
expire between any two commands, in its time or before. Every claim draws a token of its
own, which the record it creates carries and the two scripts compare.

`Change` is all that one command can do to the value of a key: a record appears only where
none can be read, and after that is completed or removed by the client whose token it
carries, or expires. `replay_fenced` collects what follows of every run: a late writer
leaves the record of a newer client alone, a claim is given only where no record can be
read, and from a completion on, until the record expires or its own client writes again,
every claim is answered from it.
-/
import KisAutoTrading.Infrastructure.RequestReplay
import KisAutoTrading.Theory.Runs

namespace KisAutoTrading.Replay.Fencing

open Theory Theory.Runs

set_option autoImplicit false

/-- Where a client is with its claim. -/
inductive Phase where
  | idle
  /-- `SET … NX` found the key taken; `GET` comes next. -/
  | missed (key fingerprint : String)
  | holds (claim : ReplayClaim)
  | answered (result : Except Failure ReplayRecord)

structure State where
  now : Instant
  store : ReplayStore
  clients : Nat → Phase

inductive Action where
  | wait (duration : Nat)
  /-- A record goes before its time. -/
  | expire (key : String)
  | reserve (client : Nat) (key fingerprint : String) (ttlSeconds : Int)
  | lookup (client : Nat)
  | complete (client : Nat) (statusCode : Nat) (body : Json)
  | abort (client : Nat)

/-- The application, and the token each client draws. -/
structure Setup where
  P : Platform
  tokens : Nat → String
  unique : Function.Injective tokens

def State.enter (s : State) (client : Nat) (phase : Phase) : State :=
  { s with clients := Function.update s.clients client phase }

/-- A claim after its `SET … NX`. -/
def afterReserve (key fingerprint : String) : Except Failure (Option ReplayClaim) → Phase
  | .ok (some claim) => .holds claim
  | .ok none => .missed key fingerprint
  | .error failure => .answered (.error failure)

namespace Setup

variable (X : Setup)

def step (s : State) : Action → State
  | .wait duration => { s with now := s.now + duration }
  | .expire key => { s with store := s.store.delete (X.P.replayKey key) }
  | .reserve client key fingerprint ttlSeconds =>
      match s.clients client with
      | .idle =>
          let (result, store) :=
            X.P.reserve key fingerprint ttlSeconds (X.tokens client) s.now s.store
          State.enter { s with store } client (afterReserve key fingerprint result)
      | _ => s
  | .lookup client =>
      match s.clients client with
      | .missed key fingerprint =>
          s.enter client (.answered (X.P.lookup key fingerprint s.now s.store))
      | _ => s
  | .complete client statusCode body =>
      match s.clients client with
      | .holds claim => { s with store := (X.P.complete claim statusCode body s.now s.store).2 }
      | _ => s
  | .abort client =>
      match s.clients client with
      | .holds claim => { s with store := X.P.abort claim s.now s.store }
      | _ => s

/-- The record that can be read under the key of a claim. -/
def record (s : State) (key : String) : Option ReplayPayload :=
  s.store.get s.now (X.P.replayKey key)

/-- What a step can do to the value under a key of Redis. -/
inductive Change (s : State) (slot : String) : Action → Option (ReplayPayload × Instant) → Prop where
  | stays (action : Action) : Change s slot action (s.store slot)
  | expired {key : String} (here : X.P.replayKey key = slot) : Change s slot (.expire key) none
  /-- With a claim its record appears, where none can be read and with the client's token. -/
  | claimed {client : Nat} {key fingerprint : String} {ttlSeconds : Int}
      (here : X.P.replayKey key = slot) (free : s.store.get s.now slot = none)
      (given : (X.step s (.reserve client key fingerprint ttlSeconds)).clients client =
        .holds ⟨key, fingerprint, X.tokens client, ttlSeconds⟩) :
      Change s slot (.reserve client key fingerprint ttlSeconds)
        (some (⟨fingerprint, X.tokens client, .pending⟩, s.now + seconds ttlSeconds))
  | completed {client : Nat} {claim : ReplayClaim} {payload : ReplayPayload} {statusCode : Nat}
      {body : Json} (holds : s.clients client = .holds claim)
      (here : X.P.replayKey claim.key = slot) (found : s.store.get s.now slot = some payload)
      (mine : payload.token = X.tokens client) :
      Change s slot (.complete client statusCode body)
        (some ({ payload with status := .completed statusCode body },
          s.now + seconds claim.ttlSeconds))
  | removed {client : Nat} {claim : ReplayClaim} {payload : ReplayPayload}
      (holds : s.clients client = .holds claim) (here : X.P.replayKey claim.key = slot)
      (found : s.store.get s.now slot = some payload) (mine : payload.token = X.tokens client) :
      Change s slot (.abort client) none

/-- No client has begun, and no stored record carries a token that is still to be drawn. -/
structure Start (s : State) : Prop where
  idle : ∀ client, s.clients client = .idle
  fresh : ∀ slot payload last client, s.store slot = some (payload, last) →
    payload.token ≠ X.tokens client

/-- A claim is its client's, and so is the record with its token. -/
structure Inv (s : State) : Prop where
  claims : ∀ client claim, s.clients client = .holds claim →
    claim.token = X.tokens client ∧ pyStrip claim.key ≠ "" ∧ 0 < claim.ttlSeconds
  records : ∀ slot payload last client, s.store slot = some (payload, last) →
    payload.token = X.tokens client → ∃ claim, s.clients client = .holds claim ∧
      X.P.replayKey claim.key = slot ∧ payload.fingerprint = claim.fingerprint

/-- The action takes the record of the claim away from it: it expires, or its client writes. -/
def Ends (client : Nat) (claim : ReplayClaim) : Action → Prop
  | .expire key => X.P.replayKey key = X.P.replayKey claim.key
  | .complete writer _ _ => writer = client
  | .abort writer => writer = client
  | _ => False

/-- Every claim of the key is answered from the completed request: the `SET … NX` stores
nothing, and the `GET` finds the recorded answer, or a conflict. -/
structure Answers (s : State) (claim : ReplayClaim) (statusCode : Nat) (body : Json) : Prop where
  refused : ∀ client fingerprint ttlSeconds, s.clients client = .idle → 0 < ttlSeconds →
    X.step s (.reserve client claim.key fingerprint ttlSeconds) =
      s.enter client (.missed claim.key fingerprint)
  replayed : ∀ client key fingerprint, s.clients client = .missed key fingerprint →
    X.P.replayKey key = X.P.replayKey claim.key →
    X.step s (.lookup client) = s.enter client (.answered
      (if fingerprint = claim.fingerprint then .ok ⟨statusCode, body⟩
      else .error (.raised .requestReplayConflict
        "idempotency key was reused with a different request")))
  atOnce : ∀ fingerprint ttlSeconds token, 0 < ttlSeconds →
    X.P.claim claim.key fingerprint ttlSeconds token s.now s.store =
      (if fingerprint = claim.fingerprint then .ok (.inr ⟨statusCode, body⟩)
      else .error (.raised .requestReplayConflict
        "idempotency key was reused with a different request"), s.store)

/-- What holds of a run. -/
structure Fenced (start : State) (trace : List Action) : Prop where
  /-- A record is completed or removed only by the client whose token it carries. -/
  changes : ∀ front action, front ++ [action] <+: trace → ∀ slot,
    X.Change (exec X.step start front) slot action
      ((exec X.step start (front ++ [action])).store slot)
  /-- The token is its client's alone. -/
  owned : ∀ front, front <+: trace → ∀ client other claim claim',
    (exec X.step start front).clients client = .holds claim →
    (exec X.step start front).clients other = .holds claim' → claim.token = claim'.token →
    client = other
  /-- While a record can be read no client is given a claim. -/
  exclusive : ∀ front action, front ++ [action] <+: trace → ∀ client claim,
    (exec X.step start (front ++ [action])).clients client = .holds claim →
    (exec X.step start front).clients client = .holds claim ∨
      X.record (exec X.step start front) claim.key = none
  /-- A completed request answers until it expires, or its client writes again. -/
  answers : ∀ front client claim statusCode body middle,
    front ++ [.complete client statusCode body] ++ middle <+: trace →
    (exec X.step start front).clients client = .holds claim →
    (X.P.complete claim statusCode body (exec X.step start front).now
      (exec X.step start front).store).1 = .ok () →
    (∀ action ∈ middle, ¬ X.Ends client claim action) →
    (exec X.step start (front ++ [.complete client statusCode body] ++ middle)).now ≤
      (exec X.step start front).now + seconds claim.ttlSeconds →
    X.Answers (exec X.step start (front ++ [.complete client statusCode body] ++ middle)) claim
      statusCode body

variable {X : Setup} {s : State}

/-! ## One step -/

/-- What a claim's first command does. -/
theorem reserve_step {client : Nat} (key : String) {fingerprint : String} {ttlSeconds : Int}
    (idle : s.clients client = .idle) :
    (∃ failure, X.step s (.reserve client key fingerprint ttlSeconds) =
      s.enter client (.answered (.error failure))) ∨
    X.step s (.reserve client key fingerprint ttlSeconds) =
      s.enter client (.missed key fingerprint) ∨
    (pyStrip key ≠ "" ∧ 0 < ttlSeconds ∧ X.record s key = none ∧
      X.step s (.reserve client key fingerprint ttlSeconds) = State.enter
        ⟨s.now, s.store.set (X.P.replayKey key) ⟨fingerprint, X.tokens client, .pending⟩
          (s.now + seconds ttlSeconds), s.clients⟩
        client (.holds ⟨key, fingerprint, X.tokens client, ttlSeconds⟩)) := by
  simp only [step, idle]
  by_cases valid : pyStrip key ≠ "" ∧ 0 < ttlSeconds
  · rcases Platform.reserve_cases valid.1 valid.2 with ⟨free, given⟩ | ⟨-, missed⟩
    · right; right
      exact ⟨valid.1, valid.2, free, by rw [given]; rfl⟩
    · right; left
      rw [missed]
      rfl
  · left
    by_cases named : pyStrip key = ""
    · exact ⟨_, by simp only [Platform.reserve, named, if_true]; rfl⟩
    · have expired : ttlSeconds ≤ 0 := by
        by_contra positive
        exact valid ⟨named, by omega⟩
      exact ⟨_, by simp only [Platform.reserve, named, expired, if_true, if_false]; rfl⟩

theorem enter_clients (s : State) (client other : Nat) (phase : Phase) :
    (s.enter client phase).clients other = if other = client then phase else s.clients other := by
  by_cases same : other = client
  · subst same
    simp [State.enter]
  · simp [State.enter, same]

/-- A set record is under its own key, and the others are as they were. -/
theorem set_cases (store : ReplayStore) (key slot : String) (payload : ReplayPayload)
    (last : Instant) :
    (key = slot ∧ (store.set key payload last) slot = some (payload, last)) ∨
      (store.set key payload last) slot = store slot := by
  by_cases here : slot = key
  · subst here
    exact .inl ⟨rfl, Expiring.set_self _ _⟩
  · exact .inr (Expiring.set_of_ne _ _ here)

theorem delete_cases (store : ReplayStore) (key slot : String) :
    (key = slot ∧ (store.delete key) slot = none) ∨ (store.delete key) slot = store slot := by
  by_cases here : slot = key
  · subst here
    exact .inl ⟨rfl, Expiring.delete_self _⟩
  · exact .inr (Expiring.delete_of_ne _ here)

theorem Inv.change (inv : X.Inv s) (action : Action) (slot : String) :
    X.Change s slot action ((X.step s action).store slot) := by
  cases action with
  | wait duration => exact .stays _
  | expire key =>
      simp only [step]
      rcases delete_cases s.store (X.P.replayKey key) slot with ⟨here, gone⟩ | same
      · rw [gone]
        exact .expired here
      · rw [same]
        exact .stays _
  | reserve client key fingerprint ttlSeconds =>
      cases phase : s.clients client with
      | idle =>
          rcases reserve_step (X := X) key phase with ⟨failure, after⟩ | after | ⟨-, -, free, after⟩
          · rw [after]
            exact .stays _
          · rw [after]
            exact .stays _
          · have given : (X.step s (.reserve client key fingerprint ttlSeconds)).clients client =
                .holds ⟨key, fingerprint, X.tokens client, ttlSeconds⟩ := by
              rw [after, enter_clients, if_pos rfl]
            rw [after]
            simp only [State.enter]
            rcases set_cases s.store (X.P.replayKey key) slot ⟨fingerprint, X.tokens client, .pending⟩
              (s.now + seconds ttlSeconds) with ⟨here, new⟩ | same
            · rw [new]
              exact .claimed here (here ▸ free) given
            · rw [same]
              exact .stays _
      | _ =>
          simp only [step, phase]
          exact .stays _
  | lookup client =>
      simp only [step]
      cases s.clients client with
      | _ => exact .stays _
  | complete client statusCode body =>
      cases phase : s.clients client with
      | holds claim =>
          simp only [step, phase]
          obtain ⟨token, -⟩ := inv.claims client claim phase
          rcases Platform.complete_cases claim statusCode body with
            ⟨payload, found, mine, -, after⟩ | ⟨-, after⟩
          · rw [after]
            rcases set_cases s.store (X.P.replayKey claim.key) slot
              { payload with status := .completed statusCode body }
              (s.now + seconds claim.ttlSeconds) with ⟨here, new⟩ | same
            · rw [new]
              exact .completed phase here (here ▸ found) (mine.trans token)
            · rw [same]
              exact .stays _
          · rw [after]
            exact .stays _
      | _ =>
          simp only [step, phase]
          exact .stays _
  | abort client =>
      cases phase : s.clients client with
      | holds claim =>
          simp only [step, phase]
          obtain ⟨token, -⟩ := inv.claims client claim phase
          rcases Platform.abort_cases claim with ⟨payload, found, mine, after⟩ | after
          · rw [after]
            rcases delete_cases s.store (X.P.replayKey claim.key) slot with ⟨here, gone⟩ | same
            · rw [gone]
              exact .removed phase here (here ▸ found) (mine.trans token)
            · rw [same]
              exact .stays _
          · rw [after]
            exact .stays _
      | _ =>
          simp only [step, phase]
          exact .stays _

/-- How a client comes to hold a claim. -/
theorem holds_step {action : Action} {client : Nat} {claim : ReplayClaim}
    (holds : (X.step s action).clients client = .holds claim) :
    s.clients client = .holds claim ∨
      ∃ key fingerprint ttlSeconds, action = .reserve client key fingerprint ttlSeconds ∧
        claim = ⟨key, fingerprint, X.tokens client, ttlSeconds⟩ ∧ pyStrip key ≠ "" ∧
        0 < ttlSeconds ∧ X.record s key = none ∧ s.clients client = .idle ∧
        (X.step s action).store = s.store.set (X.P.replayKey key)
          ⟨fingerprint, X.tokens client, .pending⟩ (s.now + seconds ttlSeconds) := by
  cases action with
  | wait duration => exact .inl holds
  | expire key => exact .inl holds
  | reserve actor key fingerprint ttlSeconds =>
      cases phase : s.clients actor with
      | idle =>
          rcases reserve_step (X := X) key phase with
            ⟨failure, after⟩ | after | ⟨named, positive, free, after⟩
          all_goals
            rw [after] at holds ⊢
            rw [enter_clients] at holds
            split at holds
          · cases holds
          · exact .inl holds
          · cases holds
          · exact .inl holds
          · rename_i same
            subst same
            cases holds
            exact .inr ⟨key, fingerprint, ttlSeconds, rfl, rfl, named, positive, free, phase, rfl⟩
          · exact .inl holds
      | _ =>
          simp only [step, phase] at holds
          exact .inl holds
  | lookup actor =>
      cases phase : s.clients actor with
      | missed key fingerprint =>
          simp only [step, phase, enter_clients] at holds
          split at holds
          · cases holds
          · exact .inl holds
      | _ =>
          simp only [step, phase] at holds
          exact .inl holds
  | complete actor statusCode body =>
      simp only [step] at holds
      split at holds
      · exact .inl holds
      · exact .inl holds
  | abort actor =>
      simp only [step] at holds
      split at holds
      · exact .inl holds
      · exact .inl holds

/-- A claim is held for good. -/
theorem holds_keep {action : Action} {client : Nat} {claim : ReplayClaim}
    (holds : s.clients client = .holds claim) : (X.step s action).clients client = .holds claim := by
  cases action with
  | wait duration => exact holds
  | expire key => exact holds
  | reserve actor key fingerprint ttlSeconds =>
      simp only [step]
      cases phase : s.clients actor with
      | idle =>
          have other : client ≠ actor := by
            rintro rfl
            rw [phase] at holds
            cases holds
          simpa [enter_clients, other] using holds
      | _ => exact holds
  | lookup actor =>
      simp only [step]
      cases phase : s.clients actor with
      | missed key fingerprint =>
          have other : client ≠ actor := by
            rintro rfl
            rw [phase] at holds
            cases holds
          simpa [enter_clients, other] using holds
      | _ => exact holds
  | complete actor statusCode body =>
      simp only [step]
      split
      · exact holds
      · exact holds
  | abort actor =>
      simp only [step]
      split
      · exact holds
      · exact holds

theorem inv_step (action : Action) (inv : X.Inv s) : X.Inv (X.step s action) := by
  refine ⟨?_, ?_⟩
  · intro client claim holds
    rcases holds_step holds with before | ⟨key, fingerprint, ttl, -, rfl, named, positive, -⟩
    · exact inv.claims client claim before
    · exact ⟨rfl, named, positive⟩
  · intro slot payload last client found mine
    have kept : ∀ {old : ReplayPayload} {bound : Instant}, s.store slot = some (old, bound) →
        old.token = X.tokens client → old.fingerprint = payload.fingerprint →
        ∃ claim, (X.step s action).clients client = .holds claim ∧
          X.P.replayKey claim.key = slot ∧ payload.fingerprint = claim.fingerprint := by
      intro old bound entry same fingerprints
      obtain ⟨claim, holds, here, fingerprint⟩ := inv.records slot old bound client entry same
      exact ⟨claim, holds_keep holds, here, fingerprints.symm.trans fingerprint⟩
    have change := inv.change action slot
    rw [found] at change
    generalize stored : some (payload, last) = entry at change
    cases change with
    | stays => exact kept stored.symm mine rfl
    | expired here => cases stored
    | claimed here free given =>
        cases stored
        obtain rfl := X.unique mine
        exact ⟨_, given, here, rfl⟩
    | completed holds here present owner =>
        cases stored
        obtain ⟨bound, entry, -⟩ := (Expiring.get_eq_some _ _).mp present
        exact kept entry mine rfl
    | removed holds here present owner => cases stored

/-! ## Whole runs -/

theorem run_inv {start : State} (ready : X.Start start) (trace : List Action) :
    X.Inv (exec X.step start trace) := by
  have first : X.Inv start := by
    refine ⟨?_, ?_⟩
    · intro client claim holds
      rw [ready.idle client] at holds
      cases holds
    · intro slot payload last client found mine
      exact absurd mine (ready.fresh slot payload last client found)
  exact exec_invariant (fun _ action inv _ => inv_step action inv) first
    (admissible_true start trace)

theorem step_now (s : State) (action : Action) : s.now ≤ (X.step s action).now := by
  cases action with
  | wait duration => exact Int.le_add_of_nonneg_right (Int.natCast_nonneg duration)
  | expire key => exact le_refl _
  | _ =>
      simp only [step]
      split <;> exact le_refl _

/-- What is stored under a key stays while its time is not over, unless it expires early or
the owner writes. -/
theorem keep_entry {client : Nat} {claim : ReplayClaim} {payload : ReplayPayload} {last : Instant}
    {action : Action} (inv : X.Inv s)
    (stored : s.store (X.P.replayKey claim.key) = some (payload, last)) (alive : s.now ≤ last)
    (mine : payload.token = X.tokens client) (kept : ¬ X.Ends client claim action) :
    (X.step s action).store (X.P.replayKey claim.key) = some (payload, last) := by
  have present : s.store.get s.now (X.P.replayKey claim.key) = some payload :=
    (Expiring.get_eq_some _ _).mpr ⟨last, stored, alive⟩
  have change := inv.change action (X.P.replayKey claim.key)
  generalize (X.step s action).store (X.P.replayKey claim.key) = entry at change ⊢
  cases change with
  | stays => exact stored
  | expired here => exact absurd here kept
  | claimed here free given =>
      rw [present] at free
      cases free
  | completed holds here found owner =>
      rw [present] at found
      cases found
      exact absurd (X.unique (owner.symm.trans mine)) kept
  | removed holds here found owner =>
      rw [present] at found
      cases found
      exact absurd (X.unique (owner.symm.trans mine)) kept

theorem keep_entries {client : Nat} {claim : ReplayClaim} {payload : ReplayPayload} {last : Instant}
    {middle : List Action} (inv : X.Inv s)
    (stored : s.store (X.P.replayKey claim.key) = some (payload, last))
    (mine : payload.token = X.tokens client) (kept : ∀ action ∈ middle, ¬ X.Ends client claim action)
    (alive : (exec X.step s middle).now ≤ last) :
    (exec X.step s middle).store (X.P.replayKey claim.key) = some (payload, last) := by
  induction middle using List.reverseRecOn with
  | nil => exact stored
  | append_singleton front action ih =>
      rw [exec_snoc] at alive ⊢
      have sooner := le_trans (step_now _ action) alive
      have before := ih (fun other member => kept other (by simp [member])) sooner
      have inv' : X.Inv (exec X.step s front) :=
        exec_invariant (fun _ other inv _ => inv_step other inv) inv (admissible_true s front)
      exact keep_entry inv' before sooner mine (kept action (by simp))

/-- A completed record that can be read answers every claim of its key. -/
theorem answers_of_record {claim : ReplayClaim} {statusCode : Nat} {body : Json}
    {payload : ReplayPayload} (named : pyStrip claim.key ≠ "")
    (found : X.record s claim.key = some payload)
    (same : payload.fingerprint = claim.fingerprint)
    (completed : payload.status = .completed statusCode body) :
    X.Answers s claim statusCode body := by
  have reserved : ∀ fingerprint ttlSeconds token, 0 < ttlSeconds →
      X.P.reserve claim.key fingerprint ttlSeconds token s.now s.store = (.ok none, s.store) := by
    intro fingerprint ttlSeconds token positive
    rcases Platform.reserve_cases named positive with ⟨free, -⟩ | ⟨-, missed⟩
    · exact absurd (found.symm.trans free) (by simp)
    · exact missed
  refine ⟨?_, ?_, ?_⟩
  · intro client fingerprint ttlSeconds idle positive
    simp only [step, idle, reserved _ _ _ positive]
    rfl
  · intro client key fingerprint missed here
    have present : s.store.get s.now (X.P.replayKey key) = some payload := by
      rw [here]
      exact found
    simp only [step, missed, Platform.lookup_completed present completed, same]
  · intro fingerprint ttlSeconds token positive
    rw [Platform.claim_eq, reserved _ _ _ positive]
    simp only [Platform.lookup_completed found completed, same]
    split <;> rfl

/-- **A record is its client's alone, and a completed one answers every later claim.** -/
theorem replay_fenced {start : State} (ready : X.Start start) (trace : List Action) :
    X.Fenced start trace := by
  refine ⟨?_, ?_, ?_, ?_⟩
  · intro front action _ slot
    rw [exec_snoc]
    exact (run_inv ready front).change action slot
  · intro front _ client other claim claim' holds holds' same
    have inv := run_inv ready front
    apply X.unique
    rw [← (inv.claims client claim holds).1, ← (inv.claims other claim' holds').1, same]
  · intro front action _ client claim holds
    rw [exec_snoc] at holds
    rcases holds_step holds with before | ⟨key, fingerprint, ttl, -, rfl, -, -, free, -⟩
    · exact .inl before
    · exact .inr free
  · intro front client claim statusCode body middle _ holds completed kept alive
    have inv := run_inv ready front
    obtain ⟨token, named, -⟩ := inv.claims client claim holds
    rw [exec_append, exec_snoc] at alive ⊢
    generalize exec X.step start front = s at *
    rcases Platform.complete_cases claim statusCode body with
      ⟨payload, found, mine, -, after⟩ | ⟨lost, -⟩
    · obtain ⟨bound, entry, -⟩ := (Expiring.get_eq_some _ _).mp found
      obtain ⟨claim', holds', here, fingerprint⟩ :=
        inv.records _ payload bound client entry (mine.trans token)
      obtain rfl : claim = claim' := by
        rw [holds] at holds'
        exact Phase.holds.inj holds'
      have stored : (X.step s (.complete client statusCode body)).store (X.P.replayKey claim.key) =
          some ({ payload with status := .completed statusCode body },
            s.now + seconds claim.ttlSeconds) := by
        simp only [step, holds]
        rw [after]
        exact Expiring.set_self _ _
      have last := keep_entries (inv_step _ inv) stored (mine.trans token) kept alive
      have present := (Expiring.get_eq_some _ _).mpr ⟨_, last, alive⟩
      exact answers_of_record named present fingerprint rfl
    · rw [lost] at completed
      cases completed

end Setup

/-! ## A late writer -/

namespace Late

open Setup

def setup : Setup where
  P := .reference (fun _ _ => 0) (.aware 0) "1970-01-01T00:00:00Z"
  tokens n := String.ofList (List.replicate n 'x')
  unique := by
    intro n m same
    simpa using congrArg String.length same

/-- A claim of ten seconds runs out before its request is done; another client is given the
key and completes before the first one does. -/
def trace : List Action := [
  .reserve 0 "request-1" "fingerprint" 10, .wait 11000000,
  .reserve 1 "request-1" "fingerprint" 10, .complete 1 200 (.str "second"),
  .complete 0 200 (.str "first"), .abort 0,
  .reserve 2 "request-1" "fingerprint" 10, .lookup 2]

def start : State := ⟨0, Expiring.empty, fun _ => .idle⟩

theorem late_writer_fenced : setup.Fenced start trace ∧
    (exec setup.step start trace).clients 2 = .answered (.ok ⟨200, .str "second"⟩) :=
  ⟨replay_fenced ⟨fun _ => rfl, fun _ _ _ _ stored => by cases stored⟩ trace, by rfl⟩

end Late

end KisAutoTrading.Replay.Fencing
