/-
# Signal.ConcurrentRequests — overlapping requests for one subscription

Any number of `subscribe` and `unsubscribe` calls for one user and one stock code,
each a transaction of its own at READ COMMITTED: it looks up the row (`find`),
decides and saves (`save`, which looks the row up again unless the session still
holds it), and flushes and commits together with its event (`commit`); it may be
lost on the way (`abandon`). Events are delivered as in
`Signal.Replication`.

Neither a lock nor a version guards the row between the lookup and the commit.
`stale_commit_loses_update` is the run of two subscribes and one unsubscribe in
which the second subscribe, decided on revision 2, overwrites revision 4 by
revision 3. `undisturbed_run_loses_no_update` is what the code does guarantee: as
long as every committing call still finds the row it looked up, the run is a run of
atomic calls (`undisturbed_simulates`), so revisions rise and the projection follows.
-/
import KisAutoTrading.Signal.Replication
import KisAutoTrading.Theory.RowSession

namespace KisAutoTrading.Signal.ConcurrentRequests

open Theory Theory.Runs
open Replication (FreshEventId)

set_option autoImplicit false

/-- The subscription the calls contend for: one user and one normalized code. -/
structure Target where
  user : Uuid
  stockCode : String
  normal : normalizeDomesticStockCode stockCode = some stockCode

inductive Kind where
  | subscribe
  | unsubscribe
  deriving DecidableEq

def Kind.decision : Kind → Uuid → Uuid → String → Option SignalSubscription →
    Decision SignalSubscription
  | .subscribe => subscribeDecision
  | .unsubscribe => unsubscribeDecision

/-- Where one call stands. -/
inductive Phase where
  | idle
  | found (kind : Kind) (existing : Option SignalSubscription)
  | saved (kind : Kind) (existing : Option SignalSubscription) (row : SignalSubscription)
      (pending : Pending SignalSubscription)
  | answered (row : SignalSubscription)
  | committed (row : SignalSubscription)
  | aborted
  deriving DecidableEq

structure State where
  dbs : Databases
  calls : Nat → Phase

def State.empty : State := ⟨.empty, fun _ => .idle⟩

inductive Action where
  | find (call : Nat) (kind : Kind)
  /-- `held`: the session still holds the row that was looked up. -/
  | save (call : Nat) (held : Bool)
  | commit (call : Nat) (eventId : String) (now : Instant)
  | abandon (call : Nat)
  | deliver (message : EventMessage)

/-- The columns of `signal_subscriptions`. -/
def subscriptionColumns : Columns SignalSubscription where
  patch base new stored := {
    subscriptionId := column base.subscriptionId new.subscriptionId stored.subscriptionId
    userId := column base.userId new.userId stored.userId
    stockCode := column base.stockCode new.stockCode stored.stockCode
    enabled := column base.enabled new.enabled stored.enabled
    revision := column base.revision new.revision stored.revision }
  patch_base base new := by simp

section Model

variable (P : Platform) (t : Target)

/-- The committed row of the subscription. -/
def rowIn (dbs : Databases) : Option SignalSubscription :=
  (dbs.account (shardIdFor t.user)).subscriptions.find (P.subscriptionId t.user t.stockCode)

/-- What a commit leaves: the row as flushed, and the event of the row as decided. -/
def commitRow (dbs : Databases) (stored row : SignalSubscription) (eventId : String)
    (now : Instant) : Databases :=
  let shardId := shardIdFor t.user
  let shard := dbs.account shardId
  let written : AccountShard :=
    { shard with
      subscriptions := shard.subscriptions.put (P.subscriptionId t.user t.stockCode) stored
      outbox := shard.outbox ++
        [recordSubscriptionUpdate row ⟨"account", some shardId⟩ eventId now] }
  { dbs with account := Function.update dbs.account shardId written }

def State.enter (s : State) (call : Nat) (phase : Phase) : State :=
  { s with calls := Function.update s.calls call phase }

def step (s : State) : Action → State
  | .find call kind =>
      match s.calls call with
      | .idle => s.enter call (.found kind (rowIn P t s.dbs))
      | _ => s
  | .save call held =>
      match s.calls call with
      | .found kind existing =>
          match kind.decision (P.subscriptionId t.user t.stockCode) t.user t.stockCode existing with
          | .keep row => s.enter call (.answered row)
          | .write row =>
              s.enter call (.saved kind existing row
                (saveAfter held existing (rowIn P t s.dbs) row))
      | _ => s
  | .commit call eventId now =>
      match s.calls call with
      | .saved _ _ row pending =>
          match flush subscriptionColumns pending (rowIn P t s.dbs) with
          | some stored =>
              { dbs := commitRow P t s.dbs stored row eventId now
                calls := Function.update s.calls call (.committed row) }
          | none => s.enter call .aborted
      | _ => s
  | .abandon call =>
      match s.calls call with
      | .found _ _ => s.enter call .aborted
      | .saved _ _ _ _ => s.enter call .aborted
      | _ => s
  | .deliver message => { s with dbs := Replication.step P s.dbs (.deliver message) }

/-- New event ids are new, and only enqueued events are delivered. -/
def Allowed (s : State) : Action → Prop
  | .commit _ eventId _ => FreshEventId s.dbs eventId
  | .deliver message =>
      ∃ shardId, ∃ record ∈ (s.dbs.account shardId).outbox, message = record.message
  | _ => True

/-- A call that is about to commit still finds the row it looked up. -/
def Undisturbed (s : State) : Action → Prop
  | .commit call _ _ => ∀ kind existing row pending,
      s.calls call = .saved kind existing row pending → rowIn P t s.dbs = existing
  | _ => True

def run (trace : List Action) : State := exec (step P t) .empty trace

/-- Every committed write raises the committed revision. -/
def RevisionsIncrease (trace : List Action) : Prop :=
  ∀ front call eventId now, front ++ [.commit call eventId now] <+: trace →
    ∀ kind existing row pending, (run P t front).calls call = .saved kind existing row pending →
      (run P t (front ++ [.commit call eventId now])).calls call = .committed row →
        ∃ new, rowIn P t (run P t (front ++ [.commit call eventId now])).dbs = some new ∧
          ∀ old, rowIn P t (run P t front).dbs = some old → old.revision < new.revision

/-- Once every enqueued event is delivered, projection and row agree. -/
def ProjectionAgrees (trace : List Action) : Prop :=
  (∀ shardId, ∀ record ∈ ((run P t trace).dbs.account shardId).outbox,
    Action.deliver record.message ∈ trace) →
    ∀ row, rowIn P t (run P t trace).dbs = some row →
      ∃ p, (run P t trace).dbs.automation.subscriptionProjections.find
          (P.subscriptionId t.user t.stockCode) = some p ∧
        p.enabled = row.enabled ∧ p.revision = row.revision

end Model

/-! ## The atomic run behind an undisturbed one -/

section Simulation

variable {P : Platform} {t : Target}

/-- The row at two moments. -/
abbrev Forward (seen now : Option SignalSubscription) : Prop :=
  Follows SignalSubscription.revision seen now

/-- What is known of a call: the row has not gone back since it looked it up, and it decided on
what it had found. -/
def PhaseHolds (P : Platform) (t : Target) (dbs : Databases) : Phase → Prop
  | .found _ existing => Forward existing (rowIn P t dbs)
  | .saved kind existing row pending =>
      kind.decision (P.subscriptionId t.user t.stockCode) t.user t.stockCode existing = .write row ∧
        ∃ held reread, Forward existing reread ∧ Forward reread (rowIn P t dbs) ∧
          pending = saveAfter held existing reread row
  | _ => True

def Coherent (P : Platform) (t : Target) (s : State) : Prop :=
  ∀ call, PhaseHolds P t s.dbs (s.calls call)

theorem PhaseHolds.frame {dbs dbs' : Databases} {phase : Phase} (holds : PhaseHolds P t dbs phase)
    (forward : Forward (rowIn P t dbs) (rowIn P t dbs')) : PhaseHolds P t dbs' phase := by
  cases phase with
  | found kind existing => exact Follows.trans holds forward
  | saved kind existing row pending =>
      obtain ⟨decided, held, reread, seen, since, same⟩ := holds
      exact ⟨decided, held, reread, seen, since.trans forward, same⟩
  | _ => trivial

theorem Coherent.enter {s : State} (coherent : Coherent P t s) (call : Nat) {phase : Phase}
    {dbs : Databases} (next : PhaseHolds P t dbs phase)
    (forward : Forward (rowIn P t s.dbs) (rowIn P t dbs)) :
    Coherent P t ⟨dbs, Function.update s.calls call phase⟩ := by
  intro other
  simp only [Function.update_apply]
  split
  · exact next
  · exact (coherent other).frame forward

/-- The session `login` gives the user of the target. -/
def session (t : Target) : SessionData :=
  ⟨"", t.user.str, [("shard_id", .str (shardIdFor t.user))]⟩

theorem session_login (t : Target) : LoginSession (session t) t.user := ⟨rfl, rfl⟩

/-- The call as one transaction. -/
def atomicCall (t : Target) (kind : Kind) (eventId : String) (now : Instant) :
    Replication.Action :=
  match kind with
  | .subscribe => .subscribe ⟨t.stockCode⟩ (session t) eventId now
  | .unsubscribe => .unsubscribe ⟨t.stockCode⟩ (session t) eventId now

/-- A commit that goes through is the whole call; the steps before it are nothing. -/
def act (P : Platform) (t : Target) (s : State) : Action → Option Replication.Action
  | .commit call eventId now =>
      match s.calls call with
      | .saved kind _ _ pending =>
          if (flush subscriptionColumns pending (rowIn P t s.dbs)).isSome then
            some (atomicCall t kind eventId now)
          else none
      | _ => none
  | .deliver message => some (.deliver message)
  | _ => none

/-- The one name the calls hand to `uuid5`. -/
def name (t : Target) : Set String := {subscriptionName t.user t.stockCode}

theorem name_injOn (P : Platform) (t : Target) : Set.InjOn (P.uuid5 namespaceUrl) (name t) :=
  Set.injOn_singleton _ _

theorem callNames_session (t : Target) :
    Replication.callNames t.stockCode (session t) ⊆ name t := by
  rintro _ ⟨user, code, login, normalized, rfl⟩
  obtain rfl : t.user = user := Uuid.str_inj.mp login.userId
  obtain rfl : t.stockCode = code := Option.some.inj (t.normal.symm.trans normalized)
  rfl

theorem atomicCall_allowed {dbs : Databases} {eventId : String}
    (fresh : FreshEventId dbs eventId) (kind : Kind) (now : Instant) :
    Replication.AllowedIn (name t) dbs (atomicCall t kind eventId now) := by
  cases kind with
  | subscribe => exact ⟨⟨⟨t.user, session_login t⟩, fresh⟩, callNames_session t⟩
  | unsubscribe => exact ⟨⟨⟨t.user, session_login t⟩, fresh⟩, callNames_session t⟩

/-- The atomic call writes what the row it finds makes it decide. -/
theorem step_atomicCall {dbs : Databases} {kind : Kind} {row : SignalSubscription}
    (decided : kind.decision (P.subscriptionId t.user t.stockCode) t.user t.stockCode
      (rowIn P t dbs) = .write row) (eventId : String) (now : Instant) :
    Replication.step P dbs (atomicCall t kind eventId now) =
      Replication.writeSubscription dbs (shardIdFor t.user) row eventId now := by
  have result := Replication.commit_changeSubscription P kind.decision (session_login t) t.normal
    eventId now dbs
  rw [show kind.decision _ _ _ ((dbs.account (shardIdFor t.user)).subscriptions.find _) =
    .write row from decided] at result
  cases kind with
  | subscribe => exact result
  | unsubscribe => exact result

/-- A write decided on the committed row continues it. -/
theorem decision_continues {dbs : Databases} (inSync : Replication.InSync P (name t) dbs)
    {kind : Kind} {row : SignalSubscription}
    (decided : kind.decision (P.subscriptionId t.user t.stockCode) t.user t.stockCode
      (rowIn P t dbs) = .write row) :
    Continues (P.subscriptionId t.user t.stockCode) t.user t.stockCode (rowIn P t dbs) row := by
  cases kind with
  | subscribe => exact subscribe_continues decided
  | unsubscribe =>
      refine unsubscribe_continues ?_ decided
      intro old found
      exact (inSync.placed.owner (name_injOn P t) rfl found).2

/-- A commit over the row the call looked up is the atomic call. -/
theorem commitRow_eq {dbs : Databases} (inSync : Replication.InSync P (name t) dbs) {kind : Kind}
    {row : SignalSubscription}
    (decided : kind.decision (P.subscriptionId t.user t.stockCode) t.user t.stockCode
      (rowIn P t dbs) = .write row) (eventId : String) (now : Instant) :
    commitRow P t dbs row row eventId now =
      Replication.step P dbs (atomicCall t kind eventId now) := by
  rw [step_atomicCall decided]
  unfold commitRow Replication.writeSubscription
  rw [(decision_continues inSync decided).subscriptionId_eq]

/-- What a commit does while undisturbed: nothing, an abort, or the atomic call. -/
theorem commit_cases {s : State} (coherent : Coherent P t s) {call : Nat} {eventId : String}
    {now : Instant} (undisturbed : Undisturbed P t s (.commit call eventId now)) :
    act P t s (.commit call eventId now) = none ∧
        (step P t s (.commit call eventId now)).dbs = s.dbs ∧
        (∀ row, (step P t s (.commit call eventId now)).calls call = .committed row →
          s.calls call = .committed row) ∨
      ∃ kind row, act P t s (.commit call eventId now) = some (atomicCall t kind eventId now) ∧
        kind.decision (P.subscriptionId t.user t.stockCode) t.user t.stockCode (rowIn P t s.dbs) =
          .write row ∧
        (step P t s (.commit call eventId now)).dbs = commitRow P t s.dbs row row eventId now := by
  cases phase : s.calls call with
  | saved kind existing row pending =>
      have known := coherent call
      rw [phase] at known
      obtain ⟨decided, held, reread, seen, since, rfl⟩ := known
      have same : rowIn P t s.dbs = existing := undisturbed _ _ _ _ phase
      -- The row has been the same since the lookup, so the save has found it too.
      obtain rfl : reread = existing := seen.between (same ▸ since)
      cases flushed : flush subscriptionColumns (saveAfter held reread reread row)
          (rowIn P t s.dbs) with
      | none => exact .inl (by simp [act, step, phase, flushed, State.enter])
      | some stored =>
          have written := flushed
          rw [same] at written
          obtain rfl := flush_save_of_unchanged written
          rw [← same] at decided
          exact .inr ⟨kind, stored, by simp [act, phase, flushed], decided,
            by simp [step, phase, flushed]⟩
  | _ => exact .inl (by simp [act, step, phase])

/-- The guard of an undisturbed run. -/
def Guard (P : Platform) (t : Target) (s : State) (a : Action) : Prop :=
  Allowed s a ∧ Undisturbed P t s a

/-- Each step of an undisturbed run is an atomic call, a delivery, or nothing. -/
theorem step_simulates (s : State) (a : Action)
    (holds : Coherent P t s ∧ Replication.InSync P (name t) s.dbs) (guarded : Guard P t s a) :
    (∀ b, act P t s a = some b → Replication.AllowedIn (name t) s.dbs b ∧
      (step P t s a).dbs = Replication.step P s.dbs b) ∧
    (act P t s a = none → (step P t s a).dbs = s.dbs) := by
  obtain ⟨coherent, inSync⟩ := holds
  obtain ⟨allowed, undisturbed⟩ := guarded
  cases a with
  | commit call eventId now =>
      rcases commit_cases coherent undisturbed with ⟨none, same, -⟩ | ⟨kind, row, some, decided, same⟩
      · exact ⟨fun b moves => by simp [none] at moves, fun _ => same⟩
      · refine ⟨fun b moves => ?_, fun stutters => by simp [some] at stutters⟩
        obtain rfl := Option.some.inj (some.symm.trans moves)
        exact ⟨atomicCall_allowed allowed kind now, same.trans (commitRow_eq inSync decided _ _)⟩
  | deliver message =>
      refine ⟨fun b moves => ?_, fun stutters => by cases stutters⟩
      obtain rfl := Option.some.inj moves
      exact ⟨⟨allowed, Set.empty_subset _⟩, rfl⟩
  | find call kind =>
      refine ⟨fun b moves => (by cases moves), fun _ => ?_⟩
      simp only [step]
      split <;> rfl
  | save call held =>
      refine ⟨fun b moves => (by cases moves), fun _ => ?_⟩
      simp only [step]
      split
      · split <;> rfl
      · rfl
  | abandon call =>
      refine ⟨fun b moves => (by cases moves), fun _ => ?_⟩
      simp only [step]
      split <;> rfl

theorem rowIn_commitRow (dbs : Databases) (stored row : SignalSubscription) (eventId : String)
    (now : Instant) : rowIn P t (commitRow P t dbs stored row eventId now) = some stored := by
  simp [rowIn, commitRow]

/-- A commit leaves every other call what is known of it. -/
theorem coherent_commit {s : State}
    (holds : Coherent P t s ∧ Replication.InSync P (name t) s.dbs) {call : Nat} {eventId : String}
    {now : Instant} (undisturbed : Undisturbed P t s (.commit call eventId now)) :
    Coherent P t (step P t s (.commit call eventId now)) := by
  obtain ⟨coherent, inSync⟩ := holds
  have forward : Forward (rowIn P t s.dbs)
      (rowIn P t (step P t s (.commit call eventId now)).dbs) := by
    rcases commit_cases coherent undisturbed with ⟨-, same, -⟩ | ⟨kind, row, -, decided, same⟩
    · rw [same]
      exact Follows.refl _
    · rw [same, rowIn_commitRow]
      intro old found
      have next := (decision_continues inSync decided).revision_eq
      rw [found] at next
      simp only [Option.elim] at next
      exact ⟨row, rfl, .inr (by omega)⟩
  simp only [step] at forward ⊢
  split
  · rename_i kind existing row pending phase
    simp only [phase] at forward
    split
    · rename_i stored flushed
      simp only [flushed] at forward
      exact coherent.enter call trivial forward
    · exact coherent.enter call trivial (Follows.refl _)
  · exact coherent

theorem coherent_step (s : State) (a : Action)
    (holds : Coherent P t s ∧ Replication.InSync P (name t) s.dbs) (guarded : Guard P t s a) :
    Coherent P t (step P t s a) := by
  have coherent := holds.1
  cases a with
  | find call kind =>
      simp only [step]
      split
      · exact coherent.enter call (Follows.refl _) (Follows.refl _)
      · exact coherent
  | save call held =>
      have known := coherent call
      simp only [step]
      split
      · rename_i kind existing phase
        rw [phase] at known
        split
        · exact coherent.enter call trivial (Follows.refl _)
        · rename_i row decided
          exact coherent.enter call ⟨decided, held, _, known, Follows.refl _, rfl⟩ (Follows.refl _)
      · exact coherent
  | commit call eventId now => exact coherent_commit holds guarded.2
  | abandon call =>
      simp only [step]
      split
      · exact coherent.enter call trivial (Follows.refl _)
      · exact coherent.enter call trivial (Follows.refl _)
      · exact coherent
  | deliver message =>
      have row : rowIn P t (step P t s (.deliver message)).dbs = rowIn P t s.dbs := by
        simp only [rowIn, step, Replication.deliver_account]
      exact fun call => (coherent call).frame (row ▸ Follows.refl _)

theorem inSync_step (s : State) (a : Action)
    (holds : Coherent P t s ∧ Replication.InSync P (name t) s.dbs) (guarded : Guard P t s a) :
    Coherent P t (step P t s a) ∧ Replication.InSync P (name t) (step P t s a).dbs := by
  obtain ⟨moves, stutters⟩ := step_simulates s a holds guarded
  refine ⟨coherent_step s a holds guarded, ?_⟩
  cases choice : act P t s a with
  | none => rw [stutters choice]; exact holds.2
  | some b =>
      obtain ⟨allowed, same⟩ := moves b choice
      rw [same]
      exact Replication.inSync_step (name_injOn P t) _ b holds.2 allowed

theorem inSync_start : Coherent P t .empty ∧ Replication.InSync P (name t) State.empty.dbs :=
  ⟨fun _ => trivial, Replication.inSync_empty⟩

/-- **An undisturbed run is a run of atomic calls.** -/
theorem undisturbed_simulates {trace : List Action}
    (admissible : Admissible (step P t) (Guard P t) .empty trace) :
    Admissible (Replication.step P) (Replication.AllowedIn (name t)) .empty
        (image (step P t) (act P t) .empty trace) ∧
      Replication.run P (image (step P t) (act P t) .empty trace) = (run P t trace).dbs :=
  exec_simulation State.dbs (act P t) inSync_step step_simulates inSync_start admissible

end Simulation

/-- **No update is lost in an undisturbed run.** If every committing call still finds
the row it looked up, every committed write raises the revision, and once every
enqueued event is delivered the projection agrees with the row. -/
theorem undisturbed_run_loses_no_update (P : Platform) (t : Target) (trace : List Action)
    (admissible : Admissible (step P t) (fun s a => Allowed s a ∧ Undisturbed P t s a) .empty
      trace) :
    RevisionsIncrease P t trace ∧ ProjectionAgrees P t trace := by
  constructor
  · intro front call eventId now isPrefix kind existing row pending saved committed
    obtain ⟨frontOk, guarded⟩ :=
      (admissible_snoc _ _ _ _ _).mp (Admissible.of_prefix isPrefix admissible)
    have holds := exec_invariant inSync_step inSync_start frontOk
    rw [run, exec_snoc] at committed ⊢
    rcases commit_cases holds.1 guarded.2 with ⟨-, -, before⟩ | ⟨kind, new, -, decided, same⟩
    · cases saved.symm.trans (before row committed)
    · refine ⟨new, ?_, ?_⟩
      · rw [same, rowIn_commitRow]
      · intro old found
        have next := (decision_continues holds.2 decided).revision_eq
        rw [show rowIn P t (exec (step P t) .empty front).dbs = some old from found] at next
        simp only [Option.elim] at next
        omega
  · intro delivered row found
    obtain ⟨atomic, same⟩ := undisturbed_simulates admissible
    refine ⟨⟨P.subscriptionId t.user t.stockCode, row.userId, shardIdFor t.user, row.stockCode,
      row.enabled, row.revision⟩, ?_, rfl, rfl⟩
    rw [← same] at delivered found ⊢
    refine Replication.projection_eq_of_delivered (name_injOn P t) atomic ?_ found
    intro shardId record member
    exact @mem_image _ _ _ (step P t) (act P t) _ _ (fun _ => rfl) _ _ (delivered shardId record member)

/-! ## A stale commit -/

/-- Enqueued events may be delivered in any order: a delivery changes no outbox. -/
theorem deliveries_admissible {P : Platform} {t : Target} {messages : List EventMessage} {s : State}
    (enqueued : ∀ message ∈ messages, ∃ shardId, ∃ record ∈ (s.dbs.account shardId).outbox,
      message = record.message) :
    Admissible (step P t) (Guard P t) s (messages.map .deliver) := by
  induction messages generalizing s with
  | nil => trivial
  | cons message rest ih =>
      refine ⟨⟨enqueued message (by simp), trivial⟩, ih fun later member => ?_⟩
      rw [step, Replication.deliver_account]
      exact enqueued later (by simp [member])

theorem deliveries_account {P : Platform} {t : Target} (s : State)
    (messages : List EventMessage) :
    (exec (step P t) s (messages.map .deliver)).dbs.account = s.dbs.account := by
  induction messages generalizing s with
  | nil => rfl
  | cons message rest ih =>
      rw [List.map_cons, exec_cons, ih, step, Replication.deliver_account]

namespace Overtaken

open Replication.Sample (user subscription platform)

def target : Target := ⟨user, "005930", rfl⟩

def row (enabled : Bool) (revision : Int) : SignalSubscription :=
  ⟨subscription, user, "005930", enabled, revision⟩

def eventId (n : Nat) : String := Uuid.str (Fin.ofNat (2 ^ 128) n)

/-- A whole call in one go. -/
def call (n : Nat) (kind : Kind) (held : Bool) : List Action :=
  [.find n kind, .save n held, .commit n (eventId n) 0]

/-- Calls 2 and 3 both look up the disabled row at revision 2. Call 2 commits, call
4 disables the row again, and only then call 3 commits. -/
def calls : List Action :=
  call 0 .subscribe true ++ call 1 .unsubscribe true ++
    [.find 2 .subscribe, .save 2 true, .find 3 .subscribe, .save 3 true, .commit 2 (eventId 2) 0] ++
    call 4 .unsubscribe true

def record (n : Nat) (written : SignalSubscription) : OutboxEventRecord :=
  recordSubscriptionUpdate written ⟨"account", some "2"⟩ (eventId n) 0

/-- The rows the calls write, in the order of their commits. -/
def writes : List (Nat × SignalSubscription) :=
  [(0, row true 1), (1, row false 2), (2, row true 3), (4, row false 4), (3, row true 3)]

def trace : List Action :=
  calls ++ [.commit 3 (eventId 3) 0] ++ (writes.map fun w => (record w.1 w.2).message).map .deliver

/-- The databases after a list of committed writes. -/
def after (written : List (Nat × SignalSubscription)) : Databases :=
  written.foldl (fun dbs w => commitRow platform target dbs w.2 w.2 (eventId w.1) 0) .empty

theorem mem_outbox_after {written : List (Nat × SignalSubscription)} {shardId : String}
    {r : OutboxEventRecord} :
    r ∈ ((after written).account shardId).outbox ↔
      shardId = "2" ∧ ∃ w ∈ written, r = record w.1 w.2 := by
  induction written using List.reverseRecOn with
  | nil => simp [after, Databases.empty, AccountShard.empty]
  | append_singleton front w ih =>
      have last : after (front ++ [w]) =
          commitRow platform target (after front) w.2 w.2 (eventId w.1) 0 := by
        simp [after, List.foldl_append]
      rw [last]
      by_cases here : shardId = "2"
      · subst here
        have outbox : ((commitRow platform target (after front) w.2 w.2 (eventId w.1) 0).account
            "2").outbox = ((after front).account "2").outbox ++ [record w.1 w.2] := rfl
        simp [outbox, ih, or_and_right, exists_or]
      · have other : (commitRow platform target (after front) w.2 w.2 (eventId w.1) 0).account
            shardId = (after front).account shardId := Function.update_of_ne here _ _
        simp [other, ih, here]

theorem fresh_after {written : List (Nat × SignalSubscription)} {n : Nat}
    (unused : ∀ w ∈ written, eventId w.1 ≠ eventId n) :
    FreshEventId (after written) (eventId n) := by
  constructor
  · intro shardId r member
    obtain ⟨-, w, here, rfl⟩ := mem_outbox_after.mp member
    exact unused w here
  · have untouched : (after written).automation = .empty := by
      induction written using List.reverseRecOn with
      | nil => rfl
      | append_singleton front w ih =>
          rw [after, List.foldl_append]
          exact ih fun v member => unused v (by simp [member])
    rw [untouched]
    exact Finset.notMem_empty _

theorem enqueued_after (written : List (Nat × SignalSubscription)) :
    ∀ message ∈ written.map (fun w => (record w.1 w.2).message), ∃ shardId,
      ∃ r ∈ ((after written).account shardId).outbox, message = r.message := by
  intro message member
  obtain ⟨w, here, rfl⟩ := List.mem_map.mp member
  exact ⟨"2", _, mem_outbox_after.mpr ⟨rfl, w, here, rfl⟩, rfl⟩

theorem calls_dbs :
    (run platform target (calls ++ [.commit 3 (eventId 3) 0])).dbs = after writes := by
  rfl

/-- The run is possible, call 3 lowers the committed revision from 4 to 3, and when
all events are delivered the projection is disabled at 4 and the row enabled at 3. -/
theorem stale_commit_loses_update :
    Admissible (step platform target) Allowed .empty trace ∧
      ¬ RevisionsIncrease platform target trace ∧ ¬ ProjectionAgrees platform target trace := by
  refine ⟨?_, ?_, ?_⟩
  · rw [trace, admissible_append]
    constructor
    · exact ⟨trivial, trivial, @fresh_after [] 0 (by decide),
        trivial, trivial, @fresh_after (writes.take 1) 1 (by decide),
        trivial, trivial, trivial, trivial, @fresh_after (writes.take 2) 2 (by decide),
        trivial, trivial, @fresh_after (writes.take 3) 4 (by decide),
        @fresh_after (writes.take 4) 3 (by decide), trivial⟩
    · exact (deliveries_admissible (enqueued_after writes)).mono fun _ _ guarded => guarded.1
  · intro increase
    obtain ⟨new, found, above⟩ := increase calls 3 (eventId 3) 0 (List.prefix_append _ _) .subscribe
      (some (row false 2)) (row true 3) (.update (row false 2) (row true 3)) rfl rfl
    cases found
    exact absurd (above (row false 4) rfl) (by decide)
  · intro agrees
    have account : (run platform target trace).dbs.account = (after writes).account := by
      rw [trace, run, exec_append, ← calls_dbs]
      exact deliveries_account _ _
    have delivered : ∀ shardId, ∀ r ∈ ((run platform target trace).dbs.account shardId).outbox,
        Action.deliver r.message ∈ trace := by
      intro shardId r member
      rw [account] at member
      obtain ⟨-, w, here, rfl⟩ := mem_outbox_after.mp member
      simp only [trace, List.mem_append, List.mem_map]
      exact .inr ⟨_, ⟨w, here, rfl⟩, rfl⟩
    have stored : rowIn platform target (run platform target trace).dbs = some (row true 3) := by
      rw [rowIn, account]
      rfl
    obtain ⟨p, found, -, same⟩ := agrees delivered (row true 3) stored
    have revision : ((run platform target trace).dbs.automation.subscriptionProjections.find
        subscription).map (·.revision) = some 4 := by decide +kernel
    rw [show (run platform target trace).dbs.automation.subscriptionProjections.find
      subscription = some p from found, Option.map_some, same] at revision
    cases revision

/-- Calls 0 and 2 one after the other, call 1 given up between them. -/
def inTurn : List Action :=
  call 0 .subscribe true ++ [.find 1 .unsubscribe, .abandon 1] ++ call 2 .unsubscribe false ++
    (List.map (fun w => (record w.1 w.2).message) [(0, row true 1), (2, row false 2)]).map .deliver

theorem undisturbed_of_saved {P : Platform} {t : Target} {s : State} {call : Nat} {kind : Kind}
    {existing : Option SignalSubscription} {written : SignalSubscription}
    {pending : Pending SignalSubscription} {eventId : String} {now : Instant}
    (saved : s.calls call = .saved kind existing written pending)
    (same : rowIn P t s.dbs = existing) : Undisturbed P t s (.commit call eventId now) := by
  intro _ _ _ _ saved'
  cases saved.symm.trans saved'
  exact same

theorem in_turn_loses_no_update :
    Admissible (step platform target) (fun s a => Allowed s a ∧ Undisturbed platform target s a)
        .empty inTurn ∧
      RevisionsIncrease platform target inTurn ∧ ProjectionAgrees platform target inTurn := by
  have admissible : Admissible (step platform target)
      (fun s a => Allowed s a ∧ Undisturbed platform target s a) .empty inTurn := by
    rw [inTurn, admissible_append]
    constructor
    · exact ⟨⟨trivial, trivial⟩, ⟨trivial, trivial⟩,
        ⟨@fresh_after [] 0 (by decide), undisturbed_of_saved rfl rfl⟩,
        ⟨trivial, trivial⟩, ⟨trivial, trivial⟩, ⟨trivial, trivial⟩, ⟨trivial, trivial⟩,
        ⟨@fresh_after [(0, row true 1)] 2 (by decide), undisturbed_of_saved rfl rfl⟩, trivial⟩
    · exact deliveries_admissible (enqueued_after _)
  exact ⟨admissible, undisturbed_run_loses_no_update platform target inTurn admissible⟩

end Overtaken

end KisAutoTrading.Signal.ConcurrentRequests
