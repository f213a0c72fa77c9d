/-
# Signal.ConcurrentProjection — subscription events handled at the same time

The consumer hands out up to 32 unacknowledged messages at once, so the handlers of
several `signal.subscription.updated` messages of one subscription overlap. Each is
a transaction at READ COMMITTED: it claims its event id (`claim`), looks up the
projection row (`find`), applies the stale test and saves (`save`, which looks the row
up again unless the session still holds it), and flushes and commits (`commit`). A
flush that aborts rolls everything back, the claim included, and the message goes to
the dead-letter queue.

The stale test compares with the row looked up, not with the row at the commit.
`first_insert_race` is the shortest wrong outcome: two events find no row, and the
insert of the newer one aborts. `undisturbed_handlers_keep_newest` is what holds: if
every writing commit still finds the row its handler looked up, the row is in the
end the payload of the highest revision.
-/
import KisAutoTrading.Signal.Replication
import KisAutoTrading.Theory.RowSession

namespace KisAutoTrading.Signal.ConcurrentProjection

open Theory Theory.Runs

set_option autoImplicit false

/-- Messages of one subscription with distinct event ids and distinct revisions. -/
structure Batch (P : Platform) (ι : Type) where
  subscriptionId : Uuid
  message : ι → EventMessage
  payload : ι → SignalSubscriptionProjection
  decoded : ∀ i, P.subscriptionProjectionFromPayload (message i).payload = .ok (payload i)
  sameSubscription : ∀ i, (payload i).subscriptionId = subscriptionId
  eventIds : Function.Injective fun i => (message i).eventId
  revisions : Function.Injective fun i => (payload i).revision

/-- Where the handler of one message stands. -/
inductive Phase where
  | waiting
  | claimed
  | found (existing : Option SignalSubscriptionProjection)
  | saved (existing : Option SignalSubscriptionProjection)
      (pending : Option (Pending SignalSubscriptionProjection))
  | done
  | deadLettered
  deriving DecidableEq

def Phase.finished : Phase → Bool
  | .done => true
  | .deadLettered => true
  | _ => false

structure State (ι : Type) where
  store : AutomationStore
  handlers : ι → Phase

inductive Action (ι : Type) where
  | claim (i : ι)
  | find (i : ι)
  /-- `held`: the session still holds the row that was looked up. -/
  | save (i : ι) (held : Bool)
  | commit (i : ι)

/-- The columns of `signal_subscription_projections`. -/
def projectionColumns : Columns SignalSubscriptionProjection where
  patch base new stored := {
    subscriptionId := column base.subscriptionId new.subscriptionId stored.subscriptionId
    userId := column base.userId new.userId stored.userId
    shardId := column base.shardId new.shardId stored.shardId
    stockCode := column base.stockCode new.stockCode stored.stockCode
    enabled := column base.enabled new.enabled stored.enabled
    revision := column base.revision new.revision stored.revision }
  patch_base base new := by simp

section Model

variable {P : Platform} {ι : Type} [DecidableEq ι] (batch : Batch P ι)

/-- The committed projection row of the subscription. -/
def rowIn (store : AutomationStore) : Option SignalSubscriptionProjection :=
  store.subscriptionProjections.find batch.subscriptionId

def State.enter (s : State ι) (i : ι) (phase : Phase) : State ι :=
  { s with handlers := Function.update s.handlers i phase }

/-- The store after a commit that wrote `row`, if any: the claim becomes visible. -/
def commitStore (store : AutomationStore) (i : ι) (row : Option SignalSubscriptionProjection) :
    AutomationStore :=
  { store with
    processedMessages := insert (batch.message i).eventId store.processedMessages
    subscriptionProjections :=
      match row with
      | none => store.subscriptionProjections
      | some stored => store.subscriptionProjections.put batch.subscriptionId stored }

def step (s : State ι) : Action ι → State ι
  | .claim i =>
      match s.handlers i with
      | .waiting =>
          if (s.store.processedMessages.claim (batch.message i).eventId).1 then s.enter i .claimed
          else s.enter i .done
      | _ => s
  | .find i =>
      match s.handlers i with
      | .claimed => s.enter i (.found (rowIn batch s.store))
      | _ => s
  | .save i held =>
      match s.handlers i with
      | .found existing =>
          s.enter i (.saved existing ((projectionWrite (batch.payload i) existing).map
            (saveAfter held existing (rowIn batch s.store))))
      | _ => s
  | .commit i =>
      match s.handlers i with
      | .saved _ none => ⟨commitStore batch s.store i none, Function.update s.handlers i .done⟩
      | .saved _ (some pending) =>
          match flush projectionColumns pending (rowIn batch s.store) with
          | some stored =>
              ⟨commitStore batch s.store i (some stored), Function.update s.handlers i .done⟩
          | none => s.enter i .deadLettered
      | _ => s

/-- All handlers still have to start. -/
def start (store : AutomationStore) : State ι := ⟨store, fun _ => .waiting⟩

def run (store : AutomationStore) (trace : List (Action ι)) : State ι :=
  exec (step batch) (start store) trace

/-- A handler that is about to commit a write still finds the row it looked up. -/
def Undisturbed (s : State ι) : Action ι → Prop
  | .commit i => ∀ existing pending,
      s.handlers i = .saved existing (some pending) → rowIn batch s.store = existing
  | _ => True

/-- Before the batch, none of its messages was handled and what is stored is older
than the newest of them. -/
structure Unhandled (store : AutomationStore) (newest : ι) : Prop where
  unclaimed : ∀ i, (batch.message i).eventId ∉ store.processedMessages
  older : ∀ row, rowIn batch store = some row → row.revision < (batch.payload newest).revision

end Model

/-! ## Undisturbed handlers -/

/-- The row at two moments. -/
abbrev Forward (seen now : Option SignalSubscriptionProjection) : Prop :=
  Follows SignalSubscriptionProjection.revision seen now

/-- The row is of this revision or a later one. -/
def Reached (revision : Int) (now : Option SignalSubscriptionProjection) : Prop :=
  ∃ row, now = some row ∧ revision ≤ row.revision

theorem Reached.forward {revision : Int} {seen now : Option SignalSubscriptionProjection}
    (reached : Reached revision seen) (forward : Forward seen now) : Reached revision now := by
  obtain ⟨old, found, le⟩ := reached
  obtain ⟨row, found', rfl | above⟩ := forward old found
  · exact ⟨row, found', le⟩
  · exact ⟨row, found', le.trans above.le⟩

section Undisturbed

variable {P : Platform} {ι : Type} [DecidableEq ι] {batch : Batch P ι} {before : AutomationStore}

/-- What is known of a handler in each of its phases. -/
def PhaseHolds (batch : Batch P ι) (store : AutomationStore) (i : ι) : Phase → Prop
  | .waiting => (batch.message i).eventId ∉ store.processedMessages
  | .claimed => True
  | .found existing => Forward existing (rowIn batch store)
  | .saved existing pending => ∃ held reread, Forward existing reread ∧
      Forward reread (rowIn batch store) ∧
        pending = (projectionWrite (batch.payload i) existing).map (saveAfter held existing reread)
  | .done => Reached (batch.payload i).revision (rowIn batch store)
  | .deadLettered => False

structure Inv (batch : Batch P ι) (before : AutomationStore) (s : State ι) : Prop where
  handlers : ∀ i, PhaseHolds batch s.store i (s.handlers i)
  /-- The row is the one from before the batch, or the payload of some message. -/
  origin : ∀ row, rowIn batch s.store = some row →
    rowIn batch before = some row ∨ ∃ i, row = batch.payload i

omit [DecidableEq ι] in
/-- A phase stays true while the row moves forward and other messages are claimed. -/
theorem PhaseHolds.frame {store store' : AutomationStore} {i : ι} {phase : Phase}
    (holds : PhaseHolds batch store i phase)
    (forward : Forward (rowIn batch store) (rowIn batch store'))
    (others : (batch.message i).eventId ∈ store'.processedMessages →
      (batch.message i).eventId ∈ store.processedMessages) :
    PhaseHolds batch store' i phase := by
  cases phase with
  | waiting => exact fun claimed => holds (others claimed)
  | claimed => trivial
  | found existing => exact Follows.trans holds forward
  | saved existing pending =>
      obtain ⟨held, reread, seen, since, same⟩ := holds
      exact ⟨held, reread, seen, since.trans forward, same⟩
  | done => exact Reached.forward holds forward
  | deadLettered => exact holds

/-- Only the phase of handler `i` changes. -/
theorem Inv.enter {s : State ι} (inv : Inv batch before s) (i : ι) {phase : Phase}
    (next : PhaseHolds batch s.store i phase) : Inv batch before (s.enter i phase) := by
  refine ⟨fun j => ?_, inv.origin⟩
  simp only [State.enter, Function.update_apply]
  split
  · rename_i same
    rw [same]
    exact next
  · exact inv.handlers j

omit [DecidableEq ι] in
theorem rowIn_commitStore (store : AutomationStore) (i : ι)
    (row : Option SignalSubscriptionProjection) :
    rowIn batch (commitStore batch store i row) = row.or (rowIn batch store) := by
  cases row with
  | none => rfl
  | some stored => simp [rowIn, commitStore]

/-- Handler `i` commits, having written `row` or nothing. -/
theorem Inv.commit {s : State ι} (inv : Inv batch before s) (i : ι)
    {row : Option SignalSubscriptionProjection}
    (forward : Forward (rowIn batch s.store) (row.or (rowIn batch s.store)))
    (handled : Reached (batch.payload i).revision (row.or (rowIn batch s.store)))
    (own : ∀ stored, row = some stored → stored = batch.payload i) :
    Inv batch before ⟨commitStore batch s.store i row, Function.update s.handlers i .done⟩ := by
  have rowNow : rowIn batch (commitStore batch s.store i row) = row.or (rowIn batch s.store) :=
    rowIn_commitStore s.store i row
  refine ⟨fun j => ?_, fun stored found => ?_⟩
  · by_cases same : j = i
    · subst same
      simpa only [Function.update_self, PhaseHolds, rowNow] using handled
    · simp only [Function.update_of_ne same]
      refine (inv.handlers j).frame (rowNow ▸ forward) fun claimed => ?_
      rcases Finset.mem_insert.mp claimed with clash | old
      · exact absurd (batch.eventIds clash) same
      · exact old
  · rw [rowNow] at found
    cases row with
    | none => exact inv.origin stored found
    | some written =>
        obtain rfl := Option.some.inj found
        exact .inr ⟨i, own _ rfl⟩

theorem inv_step (s : State ι) (a : Action ι) (inv : Inv batch before s)
    (undisturbed : Undisturbed batch s a) : Inv batch before (step batch s a) := by
  cases a with
  | claim i =>
      have known := inv.handlers i
      simp only [step]
      split
      · rename_i waiting
        rw [waiting] at known
        rw [Inbox.claim, if_neg known, if_pos rfl]
        exact inv.enter i trivial
      · exact inv
  | find i =>
      simp only [step]
      split
      · exact inv.enter i (Follows.refl _)
      · exact inv
  | save i held =>
      have known := inv.handlers i
      simp only [step]
      split
      · rename_i existing phase
        rw [phase] at known
        exact inv.enter i ⟨held, _, known, Follows.refl _, rfl⟩
      · exact inv
  | commit i =>
      have known := inv.handlers i
      simp only [step]
      split
      · rename_i existing phase
        rw [phase] at known
        obtain ⟨held, reread, seen, since, skipped⟩ := known
        obtain ⟨old, rfl, stale⟩ := projectionWrite_none (Option.map_eq_none_iff.mp skipped.symm)
        have reached : Reached (batch.payload i).revision (some old) := ⟨old, rfl, stale⟩
        exact inv.commit i (Follows.refl _) ((reached.forward seen).forward since)
          (fun _ written => by cases written)
      · rename_i existing pending phase
        have same := undisturbed existing pending phase
        rw [phase] at known
        obtain ⟨held, reread, seen, since, scheduled⟩ := known
        obtain ⟨row, written, rfl⟩ := Option.map_eq_some_iff.mp scheduled.symm
        obtain ⟨rfl, newer⟩ := projectionWrite_some written
        -- The row has been the same since the lookup, so the save has found it too.
        obtain rfl : reread = existing := seen.between (same ▸ since)
        have forward : Forward reread (some (batch.payload i)) :=
          fun old found => ⟨_, rfl, .inr (newer old found)⟩
        rw [same]
        split
        · rename_i stored flushed
          obtain rfl := flush_save_of_unchanged flushed
          refine inv.commit i (by rw [same]; exact forward) ⟨_, rfl, le_rfl⟩ ?_
          rintro _ ⟨⟩
          rfl
        · rename_i aborted
          have through := flush_save_isSome projectionColumns held reread (batch.payload i)
          rw [aborted] at through
          cases through
      · exact inv

omit [DecidableEq ι] in
theorem inv_start (unclaimed : ∀ i, (batch.message i).eventId ∉ before.processedMessages) :
    Inv batch before (start before) :=
  ⟨unclaimed, fun _ found => .inl found⟩

end Undisturbed

/-- **Undisturbed handlers keep the newest payload.** Whatever the interleaving, if
every writing commit still finds the row its handler looked up, then after all
handlers have finished the row is the payload of the highest revision. -/
theorem undisturbed_handlers_keep_newest {P : Platform} {ι : Type} [DecidableEq ι]
    (batch : Batch P ι) (newest : ι)
    (highest : ∀ i, (batch.payload i).revision ≤ (batch.payload newest).revision)
    (before : AutomationStore) (unhandled : Unhandled batch before newest)
    (trace : List (Action ι))
    (undisturbed : Admissible (step batch) (Undisturbed batch) (start before) trace)
    (finished : ∀ i, ((run batch before trace).handlers i).finished = true) :
    rowIn batch (run batch before trace).store = some (batch.payload newest) := by
  have inv := exec_invariant inv_step (inv_start unhandled.unclaimed) undisturbed
  have known := inv.handlers newest
  have ended := finished newest
  rw [run] at ended ⊢
  cases phase : (exec (step batch) (start before) trace).handlers newest with
  | done =>
      rw [phase] at known
      obtain ⟨row, found, le⟩ := known
      rw [found]
      rcases inv.origin row found with old | ⟨i, rfl⟩
      · exact absurd (unhandled.older row old) (not_lt.mpr le)
      · rw [batch.revisions (le_antisymm (highest i) le)]
  | deadLettered => rw [phase] at known; exact known.elim
  | waiting => simp [phase, Phase.finished] at ended
  | claimed => simp [phase, Phase.finished] at ended
  | found existing => simp [phase, Phase.finished] at ended
  | saved existing pending => simp [phase, Phase.finished] at ended

/-! ## The first-insert race -/

namespace Race

open Replication.Sample (user subscription platform)

def row (enabled : Bool) : SignalSubscription :=
  ⟨subscription, user, "005930", enabled, if enabled then 1 else 2⟩

def eventId : Bool → String
  | true => "9b0f2c9e-6a5e-4f0c-9d0e-3f1f4c1f7a01"
  | false => "9b0f2c9e-6a5e-4f0c-9d0e-3f1f4c1f7a02"

theorem code_normal : normalizeDomesticStockCode "005930" = some "005930" := rfl

/-- The events of a subscribe (revision 1) and of the unsubscribe after it (2). -/
def batch : Batch platform Bool where
  subscriptionId := subscription
  message i := (recordSubscriptionUpdate (row i) ⟨"account", some "2"⟩ (eventId i) 0).message
  payload i := Replication.projectionOf "2" (row i)
  decoded i := @subscriptionProjection_of_update platform (row i) "2" (eventId i) 0 code_normal
  sameSubscription _ := rfl
  eventIds := (by decide : ∀ i j, eventId i = eventId j → i = j)
  revisions := (by decide : ∀ i j, (row i).revision = (row j).revision → i = j)

/-- Both handlers look up before either commits. -/
def overlapping : List (Action Bool) :=
  [.claim true, .find true, .save true true, .claim false, .find false, .save false true,
    .commit true, .commit false]

/-- The newer event is dead-lettered and the row stays at revision 1. -/
theorem first_insert_race :
    Unhandled batch .empty false ∧
      (∀ i, (batch.payload i).revision ≤ (batch.payload false).revision) ∧
      (∀ i, ((run batch .empty overlapping).handlers i).finished = true) ∧
      (run batch .empty overlapping).handlers false = .deadLettered ∧
      rowIn batch (run batch .empty overlapping).store = some (batch.payload true) ∧
      rowIn batch (run batch .empty overlapping).store ≠ some (batch.payload false) := by
  have row : rowIn batch (run batch .empty overlapping).store = some (batch.payload true) := rfl
  refine ⟨⟨fun _ => Finset.notMem_empty _, fun _ found => ?_⟩, by decide, ?_, rfl, row, ?_⟩
  · simp [rowIn, AutomationStore.empty] at found
  · intro i
    cases i <;> rfl
  · rw [row]
    decide

/-- One handler after the other, the newer event first. -/
def inTurn : List (Action Bool) :=
  [.claim false, .find false, .claim true, .save false false, .commit false, .find true,
    .save true false, .commit true]

theorem in_turn_keeps_newest :
    rowIn batch (run batch .empty inTurn).store = some (batch.payload false) := by
  refine undisturbed_handlers_keep_newest batch false (by decide) .empty
    ⟨fun _ => Finset.notMem_empty _, fun _ found => ?_⟩ inTurn ?_ ?_
  · simp [rowIn, AutomationStore.empty] at found
  · refine ⟨trivial, trivial, trivial, trivial, ?_, trivial, trivial, ?_, trivial⟩
    · intro existing pending phase
      cases phase
      rfl
    · intro existing pending phase
      cases phase
  · intro i
    cases i <;> rfl

end Race

end KisAutoTrading.Signal.ConcurrentProjection
