/-
# Handlers.FirstCommit — captures and signals that are to be made once

`capture_portfolio_snapshot` and `record_signal` both look their row up and save only what
they have not found. Any number of captures of one user, connection and idempotency key, and
any number of records of one signal id, with contents of their own, run as the calls of
`Theory.CreateOnce`: a snapshot is a header with its positions, a signal a header without
parts.

`first_commit_stays`: where no save re-reads a row that its call's lookup has not found, the
first to commit makes the snapshot or signal for good, with its one event and a position
count that is right; a signal without an expiry has no event. `Overwritten` is the run in
which a save does re-read the row: it becomes an update, and two captures end up in one
snapshot.
-/
import KisAutoTrading.Modules.Portfolio
import KisAutoTrading.Modules.Signal
import KisAutoTrading.Theory.CreateOnce

namespace KisAutoTrading.Handlers.FirstCommit

open Theory Theory.Runs Theory.CreateOnce

set_option autoImplicit false

/-! ## Captures -/

/-- What the captures have in common once `_snapshot_location` and `_snapshot_id` are done. -/
structure Capture where
  userId : Uuid
  connectionId : Uuid
  snapshotId : Uuid
  target : ShardTarget

def snapshotColumns : Columns PortfolioSnapshot where
  patch base new stored := {
    snapshotId := column base.snapshotId new.snapshotId stored.snapshotId
    connectionId := column base.connectionId new.connectionId stored.connectionId
    userId := column base.userId new.userId stored.userId
    capturedAt := column base.capturedAt new.capturedAt stored.capturedAt
    positionCount := column base.positionCount new.positionCount stored.positionCount }
  patch_base base new := by simp

def positionColumns : Columns PortfolioPositionSnapshot where
  patch base new stored := {
    positionId := column base.positionId new.positionId stored.positionId
    snapshotId := column base.snapshotId new.snapshotId stored.snapshotId
    userId := column base.userId new.userId stored.userId
    stockCode := column base.stockCode new.stockCode stored.stockCode
    productName := column base.productName new.productName stored.productName
    holdingQuantity := column base.holdingQuantity new.holdingQuantity stored.holdingQuantity
    orderableQuantity := column base.orderableQuantity new.orderableQuantity stored.orderableQuantity
    currentPrice := column base.currentPrice new.currentPrice stored.currentPrice }
  patch_base base new := by simp

abbrev CaptureContent : Type := Content PortfolioSnapshot Uuid PortfolioPositionSnapshot

abbrev CaptureState : Type := State AccountShard PortfolioSnapshot Uuid PortfolioPositionSnapshot

abbrev CaptureAction : Type :=
  Action PortfolioSnapshot Uuid PortfolioPositionSnapshot OutboxEventRecord

namespace Capture

variable (t : Capture)

/-- The snapshot on its account shard. -/
def place : Place AccountShard PortfolioSnapshot Uuid PortfolioPositionSnapshot
    OutboxEventRecord where
  header shard := shard.snapshots.find t.snapshotId
  parts shard := shard.positions
  events shard := shard.outbox
  write shard snapshot positions outbox :=
    { shard with snapshots := shard.snapshots.put t.snapshotId snapshot, positions, outbox }
  header_write _ _ _ _ := Table.find_put_self _ _ _
  parts_write _ _ _ _ := rfl
  events_write _ _ _ _ := rfl
  headerColumns := snapshotColumns
  partColumns := positionColumns

/-- What a capture with these holdings creates. -/
def content (P : Platform) (holdings : List KisDomesticStockHolding) (capturedAt : Instant)
    (apart : Set.InjOn (P.uuid5 t.snapshotId)
      {code | ∃ holding ∈ holdings, holding.stockCode = code}) : CaptureContent where
  header := ⟨t.snapshotId, t.connectionId, t.userId, capturedAt,
    (P.positionModels t.snapshotId t.userId holdings).length⟩
  parts := (P.positionModels t.snapshotId t.userId holdings).map fun position =>
    (position.positionId, position)
  distinct := by
    rw [List.map_map]
    exact P.positionModels_nodup t.userId apart

/-- A snapshot with the positions of some holdings. -/
def created (P : Platform) (snapshot : PortfolioSnapshot)
    (parts : List (Uuid × PortfolioPositionSnapshot)) : Prop :=
  ∃ holdings capturedAt apart, snapshot = (t.content P holdings capturedAt apart).header ∧
    parts = (t.content P holdings capturedAt apart).parts

def announced (snapshot : PortfolioSnapshot) (events : List OutboxEventRecord) : Prop :=
  ∃ eventId now, events = [snapshotCaptured snapshot t.target eventId now]

/-- The event is about the snapshot. -/
def isAbout (record : OutboxEventRecord) : Bool :=
  record.eventType = "portfolio.snapshot.captured" && record.aggregateId = t.snapshotId.str

def isPart (position : PortfolioPositionSnapshot) : Bool := position.snapshotId = t.snapshotId

/-- No call has begun, and nothing of the snapshot is stored. -/
structure Start (s : CaptureState) : Prop where
  idle : ∀ call, s.calls call = .idle
  snapshot : s.store.snapshots.find t.snapshotId = none
  positions : ∀ position ∈ s.store.positions.rows, t.isPart position = false
  events : ∀ record ∈ s.store.outbox, t.isAbout record = false

/-- The shard after a run. -/
def shardAfter (s : CaptureState) (trace : List CaptureAction) : AccountShard :=
  (exec (step t.place) s trace).store

/-- The snapshot is made once. -/
structure MadeOnce (s : CaptureState) (trace : List CaptureAction) : Prop where
  /-- Once it is stored, the snapshot and its positions never change. -/
  unchanged : ∀ front back, front <+: back → back <+: trace → ∀ snapshot,
    (t.shardAfter s front).snapshots.find t.snapshotId = some snapshot →
    (t.shardAfter s back).snapshots.find t.snapshotId = some snapshot ∧
    (t.shardAfter s back).positions.rows.filter t.isPart =
      (t.shardAfter s front).positions.rows.filter t.isPart
  oneEvent : ∀ front, front <+: trace → ∀ snapshot,
    (t.shardAfter s front).snapshots.find t.snapshotId = some snapshot →
    ((t.shardAfter s front).outbox.filter t.isAbout).length = 1
  counted : ∀ front, front <+: trace → ∀ snapshot,
    (t.shardAfter s front).snapshots.find t.snapshotId = some snapshot →
    ((t.shardAfter s front).positions.rows.filter t.isPart).length = snapshot.positionCount

end Capture

/-! ## Signals -/

def signalColumns : Columns SignalEvent where
  patch base new stored := {
    signalId := column base.signalId new.signalId stored.signalId
    stockCode := column base.stockCode new.stockCode stored.stockCode
    direction := column base.direction new.direction stored.direction
    price := column base.price new.price stored.price
    confidence := column base.confidence new.confidence stored.confidence
    observedAt := column base.observedAt new.observedAt stored.observedAt
    expiresAt := column base.expiresAt new.expiresAt stored.expiresAt }
  patch_base base new := by simp

/-- A signal has no parts. -/
abbrev SignalState : Type := State AutomationStore SignalEvent Empty Empty

abbrev SignalAction : Type := Action SignalEvent Empty Empty OutboxEventRecord

namespace Signal

variable (signalId : Uuid)

theorem no_parts (parts : Table Empty Empty) : parts = ∅ := by
  have entries : AList.entries parts = [] := by
    cases all : AList.entries parts with
    | nil => rfl
    | cons entry rest => exact entry.1.elim
  exact AList.ext entries

/-- The signal in the automation store. -/
def place : Place AutomationStore SignalEvent Empty Empty OutboxEventRecord where
  header store := store.signalEvents.find signalId
  parts _ := ∅
  events store := store.outbox
  write store signal _ outbox :=
    { store with signalEvents := store.signalEvents.put signalId signal, outbox }
  header_write _ _ _ _ := Table.find_put_self _ _ _
  parts_write _ _ parts _ := (no_parts parts).symm
  events_write _ _ _ _ := rfl
  headerColumns := signalColumns
  partColumns := ⟨fun _ _ stored => stored, fun base _ => base.elim⟩

/-- What a record of a signal creates. -/
def content (signal : SignalEvent) : Content SignalEvent Empty Empty := ⟨signal, [], List.nodup_nil⟩

def created (signal : SignalEvent) (parts : List (Empty × Empty)) : Prop :=
  signal.signalId = signalId ∧ parts = []

/-- Only a signal that expires is announced. -/
def announced (P : Platform) (signal : SignalEvent) (events : List OutboxEventRecord) : Prop :=
  ∃ eventId now, events = if signal.expiresAt.isSome then [P.signalCreated signal eventId now] else []

def isAbout (record : OutboxEventRecord) : Bool :=
  record.eventType = "signal.created" && record.aggregateId = signalId.str

structure Start (s : SignalState) : Prop where
  idle : ∀ call, s.calls call = .idle
  signal : s.store.signalEvents.find signalId = none
  events : ∀ record ∈ s.store.outbox, isAbout signalId record = false

def storeAfter (s : SignalState) (trace : List SignalAction) : AutomationStore :=
  (exec (step (place signalId)) s trace).store

/-- The signal is made once, with so many events. -/
structure MadeOnce (eventCount : SignalEvent → Nat) (s : SignalState) (trace : List SignalAction) :
    Prop where
  unchanged : ∀ front back, front <+: back → back <+: trace → ∀ signal,
    (storeAfter signalId s front).signalEvents.find signalId = some signal →
    (storeAfter signalId s back).signalEvents.find signalId = some signal
  events : ∀ front, front <+: trace → ∀ signal,
    (storeAfter signalId s front).signalEvents.find signalId = some signal →
    ((storeAfter signalId s front).outbox.filter (isAbout signalId)).length = eventCount signal

end Signal

/-! ## The calls and the handlers -/

variable {P : Platform}

/-- A capture with nothing in between is the handler's second transaction. -/
theorem capture_alone {t : Capture} {s : CaptureState} {call : Nat} (idle : s.calls call = .idle)
    (absent : s.store.snapshots.find t.snapshotId = none) {holdings : List KisDomesticStockHolding}
    {capturedAt : Instant} (apart : Set.InjOn (P.uuid5 t.snapshotId)
      {code | ∃ holding ∈ holdings, holding.stockCode = code}) (eventId : String) (now : Instant) :
    t.shardAfter s (callSteps call (t.content P holdings capturedAt apart)
      [snapshotCaptured (t.content P holdings capturedAt apart).header t.target eventId now]) =
    (s.store.storeCapture (t.content P holdings capturedAt apart).header
      (P.positionModels t.snapshotId t.userId holdings) t.target eventId now).2 := by
  rw [Capture.shardAfter, exec_callSteps idle absent]
  have missed : s.store.findCapture t.snapshotId = none := by
    simp [AccountShard.findCapture, absent]
  simp only [AccountShard.storeCapture, Capture.content, missed, Capture.place, Table.putAll,
    List.foldl_map]

/-- A record with nothing in between is the handler's transaction. -/
theorem record_alone {dbs : Databases} {s : SignalState} (same : s.store = dbs.automation)
    {call : Nat} (idle : s.calls call = .idle) (signal : SignalEvent)
    (absent : s.store.signalEvents.find signal.signalId = none) (eventId : String) (now : Instant) :
    P.recordSignal signal eventId now dbs = .ok (signal, { dbs with
      automation := Signal.storeAfter signal.signalId s (callSteps call (Signal.content signal)
        (if signal.expiresAt.isSome then [P.signalCreated signal eventId now] else [])) }) := by
  rw [Signal.storeAfter, exec_callSteps idle absent, same]
  rw [same] at absent
  cases expiry : signal.expiresAt with
  | none => simp [Platform.recordSignal, Databases.automationSession, absent, expiry,
      Signal.content, Signal.place]
  | some expiresAt => simp [Platform.recordSignal, Databases.automationSession, absent, expiry,
      Signal.content, Signal.place, Platform.signalCreated]

/-! ## Whole runs -/

/-- The guard of the captures: they are captures, and no save re-reads a committed row. -/
def Capture.Allowed (t : Capture) (P : Platform) (s : CaptureState) (action : CaptureAction) : Prop :=
  Fits (t.created P) t.announced s action ∧ Absent t.place s action

/-- The guard of the records. -/
def Signal.Allowed (signalId : Uuid) (P : Platform) (s : SignalState) (action : SignalAction) : Prop :=
  Fits (Signal.created signalId) (Signal.announced P) s action ∧ Absent (Signal.place signalId) s action

theorem Capture.isAbout_captured (t : Capture) {snapshot : PortfolioSnapshot}
    (same : snapshot.snapshotId = t.snapshotId) (eventId : String) (now : Instant) :
    t.isAbout (snapshotCaptured snapshot t.target eventId now) = true := by
  simp [Capture.isAbout, snapshotCaptured, outboxRecord, same]

theorem filter_eq_nil {α : Type} {kind : α → Bool} {all : List α}
    (none : ∀ item ∈ all, kind item = false) : all.filter kind = [] := by
  rw [List.filter_eq_nil_iff]
  intro item member
  simp [none item member]

/-- What one capture leaves, as the snapshot, its event and its positions. -/
theorem Capture.created_facts {t : Capture} {s : CaptureState} (ready : t.Start s)
    {shard : AccountShard} (made : Created t.place (t.created P) t.announced s.store shard) :
    ∃ snapshot, shard.snapshots.find t.snapshotId = some snapshot ∧
      (shard.outbox.filter t.isAbout).length = 1 ∧
      (shard.positions.rows.filter t.isPart).length = snapshot.positionCount := by
  obtain ⟨content, events, ⟨holdings, capturedAt, apart, header, parts⟩, ⟨eventId, now, rfl⟩, rfl⟩ := made
  refine ⟨content.header, Table.find_put_self _ _ _, ?_, ?_⟩
  · have about : t.isAbout (snapshotCaptured content.header t.target eventId now) = true :=
      t.isAbout_captured (by rw [header]; rfl) eventId now
    simp only [Capture.place, List.filter_append, filter_eq_nil ready.events, List.nil_append,
      List.filter_cons_of_pos about, List.filter_nil, List.length_singleton]
  · have own : ∀ row ∈ content.parts, t.isPart row.2 = true := by
      intro row member
      rw [parts] at member
      obtain ⟨position, inside, rfl⟩ := List.mem_map.mp member
      simpa [Capture.isPart] using P.positionModels_snapshotId inside
    have foreign : ∀ row ∈ content.parts, ∀ position,
        s.store.positions.find row.1 = some position → t.isPart position = false :=
      fun row _ position found => ready.positions position (Table.mem_rows.mpr ⟨_, found⟩)
    have counted := Table.length_filter_putAll content.distinct own foreign
    rw [filter_eq_nil ready.positions, List.length_nil, Nat.zero_add] at counted
    refine counted.trans ?_
    rw [parts, header]
    simp [Capture.content]

theorem Signal.created_facts {signalId : Uuid} {s : SignalState} (ready : Signal.Start signalId s)
    {store : AutomationStore} (made : Created (Signal.place signalId) (Signal.created signalId)
      (Signal.announced P) s.store store) :
    ∃ signal, store.signalEvents.find signalId = some signal ∧
      (store.outbox.filter (Signal.isAbout signalId)).length =
        if signal.expiresAt.isSome then 1 else 0 := by
  obtain ⟨content, events, ⟨named, -⟩, ⟨eventId, now, rfl⟩, rfl⟩ := made
  refine ⟨content.header, Table.find_put_self _ _ _, ?_⟩
  have about : Signal.isAbout signalId (P.signalCreated content.header eventId now) = true := by
    simp [Signal.isAbout, Platform.signalCreated, outboxRecord, named]
  simp only [Signal.place, List.filter_append, filter_eq_nil ready.events, List.nil_append]
  split
  · rw [List.filter_cons_of_pos about]
    rfl
  · rfl

theorem Capture.madeOnce {t : Capture} {s : CaptureState} (ready : t.Start s)
    {trace : List CaptureAction} (allowed : Admissible (step t.place) (t.Allowed P) s trace) :
    t.MadeOnce s trace := by
  have facts : ∀ front, front <+: trace → ∀ snapshot,
      (t.shardAfter s front).snapshots.find t.snapshotId = some snapshot →
      ((t.shardAfter s front).outbox.filter t.isAbout).length = 1 ∧
      ((t.shardAfter s front).positions.rows.filter t.isPart).length = snapshot.positionCount := by
    intro front isPrefix snapshot found
    have inv := run_created ready.idle (allowed.of_prefix isPrefix)
    obtain ⟨stored, there, event, counted⟩ :=
      t.created_facts ready (inv.created_of_header ready.snapshot found)
    obtain rfl := Option.some.inj (there.symm.trans found)
    exact ⟨event, counted⟩
  refine ⟨?_, fun front isPrefix snapshot found => (facts front isPrefix snapshot found).1,
    fun front isPrefix snapshot found => (facts front isPrefix snapshot found).2⟩
  intro front back earlier later snapshot found
  have present : t.place.header (exec (step t.place) s front).store = some snapshot := found
  have same : t.shardAfter s back = t.shardAfter s front :=
    run_unchanged ready.idle allowed earlier later (by rw [present]; exact Option.some_ne_none _)
  rw [same]
  exact ⟨found, rfl⟩

theorem Signal.madeOnce {signalId : Uuid} {s : SignalState} (ready : Signal.Start signalId s)
    {trace : List SignalAction}
    (allowed : Admissible (step (Signal.place signalId)) (Signal.Allowed signalId P) s trace) :
    Signal.MadeOnce signalId (fun signal => if signal.expiresAt.isSome then 1 else 0) s trace := by
  refine ⟨?_, ?_⟩
  · intro front back earlier later signal found
    have present : (Signal.place signalId).header (exec (step (Signal.place signalId)) s front).store =
        some signal := found
    have same : Signal.storeAfter signalId s back = Signal.storeAfter signalId s front :=
      run_unchanged ready.idle allowed earlier later (by rw [present]; exact Option.some_ne_none _)
    rw [same]
    exact found
  · intro front isPrefix signal found
    have inv := run_created ready.idle (allowed.of_prefix isPrefix)
    obtain ⟨stored, there, event⟩ :=
      Signal.created_facts ready (inv.created_of_header ready.signal found)
    obtain rfl := Option.some.inj (there.symm.trans found)
    exact event

/-- **The first to commit makes the snapshot, and the signal, for good.** -/
theorem first_commit_stays (P : Platform) :
    (∀ (t : Capture) (s : CaptureState) (trace : List CaptureAction), t.Start s →
      Admissible (step t.place) (t.Allowed P) s trace → t.MadeOnce s trace) ∧
    ∀ (signalId : Uuid) (s : SignalState) (trace : List SignalAction), Signal.Start signalId s →
      Admissible (step (Signal.place signalId)) (Signal.Allowed signalId P) s trace →
      Signal.MadeOnce signalId (fun signal => if signal.expiresAt.isSome then 1 else 0) s trace :=
  ⟨fun _ _ _ ready allowed => Capture.madeOnce ready allowed,
    fun _ _ _ ready allowed => Signal.madeOnce ready allowed⟩

/-! ## A save that re-reads the row -/

namespace Overwritten

def platform : Platform :=
  .reference (fun _ name => if name = "005930" then 11 else 12) (.aware 0) "1970-01-01T00:00:00Z"

def capture : Capture := ⟨1, 2, 3, ⟨"account", some "2"⟩⟩

def holding : KisDomesticStockHolding := ⟨"005930", "Samsung", "10", "10", "70000"⟩

theorem apart_one : Set.InjOn (platform.uuid5 capture.snapshotId)
    {code | ∃ h ∈ [holding], h.stockCode = code} := by
  rintro _ ⟨h, member, rfl⟩ _ ⟨h', member', rfl⟩ -
  rw [List.mem_singleton.mp member, List.mem_singleton.mp member']

theorem apart_none : Set.InjOn (platform.uuid5 capture.snapshotId)
    {code | ∃ h ∈ ([] : List KisDomesticStockHolding), h.stockCode = code} := by
  rintro _ ⟨h, member, -⟩
  cases member

/-- One holding, captured at 0. -/
def filled : CaptureContent := capture.content platform [holding] 0 apart_one

/-- No holding, captured at 1. -/
def emptied : CaptureContent := capture.content platform [] 1 apart_none

def captured (content : CaptureContent) (eventId : String) : OutboxEventRecord :=
  snapshotCaptured content.header capture.target eventId 0

def start : CaptureState := ⟨.empty, fun _ => .idle⟩

theorem start_ready : capture.Start start := ⟨fun _ => rfl, rfl, nofun, nofun⟩

/-- Both calls have found nothing when the first commits; only then the second saves. -/
def front : List CaptureAction :=
  [.find 0 filled, .find 1 emptied, .save 0, .save 0, .commit 0 [captured filled "event-0"]]

def race : List CaptureAction := front ++ [.save 1, .commit 1 [captured emptied "event-1"]]

theorem fits_find {s : CaptureState} {call : Nat} {holdings : List KisDomesticStockHolding}
    {capturedAt : Instant} (apart : Set.InjOn (platform.uuid5 capture.snapshotId)
      {code | ∃ holding ∈ holdings, holding.stockCode = code}) :
    Fits (E := OutboxEventRecord) (capture.created platform) capture.announced s
      (.find call (capture.content platform holdings capturedAt apart)) :=
  ⟨holdings, capturedAt, apart, rfl, rfl⟩

theorem fits_commit {s : CaptureState} {call : Nat} {content : CaptureContent}
    {pending : Pending PortfolioSnapshot} {saved : List (Uuid × Pending PortfolioPositionSnapshot)}
    (saving : s.calls call = .saving content pending saved []) (eventId : String) :
    Fits (capture.created platform) capture.announced s
      (.commit call [captured content eventId]) := by
  intro other pending' saved' here
  rw [saving] at here
  obtain ⟨rfl, -, -, -⟩ := Phase.saving.inj here
  exact ⟨eventId, 0, rfl⟩

theorem race_fits : Admissible (step capture.place)
    (Fits (capture.created platform) capture.announced) start race :=
  ⟨fits_find apart_one, fits_find apart_none, trivial, trivial, fits_commit rfl "event-0",
    trivial, fits_commit rfl "event-1", trivial⟩

/-- The snapshot of the first call has become that of the second, over the first one's
position and with a second event. -/
theorem race_outcome :
    (capture.shardAfter start front).snapshots.find 3 = some filled.header ∧
      (capture.shardAfter start race).snapshots.find 3 = some emptied.header := ⟨rfl, rfl⟩

theorem race_overwrites : ¬ capture.MadeOnce start race := by
  intro once
  obtain ⟨kept, -⟩ := once.unchanged front race (List.prefix_append _ _) List.prefix_rfl
    filled.header race_outcome.1
  have same : some emptied.header = some filled.header := race_outcome.2.symm.trans kept
  exact absurd same (by decide)

def signal : SignalEvent := ⟨5, "005930", "buy", "70000", .finite 1, .aware 0, none⟩

def silent : SignalState := ⟨.empty, fun _ => .idle⟩

theorem silent_ready : Signal.Start signal.signalId silent := ⟨fun _ => rfl, rfl, nofun⟩

/-- A signal that does not expire is recorded. -/
def recording : List SignalAction := callSteps 0 (Signal.content signal) []

theorem recording_allowed : Admissible (step (Signal.place signal.signalId))
    (Signal.Allowed signal.signalId platform) silent recording := by
  refine ⟨⟨⟨rfl, rfl⟩, trivial⟩, ⟨trivial, fun _ _ => rfl⟩, ⟨?_, trivial⟩, trivial⟩
  intro content pending saved here
  obtain ⟨rfl, -, -, -⟩ := Phase.saving.inj here
  exact ⟨"event-0", 0, rfl⟩

theorem created_once_fails :
    capture.Start start ∧ Admissible (step capture.place)
        (Fits (capture.created platform) capture.announced) start race ∧
      ¬ capture.MadeOnce start race ∧
      Signal.Start signal.signalId silent ∧ Admissible (step (Signal.place signal.signalId))
        (Fits (Signal.created signal.signalId) (Signal.announced platform)) silent recording ∧
      ¬ Signal.MadeOnce signal.signalId (fun _ => 1) silent recording := by
  refine ⟨start_ready, race_fits, race_overwrites, silent_ready,
    recording_allowed.mono fun _ _ ok => ok.1, ?_⟩
  intro once
  have event := once.events recording List.prefix_rfl signal rfl
  cases event

/-- One call after the other. -/
def inTurn : List CaptureAction :=
  callSteps 0 filled [captured filled "event-0"] ++ [.find 1 emptied]

theorem in_turn_made_once : capture.MadeOnce start inTurn ∧
    Signal.MadeOnce signal.signalId (fun signal => if signal.expiresAt.isSome then 1 else 0) silent
      recording := by
  refine ⟨(first_commit_stays platform).1 capture start inTurn start_ready ?_,
    (first_commit_stays platform).2 signal.signalId silent recording silent_ready
      recording_allowed⟩
  exact ⟨⟨fits_find apart_one, trivial⟩, ⟨trivial, fun _ _ => rfl⟩, ⟨trivial, fun _ _ => rfl⟩,
    ⟨fits_commit rfl "event-0", trivial⟩, ⟨fits_find apart_none, trivial⟩, trivial⟩

end Overwritten

end KisAutoTrading.Handlers.FirstCommit
