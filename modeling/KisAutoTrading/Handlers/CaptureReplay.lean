/-
# Handlers.CaptureReplay — what later captures and reads of a snapshot return

Sequential calls of `capture_portfolio_snapshot` and `get_portfolio_snapshot`, of any users,
connections, keys and holdings, between which anything may happen to the other tables. The
first capture answers from memory; every later one, and every read, answers what
`list_by_snapshot_id` finds.

The positions of a snapshot are stored exactly (`Held`): the first capture writes them, and
no later one touches them, because `uuid5` tells positions of different snapshots apart. Read
back they are sorted as they were built, but only the first thousand of them. So
`capture_replay_iff`: the replay is exact if and only if the holdings have at most a thousand
distinct stock codes.
-/
import KisAutoTrading.Modules.Portfolio
import KisAutoTrading.Theory.Runs

namespace KisAutoTrading.Handlers.CaptureReplay

open Theory Theory.Runs

set_option autoImplicit false

/-! ## Calls -/

/-- The arguments of a capture, what its account request meets, and its clocks and ids. -/
structure CaptureCall where
  session : SessionData
  connection : BrokerageAccountConnection
  holdings : Except Failure (List KisDomesticStockHolding)
  idempotencyKey : String
  eventId : String
  capturedAt : Instant
  now : Instant

def CaptureCall.run (P : Platform) (call : CaptureCall) (dbs : Databases) :
    Except Failure (PortfolioSnapshotCapture × Databases) :=
  P.capturePortfolioSnapshot call.session call.connection call.holdings call.idempotencyKey
    call.eventId call.capturedAt call.now dbs

/-- Whether the call gets as far as `list_domestic_stock_holdings`. -/
def CaptureCall.requestsAccount (P : Platform) (call : CaptureCall) (dbs : Databases) : Bool :=
  match snapshotLocation call.session call.connection with
  | .error _ => false
  | .ok (userId, target) =>
      match P.snapshotId userId call.connection.connectionId call.idempotencyKey with
      | .error _ => false
      | .ok snapshotId =>
          match dbs.accountSession target fun shard => .ok (shard.findCapture snapshotId, shard) with
          | .ok (none, _) => true
          | _ => false

/-- A capture of this user and connection, whose key has this stripped text. -/
structure CaptureCall.For (call : CaptureCall) (user connectionId : Uuid) (key : String) : Prop where
  login : LoginSession call.session user
  connection : call.connection.connectionId = connectionId
  owned : call.connection.userId = user
  key : pyStrip call.idempotencyKey = key

inductive Action where
  | capture (call : CaptureCall)
  | get (session : SessionData) (snapshotId : Uuid)
  /-- Other calls, which leave the two tables as they are. -/
  | elsewhere (after : Databases)

def step (P : Platform) (dbs : Databases) : Action → Databases
  | .capture call => dbs.commit (call.run P dbs)
  | .get session snapshotId => dbs.commit (getPortfolioSnapshot session snapshotId dbs)
  | .elsewhere after => after

/-- Captures are made with sessions of `login`. -/
def ok (dbs : Databases) : Action → Prop
  | .capture call => ∃ user, LoginSession call.session user
  | .get _ _ => True
  | .elsewhere after => ∀ shardId,
      (after.account shardId).snapshots = (dbs.account shardId).snapshots ∧
        (after.account shardId).positions = (dbs.account shardId).positions

/-- The id of the snapshot of a user, a connection and a stripped key. -/
def snapshotIdOf (P : Platform) (user connectionId : Uuid) (key : String) : Uuid :=
  P.uuid5 namespaceUrl (snapshotName user connectionId key)

/-- The namespaces and names one capture may ask `uuid5` about. -/
def CaptureCall.names (P : Platform) (call : CaptureCall) (user : Uuid) : Set (Uuid × String) :=
  {name | name = (namespaceUrl, snapshotName user call.connection.connectionId
      (pyStrip call.idempotencyKey)) ∨
    ∃ holdings holding, call.holdings = .ok holdings ∧ holding ∈ holdings ∧
      name = (snapshotIdOf P user call.connection.connectionId (pyStrip call.idempotencyKey),
        holding.stockCode)}

/-- Those of a run. -/
def namesUsed (P : Platform) (trace : List Action) : Set (Uuid × String) :=
  {name | ∃ call user, .capture call ∈ trace ∧ LoginSession call.session user ∧
    name ∈ call.names P user}

/-- `uuid5` does not collide on these names. -/
def Apart (P : Platform) (used : Set (Uuid × String)) : Prop :=
  Set.InjOn (fun name : Uuid × String => P.uuid5 name.1 name.2) used

/-! ## One call -/

section Calls

variable {P : Platform} {call : CaptureCall} {user connectionId : Uuid} {key : String}
  {dbs : Databases} {session : SessionData}

/-- What a capture with these holdings answers. -/
def CaptureCall.made (P : Platform) (call : CaptureCall) (user : Uuid)
    (holdings : List KisDomesticStockHolding) : PortfolioSnapshotCapture :=
  let snapshotId := snapshotIdOf P user call.connection.connectionId (pyStrip call.idempotencyKey)
  let positions := P.positionModels snapshotId user holdings
  ⟨⟨snapshotId, call.connection.connectionId, user, call.capturedAt, positions.length⟩, positions⟩

/-- The shard with a capture stored. -/
def stored (shard : AccountShard) (capture : PortfolioSnapshotCapture)
    (event : OutboxEventRecord) : AccountShard :=
  { shard with
    snapshots := shard.snapshots.put capture.snapshot.snapshotId capture.snapshot
    positions := capture.positions.foldl
      (fun table position => table.put position.positionId position) shard.positions
    outbox := shard.outbox ++ [event] }

theorem accountLocation_login (login : LoginSession session user) :
    accountLocation session = .ok (user, ⟨"account", some (shardIdFor user)⟩) := by
  have nonempty : shardIdFor user ≠ "" := by
    rcases shardIdFor_cases user with h | h <;> rw [h] <;> decide
  simp [accountLocation, login.shardId, login.userId, nonempty, Uuid.ofStr_str]

/-- Looking for a capture on the user's shard. -/
theorem looked_up (dbs : Databases) (user snapshotId : Uuid) :
    (dbs.accountSession ⟨"account", some (shardIdFor user)⟩ fun shard =>
      .ok (shard.findCapture snapshotId, shard)) =
      .ok ((dbs.account (shardIdFor user)).findCapture snapshotId, dbs) := by
  rw [dbs.accountSession_ok (shardIdFor_configured user)
    (fun shard => (shard.findCapture snapshotId, shard))]
  simp

theorem findCapture_eq_none {shard : AccountShard} {snapshotId : Uuid} :
    shard.findCapture snapshotId = none ↔ shard.snapshots.find snapshotId = none := by
  simp [AccountShard.findCapture]

/-- Where a capture that is allowed looks, and for what. -/
theorem CaptureCall.For.located (isFor : call.For user connectionId key) (named : key ≠ "") :
    snapshotLocation call.session call.connection =
        .ok (user, ⟨"account", some (shardIdFor user)⟩) ∧
      P.snapshotId user call.connection.connectionId call.idempotencyKey =
        .ok (snapshotIdOf P user connectionId key) := by
  obtain ⟨login, rfl, owned, rfl⟩ := isFor
  constructor
  · simp [snapshotLocation, accountLocation_login login, owned, bind, Except.bind]
  · simp [Platform.snapshotId, named, snapshotIdOf]

/-- A capture whose snapshot is there answers it, with no account request, and changes
nothing. -/
theorem run_found (isFor : call.For user connectionId key) (named : key ≠ "")
    {capture : PortfolioSnapshotCapture}
    (found : (dbs.account (shardIdFor user)).findCapture (snapshotIdOf P user connectionId key) =
      some capture) :
    call.run P dbs = .ok (capture, dbs) ∧ call.requestsAccount P dbs = false := by
  obtain ⟨located, id⟩ := isFor.located (P := P) named
  constructor
  · simp only [CaptureCall.run, Platform.capturePortfolioSnapshot, located, id, looked_up, found,
      bind, Except.bind]
    rfl
  · simp only [CaptureCall.requestsAccount, located, id, looked_up, found]

/-- A capture whose snapshot is not there requests the account, and what it meets there it
raises or stores. -/
theorem run_absent (isFor : call.For user connectionId key) (named : key ≠ "")
    (absent : (dbs.account (shardIdFor user)).snapshots.find (snapshotIdOf P user connectionId key) =
      none) :
    call.requestsAccount P dbs = true ∧
      match call.holdings with
      | .error failure => call.run P dbs = .error failure
      | .ok holdings => ∃ event, call.run P dbs = .ok (call.made P user holdings, { dbs with
          account := Function.update dbs.account (shardIdFor user)
            (stored (dbs.account (shardIdFor user)) (call.made P user holdings) event) }) := by
  have found := findCapture_eq_none.mpr absent
  obtain ⟨located, id⟩ := isFor.located (P := P) named
  refine ⟨by simp only [CaptureCall.requestsAccount, located, id, looked_up, found], ?_⟩
  cases fetched : call.holdings with
  | error failure =>
      simp only [CaptureCall.run, Platform.capturePortfolioSnapshot, located, id, looked_up, found,
        fetched, bind, Except.bind]
  | ok holdings =>
      refine ⟨snapshotCaptured (call.made P user holdings).snapshot
        ⟨"account", some (shardIdFor user)⟩ call.eventId call.now, ?_⟩
      simp only [CaptureCall.run, Platform.capturePortfolioSnapshot, located, id, looked_up, found,
        fetched, bind, Except.bind]
      rw [dbs.accountSession_ok (shardIdFor_configured user) (fun shard => shard.storeCapture _ _ _
        call.eventId call.now)]
      simp only [AccountShard.storeCapture, found]
      obtain ⟨login, rfl, owned, rfl⟩ := isFor
      rfl

/-- Everything a capture can do: raise, answer a snapshot that is there, or make one. -/
theorem run_cases (login : LoginSession call.session user) (dbs : Databases) :
    (∃ failure, call.run P dbs = .error failure) ∨
    (call.connection.userId = user ∧ pyStrip call.idempotencyKey ≠ "" ∧
      ((∃ capture, (dbs.account (shardIdFor user)).findCapture (snapshotIdOf P user
          call.connection.connectionId (pyStrip call.idempotencyKey)) = some capture ∧
          call.run P dbs = .ok (capture, dbs)) ∨
        ∃ holdings event, call.holdings = .ok holdings ∧
          (dbs.account (shardIdFor user)).snapshots.find (snapshotIdOf P user
            call.connection.connectionId (pyStrip call.idempotencyKey)) = none ∧
          call.run P dbs = .ok (call.made P user holdings, { dbs with
            account := Function.update dbs.account (shardIdFor user)
              (stored (dbs.account (shardIdFor user)) (call.made P user holdings) event) }))) := by
  by_cases owned : call.connection.userId = user
  swap
  · refine .inl ⟨.http 403 "Brokerage account is not owned by this user", ?_⟩
    simp [CaptureCall.run, Platform.capturePortfolioSnapshot, snapshotLocation,
      accountLocation_login login, owned, bind, Except.bind]
  by_cases named : pyStrip call.idempotencyKey = ""
  · refine .inl ⟨.http 400 "Idempotency-Key must not be blank", ?_⟩
    simp [CaptureCall.run, Platform.capturePortfolioSnapshot, snapshotLocation,
      accountLocation_login login, owned, Platform.snapshotId, named, bind, Except.bind]
  have isFor : call.For user call.connection.connectionId (pyStrip call.idempotencyKey) :=
    ⟨login, rfl, owned, rfl⟩
  cases found : (dbs.account (shardIdFor user)).findCapture (snapshotIdOf P user
      call.connection.connectionId (pyStrip call.idempotencyKey)) with
  | some capture => exact .inr ⟨owned, named, .inl ⟨capture, rfl, (run_found isFor named found).1⟩⟩
  | none =>
      have absent := findCapture_eq_none.mp found
      have ran := (run_absent (P := P) isFor named absent).2
      cases fetched : call.holdings with
      | error failure =>
          rw [fetched] at ran
          exact .inl ⟨failure, ran⟩
      | ok holdings =>
          rw [fetched] at ran
          obtain ⟨event, answered⟩ := ran
          exact .inr ⟨owned, named, .inr ⟨holdings, event, rfl, absent, answered⟩⟩

/-- A read of a snapshot of the session's user that is there. -/
theorem get_found (login : LoginSession session user) {snapshotId : Uuid}
    {capture : PortfolioSnapshotCapture} (owner : capture.snapshot.userId = user)
    (found : (dbs.account (shardIdFor user)).findCapture snapshotId = some capture) :
    getPortfolioSnapshot session snapshotId dbs = .ok (capture, dbs) := by
  simp [getPortfolioSnapshot, accountLocation_login login, looked_up, found, owner, bind,
    Except.bind, pure, Except.pure]

end Calls

/-! ## The positions of one shard -/

section Shard

variable {P : Platform} {used : Set (Uuid × String)} {shard : AccountShard}
  {capture other : PortfolioSnapshotCapture}

/-- The positions belong to stored snapshots and have the ids of their codes. -/
structure PositionsInv (P : Platform) (used : Set (Uuid × String)) (shard : AccountShard) :
    Prop where
  keyed : Table.Keyed (·.positionId) shard.positions
  parents : ∀ position ∈ shard.positions.rows,
    ∃ snapshot, shard.snapshots.find position.snapshotId = some snapshot
  named : ∀ position ∈ shard.positions.rows,
    position.positionId = P.uuid5 position.snapshotId position.stockCode ∧
      (position.snapshotId, position.stockCode) ∈ used

/-- What a capture makes. -/
structure WellMade (P : Platform) (used : Set (Uuid × String))
    (capture : PortfolioSnapshotCapture) : Prop where
  sorted : capture.positions.Pairwise fun a b => a.stockCode < b.stockCode
  own : ∀ position ∈ capture.positions, position.snapshotId = capture.snapshot.snapshotId
  named : ∀ position ∈ capture.positions,
    position.positionId = P.uuid5 position.snapshotId position.stockCode ∧
      (position.snapshotId, position.stockCode) ∈ used

/-- The capture is stored: its snapshot, and exactly its positions. -/
structure Held (shard : AccountShard) (capture : PortfolioSnapshotCapture) : Prop where
  snapshot : shard.snapshots.find capture.snapshot.snapshotId = some capture.snapshot
  positions : ∀ position, position ∈ shard.positions.rows ∧
    position.snapshotId = capture.snapshot.snapshotId ↔ position ∈ capture.positions

theorem WellMade.distinct (apart : Apart P used) (made : WellMade P used capture) :
    (capture.positions.map (·.positionId)).Nodup := by
  refine List.pairwise_map.mpr (made.sorted.imp_of_mem ?_)
  intro a b memberA memberB below same
  obtain ⟨idA, usedA⟩ := made.named a memberA
  obtain ⟨idB, usedB⟩ := made.named b memberB
  rw [idA, idB] at same
  have codes := congrArg Prod.snd (apart usedA usedB same)
  exact absurd codes (ne_of_lt below)

/-- The rows after a capture: its own positions and the ones of before. -/
theorem mem_stored (apart : Apart P used) (inv : PositionsInv P used shard)
    (made : WellMade P used capture)
    (absent : shard.snapshots.find capture.snapshot.snapshotId = none) (event : OutboxEventRecord)
    (position : PortfolioPositionSnapshot) :
    position ∈ (stored shard capture event).positions.rows ↔
      position ∈ capture.positions ∨ position ∈ shard.positions.rows := by
  rw [stored, inv.keyed.mem_rows_foldl_put (made.distinct apart)]
  refine or_congr_right (and_iff_left_of_imp fun old member => ?_)
  -- A position of before has another snapshot, hence another id.
  obtain ⟨new, here, same⟩ := List.mem_map.mp member
  obtain ⟨id, usedOld⟩ := inv.named position old
  obtain ⟨id', usedNew⟩ := made.named new here
  have names := apart usedNew usedOld (id'.symm.trans (same.trans id))
  have sameSnapshot : new.snapshotId = position.snapshotId := congrArg Prod.fst names
  obtain ⟨snapshot, found⟩ := inv.parents position old
  rw [← sameSnapshot, made.own new here, absent] at found
  cases found

theorem PositionsInv.stored (apart : Apart P used) (inv : PositionsInv P used shard)
    (made : WellMade P used capture)
    (absent : shard.snapshots.find capture.snapshot.snapshotId = none) (event : OutboxEventRecord) :
    PositionsInv P used (stored shard capture event) := by
  refine ⟨inv.keyed.foldl_put _, ?_, ?_⟩
  · intro position member
    show ∃ snapshot, (shard.snapshots.put _ _).find position.snapshotId = some snapshot
    rw [Table.find_put]
    rcases (mem_stored apart inv made absent event position).mp member with new | old
    · exact ⟨_, if_pos (made.own position new)⟩
    · split
      · exact ⟨_, rfl⟩
      · exact inv.parents position old
  · intro position member
    rcases (mem_stored apart inv made absent event position).mp member with new | old
    · exact made.named position new
    · exact inv.named position old

/-- A capture that was just stored is held. -/
theorem held_stored (apart : Apart P used) (inv : PositionsInv P used shard)
    (made : WellMade P used capture)
    (absent : shard.snapshots.find capture.snapshot.snapshotId = none) (event : OutboxEventRecord) :
    Held (stored shard capture event) capture := by
  refine ⟨Table.find_put_self _ _ _, fun position => ?_⟩
  rw [mem_stored apart inv made absent event]
  constructor
  · rintro ⟨new | old, mine⟩
    · exact new
    · obtain ⟨snapshot, found⟩ := inv.parents position old
      rw [mine, absent] at found
      cases found
  · exact fun member => ⟨.inl member, made.own position member⟩

/-- A later capture of another snapshot leaves it as it is. -/
theorem Held.stored (apart : Apart P used) (inv : PositionsInv P used shard)
    (held : Held shard capture) (made : WellMade P used other)
    (absent : shard.snapshots.find other.snapshot.snapshotId = none) (event : OutboxEventRecord) :
    Held (stored shard other event) capture := by
  have differs : capture.snapshot.snapshotId ≠ other.snapshot.snapshotId := by
    intro same
    rw [← same, held.snapshot] at absent
    cases absent
  refine ⟨(Table.find_put_of_ne _ _ differs).trans held.snapshot, fun position => ?_⟩
  rw [mem_stored apart inv made absent event, ← held.positions position]
  constructor
  · rintro ⟨new | old, mine⟩
    · exact absurd (mine.symm.trans (made.own position new)) differs
    · exact ⟨old, mine⟩
  · exact fun ⟨old, mine⟩ => ⟨.inr old, mine⟩

/-- What is read back of a capture: the snapshot, and the first thousand positions. -/
theorem Held.read (keyed : Table.Keyed (·.positionId) shard.positions) (held : Held shard capture)
    (sorted : capture.positions.Pairwise fun a b => a.stockCode < b.stockCode) :
    shard.findCapture capture.snapshot.snapshotId =
      some ⟨capture.snapshot, capture.positions.take 1000⟩ := by
  have rows : (shard.positions.rows.filter fun position =>
      position.snapshotId = capture.snapshot.snapshotId).Perm capture.positions := by
    have distinctRows : shard.positions.rows.Nodup := keyed.rows_nodup.of_map _
    have distinct : capture.positions.Nodup :=
      (SortedBy.nodup_of_pairwise_lt _ sorted).of_map _
    refine (List.perm_ext_iff_of_nodup (distinctRows.filter _) distinct).mpr fun position => ?_
    rw [← held.positions position, List.mem_filter, decide_eq_true_eq]
  rw [AccountShard.findCapture, held.snapshot, Option.map_some, AccountShard.listBySnapshotId,
    SortedBy.insertionSort_eq (fun position : PortfolioPositionSnapshot => position.stockCode)
      sorted rows]

end Shard

/-! ## Steps -/

section Steps

variable {P : Platform} {used : Set (Uuid × String)} {dbs dbs' : Databases}
  {capture : PortfolioSnapshotCapture} {user : Uuid}

/-- What a step can do to the two tables: nothing, or store a capture that is not there. -/
inductive CaptureStep (P : Platform) (used : Set (Uuid × String)) (dbs dbs' : Databases) : Prop where
  | same (tables : ∀ shardId,
      (dbs'.account shardId).snapshots = (dbs.account shardId).snapshots ∧
        (dbs'.account shardId).positions = (dbs.account shardId).positions)
  | made (shardId : String) (capture : PortfolioSnapshotCapture) (event : OutboxEventRecord)
      (absent : (dbs.account shardId).snapshots.find capture.snapshot.snapshotId = none)
      (made : WellMade P used capture)
      (shards : dbs'.account = Function.update dbs.account shardId
        (stored (dbs.account shardId) capture event))

/-- The action asks `uuid5` about these names only. -/
def Within (P : Platform) (used : Set (Uuid × String)) : Action → Prop
  | .capture call => ∀ user, LoginSession call.session user → call.names P user ⊆ used
  | _ => True

def okWithin (P : Platform) (used : Set (Uuid × String)) (dbs : Databases) (a : Action) : Prop :=
  ok dbs a ∧ Within P used a

theorem made_wellMade {call : CaptureCall} {holdings : List KisDomesticStockHolding}
    (fetched : call.holdings = .ok holdings) (within : call.names P user ⊆ used) :
    WellMade P used (call.made P user holdings) := by
  refine ⟨P.positionModels_sorted _ _ _, fun position member => P.positionModels_snapshotId member, ?_⟩
  intro position member
  have mine : position.snapshotId = (call.made P user holdings).snapshot.snapshotId :=
    P.positionModels_snapshotId member
  have id := P.positionModels_positionId member
  refine ⟨by rw [mine]; exact id, within (.inr ?_)⟩
  have code := (P.positionModels_codes _ _ _).mp (List.mem_map.mpr ⟨position, member, rfl⟩)
  obtain ⟨holding, here, same⟩ := List.mem_map.mp code
  exact ⟨holdings, holding, fetched, here, by rw [mine, same]; rfl⟩

/-- A read changes nothing. -/
theorem get_unchanged (session : SessionData) (snapshotId : Uuid) (dbs : Databases) :
    dbs.commit (getPortfolioSnapshot session snapshotId dbs) = dbs := by
  unfold getPortfolioSnapshot
  cases accountLocation session with
  | error failure => rfl
  | ok location =>
      simp only [bind, Except.bind]
      rcases dbs.accountSession_cases location.2 (fun shard =>
        .ok (shard.findCapture snapshotId, shard)) with
        ⟨failure, raised⟩ | ⟨shardId, value, after, -, -, ran, answered⟩
      · rw [raised]
        rfl
      · obtain ⟨rfl, rfl⟩ := Prod.mk.inj (Except.ok.inj ran)
        rw [answered]
        simp only [Function.update_eq_self]
        split
        · rfl
        · split <;> rfl

theorem step_cases (a : Action) (allowed : okWithin P used dbs a) :
    CaptureStep P used dbs (step P dbs a) := by
  cases a with
  | capture call =>
      obtain ⟨⟨user, login⟩, within⟩ := allowed
      rcases run_cases (P := P) login dbs with ⟨failure, raised⟩ |
        ⟨-, -, ⟨capture, -, answered⟩ | ⟨holdings, event, fetched, absent, answered⟩⟩
      · exact .same (by simp [step, raised, Databases.commit])
      · exact .same (by simp [step, answered, Databases.commit])
      · refine .made (shardIdFor user) (call.made P user holdings) event absent
          (made_wellMade fetched (within user login)) ?_
        simp only [step, answered, Databases.commit]
  | get session snapshotId => exact .same (by simp [step, get_unchanged])
  | elsewhere after => exact .same allowed.1

/-- The positions of every shard. -/
def Inv (P : Platform) (used : Set (Uuid × String)) (dbs : Databases) : Prop :=
  ∀ shardId, PositionsInv P used (dbs.account shardId)

theorem PositionsInv.of_same {shard shard' : AccountShard} (inv : PositionsInv P used shard)
    (snapshots : shard'.snapshots = shard.snapshots) (positions : shard'.positions = shard.positions) :
    PositionsInv P used shard' := by
  refine ⟨?_, ?_, ?_⟩
  · rw [positions]
    exact inv.keyed
  · rw [positions, snapshots]
    exact inv.parents
  · rw [positions]
    exact inv.named

theorem Inv.step (apart : Apart P used) (inv : Inv P used dbs)
    (stepped : CaptureStep P used dbs dbs') : Inv P used dbs' := by
  intro shardId
  cases stepped with
  | same tables => exact (inv shardId).of_same (tables shardId).1 (tables shardId).2
  | made home capture event absent made shards =>
      rw [shards]
      by_cases here : shardId = home
      · subst here
        rw [Function.update_self]
        exact (inv shardId).stored apart made absent event
      · rw [Function.update_of_ne here]
        exact inv shardId

theorem Held.step (apart : Apart P used) (inv : Inv P used dbs)
    (stepped : CaptureStep P used dbs dbs') {shardId : String}
    (held : Held (dbs.account shardId) capture) : Held (dbs'.account shardId) capture := by
  cases stepped with
  | same tables =>
      obtain ⟨snapshots, positions⟩ := tables shardId
      exact ⟨by rw [snapshots]; exact held.snapshot, by rw [positions]; exact held.positions⟩
  | made home other event absent made shards =>
      rw [shards]
      by_cases here : shardId = home
      · subst here
        rw [Function.update_self]
        exact held.stored apart (inv shardId) made absent event
      · rw [Function.update_of_ne here]
        exact held

theorem inv_empty : Inv P used .empty := by
  refine fun shardId => ⟨Table.keyed_empty _, ?_, ?_⟩
  · intro position member
    cases member
  · intro position member
    cases member

/-- What is held stays held. -/
theorem run_held (apart : Apart P used) {trace : List Action}
    (admissible : Admissible (CaptureReplay.step P) (okWithin P used) dbs trace) (inv : Inv P used dbs)
    {shardId : String} (held : Held (dbs.account shardId) capture) :
    Inv P used (exec (CaptureReplay.step P) dbs trace) ∧
      Held ((exec (CaptureReplay.step P) dbs trace).account shardId) capture := by
  have keep : ∀ dbs a, (Inv P used dbs ∧ Held (dbs.account shardId) capture) →
      okWithin P used dbs a →
        Inv P used (CaptureReplay.step P dbs a) ∧
          Held ((CaptureReplay.step P dbs a).account shardId) capture := by
    rintro dbs a ⟨inv, held⟩ allowed
    have stepped := step_cases a allowed
    exact ⟨inv.step apart stepped, held.step apart inv stepped⟩
  exact exec_invariant keep ⟨inv, held⟩ admissible

end Steps

/-! ## Every run -/

section Runs

variable {P : Platform} {trace : List Action} {user connectionId : Uuid} {key : String}
  {call : CaptureCall} {answer : PortfolioSnapshotCapture} {after : Databases}

/-- The databases after a run. -/
def reached (P : Platform) (trace : List Action) : Databases := exec (step P) .empty trace

theorem snapshotName_inj {user user' connectionId connectionId' : Uuid} {key key' : String}
    (same : snapshotName user connectionId key = snapshotName user' connectionId' key') :
    user = user' ∧ connectionId = connectionId' ∧ key = key' := by
  have cancel : ∀ {text rest rest' : String}, text ++ rest = text ++ rest' → rest = rest' := by
    intro text rest rest' equal
    have chars := congrArg String.toList equal
    simp only [String.toList_append, List.append_cancel_left_eq] at chars
    exact String.toList_inj.mp chars
  obtain ⟨users, rest⟩ := Uuid.str_append_inj (cancel same)
  obtain ⟨connections, rest⟩ := Uuid.str_append_inj (cancel rest)
  exact ⟨users, connections, cancel rest⟩

/-- The capture answered, and this is the id of its snapshot. -/
structure Answered (P : Platform) (dbs : Databases) (call : CaptureCall) (id : Uuid) : Prop where
  isFor : ∃ user, call.For user call.connection.connectionId (pyStrip call.idempotencyKey) ∧
    id = snapshotIdOf P user call.connection.connectionId (pyStrip call.idempotencyKey)
  answered : ∃ answer after, call.run P dbs = .ok (answer, after)

/-- A step stores a snapshot only by a capture that answers. -/
theorem snapshot_before {dbs : Databases} {a : Action} (allowed : ok dbs a) {shardId : String}
    {id : Uuid} {snapshot : PortfolioSnapshot}
    (found : ((step P dbs a).account shardId).snapshots.find id = some snapshot) :
    (dbs.account shardId).snapshots.find id = some snapshot ∨
      ∃ call, a = .capture call ∧ Answered P dbs call id := by
  cases a with
  | capture call =>
      obtain ⟨user, login⟩ := allowed
      rcases run_cases (P := P) login dbs with ⟨failure, raised⟩ |
        ⟨owned, -, ⟨capture, -, answered⟩ | ⟨holdings, event, -, -, answered⟩⟩
      · simp only [step, raised, Databases.commit] at found
        exact .inl found
      · simp only [step, answered, Databases.commit] at found
        exact .inl found
      · simp only [step, answered, Databases.commit] at found
        by_cases here : shardId = shardIdFor user
        · subst here
          simp only [Function.update_self, stored, Table.find_put] at found
          split at found
          · rename_i same
            exact .inr ⟨call, rfl, ⟨user, ⟨login, rfl, owned, rfl⟩, same⟩, _, _, answered⟩
          · exact .inl found
        · rw [Function.update_of_ne here] at found
          exact .inl found
  | get session snapshotId =>
      simp only [step, get_unchanged] at found
      exact .inl found
  | elsewhere after =>
      have same : (after.account shardId).snapshots = (dbs.account shardId).snapshots :=
        (allowed shardId).1
      simp only [step, same] at found
      exact .inl found

/-- A stored snapshot was made by an earlier capture that answered. -/
theorem stored_origin (admissible : Admissible (step P) ok .empty trace) :
    ∀ shardId id snapshot, ((reached P trace).account shardId).snapshots.find id = some snapshot →
      ∃ earlier call, earlier ++ [.capture call] <+: trace ∧
        Answered P (reached P earlier) call id := by
  refine trace_induction (motive := fun trace dbs => ∀ shardId id snapshot,
      (dbs.account shardId).snapshots.find id = some snapshot →
        ∃ earlier call, earlier ++ [.capture call] <+: trace ∧
          Answered P (reached P earlier) call id) ?_ ?_ admissible
  · intro shardId id snapshot found
    cases found
  · intro front a _ ih allowed shardId id snapshot found
    rcases snapshot_before allowed found with old | ⟨call, rfl, answered⟩
    · obtain ⟨earlier, call, isPrefix, answered⟩ := ih shardId id snapshot old
      exact ⟨earlier, call, isPrefix.trans (List.prefix_append _ _), answered⟩
    · exact ⟨front, call, List.prefix_refl _, answered⟩

/-- Every capture asks about names of the run. -/
theorem admissible_within (admissible : Admissible (step P) ok .empty trace) :
    Admissible (step P) (okWithin P (namesUsed P trace)) .empty trace := by
  refine admissible.and_forall (show ∀ a ∈ trace, Within P (namesUsed P trace) a from ?_)
  intro a member
  cases a with
  | capture call => exact fun user login name asked => ⟨call, user, member, login, asked⟩
  | get _ _ => trivial
  | elsewhere _ => trivial

/-- The first capture that answers makes its snapshot. -/
theorem first_makes {front back : List Action}
    (admissible : Admissible (step P) ok .empty (front ++ .capture call :: back))
    (apart : Apart P (namesUsed P (front ++ .capture call :: back)))
    (isFor : call.For user connectionId key)
    (first : ∀ earlier other, earlier ++ [.capture other] <+: front →
      other.For user connectionId key → ∃ failure, other.run P (reached P earlier) = .error failure)
    (answered : call.run P (reached P front) = .ok (answer, after)) :
    key ≠ "" ∧ ∃ holdings event, call.holdings = .ok holdings ∧ answer = call.made P user holdings ∧
      ((reached P front).account (shardIdFor user)).snapshots.find answer.snapshot.snapshotId =
        none ∧
      after.account = Function.update (reached P front).account (shardIdFor user)
        (stored ((reached P front).account (shardIdFor user)) answer event) := by
  obtain ⟨login, rfl, owned, rfl⟩ := isFor
  rcases run_cases (P := P) login (reached P front) with ⟨failure, raised⟩ |
    ⟨-, named, ⟨capture, found, same⟩ | ⟨holdings, event, fetched, absent, same⟩⟩
  · rw [raised] at answered
    cases answered
  · exfalso
    obtain ⟨snapshot, stored⟩ : ∃ snapshot, ((reached P front).account (shardIdFor user)).snapshots.find
        (snapshotIdOf P user call.connection.connectionId (pyStrip call.idempotencyKey)) =
          some snapshot := by
      refine Option.ne_none_iff_exists'.mp fun absent => ?_
      rw [findCapture_eq_none.mpr absent] at found
      cases found
    obtain ⟨frontOk, -⟩ := (admissible_append _ _ _ front _).mp admissible
    obtain ⟨earlier, other, isPrefix, ⟨user', isFor', id⟩, answer', after', answered'⟩ :=
      stored_origin frontOk _ _ snapshot stored
    have usedOther : (namespaceUrl, snapshotName user' other.connection.connectionId
        (pyStrip other.idempotencyKey)) ∈ namesUsed P (front ++ .capture call :: back) := by
      refine ⟨other, user', ?_, isFor'.login, .inl rfl⟩
      exact List.mem_append_left _ (isPrefix.subset (by simp))
    have usedCall : (namespaceUrl, snapshotName user call.connection.connectionId
        (pyStrip call.idempotencyKey)) ∈ namesUsed P (front ++ .capture call :: back) :=
      ⟨call, user, by simp, login, .inl rfl⟩
    have names := congrArg Prod.snd (apart usedCall usedOther id)
    obtain ⟨users, connections, keys⟩ := snapshotName_inj names
    obtain ⟨failure, raised⟩ := first earlier other isPrefix
      ⟨users ▸ isFor'.login, connections.symm, users ▸ isFor'.owned, keys.symm⟩
    rw [raised] at answered'
    cases answered'
  · rw [same] at answered
    obtain ⟨rfl, rfl⟩ := Prod.mk.inj (Except.ok.inj answered)
    exact ⟨named, holdings, event, fetched, rfl, absent, rfl⟩

/-- What the first answer says of the holdings. -/
structure FirstAnswer (answer : PortfolioSnapshotCapture) (holdings : List KisDomesticStockHolding) :
    Prop where
  increasing : answer.positions.Pairwise fun a b => a.stockCode < b.stockCode
  covering : ∀ code, code ∈ answer.positions.map (·.stockCode) ↔ code ∈ holdings.map (·.stockCode)
  counted : answer.snapshot.positionCount = answer.positions.length

/-- Every capture of the same user, connection and stripped key, whatever its holdings, and
every read of the snapshot by its user return the answer, request nothing of the account and
leave the databases, the events with them, as they are. -/
structure Replays (P : Platform) (user connectionId : Uuid) (key : String)
    (answer : PortfolioSnapshotCapture) (dbs : Databases) : Prop where
  captures : ∀ later : CaptureCall, later.For user connectionId key →
    later.requestsAccount P dbs = false ∧ later.run P dbs = .ok (answer, dbs)
  reads : ∀ session, LoginSession session user →
    getPortfolioSnapshot session answer.snapshot.snapshotId dbs = .ok (answer, dbs)

/-- The stock codes of the holdings, each once. -/
def distinctCodes (holdings : List KisDomesticStockHolding) : List String :=
  fromKeys (holdings.map (·.stockCode))

/-- Whatever follows the first capture, what is found under its id is its snapshot with the
first thousand of its positions. -/
theorem later_found {front back : List Action}
    (admissible : Admissible (step P) ok .empty (front ++ .capture call :: back))
    (apart : Apart P (namesUsed P (front ++ .capture call :: back)))
    (isFor : call.For user connectionId key)
    (first : ∀ earlier other, earlier ++ [.capture other] <+: front →
      other.For user connectionId key → ∃ failure, other.run P (reached P earlier) = .error failure)
    (answered : call.run P (reached P front) = .ok (answer, after)) :
    key ≠ "" ∧ ∃ holdings, call.holdings = .ok holdings ∧ answer = call.made P user holdings ∧
      ((reached P (front ++ .capture call :: back)).account (shardIdFor user)).findCapture
        (snapshotIdOf P user connectionId key) =
          some ⟨answer.snapshot, answer.positions.take 1000⟩ := by
  obtain ⟨named, holdings, event, fetched, made, absent, shards⟩ :=
    first_makes admissible apart isFor first answered
  obtain ⟨frontOk, callOk, backOk⟩ :=
    (admissible_append _ _ _ front _).mp (admissible_within admissible)
  have invFront : Inv P (namesUsed P (front ++ .capture call :: back)) (reached P front) :=
    exec_invariant (fun _ a inv allowed => inv.step apart (step_cases a allowed)) inv_empty frontOk
  have wellMade : WellMade P (namesUsed P (front ++ .capture call :: back)) answer := by
    rw [made]
    exact made_wellMade fetched (callOk.2 user isFor.login)
  have next : step P (reached P front) (.capture call) = after := by
    simp only [step, answered, Databases.commit]
  have heldNext : Held (after.account (shardIdFor user)) answer := by
    rw [shards, Function.update_self]
    exact held_stored apart (invFront _) wellMade absent event
  have invNext := invFront.step apart (step_cases (.capture call) callOk)
  change Admissible (step P) _ (step P (reached P front) (.capture call)) back at backOk
  rw [next] at backOk invNext
  obtain ⟨inv, held⟩ := run_held apart backOk invNext heldNext
  have later : reached P (front ++ .capture call :: back) = exec (step P) after back := by
    rw [reached, exec_append, exec_cons]
    exact congrArg (fun dbs => exec (step P) dbs back) next
  have id : answer.snapshot.snapshotId = snapshotIdOf P user connectionId key := by
    rw [made, ← isFor.connection, ← isFor.key]
    rfl
  refine ⟨named, holdings, fetched, made, ?_⟩
  rw [later, ← id]
  exact held.read (inv _).keyed wellMade.sorted

/-- **When a snapshot is replayed as it was captured.** In every run the first capture of a
user, connection and key that answers has strictly increasing codes, exactly those of its
holdings, and the right count. What follows it returns exactly that answer if and only if the
holdings have at most a thousand distinct stock codes. -/
theorem capture_replay_iff {front back : List Action}
    (admissible : Admissible (step P) ok .empty (front ++ .capture call :: back))
    (apart : Apart P (namesUsed P (front ++ .capture call :: back)))
    (isFor : call.For user connectionId key)
    (first : ∀ earlier other, earlier ++ [.capture other] <+: front →
      other.For user connectionId key → ∃ failure, other.run P (reached P earlier) = .error failure)
    (answered : call.run P (reached P front) = .ok (answer, after)) :
    ∃ holdings, call.holdings = .ok holdings ∧ FirstAnswer answer holdings ∧
      (Replays P user connectionId key answer (reached P (front ++ .capture call :: back)) ↔
        (distinctCodes holdings).length ≤ 1000) := by
  obtain ⟨named, holdings, fetched, made, found⟩ :=
    later_found admissible apart isFor first answered
  have count : answer.positions.length = (distinctCodes holdings).length := by
    rw [made]
    exact P.positionModels_length _ _ _
  refine ⟨holdings, fetched, ⟨?_, ?_, by rw [made]; rfl⟩, ?_⟩
  · rw [made]
    exact P.positionModels_sorted _ _ _
  · intro code
    rw [made]
    exact P.positionModels_codes _ _ _
  constructor
  · intro replays
    have again := (replays.captures call isFor).2
    rw [(run_found isFor named found).1] at again
    have short : (answer.positions.take 1000).length = answer.positions.length :=
      congrArg (·.1.positions.length) (Except.ok.inj again)
    rw [List.length_take] at short
    omega
  · intro few
    have whole : answer.positions.take 1000 = answer.positions :=
      List.take_of_length_le (by omega)
    rw [whole] at found
    refine ⟨fun later laterFor => ?_, fun session login => ?_⟩
    · obtain ⟨answers, unrequested⟩ := run_found laterFor named found
      exact ⟨unrequested, answers⟩
    · have id : answer.snapshot.snapshotId = snapshotIdOf P user connectionId key := by
        rw [made, ← isFor.connection, ← isFor.key]
        rfl
      refine get_found login (by rw [made]; rfl) ?_
      rw [id]
      exact found

end Runs

/-! ## A thousand positions, and one more -/

namespace ManyHoldings

def user : Uuid := 7

def date : Datetime := .aware 0

/-- A name is told by its length, outside the namespace of the snapshots. -/
def platform : Platform :=
  .reference (fun space name => if space = namespaceUrl then 0 else Fin.ofNat _ name.toList.length)
    date "1970-01-01T00:00:00Z"

def code (n : Nat) : String := String.ofList (List.replicate (n + 1) 'a')

def holding (n : Nat) : KisDomesticStockHolding := ⟨code n, "Stock", "10", "8", "70000"⟩

def session : SessionData := ⟨"session-id", user.str, [("shard_id", .str (shardIdFor user))]⟩

def connection : BrokerageAccountConnection where
  connectionId := 1
  userId := user
  provider := "kis"
  environment := "demo"
  displayName := "KIS default account"
  accountMask := "****5678"
  credentialRef := "kis:default"
  status := "active"
  createdAt := 0
  updatedAt := 0

/-- A capture of so many holdings. -/
def call (count : Nat) : CaptureCall where
  session := session
  connection := connection
  holdings := .ok ((List.range count).map holding)
  idempotencyKey := "daily-close"
  eventId := "3d1f5a0e-52fb-4a53-8b1c-5b9a41f7e001"
  capturedAt := 0
  now := 1

theorem isFor (count : Nat) : (call count).For user 1 (pyStrip "daily-close") :=
  ⟨⟨rfl, rfl⟩, rfl, rfl, rfl⟩

theorem code_length (n : Nat) : (code n).toList.length = n + 1 := by
  rw [code, String.toList_ofList, List.length_replicate]

theorem code_injective : Function.Injective code := by
  intro n m same
  have lengths := congrArg (fun text => text.toList.length) same
  simpa only [code_length, Nat.add_right_cancel_iff] using lengths

/-- The names of captures of at most 1001 holdings are told apart. -/
theorem apart {trace : List Action}
    (few : ∀ a ∈ trace, ∃ count, count ≤ 1001 ∧ a = .capture (call count)) :
    Apart platform (namesUsed platform trace) := by
  have known : ∀ name ∈ namesUsed platform trace,
      name = (namespaceUrl, snapshotName user 1 (pyStrip "daily-close")) ∨
        ∃ n < 1001, name = ((0 : Uuid), code n) := by
    rintro name ⟨called, user', member, login, asked⟩
    obtain ⟨count, bound, same⟩ := few _ member
    cases same
    obtain rfl : user = user' := Uuid.str_injective login.userId
    rcases asked with rfl | ⟨holdings, kept, fetched, here, rfl⟩
    · exact .inl rfl
    · cases fetched
      obtain ⟨n, range, rfl⟩ := List.mem_map.mp here
      exact .inr ⟨n, by have := List.mem_range.mp range; omega, rfl⟩
  have small : ∀ n < 1001, (platform.uuid5 0 (code n)).val = n + 1 := by
    intro n bound
    have value : platform.uuid5 0 (code n) = Fin.ofNat _ (code n).toList.length := rfl
    rw [value, code_length, Fin.val_ofNat, Nat.mod_eq_of_lt]
    exact lt_trans (by omega : n + 1 < 1002) (by norm_num)
  have snapshot : platform.uuid5 namespaceUrl (snapshotName user 1 (pyStrip "daily-close")) = 0 := rfl
  rintro name used name' used' same
  rcases known name used with rfl | ⟨n, bound, rfl⟩
  · rcases known name' used' with rfl | ⟨m, bound', rfl⟩
    · rfl
    · have values := congrArg Fin.val same
      simp only [snapshot, small m bound'] at values
      cases values
  · rcases known name' used' with rfl | ⟨m, bound', rfl⟩
    · have values := congrArg Fin.val same
      simp only [snapshot, small n bound] at values
      cases values
    · have values := congrArg Fin.val same
      simp only [small n bound, small m bound', Nat.add_right_cancel_iff] at values
      rw [values]

theorem distinct_codes (count : Nat) :
    (distinctCodes ((List.range count).map holding)).length = count := by
  have codes : ((List.range count).map holding).map (·.stockCode) = (List.range count).map code := by
    rw [List.map_map]
    rfl
  rw [distinctCodes, codes, fromKeys_of_nodup (List.nodup_range.map code_injective),
    List.length_map, List.length_range]

theorem positions_length (count : Nat) :
    ((call count).made platform user ((List.range count).map holding)).positions.length = count :=
  (platform.positionModels_length _ _ _).trans (distinct_codes count)

theorem answered (count : Nat) : ∃ after, (call count).run platform .empty =
    .ok ((call count).made platform user ((List.range count).map holding), after) := by
  have named : pyStrip "daily-close" ≠ "" := by decide
  have absent : (Databases.empty.account (shardIdFor user)).snapshots.find
      (snapshotIdOf platform user 1 (pyStrip "daily-close")) = none := rfl
  obtain ⟨event, ran⟩ := (run_absent (isFor count) named absent).2
  exact ⟨_, ran⟩

/-- 1001 holdings are captured with 1001 positions, and the same call answers 1000 of them
from then on. -/
theorem one_more_is_not_replayed :
    ∃ answer after, Admissible (step platform) ok .empty ([] ++ .capture (call 1001) :: []) ∧
      Apart platform (namesUsed platform ([] ++ .capture (call 1001) :: [])) ∧
      (call 1001).For user 1 (pyStrip "daily-close") ∧
      (call 1001).run platform (reached platform []) = .ok (answer, after) ∧
      answer.positions.length = 1001 ∧
      (call 1001).run platform (reached platform ([] ++ .capture (call 1001) :: [])) =
        .ok (⟨answer.snapshot, answer.positions.take 1000⟩,
          reached platform ([] ++ .capture (call 1001) :: [])) ∧
      ¬ Replays platform user 1 (pyStrip "daily-close") answer
        (reached platform ([] ++ .capture (call 1001) :: [])) := by
  obtain ⟨after, ran⟩ := answered 1001
  have admissible : Admissible (step platform) ok .empty ([] ++ .capture (call 1001) :: []) :=
    ⟨⟨user, (isFor 1001).login⟩, trivial⟩
  have names : Apart platform (namesUsed platform ([] ++ .capture (call 1001) :: [])) := by
    refine apart fun a member => ⟨1001, le_rfl, ?_⟩
    simpa using member
  have first : ∀ earlier other, earlier ++ [.capture other] <+: ([] : List Action) →
      other.For user 1 (pyStrip "daily-close") →
        ∃ failure, other.run platform (reached platform earlier) = .error failure := by
    intro earlier other isPrefix
    simp at isPrefix
  obtain ⟨named, holdings, fetched, -, found⟩ := later_found admissible names (isFor 1001) first ran
  have again := (run_found (isFor 1001) named found).1
  have count := positions_length 1001
  refine ⟨_, after, admissible, names, isFor 1001, ran, count, again, fun replays => ?_⟩
  have same := ((replays.captures _ (isFor 1001)).2.symm.trans again)
  have short := congrArg (·.1.positions.length) (Except.ok.inj same)
  simp only [List.length_take, count] at short
  cases short

theorem three_are_replayed :
    ∃ answer after, (call 3).run platform (reached platform []) = .ok (answer, after) ∧
      ∃ holdings, (call 3).holdings = .ok holdings ∧ FirstAnswer answer holdings ∧
        (Replays platform user 1 (pyStrip "daily-close") answer
          (reached platform ([] ++ .capture (call 3) :: [.capture (call 5)])) ↔
            (distinctCodes holdings).length ≤ 1000) := by
  obtain ⟨after, ran⟩ := answered 3
  have admissible :
      Admissible (step platform) ok .empty ([] ++ .capture (call 3) :: [.capture (call 5)]) :=
    ⟨⟨user, (isFor 3).login⟩, ⟨user, (isFor 5).login⟩, trivial⟩
  refine ⟨_, after, ran, capture_replay_iff admissible (apart ?_) (isFor 3) ?_ ran⟩
  · intro a member
    rcases List.mem_pair.mp member with rfl | rfl
    · exact ⟨3, by omega, rfl⟩
    · exact ⟨5, by omega, rfl⟩
  · intro earlier other isPrefix
    simp at isPrefix

end ManyHoldings

end KisAutoTrading.Handlers.CaptureReplay
