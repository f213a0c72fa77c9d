/-
# Modules.Portfolio — snapshots of the linked account's holdings

`capture_portfolio_snapshot`: a snapshot is named after the user, the connection and
the idempotency key, so a repeated capture finds it. A first transaction looks for
it; only if it is missing the holdings are fetched, and a second transaction looks
again before it writes. The holdings, or the exception they raise, come from outside.
-/
import KisAutoTrading.Infrastructure.Database
import KisAutoTrading.Theory.SortedBy
import Mathlib.Data.String.Basic

namespace KisAutoTrading

open Theory

set_option autoImplicit false

structure KisDomesticStockHolding where
  stockCode : String
  productName : String
  holdingQuantity : String
  orderableQuantity : String
  currentPrice : String

structure PortfolioSnapshotCapture where
  snapshot : PortfolioSnapshot
  positions : List PortfolioPositionSnapshot

/-- `_account_location`: the user is read before the shard. -/
def accountLocation (session : SessionData) : Except Failure (Uuid × ShardTarget) :=
  match Uuid.ofStr session.userId with
  | none => .error (.http 500 "Session user is invalid")
  | some userId =>
      match session.data.get "shard_id" with
      | some (.str shardId) =>
          if shardId = "" then .error (.http 500 "Session shard is missing")
          else .ok (userId, ⟨"account", some shardId⟩)
      | _ => .error (.http 500 "Session shard is missing")

/-- `_snapshot_location`. -/
def snapshotLocation (session : SessionData) (connection : BrokerageAccountConnection) :
    Except Failure (Uuid × ShardTarget) := do
  let (userId, target) ← accountLocation session
  if connection.userId ≠ userId then
    .error (.http 403 "Brokerage account is not owned by this user")
  else .ok (userId, target)

/-- `_snapshot_location` is `_profile_location` with a check of the connection. -/
theorem snapshotLocation_ok {session : SessionData} {connection : BrokerageAccountConnection}
    {location : Uuid × ShardTarget} (located : snapshotLocation session connection = .ok location) :
    sessionLocation session = .ok location := by
  unfold snapshotLocation accountLocation at located
  cases user : Uuid.ofStr session.userId with
  | none =>
      rw [user] at located
      cases located
  | some userId =>
      rw [user] at located
      simp only at located
      split at located
      · rename_i shardId stored
        unfold sessionLocation
        rw [stored, user]
        simp only
        split at located
        · cases located
        · rename_i named
          rw [if_neg named]
          simp only [bind, Except.bind] at located
          split at located
          · cases located
          · exact located
      · cases located

def snapshotName (userId connectionId : Uuid) (normalizedKey : String) : String :=
  "autoforge:" ++ (userId.str ++ (":" ++ (connectionId.str ++
    (":portfolio-snapshot:" ++ normalizedKey))))

/-- `_snapshot_id`. -/
def Platform.snapshotId (P : Platform) (userId connectionId : Uuid) (idempotencyKey : String) :
    Except Failure Uuid :=
  let normalizedKey := pyStrip idempotencyKey
  if normalizedKey = "" then .error (.http 400 "Idempotency-Key must not be blank")
  else .ok (P.uuid5 namespaceUrl (snapshotName userId connectionId normalizedKey))

/-- The values of the dictionary by stock code: of several holdings with one code the
last one stays. -/
def holdingsByStockCode (holdings : List KisDomesticStockHolding) : List KisDomesticStockHolding :=
  holdings.foldl
    (fun kept holding => kept.filter (·.stockCode ≠ holding.stockCode) ++ [holding]) []

/-- `_position_models`. -/
def Platform.positionModels (P : Platform) (snapshotId userId : Uuid)
    (holdings : List KisDomesticStockHolding) : List PortfolioPositionSnapshot :=
  ((holdingsByStockCode holdings).insertionSort fun a b => a.stockCode ≤ b.stockCode).map
    fun holding => {
      positionId := P.uuid5 snapshotId holding.stockCode
      snapshotId
      userId
      stockCode := holding.stockCode
      productName := holding.productName
      holdingQuantity := holding.holdingQuantity
      orderableQuantity := holding.orderableQuantity
      currentPrice := holding.currentPrice }

/-- The dictionary has one holding for each code. -/
theorem holdingsByStockCode_nodup (holdings : List KisDomesticStockHolding) :
    ((holdingsByStockCode holdings).map (·.stockCode)).Nodup := by
  have keep : ∀ kept : List KisDomesticStockHolding, (kept.map (·.stockCode)).Nodup →
      ((holdings.foldl (fun kept holding =>
        kept.filter (·.stockCode ≠ holding.stockCode) ++ [holding]) kept).map
          (·.stockCode)).Nodup := by
    induction holdings with
    | nil => exact fun _ distinct => distinct
    | cons holding rest ih =>
        intro kept distinct
        refine ih _ ?_
        rw [List.map_append, List.nodup_append]
        refine ⟨distinct.sublist (List.filter_sublist.map _), List.nodup_singleton _, ?_⟩
        intro code member other single
        obtain ⟨old, differs, rfl⟩ := List.mem_map.mp member
        rw [List.map_singleton, List.mem_singleton] at single
        rw [single]
        simpa using (List.mem_filter.mp differs).2
  exact keep [] List.nodup_nil

theorem mem_holdingsByStockCode {holding : KisDomesticStockHolding}
    {holdings : List KisDomesticStockHolding} (member : holding ∈ holdingsByStockCode holdings) :
    holding ∈ holdings := by
  have keep : ∀ rest kept : List KisDomesticStockHolding, holding ∈ (rest.foldl
      (fun kept holding => kept.filter (·.stockCode ≠ holding.stockCode) ++ [holding]) kept) →
      holding ∈ kept ∨ holding ∈ rest := by
    intro rest
    induction rest with
    | nil => exact fun _ member => .inl member
    | cons first rest ih =>
        intro kept member
        rcases ih _ member with member | member
        · rcases List.mem_append.mp member with old | new
          · exact .inl (List.mem_filter.mp old).1
          · exact .inr (by simp [List.mem_singleton.mp new])
        · exact .inr (by simp [member])
  rcases keep holdings [] member with none | member
  · cases none
  · exact member

/-- Where `uuid5` tells the stock codes apart, every position has an id of its own. -/
theorem Platform.positionModels_nodup {P : Platform} {snapshotId : Uuid} (userId : Uuid)
    {holdings : List KisDomesticStockHolding}
    (apart : Set.InjOn (P.uuid5 snapshotId) {code | ∃ holding ∈ holdings, holding.stockCode = code}) :
    ((P.positionModels snapshotId userId holdings).map (·.positionId)).Nodup := by
  have sorted := List.perm_insertionSort (fun a b : KisDomesticStockHolding =>
    a.stockCode ≤ b.stockCode) (holdingsByStockCode holdings)
  have codes := (sorted.map (·.stockCode)).nodup_iff.mpr (holdingsByStockCode_nodup holdings)
  have ids : (P.positionModels snapshotId userId holdings).map (·.positionId) =
      (((holdingsByStockCode holdings).insertionSort fun a b =>
        a.stockCode ≤ b.stockCode).map (·.stockCode)).map (P.uuid5 snapshotId) := by
    simp only [Platform.positionModels, List.map_map]
    rfl
  rw [ids]
  refine codes.map_on ?_
  intro code member code' member' same
  have known : ∀ c ∈ ((holdingsByStockCode holdings).insertionSort fun a b =>
      a.stockCode ≤ b.stockCode).map (·.stockCode), ∃ holding ∈ holdings, holding.stockCode = c := by
    intro c here
    obtain ⟨holding, sortedMember, rfl⟩ := List.mem_map.mp here
    exact ⟨holding, mem_holdingsByStockCode (sorted.mem_iff.mp sortedMember), rfl⟩
  exact apart (known code member) (known code' member') same

theorem Platform.positionModels_snapshotId (P : Platform) {snapshotId userId : Uuid}
    {holdings : List KisDomesticStockHolding} {position : PortfolioPositionSnapshot}
    (member : position ∈ P.positionModels snapshotId userId holdings) :
    position.snapshotId = snapshotId := by
  obtain ⟨holding, -, rfl⟩ := List.mem_map.mp member
  rfl

theorem Platform.positionModels_userId (P : Platform) {snapshotId userId : Uuid}
    {holdings : List KisDomesticStockHolding} {position : PortfolioPositionSnapshot}
    (member : position ∈ P.positionModels snapshotId userId holdings) :
    position.userId = userId := by
  obtain ⟨holding, -, rfl⟩ := List.mem_map.mp member
  rfl

theorem Platform.positionModels_positionId (P : Platform) {snapshotId userId : Uuid}
    {holdings : List KisDomesticStockHolding} {position : PortfolioPositionSnapshot}
    (member : position ∈ P.positionModels snapshotId userId holdings) :
    position.positionId = P.uuid5 snapshotId position.stockCode := by
  obtain ⟨holding, -, rfl⟩ := List.mem_map.mp member
  rfl

/-- The codes of the dictionary are those of the holdings. -/
theorem holdingsByStockCode_codes {code : String} (holdings : List KisDomesticStockHolding) :
    code ∈ (holdingsByStockCode holdings).map (·.stockCode) ↔
      code ∈ holdings.map (·.stockCode) := by
  have keep : ∀ kept : List KisDomesticStockHolding, code ∈ (holdings.foldl (fun kept holding =>
      kept.filter (·.stockCode ≠ holding.stockCode) ++ [holding]) kept).map (·.stockCode) ↔
      code ∈ kept.map (·.stockCode) ∨ code ∈ holdings.map (·.stockCode) := by
    induction holdings with
    | nil => simp
    | cons holding rest ih =>
        intro kept
        rw [List.foldl_cons, ih, List.map_append, List.mem_append, List.map_singleton,
          List.mem_singleton, List.map_cons, List.mem_cons]
        have others : code ∈ (kept.filter (·.stockCode ≠ holding.stockCode)).map (·.stockCode) ↔
            code ∈ kept.map (·.stockCode) ∧ code ≠ holding.stockCode := by
          simp only [List.mem_map, List.mem_filter, decide_eq_true_eq]
          constructor
          · rintro ⟨old, ⟨member, differs⟩, rfl⟩
            exact ⟨⟨old, member, rfl⟩, differs⟩
          · rintro ⟨⟨old, member, rfl⟩, differs⟩
            exact ⟨old, ⟨member, differs⟩, rfl⟩
        rw [others]
        by_cases same : code = holding.stockCode <;> simp [same]
  simpa [holdingsByStockCode] using keep []

/-- The positions are sorted strictly by their codes. -/
theorem Platform.positionModels_sorted (P : Platform) (snapshotId userId : Uuid)
    (holdings : List KisDomesticStockHolding) :
    (P.positionModels snapshotId userId holdings).Pairwise fun a b => a.stockCode < b.stockCode := by
  have sorted := SortedBy.pairwise_lt (fun holding : KisDomesticStockHolding => holding.stockCode)
    (holdingsByStockCode_nodup holdings)
  exact List.pairwise_map.mpr sorted

/-- The positions cover exactly the codes of the holdings. -/
theorem Platform.positionModels_codes (P : Platform) (snapshotId userId : Uuid)
    (holdings : List KisDomesticStockHolding) {code : String} :
    code ∈ (P.positionModels snapshotId userId holdings).map (·.stockCode) ↔
      code ∈ holdings.map (·.stockCode) := by
  have sorted := List.perm_insertionSort (fun a b : KisDomesticStockHolding =>
    a.stockCode ≤ b.stockCode) (holdingsByStockCode holdings)
  rw [Platform.positionModels, List.map_map]
  exact ((sorted.map (·.stockCode)).mem_iff).trans (holdingsByStockCode_codes holdings)

/-- There are as many positions as distinct codes. -/
theorem Platform.positionModels_length (P : Platform) (snapshotId userId : Uuid)
    (holdings : List KisDomesticStockHolding) :
    (P.positionModels snapshotId userId holdings).length =
      (fromKeys (holdings.map (·.stockCode))).length := by
  have distinct : ((P.positionModels snapshotId userId holdings).map (·.stockCode)).Nodup :=
    SortedBy.nodup_of_pairwise_lt _ (P.positionModels_sorted snapshotId userId holdings)
  have same : ((P.positionModels snapshotId userId holdings).map (·.stockCode)).Perm
      (fromKeys (holdings.map (·.stockCode))) := by
    refine (List.perm_ext_iff_of_nodup distinct (fromKeys_nodup _)).mpr fun code => ?_
    rw [mem_fromKeys]
    exact P.positionModels_codes snapshotId userId holdings
  simpa using same.length_eq

/-- `list_by_snapshot_id`. -/
def AccountShard.listBySnapshotId (shard : AccountShard) (snapshotId : Uuid) :
    List PortfolioPositionSnapshot :=
  ((shard.positions.rows.filter fun position => position.snapshotId = snapshotId).insertionSort
    fun a b => a.stockCode ≤ b.stockCode).take 1000

/-- `_find_capture`. -/
def AccountShard.findCapture (shard : AccountShard) (snapshotId : Uuid) :
    Option PortfolioSnapshotCapture :=
  (shard.snapshots.find snapshotId).map fun snapshot =>
    ⟨snapshot, shard.listBySnapshotId snapshotId⟩

/-- The event `capture_portfolio_snapshot` enqueues. -/
def snapshotCaptured (snapshot : PortfolioSnapshot) (target : ShardTarget) (eventId : String)
    (now : Instant) : OutboxEventRecord :=
  outboxRecord {
    eventType := "portfolio.snapshot.captured"
    aggregateId := snapshot.snapshotId.str
    routingKey := "portfolio.snapshot.captured"
    payload := [
      ("snapshot_id", .str snapshot.snapshotId.str),
      ("connection_id", .str snapshot.connectionId.str),
      ("user_id", .str snapshot.userId.str),
      ("shard_id", .str (target.shardId.getD "")),
      ("position_count", .int snapshot.positionCount)]
    eventId
    occurredAt := now }

/-- The second transaction. -/
def AccountShard.storeCapture (shard : AccountShard) (snapshot : PortfolioSnapshot)
    (positions : List PortfolioPositionSnapshot) (target : ShardTarget) (eventId : String)
    (now : Instant) : PortfolioSnapshotCapture × AccountShard :=
  match shard.findCapture snapshot.snapshotId with
  | some existing => (existing, shard)
  | none =>
      (⟨snapshot, positions⟩, { shard with
        snapshots := shard.snapshots.put snapshot.snapshotId snapshot
        positions := positions.foldl
          (fun table position => table.put position.positionId position) shard.positions
        outbox := shard.outbox ++ [snapshotCaptured snapshot target eventId now] })

/-- `capture_portfolio_snapshot`; `capturedAt` is the clock once the holdings are
there, `now` when the event is built. -/
def Platform.capturePortfolioSnapshot (P : Platform) (session : SessionData)
    (connection : BrokerageAccountConnection)
    (holdings : Except Failure (List KisDomesticStockHolding)) (idempotencyKey eventId : String)
    (capturedAt now : Instant) (dbs : Databases) :
    Except Failure (PortfolioSnapshotCapture × Databases) := do
  let (userId, target) ← snapshotLocation session connection
  let snapshotId ← P.snapshotId userId connection.connectionId idempotencyKey
  let (existing, dbs) ← dbs.accountSession target fun shard =>
    .ok (shard.findCapture snapshotId, shard)
  match existing with
  | some capture => return (capture, dbs)
  | none =>
      let holdings ← holdings
      let positions := P.positionModels snapshotId userId holdings
      let snapshot : PortfolioSnapshot :=
        ⟨snapshotId, connection.connectionId, userId, capturedAt, positions.length⟩
      dbs.accountSession target fun shard =>
        .ok (shard.storeCapture snapshot positions target eventId now)

/-- `get_portfolio_snapshot`. -/
def getPortfolioSnapshot (session : SessionData) (snapshotId : Uuid) (dbs : Databases) :
    Except Failure (PortfolioSnapshotCapture × Databases) := do
  let (userId, target) ← accountLocation session
  let (capture, dbs) ← dbs.accountSession target fun shard =>
    .ok (shard.findCapture snapshotId, shard)
  match capture with
  | none => .error (.http 404 "Portfolio snapshot was not found")
  | some capture =>
      if capture.snapshot.userId ≠ userId then
        .error (.http 404 "Portfolio snapshot was not found")
      else return (capture, dbs)

end KisAutoTrading
