/-
# Replay.UserIsolation — one user's idempotency key and another's request

Two users send a request with the same `Idempotency-Key`. The key is hashed into the
Redis key without the user, and the fingerprint is taken of the method, the path and
the body only, so the second request finds the record of the first: it is answered
with it, or refused, and its handler does not run.

`Isolated` compares two runs of V's request: after the first steps of U's, and
without them. The handlers do their part (`handler_keeps`: U's handler leaves V's rows
alone; `handler_alike`: V's handler sees V's rows only), so everything depends on what
U's request has left under the key. `isolated_iff` says when that is nothing:
`Occupies` fails. The portfolio snapshots, which are named after the user, the
connection and the key, have no such case.
-/
import KisAutoTrading.Routers.Replayed

namespace KisAutoTrading.Replay.UserIsolation

open Theory

set_option autoImplicit false

/-! ## A user's own rows -/

/-- Two states of a shard agree on what is stored for a user: the rows under his
keys, and the tables the four routes have nothing to do with. -/
structure OwnRows (P : Platform) (user : Uuid) (a b : AccountShard) : Prop where
  profile : a.profiles.find user = b.profiles.find user
  connection : a.connections.find (P.connectionId user) = b.connections.find (P.connectionId user)
  subscription : ∀ code, a.subscriptions.find (P.subscriptionId user code) =
    b.subscriptions.find (P.subscriptionId user code)
  snapshots : a.snapshots = b.snapshots
  positions : a.positions = b.positions
  notifications : a.notifications = b.notifications

/-- The user's rows agree on every shard. -/
def SameOwn (P : Platform) (user : Uuid) (dbs dbs' : Databases) : Prop :=
  ∀ shardId, OwnRows P user (dbs.account shardId) (dbs'.account shardId)

variable {P : Platform} {user : Uuid}

theorem OwnRows.refl (shard : AccountShard) : OwnRows P user shard shard :=
  ⟨rfl, rfl, fun _ => rfl, rfl, rfl, rfl⟩

theorem SameOwn.refl (dbs : Databases) : SameOwn P user dbs dbs := fun _ => .refl _

/-- Two results of a call: the same failure, or the same value and related states. -/
inductive Alike {α S : Type} (related : S → S → Prop) :
    Except Failure (α × S) → Except Failure (α × S) → Prop
  | error (failure : Failure) : Alike related (.error failure) (.error failure)
  | ok (value : α) {s s' : S} (states : related s s') : Alike related (.ok (value, s)) (.ok (value, s'))

section Transactions

variable {α : Type} {dbs dbs' : Databases}

/-- One shard of each is replaced by related ones. -/
theorem SameOwn.update (same : SameOwn P user dbs dbs') (shardId : String) {a b : AccountShard}
    (shards : OwnRows P user a b) :
    SameOwn P user { dbs with account := Function.update dbs.account shardId a }
      { dbs' with account := Function.update dbs'.account shardId b } := by
  intro other
  by_cases here : other = shardId
  · subst here
    simpa using shards
  · simpa [here] using same other

/-- A transaction whose body keeps the user's rows keeps them. -/
theorem accountSession_keeps {target : ShardTarget}
    {body : AccountShard → Except Failure (α × AccountShard)} {value : α}
    (keeps : ∀ shardId value after, body (dbs.account shardId) = .ok (value, after) →
      OwnRows P user (dbs.account shardId) after)
    (committed : dbs.accountSession target body = .ok (value, dbs')) :
    SameOwn P user dbs dbs' := by
  rcases dbs.accountSession_cases target body with
    ⟨failure, raised⟩ | ⟨shardId, _, after, -, -, ran, new⟩
  · rw [raised] at committed
    cases committed
  · rw [new] at committed
    cases committed
    have updated := (SameOwn.refl dbs).update shardId (keeps shardId value after ran)
    simpa using updated

/-- A transaction that sees the user's rows only does the same from states that
agree on them. -/
theorem accountSession_alike (target : ShardTarget)
    {body : AccountShard → Except Failure (α × AccountShard)} (same : SameOwn P user dbs dbs')
    (alike : ∀ a b, OwnRows P user a b → Alike (OwnRows P user) (body a) (body b)) :
    Alike (SameOwn P user) (dbs.accountSession target body) (dbs'.accountSession target body) := by
  unfold Databases.accountSession
  split
  · rename_i shardId _
    split
    · have bodies := alike _ _ (same shardId)
      generalize body (dbs.account shardId) = left at bodies ⊢
      generalize body (dbs'.account shardId) = right at bodies ⊢
      cases bodies with
      | error failure => exact .error failure
      | ok value shards => exact .ok value (same.update shardId shards)
    · exact .error _
  · exact .error _

/-- Encoding the answer changes nothing of this. -/
theorem Alike.encoded (encode : α → Json) {a b : Except Failure (α × Databases)}
    (alike : Alike (SameOwn P user) a b) :
    Alike (SameOwn P user) (encoded encode a) (encoded encode b) := by
  cases alike with
  | error failure => exact .error failure
  | ok value states => exact .ok (encode value) states

end Transactions

/-! ## The handlers -/

/-- The names of the rows a request may write, as handed to `uuid5`. -/
def writtenNames (user : Uuid) : ReplayedRequest → List String
  | .updateProfile _ => []
  | .linkDefaultConnection => [connectionName user]
  | .subscribe request =>
      (normalizeDomesticStockCode request.stockCode).toList.map (subscriptionName user)
  | .unsubscribe request =>
      (normalizeDomesticStockCode request.stockCode).toList.map (subscriptionName user)

/-- `uuid5` does not confuse a name the request writes under with one of another
user's names. -/
structure Apart (P : Platform) (user other : Uuid) (request : ReplayedRequest) : Prop where
  connection : ∀ name ∈ writtenNames user request,
    P.uuid5 namespaceUrl name ≠ P.connectionId other
  subscription : ∀ name ∈ writtenNames user request, ∀ code,
    P.uuid5 namespaceUrl name ≠ P.subscriptionId other code

/-- Every subscription is stored under its primary key. -/
def KeyedSubscriptions (dbs : Databases) : Prop :=
  ∀ shardId, Table.Keyed SignalSubscription.subscriptionId (dbs.account shardId).subscriptions

section Location

variable {session : SessionData} {target : ShardTarget} {found : Uuid}

/-- The user of the session's location is the session's. -/
theorem sessionLocation_user (login : session.userId = user.str)
    (located : sessionLocation session = .ok (found, target)) : found = user := by
  unfold sessionLocation at located
  rw [login, Uuid.ofStr_str] at located
  split at located
  · split at located
    · cases located
    · cases located
      rfl
  · cases located

theorem connectionLocation_user {environ : Environ} (login : session.userId = user.str)
    (located : connectionLocation environ session = .ok (found, target)) : found = user := by
  unfold connectionLocation at located
  rw [login, Uuid.ofStr_str] at located
  split at located
  · split at located
    · cases located
    · split at located
      · rename_i userId ownerUserId sameUser _
        split at located
        · cases located
        · cases located
          exact (Option.some.inj sameUser).symm
      · cases located
  · cases located

end Location

/-! ### What a handler leaves alone -/

section Keeps

variable {other : Uuid} {session : SessionData} {eventId : String} {now : Instant}
  {dbs dbs' : Databases}

theorem updateProfile_keeps (different : user ≠ other) (login : session.userId = user.str)
    {request : UpdateProfileRequest} {profile : UserProfile}
    (done : updateProfile request session eventId now dbs = .ok (profile, dbs')) :
    SameOwn P other dbs dbs' := by
  unfold updateProfile profileLocation at done
  cases located : sessionLocation session with
  | error failure => simp [located, bind, Except.bind] at done
  | ok location =>
      obtain ⟨found, target⟩ := location
      obtain rfl := sessionLocation_user login located
      simp only [located, bind, Except.bind] at done
      refine accountSession_keeps ?_ done
      intro shardId value after ran
      split at ran
      · cases ran
        exact .refl _
      · cases flushed : flushProfile (request.profile found) with
        | error failure => simp [flushed] at ran
        | ok _ =>
            simp only [flushed, pure, Except.pure, Except.ok.injEq, Prod.mk.injEq] at ran
            obtain ⟨-, rfl⟩ := ran
            exact { OwnRows.refl _ with profile := by simp [Ne.symm different] }

theorem linkConnection_keeps {shard after : AccountShard} {credentials : KisAccountCredentials}
    {target : ShardTarget} {connection : BrokerageAccountConnection}
    (apart : P.connectionId other ≠ P.connectionId user)
    (ran : shard.linkConnection credentials (P.connectionId user) user target eventId now =
      .ok (connection, after)) : OwnRows P other shard after := by
  -- the only write is under the user's own connection id
  have written (row : BrokerageAccountConnection) (events : List OutboxEventRecord) :
      OwnRows P other shard { shard with
        connections := shard.connections.put (P.connectionId user) row
        outbox := events } :=
    { OwnRows.refl shard with connection := by simp [apart] }
  unfold AccountShard.linkConnection at ran
  split at ran
  · split at ran
    · cases ran
    · split at ran
      · cases ran
        exact .refl _
      · cases ran
        exact written _ _
  · cases ran
    exact written _ _

theorem linkDefaultConnection_keeps {environ : Environ} (login : session.userId = user.str)
    (apart : P.connectionId other ≠ P.connectionId user)
    {connection : BrokerageAccountConnection}
    (done : P.linkDefaultConnection environ session eventId now dbs = .ok (connection, dbs')) :
    SameOwn P other dbs dbs' := by
  unfold Platform.linkDefaultConnection at done
  cases located : connectionLocation environ session with
  | error failure => simp [located, bind, Except.bind] at done
  | ok location =>
      obtain ⟨found, target⟩ := location
      obtain rfl := connectionLocation_user login located
      cases configured : accountCredentials environ with
      | error failure => simp [located, configured, bind, Except.bind] at done
      | ok credentials =>
          simp only [located, configured, bind, Except.bind] at done
          exact accountSession_keeps (fun _ _ _ ran => linkConnection_keeps apart ran) done

/-- A decision that writes under the id it was asked for. -/
def WritesUnder
    (decide : Uuid → Uuid → String → Option SignalSubscription → Decision SignalSubscription) :
    Prop :=
  ∀ id user code existing row, (∀ old, existing = some old → old.subscriptionId = id) →
    decide id user code existing = .write row → row.subscriptionId = id

theorem subscribe_writesUnder : WritesUnder subscribeDecision :=
  fun _ _ _ _ _ _ written => (subscribe_continues written).subscriptionId_eq

theorem unsubscribe_writesUnder : WritesUnder unsubscribeDecision := by
  intro id user code existing row keyed written
  cases existing with
  | none => cases written
  | some old =>
      simp only [unsubscribeDecision] at written
      split at written
      · cases written
        exact keyed old rfl
      · cases written

theorem changeSubscription_keeps
    {decide : Uuid → Uuid → String → Option SignalSubscription → Decision SignalSubscription}
    (writes : WritesUnder decide) (keyed : KeyedSubscriptions dbs)
    (login : session.userId = user.str) {stockCode : String}
    (apart : ∀ code, normalizeDomesticStockCode stockCode = some code →
      ∀ code', P.subscriptionId other code' ≠ P.subscriptionId user code)
    {row : SignalSubscription}
    (done : P.changeSubscription decide stockCode session eventId now dbs = .ok (row, dbs')) :
    SameOwn P other dbs dbs' := by
  unfold Platform.changeSubscription subscriptionLocation stockCodeOr422 at done
  cases located : sessionLocation session with
  | error failure => simp [located, bind, Except.bind] at done
  | ok location =>
      obtain ⟨found, target⟩ := location
      obtain rfl := sessionLocation_user login located
      cases normal : normalizeDomesticStockCode stockCode with
      | none => simp [located, normal, bind, Except.bind] at done
      | some code =>
          simp only [located, normal, bind, Except.bind] at done
          refine accountSession_keeps ?_ done
          intro shardId value after ran
          cases decided : decide (P.subscriptionId found code) found code
              ((dbs.account shardId).subscriptions.find (P.subscriptionId found code)) with
          | keep kept =>
              simp only [decided, AccountShard.applyDecision, Except.ok.injEq,
                Prod.mk.injEq] at ran
              obtain ⟨-, rfl⟩ := ran
              exact .refl _
          | write new =>
              have under : new.subscriptionId = P.subscriptionId found code :=
                writes _ _ _ _ _ (fun old stored => keyed shardId _ old stored) decided
              simp only [decided, AccountShard.applyDecision, Except.ok.injEq,
                Prod.mk.injEq] at ran
              obtain ⟨-, rfl⟩ := ran
              refine { OwnRows.refl _ with subscription := ?_ }
              intro code'
              rw [under, Table.find_put_of_ne _ _ (apart code normal code')]

/-- **A handler leaves the rows of every other user alone.** -/
theorem handler_keeps {environ : Environ} {request : ReplayedRequest} {body : Json}
    (different : user ≠ other) (login : session.userId = user.str)
    (apart : Apart P user other request) (keyed : KeyedSubscriptions dbs)
    (done : (request.route P environ session).handler eventId now dbs = .ok (body, dbs')) :
    SameOwn P other dbs dbs' := by
  -- the id of the subscription written is none of the other user's
  have apartCode (stockCode : String) (names : writtenNames user request =
      (normalizeDomesticStockCode stockCode).toList.map (subscriptionName user)) (code : String)
      (normal : normalizeDomesticStockCode stockCode = some code) (code' : String) :
      P.subscriptionId other code' ≠ P.subscriptionId user code := by
    have mem : subscriptionName user code ∈ writtenNames user request := by
      rw [names, normal]
      simp
    exact (apart.subscription _ mem code').symm
  cases request with
  | updateProfile request =>
      obtain ⟨profile, returned⟩ := encoded_ok done
      exact updateProfile_keeps different login returned
  | linkDefaultConnection =>
      obtain ⟨connection, returned⟩ := encoded_ok done
      have mem : connectionName user ∈ writtenNames user .linkDefaultConnection :=
        List.mem_singleton.mpr rfl
      exact linkDefaultConnection_keeps login (apart.connection _ mem).symm returned
  | subscribe request =>
      obtain ⟨row, returned⟩ := encoded_ok done
      exact changeSubscription_keeps subscribe_writesUnder keyed login
        (apartCode request.stockCode rfl) returned
  | unsubscribe request =>
      obtain ⟨row, returned⟩ := encoded_ok done
      exact changeSubscription_keeps unsubscribe_writesUnder keyed login
        (apartCode request.stockCode rfl) returned

end Keeps

/-! ### What a handler sees -/

section Alike

variable {session : SessionData} {dbs dbs' : Databases}

theorem updateProfile_alike (login : session.userId = user.str) (same : SameOwn P user dbs dbs')
    (request : UpdateProfileRequest) (eventId : String) (now : Instant) :
    Alike (SameOwn P user) (updateProfile request session eventId now dbs)
      (updateProfile request session eventId now dbs') := by
  unfold updateProfile profileLocation
  cases located : sessionLocation session with
  | error failure => exact .error failure
  | ok location =>
      obtain ⟨found, target⟩ := location
      obtain rfl := sessionLocation_user login located
      simp only [bind, Except.bind]
      apply accountSession_alike target same
      intro a b shards
      have holds : a.holdsProfile (request.profile found) = b.holdsProfile (request.profile found) := by
        have finds : a.profiles.find (request.profile found).userId =
            b.profiles.find (request.profile found).userId := shards.profile
        simp only [AccountShard.holdsProfile, finds]
      rw [holds]
      split
      · exact .ok _ shards
      · cases flushProfile (request.profile found) with
        | error failure => exact .error failure
        | ok _ => exact .ok _ { shards with profile := by simp }

theorem linkConnection_alike {a b : AccountShard} (shards : OwnRows P user a b)
    (credentials : KisAccountCredentials) (target : ShardTarget) (eventId : String)
    (now : Instant) :
    Alike (OwnRows P user)
      (a.linkConnection credentials (P.connectionId user) user target eventId now)
      (b.linkConnection credentials (P.connectionId user) user target eventId now) := by
  unfold AccountShard.linkConnection
  rw [shards.connection]
  split
  · split
    · exact .error _
    · split
      · exact .ok _ shards
      · exact .ok _ { shards with connection := by simp }
  · exact .ok _ { shards with connection := by simp }

theorem linkDefaultConnection_alike {environ : Environ} (login : session.userId = user.str)
    (same : SameOwn P user dbs dbs') (eventId : String) (now : Instant) :
    Alike (SameOwn P user) (P.linkDefaultConnection environ session eventId now dbs)
      (P.linkDefaultConnection environ session eventId now dbs') := by
  unfold Platform.linkDefaultConnection
  cases located : connectionLocation environ session with
  | error failure => exact .error failure
  | ok location =>
      obtain ⟨found, target⟩ := location
      obtain rfl := connectionLocation_user login located
      cases accountCredentials environ with
      | error failure => exact .error failure
      | ok credentials =>
          exact accountSession_alike target same fun _ _ shards =>
            linkConnection_alike shards credentials target eventId now

theorem changeSubscription_alike
    (decide : Uuid → Uuid → String → Option SignalSubscription → Decision SignalSubscription)
    (login : session.userId = user.str) (same : SameOwn P user dbs dbs')
    (stockCode eventId : String) (now : Instant) :
    Alike (SameOwn P user) (P.changeSubscription decide stockCode session eventId now dbs)
      (P.changeSubscription decide stockCode session eventId now dbs') := by
  unfold Platform.changeSubscription subscriptionLocation stockCodeOr422
  cases located : sessionLocation session with
  | error failure => exact .error failure
  | ok location =>
      obtain ⟨found, target⟩ := location
      obtain rfl := sessionLocation_user login located
      cases normalizeDomesticStockCode stockCode with
      | none => exact .error _
      | some code =>
          simp only [bind, Except.bind]
          apply accountSession_alike target same
          intro a b shards
          rw [shards.subscription code]
          cases decide (P.subscriptionId found code) found code
              (b.subscriptions.find (P.subscriptionId found code)) with
          | keep row => exact .ok row shards
          | write row =>
              refine .ok row { shards with subscription := ?_ }
              intro code'
              simp only [Table.find_put, shards.subscription code']

/-- **A handler sees its own user's rows only.** -/
theorem handler_alike {environ : Environ} (login : session.userId = user.str)
    (same : SameOwn P user dbs dbs') (request : ReplayedRequest) (eventId : String)
    (now : Instant) :
    Alike (SameOwn P user) ((request.route P environ session).handler eventId now dbs)
      ((request.route P environ session).handler eventId now dbs') := by
  cases request with
  | updateProfile request => exact (updateProfile_alike login same request eventId now).encoded _
  | linkDefaultConnection => exact (linkDefaultConnection_alike login same eventId now).encoded _
  | subscribe request =>
      exact (changeSubscription_alike subscribeDecision login same request.stockCode eventId
        now).encoded _
  | unsubscribe request =>
      exact (changeSubscription_alike unsubscribeDecision login same request.stockCode eventId
        now).encoded _

end Alike

/-! ### When a handler returns -/

/-- The session names a shard that is configured. -/
def OnShard (data : Dict) (shardId : String) : Prop :=
  data.get "shard_id" = some (.str shardId) ∧ shardId ∈ accountShardIds

/-- What the handler asks of the request, the deployment and the rows it finds. -/
def Accepted (P : Platform) (environ : Environ) (exchange : Exchange) (dbs : Databases) : Prop :=
  ∃ shardId, OnShard exchange.data shardId ∧
    match exchange.request with
    | .updateProfile request =>
        (dbs.account shardId).holdsProfile (request.profile exchange.user) = true ∨
          flushProfile (request.profile exchange.user) = .ok ()
    | .linkDefaultConnection =>
        (environ ownerEnv).bind Uuid.ofStr = some exchange.user ∧
          (∃ credentials, KisAccountCredentials.fromEnvironment environ = .ok credentials) ∧
          ∀ existing, (dbs.account shardId).connections.find (P.connectionId exchange.user) =
            some existing → existing.userId = exchange.user
    | .subscribe request => normalizeDomesticStockCode request.stockCode ≠ none
    | .unsubscribe request => normalizeDomesticStockCode request.stockCode ≠ none

def Returns {α : Type} (result : Except Failure α) : Prop := ∃ value, result = .ok value

@[simp] theorem returns_ok {α : Type} (value : α) : Returns (.ok value) := ⟨value, rfl⟩

@[simp] theorem not_returns_error {α : Type} (failure : Failure) :
    ¬ Returns (.error failure : Except Failure α) := by
  rintro ⟨value, same⟩
  cases same

section Returns

variable {α : Type} {dbs : Databases}

theorem returns_encoded (encode : α → Json) (result : Except Failure (α × Databases)) :
    Returns (encoded encode result) ↔ Returns result := by
  cases result with
  | error failure => simp [encoded]
  | ok value => simp [encoded]

theorem returns_accountSession (shardId : String)
    (body : AccountShard → Except Failure (α × AccountShard)) :
    Returns (dbs.accountSession ⟨"account", some shardId⟩ body) ↔
      shardId ∈ accountShardIds ∧ Returns (body (dbs.account shardId)) := by
  by_cases configured : shardId ∈ accountShardIds
  · cases ran : body (dbs.account shardId) with
    | error failure => simp [Databases.accountSession, configured, ran]
    | ok result => simp [Databases.accountSession, configured, ran]
  · simp [Databases.accountSession, configured]

/-- The location of a session: the user with the shard it names, or a failure. -/
theorem sessionLocation_cases (exchange : Exchange) :
    (∃ shardId, exchange.data.get "shard_id" = some (.str shardId) ∧ shardId ≠ "" ∧
      sessionLocation exchange.session = .ok (exchange.user, ⟨"account", some shardId⟩)) ∨
    (∀ shardId, ¬ OnShard exchange.data shardId) ∧
      ∃ failure, sessionLocation exchange.session = .error failure := by
  have unset (empty : exchange.data.get "shard_id" = some (.str "")) (shardId : String) :
      ¬ OnShard exchange.data shardId := by
    rintro ⟨named, configured⟩
    rw [empty] at named
    cases named
    revert configured
    decide
  unfold sessionLocation Exchange.session
  simp only [Uuid.ofStr_str]
  split
  · rename_i shardId named
    by_cases blank : shardId = ""
    · subst blank
      exact .inr ⟨unset named, _, if_pos rfl⟩
    · exact .inl ⟨shardId, named, blank, if_neg blank⟩
  · rename_i other
    refine .inr ⟨?_, _, rfl⟩
    rintro shardId ⟨named, -⟩
    exact other shardId named

theorem connectionLocation_ok_iff {environ : Environ} {exchange : Exchange} {found : Uuid}
    {target : ShardTarget} :
    connectionLocation environ exchange.session = .ok (found, target) ↔
      sessionLocation exchange.session = .ok (found, target) ∧
        (environ ownerEnv).bind Uuid.ofStr = some exchange.user := by
  unfold connectionLocation sessionLocation Exchange.session
  simp only [Uuid.ofStr_str]
  cases exchange.data.get "shard_id" with
  | none => simp
  | some value =>
      cases value with
      | str shardId =>
          by_cases blank : shardId = ""
          · simp [blank]
          · cases owner : (environ ownerEnv).bind Uuid.ofStr with
            | none => simp [blank]
            | some ownerUserId =>
                by_cases assigned : exchange.user = ownerUserId
                · simp [blank, assigned]
                · simp [blank, assigned, Ne.symm assigned]
      | _ => simp

/-- The shard a session names is the only one it can be on. -/
theorem exists_onShard {data : Dict} {shardId : String}
    (named : data.get "shard_id" = some (.str shardId)) (holds : String → Prop) :
    (∃ other, OnShard data other ∧ holds other) ↔ shardId ∈ accountShardIds ∧ holds shardId := by
  constructor
  · rintro ⟨other, ⟨otherNamed, configured⟩, held⟩
    rw [named] at otherNamed
    cases otherNamed
    exact ⟨configured, held⟩
  · rintro ⟨configured, held⟩
    exact ⟨shardId, ⟨named, configured⟩, held⟩

variable {environ : Environ} {exchange : Exchange} {eventId : String} {now : Instant}

theorem updateProfile_returns (request : UpdateProfileRequest) :
    Returns (updateProfile request exchange.session eventId now dbs) ↔
      ∃ shardId, OnShard exchange.data shardId ∧
        ((dbs.account shardId).holdsProfile (request.profile exchange.user) = true ∨
          flushProfile (request.profile exchange.user) = .ok ()) := by
  unfold updateProfile profileLocation
  rcases sessionLocation_cases exchange with ⟨shardId, named, -, located⟩ | ⟨nowhere, _, located⟩
  · simp only [located, bind, Except.bind, returns_accountSession, exists_onShard named]
    refine and_congr_right fun _ => ?_
    by_cases holds : (dbs.account shardId).holdsProfile (request.profile exchange.user) = true
    · simp [holds, pure, Except.pure]
    · cases flushed : flushProfile (request.profile exchange.user) with
      | error failure => simp [holds]
      | ok value => simp [holds, pure, Except.pure]
  · simp [located, nowhere, bind, Except.bind]

theorem linkConnection_returns (shard : AccountShard) (credentials : KisAccountCredentials)
    (connectionId userId : Uuid) (target : ShardTarget) :
    Returns (shard.linkConnection credentials connectionId userId target eventId now) ↔
      ∀ existing, shard.connections.find connectionId = some existing →
        existing.userId = userId := by
  unfold AccountShard.linkConnection
  cases shard.connections.find connectionId with
  | none => simp
  | some existing =>
      by_cases owned : existing.userId = userId
      · by_cases current : matchesDeployment existing credentials.environment
          credentials.accountMask = true
        · simp [owned, current]
        · simp [owned, current]
      · simp [owned]

theorem linkDefaultConnection_returns :
    Returns (P.linkDefaultConnection environ exchange.session eventId now dbs) ↔
      ∃ shardId, OnShard exchange.data shardId ∧
        (environ ownerEnv).bind Uuid.ofStr = some exchange.user ∧
        (∃ credentials, KisAccountCredentials.fromEnvironment environ = .ok credentials) ∧
        ∀ existing, (dbs.account shardId).connections.find (P.connectionId exchange.user) =
          some existing → existing.userId = exchange.user := by
  -- the location is the session's, provided the deployment's account is the user's
  have located := @connectionLocation_ok_iff environ exchange
  unfold Platform.linkDefaultConnection accountCredentials
  cases location : connectionLocation environ exchange.session with
  | error failure =>
      simp only [bind, Except.bind, not_returns_error, false_iff]
      rintro ⟨shardId, onShard, assigned, -⟩
      rcases sessionLocation_cases exchange with ⟨_, _, -, found⟩ | ⟨nowhere, -⟩
      · rw [located.mpr ⟨found, assigned⟩] at location
        cases location
      · exact nowhere shardId onShard
  | ok place =>
      obtain ⟨found, assigned⟩ := located.mp location
      rcases sessionLocation_cases exchange with ⟨shardId, named, -, here⟩ | ⟨-, failure, failed⟩
      · obtain rfl : (exchange.user, ⟨"account", some shardId⟩) = place :=
          Except.ok.inj (here.symm.trans found)
        simp only [bind, Except.bind, exists_onShard named, assigned, true_and]
        cases KisAccountCredentials.fromEnvironment environ with
        | error message => simp
        | ok credentials =>
            simp only [returns_accountSession, linkConnection_returns]
            simp
      · rw [failed] at found
        cases found

theorem changeSubscription_returns
    (decide : Uuid → Uuid → String → Option SignalSubscription → Decision SignalSubscription)
    (stockCode : String) :
    Returns (P.changeSubscription decide stockCode exchange.session eventId now dbs) ↔
      ∃ shardId, OnShard exchange.data shardId ∧ normalizeDomesticStockCode stockCode ≠ none := by
  unfold Platform.changeSubscription subscriptionLocation stockCodeOr422
  rcases sessionLocation_cases exchange with ⟨shardId, named, -, located⟩ | ⟨nowhere, _, located⟩
  · simp only [located, bind, Except.bind, exists_onShard named]
    cases normalizeDomesticStockCode stockCode with
    | none => simp
    | some code => simp [returns_accountSession]
  · simp [located, nowhere, bind, Except.bind]

/-- A handler returns exactly where what it asks for is met. -/
theorem handler_returns :
    Returns ((exchange.route P environ).handler eventId now dbs) ↔
      Accepted P environ exchange dbs := by
  unfold Exchange.route Accepted
  cases exchange.request with
  | updateProfile request => exact (returns_encoded _ _).trans (updateProfile_returns request)
  | linkDefaultConnection => exact (returns_encoded _ _).trans linkDefaultConnection_returns
  | subscribe request => exact (returns_encoded _ _).trans (changeSubscription_returns _ _)
  | unsubscribe request => exact (returns_encoded _ _).trans (changeSubscription_returns _ _)

end Returns

/-! ## The key -/

/-- The request gets the key: it is admitted, the header is not blank, and nothing
can be read under the key. -/
structure Claims (P : Platform) (exchange : Exchange) (key : String) (replay : ReplayStore) :
    Prop where
  admitted : requireAccessLevel .user exchange.session = .ok ()
  header : exchange.idempotencyKey = some key
  nonblank : pyStrip key ≠ ""
  free : replay.get exchange.claimedAt (P.replayKey key) = none

section Key

variable (P) (environ : Environ) (exchange : Exchange) {key : String}

/-- When a claim taken now, or a record stored now, expires. -/
def keptUntil (now : Instant) : Instant := now + seconds replayTtlSeconds

def claimOf (key : String) : ReplayClaim :=
  ⟨key, exchange.fingerprint P environ, exchange.token, replayTtlSeconds⟩

/-- The store with the request's claim in it. -/
def claimed (key : String) (replay : ReplayStore) : ReplayStore :=
  replay.set (P.replayKey key) ⟨exchange.fingerprint P environ, exchange.token, .pending⟩
    (keptUntil exchange.claimedAt)

variable {P environ exchange}

theorem claimStep_claims {state : ApiState} (claims : Claims P exchange key state.replay) :
    exchange.claimStep P environ state =
      ({ state with replay := claimed P environ exchange key state.replay },
        .claimed (claimOf P environ exchange key)) := by
  have nonempty : key ≠ "" := by
    rintro rfl
    exact claims.nonblank rfl
  have positive : ¬ replayTtlSeconds ≤ 0 := by decide
  simp [Exchange.claimStep, claims.admitted, claims.header, nonempty, Platform.claim,
    claims.nonblank, positive, Expiring.setNx, claims.free, claimed, claimOf, keptUntil]

/-- A request that does not get its key is answered at once, and what it is answered
depends on no more than what can be read under the key. -/
theorem claimStep_refused {state state' : ApiState}
    (same : requireAccessLevel .user exchange.session = .ok () → ∀ key,
      exchange.idempotencyKey = some key →
      state.replay.get exchange.claimedAt (P.replayKey key) =
        state'.replay.get exchange.claimedAt (P.replayKey key))
    (refused : ∀ key, ¬ Claims P exchange key state.replay) :
    ∃ response, exchange.claimStep P environ state = (state, .answered response) ∧
      exchange.claimStep P environ state' = (state', .answered response) := by
  unfold Exchange.claimStep
  cases admitted : requireAccessLevel .user exchange.session with
  | error failure => exact ⟨_, rfl, rfl⟩
  | ok value =>
      cases header : exchange.idempotencyKey with
      | none => exact ⟨_, rfl, rfl⟩
      | some key =>
          have reads := same admitted key header
          by_cases empty : key = ""
          · exact ⟨.error (.http 400 "Idempotency-Key header is required"), by simp [empty]⟩
          · by_cases blank : pyStrip key = ""
            · refine ⟨.error (.raised .valueError "idempotency key must not be empty"), ?_⟩
              simp [empty, Platform.claim, blank, claimFailure]
            · cases held : state.replay.get exchange.claimedAt (P.replayKey key) with
              | none => exact absurd ⟨admitted, header, blank, held⟩ (refused key)
              | some existing =>
                  have positive : ¬ replayTtlSeconds ≤ 0 := by decide
                  rw [held] at reads
                  simp only [empty, if_false, Platform.claim, blank, positive, Expiring.setNx,
                    held, ← reads]
                  by_cases print : existing.fingerprint ≠ exchange.fingerprint P environ
                  · simp [print]
                  · cases existing.status with
                    | pending => simp [print]
                    | completed statusCode body => simp [print]

end Key

/-! ## A request that got its key -/

section Progress

variable (P) (environ : Environ) (exchange : Exchange)

/-- What the handler answers in the given databases. -/
def handled (dbs : Databases) : Except Failure (Json × Databases) :=
  (exchange.route P environ).handler exchange.eventId exchange.handledAt dbs

def outcomeOf : Except Failure (Json × Databases) → Except Failure Json
  | .ok (body, _) => .ok body
  | .error failure => .error failure

/-- The store after the last step: the record where the handler answered, nothing
where it raised; the claim itself when it expired before. -/
def finished (key : String) (outcome : Except Failure Json) (replay : ReplayStore) : ReplayStore :=
  if exchange.finishedAt ≤ keptUntil exchange.claimedAt then
    match outcome with
    | .ok body =>
        (claimed P environ exchange key replay).set (P.replayKey key)
          ⟨exchange.fingerprint P environ, exchange.token, .completed 200 body⟩
          (keptUntil exchange.finishedAt)
    | .error _ => (claimed P environ exchange key replay).delete (P.replayKey key)
  else claimed P environ exchange key replay

/-- What the request is answered once the handler is done. -/
def answer (outcome : Except Failure Json) : Response :=
  match outcome with
  | .error failure => .error failure
  | .ok body =>
      if exchange.finishedAt ≤ keptUntil exchange.claimedAt then .ok (200, body)
      else .error (.raised .sessionStoreError "request replay claim was lost")

variable {P environ exchange} {key : String}

theorem handleStep_eq (claim : ReplayClaim) (state : ApiState) :
    exchange.handleStep P environ claim state =
      (⟨state.dbs.commit (handled P environ exchange state.dbs), state.replay⟩,
        .handled claim (outcomeOf (handled P environ exchange state.dbs))) := by
  have split : exchange.handleStep P environ claim state =
      match handled P environ exchange state.dbs with
      | .ok (body, dbs) => ({ state with dbs }, .handled claim (.ok body))
      | .error failure => (state, .handled claim (.error failure)) := rfl
  rw [split]
  cases handled P environ exchange state.dbs with
  | error failure => rfl
  | ok result => rfl

/-- What can be read of the request's own claim. -/
theorem get_claimed (replay : ReplayStore) (now : Instant) :
    (claimed P environ exchange key replay).get now (P.replayKey key) =
      if now ≤ keptUntil exchange.claimedAt then
        some ⟨exchange.fingerprint P environ, exchange.token, .pending⟩
      else none :=
  Expiring.get_set_self replay _

theorem finishStep_eq (dbs : Databases) (replay : ReplayStore) (outcome : Except Failure Json) :
    exchange.finishStep P (claimOf P environ exchange key) outcome
        ⟨dbs, claimed P environ exchange key replay⟩ =
      (⟨dbs, finished P environ exchange key outcome replay⟩,
        .answered (answer exchange outcome)) := by
  have reads := @get_claimed P environ exchange key replay exchange.finishedAt
  by_cases alive : exchange.finishedAt ≤ keptUntil exchange.claimedAt
  · rw [if_pos alive] at reads
    cases outcome with
    | error failure =>
        simp [Exchange.finishStep, Platform.abort, claimOf, reads, finished, answer, alive]
    | ok body =>
        simp only [Exchange.finishStep, Platform.complete, claimOf, reads, finished, answer, alive,
          ne_eq, not_true_eq_false, if_false, if_true]
        rfl
  · rw [if_neg alive] at reads
    cases outcome with
    | error failure =>
        simp [Exchange.finishStep, Platform.abort, claimOf, reads, finished, answer, alive]
    | ok body =>
        simp [Exchange.finishStep, Platform.complete, Platform.abort, claimOf, reads, finished,
          answer, alive]

/-- An answered request takes no further step. -/
theorem iterate_answered (n : Nat) (state : ApiState) (response : Response) :
    (exchange.step P environ)^[n] (state, .answered response) = (state, .answered response) :=
  Function.iterate_fixed rfl n

theorem advance_succ (n : Nat) (state : ApiState) :
    exchange.advance P environ (n + 1) state =
      (exchange.step P environ)^[n] (exchange.claimStep P environ state) := rfl

section Claimed

variable {state : ApiState} (claims : Claims P exchange key state.replay)

include claims

theorem advance_one : exchange.advance P environ 1 state =
    ({ state with replay := claimed P environ exchange key state.replay },
      .claimed (claimOf P environ exchange key)) :=
  claimStep_claims claims

theorem advance_two : exchange.advance P environ 2 state =
    (⟨state.dbs.commit (handled P environ exchange state.dbs),
        claimed P environ exchange key state.replay⟩,
      .handled (claimOf P environ exchange key)
        (outcomeOf (handled P environ exchange state.dbs))) := by
  rw [advance_succ, claimStep_claims claims]
  exact handleStep_eq _ _

theorem advance_done (n : Nat) : exchange.advance P environ (n + 3) state =
    (⟨state.dbs.commit (handled P environ exchange state.dbs),
        finished P environ exchange key (outcomeOf (handled P environ exchange state.dbs))
          state.replay⟩,
      .answered (answer exchange (outcomeOf (handled P environ exchange state.dbs)))) := by
  have two : (exchange.step P environ)^[2] (exchange.claimStep P environ state) =
      (⟨state.dbs.commit (handled P environ exchange state.dbs),
          finished P environ exchange key (outcomeOf (handled P environ exchange state.dbs))
            state.replay⟩,
        .answered (answer exchange (outcomeOf (handled P environ exchange state.dbs)))) := by
    rw [claimStep_claims claims]
    show exchange.step P environ (exchange.handleStep P environ _ _) = _
    rw [handleStep_eq]
    exact finishStep_eq _ _ _
  rw [advance_succ, Function.iterate_add_apply, two, iterate_answered]

end Claimed

/-- A request that does not get its key changes nothing. -/
theorem advance_refused {state : ApiState}
    (refused : ∀ key, ¬ Claims P exchange key state.replay) (n : Nat) :
    (exchange.advance P environ n state).1 = state := by
  obtain ⟨response, answered, -⟩ :=
    @claimStep_refused P environ exchange state state (fun _ _ _ => rfl) refused
  cases n with
  | zero => rfl
  | succ n => rw [advance_succ, answered, iterate_answered]

end Progress

/-! ## Two runs -/

/-- The request as V's sees it: how far it has got, with the time of its last step. -/
def lastStepAt (exchange : Exchange) : Nat → Instant
  | 0 => exchange.claimedAt
  | 1 => exchange.claimedAt
  | 2 => exchange.handledAt
  | _ + 3 => exchange.finishedAt

/-- What the first steps of a request that got its key leave under it can be read at
the given time. While the request is under way that is its claim; afterwards it is the
record, if the handler took the request and the claim had not expired. -/
def Stays (P : Platform) (environ : Environ) (exchange : Exchange) (dbs : Databases)
    (now : Instant) : Nat → Prop
  | 0 => False
  | 1 => now ≤ keptUntil exchange.claimedAt
  | 2 => now ≤ keptUntil exchange.claimedAt
  | _ + 3 =>
      Accepted P environ exchange dbs ∧
        exchange.finishedAt ≤ keptUntil exchange.claimedAt ∧
        now ≤ keptUntil exchange.finishedAt

section Left

variable {environ : Environ} {exchange : Exchange} {key : String} {state : ApiState} {n : Nat}
  {now : Instant}

theorem lastStepAt_ge (exchange : Exchange) (n : Nat) :
    exchange.claimedAt ≤ lastStepAt exchange n := by
  have first := exchange.claimed_le_handled
  have second := exchange.handled_le_finished
  match n with
  | 0 => exact le_refl _
  | 1 => exact le_refl _
  | 2 => exact first
  | _ + 3 => exact le_trans first second

theorem outcome_returns (dbs : Databases) :
    (∃ body, outcomeOf (handled P environ exchange dbs) = .ok body) ↔
      Accepted P environ exchange dbs := by
  have returns := @handler_returns P dbs environ exchange exchange.eventId exchange.handledAt
  rw [← returns]
  show _ ↔ Returns (handled P environ exchange dbs)
  cases handled P environ exchange dbs with
  | error failure => simp [outcomeOf]
  | ok result => simp [outcomeOf]

/-- What can be read of the request's key once it is answered. -/
theorem get_finished (replay : ReplayStore) (outcome : Except Failure Json)
    (after : exchange.finishedAt ≤ now) :
    ((finished P environ exchange key outcome replay).get now (P.replayKey key)).isSome = true ↔
      (∃ body, outcome = .ok body) ∧ exchange.finishedAt ≤ keptUntil exchange.claimedAt ∧
        now ≤ keptUntil exchange.finishedAt := by
  unfold finished
  by_cases alive : exchange.finishedAt ≤ keptUntil exchange.claimedAt
  · simp only [alive, if_true, true_and]
    cases outcome with
    | error failure => simp
    | ok body => simp [Expiring.get_set_self]
  · -- the claim had expired, so it still cannot be read
    have past : ¬ now ≤ keptUntil exchange.claimedAt := fun kept => alive (le_trans after kept)
    simp [alive, get_claimed, past]

/-- **What a request that got its key leaves under it.** -/
theorem get_advance (claims : Claims P exchange key state.replay)
    (before : lastStepAt exchange n ≤ now) :
    ((exchange.advance P environ n state).1.replay.get now (P.replayKey key)).isSome = true ↔
      Stays P environ exchange state.dbs now n := by
  match n, before with
  | 0, before =>
      have gone := Expiring.get_none_mono _ claims.free before
      simp [Exchange.advance, Stays, gone]
  | 1, before => simp [advance_one claims, Stays, get_claimed]
  | 2, before => simp [advance_two claims, Stays, get_claimed]
  | n + 3, before =>
      rw [advance_done claims]
      exact (get_finished _ _ before).trans (and_congr_left' (outcome_returns _))

end Left

/-- V's request fares the same after the first `n` steps of U's as without them: the
answer, whether the handler with its checks is run, and V's rows. -/
structure Isolated (P : Platform) (environ : Environ) (U V : Exchange) (n : Nat)
    (state : ApiState) : Prop where
  response : ∃ response, (V.serve P environ state).2 = .answered response ∧
    (V.serve P environ (U.advance P environ n state).1).2 = .answered response
  handler : V.entersHandler P environ state ↔
    V.entersHandler P environ (U.advance P environ n state).1
  rows : SameOwn P V.user (V.serve P environ state).1.dbs
    (V.serve P environ (U.advance P environ n state).1).1.dbs

/-- U's request stands in the way of V's: V's is admitted and meets, under the key U's
has claimed, what U's has left there. -/
structure Occupies (P : Platform) (environ : Environ) (U V : Exchange) (n : Nat)
    (state : ApiState) : Prop where
  admitted : requireAccessLevel .user V.session = .ok ()
  claims : ∃ key, Claims P U key state.replay
  stays : Stays P environ U state.dbs V.claimedAt n

section Runs

variable {environ : Environ} {U V : Exchange} {n : Nat} {state state' : ApiState}

theorem entersHandler_iff (exchange : Exchange) (state : ApiState) :
    exchange.entersHandler P environ state ↔ ∃ key, Claims P exchange key state.replay := by
  constructor
  · rintro ⟨claim, entered⟩
    by_contra none
    obtain ⟨response, answered, -⟩ := @claimStep_refused P environ exchange state state
      (fun _ _ _ => rfl) (not_exists.mp none)
    rw [answered] at entered
    cases entered
  · rintro ⟨key, claims⟩
    exact ⟨_, congrArg Prod.snd (claimStep_claims claims)⟩

theorem Alike.outcome {dbs dbs' : Databases} {a b : Except Failure (Json × Databases)}
    (same : SameOwn P user dbs dbs') (alike : Alike (SameOwn P user) a b) :
    outcomeOf a = outcomeOf b ∧ SameOwn P user (dbs.commit a) (dbs'.commit b) := by
  cases alike with
  | error failure => exact ⟨rfl, same⟩
  | ok value states => exact ⟨rfl, states⟩

/-- A request fares the same from states that agree on its user's rows and on what can
be read under its key. -/
theorem serve_alike (rows : SameOwn P V.user state.dbs state'.dbs)
    (reads : requireAccessLevel .user V.session = .ok () → ∀ key, V.idempotencyKey = some key →
      state.replay.get V.claimedAt (P.replayKey key) =
        state'.replay.get V.claimedAt (P.replayKey key)) :
    (∃ response, (V.serve P environ state).2 = .answered response ∧
      (V.serve P environ state').2 = .answered response) ∧
    (V.entersHandler P environ state ↔ V.entersHandler P environ state') ∧
    SameOwn P V.user (V.serve P environ state).1.dbs (V.serve P environ state').1.dbs := by
  have transfer (key : String) :
      Claims P V key state.replay ↔ Claims P V key state'.replay := by
    constructor
    · intro claims
      exact { claims with free := (reads claims.admitted key claims.header).symm.trans claims.free }
    · intro claims
      exact { claims with free := (reads claims.admitted key claims.header).trans claims.free }
  have enters : V.entersHandler P environ state ↔ V.entersHandler P environ state' := by
    rw [entersHandler_iff, entersHandler_iff]
    exact exists_congr transfer
  by_cases claims : ∃ key, Claims P V key state.replay
  · obtain ⟨key, claims⟩ := claims
    have first := @advance_done P environ V key state claims 0
    have second := @advance_done P environ V key state' ((transfer key).mp claims) 0
    have handlers : Alike (SameOwn P V.user) (handled P environ V state.dbs)
        (handled P environ V state'.dbs) :=
      handler_alike rfl rows V.request V.eventId V.handledAt
    obtain ⟨outcomes, commits⟩ := handlers.outcome rows
    rw [← outcomes] at second
    have serves : V.serve P environ state = V.advance P environ (0 + 3) state := rfl
    have serves' : V.serve P environ state' = V.advance P environ (0 + 3) state' := rfl
    rw [serves, serves', first, second]
    exact ⟨⟨_, rfl, rfl⟩, enters, commits⟩
  · obtain ⟨response, answered, answered'⟩ := @claimStep_refused P environ V state state' reads
      (not_exists.mp claims)
    have serves : V.serve P environ state = (state, .answered response) := by
      rw [Exchange.serve, advance_succ, answered, iterate_answered]
    have serves' : V.serve P environ state' = (state', .answered response) := by
      rw [Exchange.serve, advance_succ, answered', iterate_answered]
    rw [serves, serves']
    exact ⟨⟨response, rfl, rfl⟩, enters, rows⟩

/-- U's request leaves V's rows alone, however far it gets. -/
theorem advance_keeps (different : U.user ≠ V.user) (apart : Apart P U.user V.user U.request)
    (keyed : KeyedSubscriptions state.dbs) :
    SameOwn P V.user state.dbs (U.advance P environ n state).1.dbs := by
  have commits : SameOwn P V.user state.dbs
      (state.dbs.commit (handled P environ U state.dbs)) := by
    cases done : handled P environ U state.dbs with
    | error failure => exact .refl _
    | ok result =>
        obtain ⟨body, dbs'⟩ := result
        exact handler_keeps different rfl apart keyed done
  by_cases claims : ∃ key, Claims P U key state.replay
  · obtain ⟨key, claims⟩ := claims
    match n with
    | 0 => exact .refl _
    | 1 =>
        rw [advance_one claims]
        exact .refl _
    | 2 =>
        rw [advance_two claims]
        exact commits
    | n + 3 =>
        rw [advance_done claims]
        exact commits
  · rw [advance_refused (not_exists.mp claims)]
    exact .refl _

/-- **V's request is isolated from U's exactly when U's leaves nothing in its way.** -/
theorem isolated_iff (different : U.user ≠ V.user) (same : U.idempotencyKey = V.idempotencyKey)
    (before : lastStepAt U n ≤ V.claimedAt) (apart : Apart P U.user V.user U.request)
    (keyed : KeyedSubscriptions state.dbs) :
    Isolated P environ U V n state ↔ ¬ Occupies P environ U V n state := by
  have order : U.claimedAt ≤ V.claimedAt := le_trans (lastStepAt_ge U n) before
  constructor
  · rintro isolated ⟨admitted, ⟨key, claims⟩, stays⟩
    -- alone, V's request gets the key; after U's it does not
    have free : state.replay.get V.claimedAt (P.replayKey key) = none :=
      Expiring.get_none_mono _ claims.free order
    have alone : V.entersHandler P environ state := by
      rw [entersHandler_iff]
      exact ⟨key, admitted, same ▸ claims.header, claims.nonblank, free⟩
    have after := isolated.handler.mp alone
    rw [entersHandler_iff] at after
    obtain ⟨key', claims'⟩ := after
    obtain rfl : key' = key :=
      Option.some.inj (claims'.header.symm.trans (same.symm.trans claims.header))
    have found := (get_advance claims before).mpr stays
    rw [claims'.free] at found
    cases found
  · intro free
    have reads : requireAccessLevel .user V.session = .ok () → ∀ key,
        V.idempotencyKey = some key →
        state.replay.get V.claimedAt (P.replayKey key) =
          (U.advance P environ n state).1.replay.get V.claimedAt (P.replayKey key) := by
      intro admitted key header
      by_cases claims : ∃ key, Claims P U key state.replay
      · obtain ⟨key', claims⟩ := claims
        obtain rfl : key' = key :=
          Option.some.inj (claims.header.symm.trans (same.trans header))
        have gone : ¬ Stays P environ U state.dbs V.claimedAt n :=
          fun stays => free ⟨admitted, ⟨key', claims⟩, stays⟩
        rw [← get_advance claims before, Option.not_isSome_iff_eq_none] at gone
        rw [gone, Expiring.get_none_mono _ claims.free order]
      · rw [advance_refused (not_exists.mp claims)]
    have rows : SameOwn P V.user state.dbs (U.advance P environ n state).1.dbs :=
      advance_keeps different apart keyed
    obtain ⟨response, handler, own⟩ := serve_alike rows reads
    exact ⟨response, handler, own⟩

end Runs

/-! ## Two users and one key -/

namespace Sample

def first : Uuid := 0x8e0228d4762a4ccf90f9fd8db616364f
def second : Uuid := 0x5d0b7c1e9a3f4be28c6411d2a7f0e935

/-- `subscription_id(first, "005930")` and `subscription_id(second, "005930")`. -/
def firstSubscription : Uuid := 0x3a702bf2f2ae5f31adbd91fb90161447
def secondSubscription : Uuid := 0xc7cf78cfb4385b90882fcac16a44304b

/-- SHA-256 of the key and of the text the fingerprint is taken of. -/
def digest (text : String) : String :=
  if text = "daily-setup" then "4edd093f673fb941a618e898fc4541a3a0943289775a32b44585260500309365"
  else if text = "PUT:/subscription:\x7b\"stock_code\":\"005930\"\x7d" then
    "294db1faf526625d7922207b3e11bd03503a5f8ec0f99f43cacab81c4d3c3b11"
  else ""

def uuid5 (_ : Uuid) (name : String) : Uuid :=
  if name = subscriptionName first "005930" then firstSubscription
  else if name = subscriptionName second "005930" then secondSubscription
  else 0

def platform : Platform :=
  { Platform.reference uuid5 (.aware 0) "1970-01-01T00:00:00Z" with sha256 := digest }

def environ : Environ := fun _ => none

def start : ApiState := ⟨.empty, .empty⟩

/-- `PUT /api/signal/subscription` for 005930 at the given second. -/
def exchange (user : Uuid) (token eventId : String) (second : Int) : Exchange where
  request := .subscribe ⟨"005930"⟩
  sessionId := token
  user
  data := [("shard_id", .str (shardIdFor user)), ("access_level", .str "user")]
  idempotencyKey := some "daily-setup"
  token
  eventId
  claimedAt := seconds second
  handledAt := seconds second
  finishedAt := seconds second
  claimed_le_handled := le_refl _
  handled_le_finished := le_refl _

def earlier : Exchange := exchange first "token-1" "4a1fb8bc-c45f-42cc-8a49-30ec6f436f53" 0
def later : Exchange := exchange second "token-2" "91d5b0a3-6c0e-4f0d-9a54-0f2f3f4b1c77" 1

/-- The same request on the day after next. -/
def muchLater : Exchange :=
  exchange second "token-2" "91d5b0a3-6c0e-4f0d-9a54-0f2f3f4b1c77" 172800

theorem apart : Apart platform first second (.subscribe ⟨"005930"⟩) := by
  have names : writtenNames first (.subscribe ⟨"005930"⟩) = [subscriptionName first "005930"] := rfl
  have written : platform.uuid5 namespaceUrl (subscriptionName first "005930") =
      firstSubscription := rfl
  constructor
  · intro name mem
    rw [names, List.mem_singleton] at mem
    rw [mem, written]
    decide +kernel
  · intro name mem code
    rw [names, List.mem_singleton] at mem
    rw [mem, written]
    have other : subscriptionName second code ≠ subscriptionName first "005930" := fun same =>
      absurd (subscriptionName_inj same).1 (by decide)
    show firstSubscription ≠ uuid5 namespaceUrl (subscriptionName second code)
    rw [uuid5, if_neg other]
    split
    · decide
    · decide

theorem keyed : KeyedSubscriptions start.dbs := fun _ => Table.keyed_empty _

/-- What the row of a first subscription is answered as. -/
def subscribed (subscription user : Uuid) : Response :=
  .ok (200, SignalSubscription.json ⟨subscription, user, "005930", true, 1⟩)

/-- The `user_id` in the body of an answer. -/
def answeredUser : Phase → String
  | .answered (.ok (_, .obj (_ :: (_, .str user) :: _))) => user
  | _ => ""

theorem later_alone : (later.serve platform environ start).2 =
    .answered (subscribed secondSubscription second) := rfl

theorem later_replayed :
    (later.serve platform environ (earlier.advance platform environ 3 start).1).2 =
      .answered (subscribed firstSubscription first) := rfl

/-- One second after the first user's request, the second user's is answered with the
first user's record, and no row is written for him. -/
theorem key_leaks_record :
    earlier.user ≠ later.user ∧ earlier.idempotencyKey = later.idempotencyKey ∧
      lastStepAt earlier 3 ≤ later.claimedAt ∧
      Apart platform earlier.user later.user earlier.request ∧ KeyedSubscriptions start.dbs ∧
      (later.serve platform environ (earlier.advance platform environ 3 start).1).2 =
        .answered (.ok (200, SignalSubscription.json
          ⟨firstSubscription, earlier.user, "005930", true, 1⟩)) ∧
      ¬ Isolated platform environ earlier later 3 start := by
  refine ⟨by decide, rfl, by decide, apart, keyed, later_replayed, ?_⟩
  intro isolated
  obtain ⟨response, alone, after⟩ := isolated.response
  rw [later_alone] at alone
  rw [later_replayed, ← alone] at after
  have users := congrArg answeredUser after
  exact absurd users (by decide +kernel)

/-- Two days after it the record is gone and the second user is served as if alone. -/
theorem expired_key_isolates :
    earlier.user ≠ muchLater.user ∧ earlier.idempotencyKey = muchLater.idempotencyKey ∧
      lastStepAt earlier 3 ≤ muchLater.claimedAt ∧
      Apart platform earlier.user muchLater.user earlier.request ∧
      KeyedSubscriptions start.dbs ∧ ¬ Occupies platform environ earlier muchLater 3 start ∧
      Isolated platform environ earlier muchLater 3 start := by
  have different : earlier.user ≠ muchLater.user := by decide
  have before : lastStepAt earlier 3 ≤ muchLater.claimedAt := by decide
  have free : ¬ Occupies platform environ earlier muchLater 3 start := by
    rintro ⟨-, -, -, -, kept⟩
    exact absurd kept (by decide)
  exact ⟨different, rfl, before, apart, keyed, free,
    (isolated_iff different rfl before apart keyed).mpr free⟩

end Sample

end KisAutoTrading.Replay.UserIsolation
