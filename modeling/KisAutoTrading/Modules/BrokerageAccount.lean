/-
# Modules.BrokerageAccount — the connection to the deployment's brokerage account

`link_default_connection`. There is one account in a deployment, configured by
environment variables, and one user it is assigned to; every other user is refused
before anything is read (`_connection_location`).
-/
import KisAutoTrading.Infrastructure.Database

namespace KisAutoTrading

open Theory

set_option autoImplicit false

/-- `os.environ`. -/
abbrev Environ : Type := String → Option String

structure KisAccountCredentials where
  accountNumber : String
  accountProductCode : String
  environment : String

/-- The checks of `KisAccountCredentials.__post_init__`; an error is the message of
its `KisAccountConfigurationError`. -/
def KisAccountCredentials.validate (credentials : KisAccountCredentials) :
    Except String KisAccountCredentials :=
  if isDecimal credentials.accountNumber = false ∨
      credentials.accountNumber.toList.length ≠ 8 then
    .error "KIS account number must be eight decimal digits"
  else if isDecimal credentials.accountProductCode = false ∨
      credentials.accountProductCode.toList.length ≠ 2 then
    .error "KIS account product code must be two decimal digits"
  else if credentials.environment ∉ ["real", "demo"] then
    .error "KIS account environment must be 'real' or 'demo'"
  else .ok credentials

def kisAccountVariables : List String :=
  ["KIS_ACCOUNT_NUMBER", "KIS_ACCOUNT_PRODUCT_CODE", "KIS_ACCOUNT_ENVIRONMENT"]

/-- `KisAccountCredentials.from_environment`. -/
def KisAccountCredentials.fromEnvironment (environ : Environ) :
    Except String KisAccountCredentials :=
  let value (name : String) : String := (environ name).getD ""
  let missing := kisAccountVariables.filter fun name => value name = ""
  if missing ≠ [] then
    .error ("Missing required KIS environment variables: " ++ ", ".intercalate missing)
  else
    KisAccountCredentials.validate
      ⟨value "KIS_ACCOUNT_NUMBER", value "KIS_ACCOUNT_PRODUCT_CODE",
        value "KIS_ACCOUNT_ENVIRONMENT"⟩

def credentialRef : String := "kis:default"
def provider : String := "kis"
def displayName : String := "KIS default account"
def ownerEnv : String := "KIS_ACCOUNT_OWNER_USER_ID"

/-- `_connection_location`. -/
def connectionLocation (environ : Environ) (session : SessionData) :
    Except Failure (Uuid × ShardTarget) :=
  match session.data.get "shard_id" with
  | some (.str shardId) =>
      if shardId = "" then .error (.http 500 "Session shard is missing")
      else
        match Uuid.ofStr session.userId, (environ ownerEnv).bind Uuid.ofStr with
        | some userId, some ownerUserId =>
            if userId ≠ ownerUserId then
              .error (.http 403 "KIS account is not assigned to this user")
            else .ok (userId, ⟨"account", some shardId⟩)
        | _, _ => .error (.http 503 "KIS account owner is not configured")
  | _ => .error (.http 500 "Session shard is missing")

/-- `_connection_location` is `_profile_location` with a check of the user. -/
theorem connectionLocation_ok {environ : Environ} {session : SessionData}
    {location : Uuid × ShardTarget} (located : connectionLocation environ session = .ok location) :
    sessionLocation session = .ok location := by
  unfold connectionLocation at located
  split at located
  · rename_i shardId stored
    unfold sessionLocation
    rw [stored]
    simp only
    split at located
    · cases located
    · rename_i named
      rw [if_neg named]
      split at located
      · rename_i userId ownerUserId user _
        rw [user]
        split at located
        · cases located
        · exact located
      · cases located
  · cases located

/-- `_account_credentials`. -/
def accountCredentials (environ : Environ) : Except Failure KisAccountCredentials :=
  match KisAccountCredentials.fromEnvironment environ with
  | .ok credentials => .ok credentials
  | .error _ => .error (.http 503 "KIS account credentials are not configured")

def connectionName (userId : Uuid) : String :=
  "autoforge:" ++ (userId.str ++ (":" ++ credentialRef))

/-- `_connection_id`. -/
def Platform.connectionId (P : Platform) (userId : Uuid) : Uuid :=
  P.uuid5 namespaceUrl (connectionName userId)

/-- `_matches_deployment`. -/
def matchesDeployment (connection : BrokerageAccountConnection)
    (environment accountMask : String) : Bool :=
  connection.provider = provider && connection.environment = environment &&
    connection.displayName = displayName && connection.accountMask = accountMask &&
    connection.credentialRef = credentialRef && connection.status = "active"

/-- The last four characters of the account number behind asterisks. -/
def KisAccountCredentials.accountMask (credentials : KisAccountCredentials) : String :=
  "****" ++ String.ofList (credentials.accountNumber.toList.reverse.take 4).reverse

/-- The event `link_default_connection` enqueues. -/
def connectionLinked (connection : BrokerageAccountConnection) (target : ShardTarget)
    (eventId : String) (now : Instant) : OutboxEventRecord :=
  outboxRecord {
    eventType := "brokerage.account.connection-linked"
    aggregateId := connection.connectionId.str
    routingKey := "brokerage.account.connection-linked"
    payload := [
      ("connection_id", .str connection.connectionId.str),
      ("user_id", .str connection.userId.str),
      ("shard_id", .str (target.shardId.getD "")),
      ("provider", .str provider),
      ("status", .str connection.status)]
    eventId
    occurredAt := now }

/-- The transaction of `link_default_connection`. -/
def AccountShard.linkConnection (shard : AccountShard) (credentials : KisAccountCredentials)
    (connectionId userId : Uuid) (target : ShardTarget) (eventId : String) (now : Instant) :
    Except Failure (BrokerageAccountConnection × AccountShard) :=
  let write (createdAt : Instant) : BrokerageAccountConnection × AccountShard :=
    let connection : BrokerageAccountConnection :=
      ⟨connectionId, userId, provider, credentials.environment, displayName,
        credentials.accountMask, credentialRef, "active", createdAt, now⟩
    (connection, { shard with
      connections := shard.connections.put connectionId connection
      outbox := shard.outbox ++ [connectionLinked connection target eventId now] })
  match shard.connections.find connectionId with
  | some existing =>
      if existing.userId ≠ userId then
        .error (.http 409 "Brokerage account ownership conflicts")
      else if matchesDeployment existing credentials.environment credentials.accountMask then
        .ok (existing, shard)
      else .ok (write existing.createdAt)
  | none => .ok (write now)

/-- `link_default_connection`. -/
def Platform.linkDefaultConnection (P : Platform) (environ : Environ) (session : SessionData)
    (eventId : String) (now : Instant) (dbs : Databases) :
    Except Failure (BrokerageAccountConnection × Databases) := do
  let (userId, target) ← connectionLocation environ session
  let credentials ← accountCredentials environ
  dbs.accountSession target fun shard =>
    shard.linkConnection credentials (P.connectionId userId) userId target eventId now

/-- `jsonable_encoder` of a connection. -/
def Platform.connectionJson (P : Platform) (connection : BrokerageAccountConnection) : Json := .obj [
  ("connection_id", .str connection.connectionId.str),
  ("user_id", .str connection.userId.str),
  ("provider", .str connection.provider),
  ("environment", .str connection.environment),
  ("display_name", .str connection.displayName),
  ("account_mask", .str connection.accountMask),
  ("credential_ref", .str connection.credentialRef),
  ("status", .str connection.status),
  ("created_at", P.dumpDatetime (.aware connection.createdAt)),
  ("updated_at", P.dumpDatetime (.aware connection.updatedAt))]

end KisAutoTrading
