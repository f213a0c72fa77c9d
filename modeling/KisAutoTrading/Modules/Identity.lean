/-
# Modules.Identity — accounts, login and the operator grant

`signup`, `login` and `grant_operator_access` over the identity database. An account is
found by its normalized email, which the table keeps unique. `login` is in two parts, the
transaction that reads the account and what it does with it; `grant_operator_access` is
here up to the commit, and goes on to revoke the account's sessions.

`str.lower` and the password functions are `Runtime`. Ids, salts, secrets and the clock
are arguments.
-/
import KisAutoTrading.Infrastructure.SessionStore
import KisAutoTrading.Theory.Table

namespace KisAutoTrading

open Theory

set_option autoImplicit false

structure LoginAccount where
  userId : Uuid
  email : String
  passwordHash : String
  isActive : Bool := true
  accessLevel : String := "user"
  shardId : String
  createdAt : Instant
  deriving DecidableEq

structure AccessLevelAudit where
  auditId : Uuid
  subjectUserId : Uuid
  actor : String
  previousAccessLevel : String
  newAccessLevel : String
  changedAt : Instant

structure IdentityStore where
  loginAccounts : Table Uuid LoginAccount
  accessLevelAudits : Table Uuid AccessLevelAudit

def IdentityStore.empty : IdentityStore := ⟨∅, ∅⟩

/-- `str.lower`, `hash_password` with its salt, and `verify_password`. -/
structure Runtime where
  lower : String → String
  hashPassword : List UInt8 → String → String
  verifyPassword : String → String → Except Failure Bool

namespace IdentityStore

/-- `find_by_email`. -/
def findByEmail (store : IdentityStore) (email : String) : Except Failure (Option LoginAccount) :=
  match store.loginAccounts.rows.filter fun account => account.email = email with
  | [] => .ok none
  | [account] => .ok (some account)
  | _ => .error (.raised .multipleResultsFound
      "Multiple rows were found when one or none was required")

/-- `save` of an account, with the unique constraint on its email. -/
def saveAccount (store : IdentityStore) (account : LoginAccount) : Except Failure IdentityStore :=
  if store.loginAccounts.rows.any fun row =>
      row.email = account.email && row.userId ≠ account.userId then
    .error (.raised .integrityError "duplicate key value violates unique constraint")
  else .ok { store with loginAccounts := store.loginAccounts.put account.userId account }

theorem findByEmail_some {store : IdentityStore} {email : String} {account : LoginAccount}
    (found : store.findByEmail email = .ok (some account)) :
    account ∈ store.loginAccounts.rows ∧ account.email = email := by
  unfold findByEmail at found
  split at found
  · cases found
  · rename_i only
    cases found
    have member : account ∈ store.loginAccounts.rows.filter fun row => row.email = email := by
      simp [only]
    simpa using List.mem_filter.mp member
  · cases found

theorem saveAccount_ok {store after : IdentityStore} {account : LoginAccount}
    (saved : store.saveAccount account = .ok after) :
    after = { store with loginAccounts := store.loginAccounts.put account.userId account } := by
  unfold saveAccount at saved
  split at saved
  · cases saved
  · exact (Except.ok.inj saved).symm

end IdentityStore

structure SignupRequest where
  email : String
  password : String

structure SignupResponse where
  userId : Uuid
  email : String
  isActive : Bool

structure LoginRequest where
  email : String
  password : String

structure LoginResponse where
  userId : Uuid
  accessToken : String
  tokenType : String

namespace Runtime

variable (R : Runtime)

/-- `email.strip().lower()`. -/
def normalizeEmail (email : String) : String := R.lower (pyStrip email)

/-- `signup`. -/
def signup (request : SignupRequest) (userId : Uuid) (salt : List UInt8) (now : Instant)
    (store : IdentityStore) : Except Failure (SignupResponse × IdentityStore) := do
  let email := R.normalizeEmail request.email
  match ← store.findByEmail email with
  | some _ => .error (.http 409 "Email is already registered")
  | none =>
      let account : LoginAccount := {
        userId
        email
        passwordHash := R.hashPassword salt request.password
        isActive := true
        accessLevel := "user"
        shardId := shardIdFor userId
        createdAt := now }
      let store ← store.saveAccount account
      return (⟨account.userId, account.email, account.isActive⟩, store)

/-- `login` once the account was looked up: the account that is logged in. -/
def accepted (password : String) (found : Option LoginAccount) : Except Failure LoginAccount :=
  match found with
  | none => .error (.http 401 "Invalid credentials")
  | some account => do
      let valid ← R.verifyPassword password account.passwordHash
      if account.isActive && valid then return account
      else .error (.http 401 "Invalid credentials")

end Runtime

/-- The session `login` creates; the secret of its id is drawn. -/
def LoginAccount.session (account : LoginAccount) (secret : String) :
    Except Failure SessionData := do
  let accessToken ← createSessionId account.userId.str secret
  return {
    sessionId := accessToken
    userId := account.userId.str
    data := [("shard_id", .str account.shardId), ("access_level", .str account.accessLevel)] }

/-- What the key of that session holds. -/
def LoginAccount.payload (account : LoginAccount) : SessionPayload where
  userId := account.userId.str
  data := [("shard_id", .str account.shardId), ("access_level", .str account.accessLevel)]

/-- `login` with nothing in between. -/
def Runtime.login (R : Runtime) (request : LoginRequest) (secret : String) (now : Instant)
    (identity : IdentityStore) (keys : SessionKeys) :
    Except Failure (LoginResponse × SessionData × SessionKeys) := do
  let found ← identity.findByEmail (R.normalizeEmail request.email)
  let account ← R.accepted request.password found
  let session ← account.session secret
  let keys ← RedisSessionStore.create now keys session
  return (⟨account.userId, session.sessionId, "bearer"⟩, session, keys)

/-- The transaction of `grant_operator_access`: the account, and whether it was changed. -/
def Runtime.grant (R : Runtime) (email actor : String) (auditId : Uuid) (now : Instant)
    (store : IdentityStore) : Except Failure ((Uuid × Bool) × IdentityStore) := do
  let email := R.normalizeEmail email
  let actor := pyStrip actor
  if email = "" then .error (.raised .valueError "email must not be empty")
  else if actor = "" then .error (.raised .valueError "actor must not be empty")
  else
    match ← store.findByEmail email with
    | none => .error (.raised .lookupError "identity account was not found")
    | some account =>
        if account.accessLevel = "user" then
          let store ← store.saveAccount { account with accessLevel := "operator" }
          return ((account.userId, true), { store with
            accessLevelAudits := store.accessLevelAudits.put auditId
              ⟨auditId, account.userId, actor, "user", "operator", now⟩ })
        else if account.accessLevel ≠ "operator" then
          .error (.raised .valueError "only user-to-operator access grants are supported")
        else return ((account.userId, false), store)

section Lemmas

variable {R : Runtime}

theorem accepted_ok {password : String} {found : Option LoginAccount} {account : LoginAccount}
    (logged : R.accepted password found = .ok account) : found = some account := by
  cases found with
  | none => cases logged
  | some row =>
      simp only [Runtime.accepted, bind, Except.bind] at logged
      split at logged
      · cases logged
      · split at logged
        · cases logged
          rfl
        · cases logged

theorem LoginAccount.session_ok {account : LoginAccount} {secret : String} {session : SessionData}
    (created : account.session secret = .ok session) :
    createSessionId account.userId.str secret = .ok session.sessionId ∧
      session.userId = account.userId.str ∧
      session.data =
        [("shard_id", .str account.shardId), ("access_level", .str account.accessLevel)] := by
  unfold LoginAccount.session at created
  cases drawn : createSessionId account.userId.str secret with
  | error failure =>
      rw [drawn] at created
      cases created
  | ok accessToken =>
      rw [drawn] at created
      cases created
      exact ⟨rfl, rfl, rfl⟩

/-- A grant that goes through leaves its account at operator level. -/
theorem grant_ok {email actor : String} {auditId userId : Uuid} {changed : Bool} {now : Instant}
    {store after : IdentityStore}
    (granted : R.grant email actor auditId now store = .ok ((userId, changed), after)) :
    ∃ account ∈ store.loginAccounts.rows, account.userId = userId ∧
      (account.accessLevel = "user" ∧ after.loginAccounts = store.loginAccounts.put userId
          { account with accessLevel := "operator" } ∨
        account.accessLevel = "operator" ∧ after = store) := by
  unfold Runtime.grant at granted
  simp only at granted
  split at granted
  · cases granted
  split at granted
  · cases granted
  cases found : store.findByEmail (R.normalizeEmail email) with
  | error failure => simp [found, bind, Except.bind] at granted
  | ok held =>
      cases held with
      | none => simp [found, bind, Except.bind] at granted
      | some account =>
          obtain ⟨member, -⟩ := IdentityStore.findByEmail_some found
          simp only [found, bind, Except.bind] at granted
          split at granted
          · rename_i level
            split at granted
            · cases granted
            · rename_i saved save
              cases granted
              obtain rfl := IdentityStore.saveAccount_ok save
              exact ⟨account, member, rfl, .inl ⟨level, rfl⟩⟩
          · split at granted
            · cases granted
            · rename_i level
              cases granted
              exact ⟨account, member, rfl, .inr ⟨not_not.mp level, rfl⟩⟩

end Lemmas

end KisAutoTrading
