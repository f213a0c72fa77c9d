/-
# Identity.OperatorGrant — a grant and the sessions with the old access level

`login` reads the account in a transaction of its own and creates the session later, with
the access level it read. `grant_operator_access` commits the new level, then reads the
set of the user's sessions, then deletes what it read. Any number of logins interleave
with one grant, a transaction or a session-store command at a time.

A session of the old level that is created before the `SMEMBERS` is in the set and goes
with it. `fresh_logins_leave_operator_sessions`: where no login creates, after the
`SMEMBERS`, a session from an account that has changed since it was read, the sessions of
the account all have the new level once the grant has returned. A login that does leaves a
session with the old one (`Slow`).
-/
import KisAutoTrading.Modules.Identity
import KisAutoTrading.Sessions.Index

namespace KisAutoTrading.Identity.OperatorGrant

open Theory Theory.Runs RedisSessionStore Sessions.Index

set_option autoImplicit false

/-- `OperatorGrantResult`. -/
structure OperatorGrantResult where
  userId : Uuid
  changed : Bool
  revokedSessionCount : Nat

/-- Where `grant_operator_access` is. -/
inductive Grant where
  | waiting
  /-- The transaction has committed. -/
  | committed (userId : Uuid) (changed : Bool)
  /-- The session ids that `SMEMBERS` answered. -/
  | read (userId : Uuid) (changed : Bool) (sessionIds : List String)
  | returned (result : OperatorGrantResult)
  | raised (failure : Failure)

/-- What a login has read and not acted on yet. -/
inductive Login where
  | idle
  | read (password : String) (found : Option LoginAccount)

structure State where
  now : Instant
  identity : IdentityStore
  keys : SessionKeys
  logins : Nat → Login
  grant : Grant

inductive Action where
  | wait (duration : Nat)
  /-- The transaction of a `login`. -/
  | login (client : Nat) (request : LoginRequest)
  /-- The rest of it; the secret of the session id is drawn. -/
  | createSession (client : Nat) (secret : String)
  | grant (email actor : String) (auditId : Uuid)
  | smembers
  | delete

/-- `login` from the account on: the session keys, changed if it is accepted. -/
def afterRead (R : Runtime) (now : Instant) (keys : SessionKeys) (secret password : String)
    (found : Option LoginAccount) : Except Failure SessionKeys := do
  let account ← R.accepted password found
  let session ← account.session secret
  create now keys session

/-- `revoke_user_sessions` after its `SMEMBERS`: an empty set is left alone. -/
def afterMembers (userId : Uuid) (changed : Bool) : Except Failure (List String) → Grant
  | .ok [] => .returned ⟨userId, changed, 0⟩
  | .ok sessionIds => .read userId changed sessionIds
  | .error failure => .raised failure

section Step

variable (R : Runtime)

def step (s : State) : Action → State
  | .wait duration => { s with now := s.now + duration }
  | .login client request =>
      match s.identity.findByEmail (R.normalizeEmail request.email) with
      | .ok found =>
          { s with logins := Function.update s.logins client (.read request.password found) }
      | .error _ => s
  | .createSession client secret =>
      match s.logins client with
      | .idle => s
      | .read password found =>
          let s := { s with logins := Function.update s.logins client .idle }
          match afterRead R s.now s.keys secret password found with
          | .ok keys => { s with keys }
          | .error _ => s
  | .grant email actor auditId =>
      match s.grant with
      | .waiting =>
          match R.grant email actor auditId s.now s.identity with
          | .ok ((userId, changed), identity) =>
              { s with identity, grant := .committed userId changed }
          | .error failure => { s with grant := .raised failure }
      | _ => s
  | .smembers =>
      match s.grant with
      | .committed userId changed =>
          { s with grant := afterMembers userId changed (members s.now s.keys userId.str) }
      | _ => s
  | .delete =>
      match s.grant with
      | .read userId changed sessionIds =>
          match removeAll s.keys userId.str sessionIds with
          | .ok keys => { s with keys, grant := .returned ⟨userId, changed, sessionIds.length⟩ }
          | .error failure => { s with grant := .raised failure }
      | _ => s

/-- Secrets are not empty. -/
def Drawn : Action → Prop
  | .createSession _ secret => secret ≠ ""
  | _ => True

/-- The grant has read the set of this user's sessions. -/
def HasRead (userId : Uuid) : Grant → Prop
  | .read user _ _ => user = userId
  | .returned result => result.userId = userId
  | _ => False

/-- A login that is accepted after the grant's `SMEMBERS` read the account as it is now. -/
def Fresh (s : State) : Action → Prop
  | .createSession client _ => ∀ password account,
      s.logins client = .read password (some account) →
      R.accepted password (some account) = .ok account → HasRead account.userId s.grant →
      account ∈ s.identity.loginAccounts.rows
  | _ => True

end Step

/-- The access level a session carries. -/
def accessLevel (payload : SessionPayload) : Option String :=
  match payload.data.get "access_level" with
  | some (.str level) => some level
  | _ => none

/-- Once the grant has returned, every live session of its account is at operator level. -/
def Elevated (s : State) : Prop :=
  ∀ result, s.grant = .returned result → ∀ key payload,
    s.keys.sessions.get s.now key = some payload → payload.userId = result.userId.str →
    accessLevel payload = some "operator"

/-! ## The invariant -/

/-- Every live session of the user is at operator level, but for those under `keys`. -/
def ElevatedBut (keys : List String) (userId : Uuid) (s : State) : Prop :=
  ∀ key payload last, s.keys.sessions key = some (payload, last) → s.now ≤ last →
    payload.userId = userId.str → key ∈ keys ∨ accessLevel payload = some "operator"

/-- The account has its new level. -/
def Promoted (userId : Uuid) (s : State) : Prop :=
  ∀ account ∈ s.identity.loginAccounts.rows, account.userId = userId →
    account.accessLevel = "operator"

/-- What is known at each point of the grant. -/
def Reached (s : State) : Grant → Prop
  | .waiting => StoreInv s.now s.keys.sessions s.keys.userSets
  | .committed userId _ => Promoted userId s ∧ StoreInv s.now s.keys.sessions s.keys.userSets
  | .read userId _ sessionIds => Promoted userId s ∧
      (∀ sessionId ∈ sessionIds, Made userId.str sessionId) ∧
      ElevatedBut (sessionIds.map (sessionAt userId.str)) userId s
  | .returned result => Promoted result.userId s ∧ ElevatedBut [] result.userId s
  | .raised _ => True

structure Inv (s : State) : Prop where
  keyed : s.identity.loginAccounts.Keyed (·.userId)
  reached : Reached s s.grant

variable {R : Runtime} {s : State}

/-! ## One step -/

/-- A session is created only by an accepted login, with the account as the login read it. -/
theorem afterRead_ok {now : Instant} {keys after : SessionKeys} {secret password : String}
    {found : Option LoginAccount} (drawn : secret ≠ "")
    (created : afterRead R now keys secret password found = .ok after) :
    ∃ account sessionId, found = some account ∧ R.accepted password found = .ok account ∧
      Made account.userId.str sessionId ∧ after = {
        sessions := keys.sessions.set (sessionAt account.userId.str sessionId) account.payload
          (now + seconds ttlSeconds)
        userSets := keys.userSets.set (indexAt account.userId.str)
          (((keys.userSets.get now (indexAt account.userId.str)).getD []).insert sessionId)
          (now + seconds ttlSeconds) } := by
  unfold afterRead at created
  cases logged : R.accepted password found with
  | error failure => simp [logged, bind, Except.bind] at created
  | ok account =>
      cases made : account.session secret with
      | error failure => simp [logged, made, bind, Except.bind] at created
      | ok session =>
          simp only [logged, made, bind, Except.bind] at created
          obtain ⟨named, owner, data⟩ := account.session_ok made
          have issued := made_of_createSessionId drawn named
          obtain ⟨-, rfl⟩ := create_ok issued created
          refine ⟨account, session.sessionId, accepted_ok logged, rfl, issued, ?_⟩
          rw [owner, data]
          rfl

/-- What was reached is about the stores and the clock only. -/
theorem Reached.regardless {grant : Grant} (reached : Reached s grant) (logins : Nat → Login)
    (phase : Grant) : Reached { s with logins, grant := phase } grant := by
  cases grant with
  | waiting => exact reached
  | committed userId changed => exact reached
  | read userId changed sessionIds => exact reached
  | returned result => exact reached
  | raised failure => trivial

/-- Time only ends sessions. -/
theorem Reached.wait {grant : Grant} (reached : Reached s grant) (duration : Nat) :
    Reached { s with now := s.now + duration } grant := by
  have later : s.now ≤ s.now + duration := Int.le_add_of_nonneg_right (Int.natCast_nonneg duration)
  have still : ∀ keys userId, ElevatedBut keys userId s →
      ElevatedBut keys userId { s with now := s.now + duration } := by
    intro keys userId elevated key payload last entry alive mine
    exact elevated key payload last entry (le_trans later alive) mine
  cases grant with
  | waiting => exact StoreInv.wait reached duration
  | committed userId changed => exact ⟨reached.1, StoreInv.wait reached.2 duration⟩
  | read userId changed sessionIds => exact ⟨reached.1, reached.2.1, still _ _ reached.2.2⟩
  | returned result => exact ⟨reached.1, still _ _ reached.2⟩
  | raised failure => trivial

/-- A new session of the user is at operator level if the login read the account as it is. -/
theorem ElevatedBut.create {keys : List String} {userId : Uuid} {account : LoginAccount}
    {sessionId : String} {userSets : Expiring String (List String) Instant} {last : Instant}
    (elevated : ElevatedBut keys userId s) (promoted : Promoted userId s)
    (fresh : account.userId = userId → account ∈ s.identity.loginAccounts.rows) :
    ElevatedBut keys userId { s with
      keys := ⟨s.keys.sessions.set (sessionAt account.userId.str sessionId) account.payload last,
        userSets⟩ } := by
  intro key payload bound entry alive mine
  by_cases same : key = sessionAt account.userId.str sessionId
  · subst same
    simp only [Expiring.set_self, Option.some.injEq, Prod.mk.injEq] at entry
    obtain ⟨rfl, rfl⟩ := entry
    have owner : account.userId = userId := Uuid.str_inj.mp mine
    have level := promoted account (fresh owner) owner
    right
    simp [accessLevel, LoginAccount.payload, Dict.get, level, List.lookup_cons]
  · simp only [Expiring.set_of_ne _ _ same] at entry
    exact elevated key payload bound entry alive mine

theorem reached_create {secret password : String} {found : Option LoginAccount}
    {keys : SessionKeys} (drawn : secret ≠ "") (reached : Reached s s.grant)
    (fresh : ∀ account, found = some account → R.accepted password (some account) = .ok account →
      HasRead account.userId s.grant → account ∈ s.identity.loginAccounts.rows)
    (created : afterRead R s.now s.keys secret password found = .ok keys) :
    Reached { s with keys } s.grant := by
  obtain ⟨account, sessionId, rfl, logged, made, rfl⟩ := afterRead_ok drawn created
  have read := fresh account rfl logged
  cases phase : s.grant with
  | waiting =>
      rw [phase] at reached
      exact StoreInv.create reached made _
  | committed userId changed =>
      rw [phase] at reached
      exact ⟨reached.1, StoreInv.create reached.2 made _⟩
  | read userId changed sessionIds =>
      rw [phase] at reached read
      exact ⟨reached.1, reached.2.1,
        reached.2.2.create reached.1 fun owner => read owner.symm⟩
  | returned result =>
      rw [phase] at reached read
      exact ⟨reached.1, reached.2.create reached.1 fun owner => read owner.symm⟩
  | raised failure => trivial

/-- The commit of the grant. -/
theorem promoted_grant {email actor : String} {auditId userId : Uuid} {changed : Bool}
    {identity : IdentityStore} (keyed : s.identity.loginAccounts.Keyed (·.userId))
    (granted : R.grant email actor auditId s.now s.identity = .ok ((userId, changed), identity)) :
    identity.loginAccounts.Keyed (·.userId) ∧
      ∀ account ∈ identity.loginAccounts.rows, account.userId = userId →
        account.accessLevel = "operator" := by
  obtain ⟨account, member, rfl, ⟨-, after⟩ | ⟨level, rfl⟩⟩ := grant_ok granted
  · have kept : identity.loginAccounts.Keyed (·.userId) := by
      rw [after]
      exact keyed.put { account with accessLevel := "operator" }
    refine ⟨kept, ?_⟩
    intro row rowMember owner
    have found := kept.mem_rows_iff.mp rowMember
    rw [owner, after, Table.find_put_self] at found
    rw [← Option.some.inj found]
  · refine ⟨keyed, ?_⟩
    intro row rowMember owner
    have found := keyed.mem_rows_iff.mp rowMember
    rw [owner, keyed.mem_rows_iff.mp member] at found
    rw [← Option.some.inj found]
    exact level

/-- The `SMEMBERS` of the grant: it reads every live session of the user. -/
theorem reached_members {userId : Uuid} {changed : Bool} (promoted : Promoted userId s)
    (store : StoreInv s.now s.keys.sessions s.keys.userSets)
    {answer : Except Failure (List String)} (read : members s.now s.keys userId.str = answer) :
    Reached s (afterMembers userId changed answer) := by
  have reads : members s.now s.keys userId.str =
      .ok ((s.keys.userSets.get s.now (indexAt userId.str)).getD []) := by
    simp only [members, userKey_ok userId.str_ne_empty]
    rfl
  have covered : ElevatedBut
      (((s.keys.userSets.get s.now (indexAt userId.str)).getD []).map (sessionAt userId.str))
      userId s := by
    intro key payload last entry alive mine
    obtain ⟨⟨sessionId, -, rfl⟩, -⟩ := store.keyed key payload last entry
    obtain ⟨read, set, member⟩ := store.set_alive entry alive
    rw [mine] at set ⊢
    rw [set]
    exact .inl (List.mem_map_of_mem member)
  have made : ∀ sessionId ∈ (s.keys.userSets.get s.now (indexAt userId.str)).getD [],
      Made userId.str sessionId := by
    cases set : s.keys.userSets.get s.now (indexAt userId.str) with
    | none =>
        intro sessionId member
        cases member
    | some read =>
        obtain ⟨bound, entry, -⟩ := (Expiring.get_eq_some _ _).mp set
        exact store.made userId.str read bound entry
  rw [← read, reads]
  generalize (s.keys.userSets.get s.now (indexAt userId.str)).getD [] = read at covered made
  cases read with
  | nil => exact ⟨promoted, covered⟩
  | cons first rest => exact ⟨promoted, made, covered⟩

/-- The `DEL` of the grant. -/
theorem elevated_removeAll {userId : Uuid} {sessionIds : List String} {keys : SessionKeys}
    (made : ∀ sessionId ∈ sessionIds, Made userId.str sessionId)
    (elevated : ElevatedBut (sessionIds.map (sessionAt userId.str)) userId s)
    (removed : removeAll s.keys userId.str sessionIds = .ok keys) :
    ElevatedBut [] userId { s with keys } := by
  have after : keys = {
      sessions := (sessionIds.map (sessionAt userId.str)).foldl Expiring.delete s.keys.sessions
      userSets := s.keys.userSets.delete (indexAt userId.str) } := by
    simpa [RedisSessionStore.removeAll, userKey_ok userId.str_ne_empty, sessionKeys_ok made, bind, Except.bind, pure,
      Except.pure] using removed.symm
  subst after
  intro key payload last entry alive mine
  simp only [Expiring.foldl_delete] at entry
  split at entry
  · cases entry
  · rename_i absent
    rcases elevated key payload last entry alive mine with member | level
    · exact absurd member absent
    · exact .inr level

theorem Inv.enter (inv : Inv s) {next : Grant} (reached : Reached s next) :
    Inv { s with grant := next } :=
  ⟨inv.keyed, reached.regardless s.logins next⟩

theorem inv_step (action : Action) (inv : Inv s) (allowed : Drawn action ∧ Fresh R s action) :
    Inv (step R s action) := by
  cases action with
  | wait duration => exact ⟨inv.keyed, inv.reached.wait duration⟩
  | login client request =>
      simp only [step]
      cases s.identity.findByEmail (R.normalizeEmail request.email) with
      | ok found => exact ⟨inv.keyed, inv.reached.regardless _ _⟩
      | error failure => exact inv
  | createSession client secret =>
      simp only [step]
      cases held : s.logins client with
      | idle => exact inv
      | read password found =>
          simp only
          cases created : afterRead R s.now s.keys secret password found with
          | error failure => exact ⟨inv.keyed, inv.reached.regardless _ _⟩
          | ok keys =>
              have kept : Reached { s with keys } s.grant := by
                refine reached_create allowed.1 inv.reached ?_ created
                rintro account rfl
                exact allowed.2 password account held
              exact ⟨inv.keyed, kept.regardless _ _⟩
  | grant email actor auditId =>
      simp only [step]
      cases phase : s.grant with
      | waiting =>
          have store := inv.reached
          rw [phase] at store
          simp only
          cases granted : R.grant email actor auditId s.now s.identity with
          | error failure => exact ⟨inv.keyed, trivial⟩
          | ok answer =>
              obtain ⟨⟨userId, changed⟩, identity⟩ := answer
              obtain ⟨keyed, promoted⟩ := promoted_grant inv.keyed granted
              exact ⟨keyed, promoted, store⟩
      | _ => exact inv
  | smembers =>
      simp only [step]
      cases phase : s.grant with
      | committed userId changed =>
          have reached := inv.reached
          rw [phase] at reached
          obtain ⟨promoted, store⟩ := reached
          simp only
          generalize read : members s.now s.keys userId.str = answer
          exact inv.enter (reached_members promoted store read)
      | _ => exact inv
  | delete =>
      simp only [step]
      cases phase : s.grant with
      | read userId changed sessionIds =>
          have reached := inv.reached
          rw [phase] at reached
          obtain ⟨promoted, made, elevated⟩ := reached
          simp only
          cases removed : removeAll s.keys userId.str sessionIds with
          | error failure => exact ⟨inv.keyed, trivial⟩
          | ok keys => exact ⟨inv.keyed, promoted, elevated_removeAll made elevated removed⟩
      | _ => exact inv

theorem Inv.elevated (inv : Inv s) : Elevated s := by
  intro result returned key payload found mine
  have reached := inv.reached
  rw [returned] at reached
  obtain ⟨last, entry, alive⟩ := (Expiring.get_eq_some _ _).mp found
  rcases reached.2 key payload last entry alive mine with member | level
  · cases member
  · exact level

/-- Before the grant: an account per user, and the session store as it keeps itself. -/
structure Start (s : State) : Prop where
  keyed : s.identity.loginAccounts.Keyed (·.userId)
  indexed : StoreInv s.now s.keys.sessions s.keys.userSets
  waiting : s.grant = .waiting

/-- **Where logins that end after the grant's `SMEMBERS` read the account as it is, the grant
leaves operator sessions only.** -/
theorem fresh_logins_leave_operator_sessions {start : State} (ready : Start start)
    {trace : List Action}
    (fresh : Admissible (step R) (fun s action => Drawn action ∧ Fresh R s action) start trace) :
    Elevated (exec (step R) start trace) := by
  have first : Inv start := by
    refine ⟨ready.keyed, ?_⟩
    rw [ready.waiting]
    exact ready.indexed
  have inv : Inv (exec (step R) start trace) :=
    exec_invariant (fun _ action inv allowed => inv_step action inv allowed) first fresh
  exact inv.elevated

/-! ## A slow login -/

namespace Slow

/-- Passwords are kept as they are. -/
def runtime : Runtime where
  lower := id
  hashPassword _ password := password
  verifyPassword password hash := .ok (password == hash)

def userId : Uuid := 7

def account : LoginAccount where
  userId := userId
  email := "operator@example.com"
  passwordHash := "secret"
  shardId := "1"
  createdAt := 0

def start : State where
  now := 0
  identity := ⟨(∅ : Table Uuid LoginAccount).put userId account, ∅⟩
  keys := ⟨Expiring.empty, Expiring.empty⟩
  logins := fun _ => .idle
  grant := .waiting

def request : LoginRequest := ⟨"operator@example.com", "secret"⟩

def secret : String := "3VZ1Cq0nK2bq7sXh4mYt9wPzRfLdJgUeA5vNc8oTiEk"

def grantAll : List Action := [.grant "operator@example.com" "local-bootstrap" 1, .smembers, .delete]

def sessionId : String :=
  "MDAwMDAwMDAtMDAwMC0wMDAwLTAwMDAtMDAwMDAwMDAwMDA3.3VZ1Cq0nK2bq7sXh4mYt9wPzRfLdJgUeA5vNc8oTiEk"

/-- The login reads the account before the grant and creates its session after. -/
def trace : List Action := [.login 0 request] ++ grantAll ++ [.createSession 0 secret]

theorem start_ready : Start start :=
  ⟨(Table.keyed_empty _).put account, ⟨nofun, nofun, nofun⟩, rfl⟩

theorem returned : (exec (step runtime) start trace).grant = .returned ⟨userId, true, 0⟩ := by
  rfl

theorem session_alive : ((exec (step runtime) start trace).keys.sessions.get
    (exec (step runtime) start trace).now (sessionAt userId.str sessionId)).map
      (fun payload => (payload.userId, accessLevel payload)) = some (userId.str, some "user") := by
  decide +kernel

theorem slow_login_keeps_user_level :
    Start start ∧ Admissible (step runtime) (fun _ action => Drawn action) start trace ∧
      ¬ Elevated (exec (step runtime) start trace) := by
  refine ⟨start_ready, ?_, ?_⟩
  · exact ⟨trivial, trivial, trivial, trivial, (by decide : secret ≠ ""), trivial⟩
  · intro elevated
    obtain ⟨payload, found, both⟩ := Option.map_eq_some_iff.mp session_alive
    obtain ⟨owner, level⟩ := Prod.mk.inj both
    have raised := elevated _ returned _ payload found owner
    rw [level] at raised
    exact absurd raised (by decide)

/-- A session from before the grant goes, and a login after the grant is an operator's. -/
theorem prompt_logins_are_operators :
    Elevated (exec (step runtime) start
      ([.login 0 request, .createSession 0 secret] ++ grantAll ++
        [.wait 1000000, .login 1 request, .createSession 1 secret])) := by
  have drawn : secret ≠ "" := by decide
  refine fresh_logins_leave_operator_sessions start_ready ⟨⟨trivial, trivial⟩, ⟨drawn, ?_⟩,
    ⟨trivial, trivial⟩, ⟨trivial, trivial⟩, ⟨trivial, trivial⟩, ⟨trivial, trivial⟩,
    ⟨trivial, trivial⟩, ⟨drawn, ?_⟩, trivial⟩
  · intro password found here logged read
    exact read.elim
  · intro password found here logged read
    have promoted : Login.read "secret" (some { account with accessLevel := "operator" }) =
        .read password (some found) := here
    cases promoted
    exact List.mem_singleton_self _

end Slow

end KisAutoTrading.Identity.OperatorGrant
