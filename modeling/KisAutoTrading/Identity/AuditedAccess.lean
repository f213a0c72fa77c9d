/-
# Identity.AuditedAccess — who can get at the operator routes

Signups, logins and operator grants of any number of clients, in any order and each in the two
halves between which other clients get in: what a call reads of the accounts, and what it writes.
Sessions are refreshed, revoked and expire meanwhile.

`Inv` says that an account changes in its access level only, from "user" to "operator" and with
an audit record, and that a session tells what its account was. So whoever passes the check of
an operator route has logged in with a password of an account whose grant is on record
(`operator_access_is_audited`).
-/
import KisAutoTrading.Sessions.Credentials

namespace KisAutoTrading.Identity.AuditedAccess

open Theory Theory.Runs RedisSessionStore

set_option autoImplicit false

/-! ## The two halves of a call -/

section Halves

variable (R : Runtime)

/-- `signup` up to the hash: nobody has the email. -/
def signupRead (email : String) (store : IdentityStore) : Except Failure Unit := do
  match ← store.findByEmail (R.normalizeEmail email) with
  | some _ => .error (.http 409 "Email is already registered")
  | none => return ()

/-- The account `signup` makes. -/
def newAccount (request : SignupRequest) (userId : Uuid) (salt : List UInt8) (now : Instant) :
    LoginAccount where
  userId
  email := R.normalizeEmail request.email
  passwordHash := R.hashPassword salt request.password
  isActive := true
  accessLevel := "user"
  shardId := shardIdFor userId
  createdAt := now

/-- `grant_operator_access` up to its writes: the account, and whether there is anything to write. -/
def grantRead (email actor : String) (store : IdentityStore) :
    Except Failure (LoginAccount × Bool) := do
  let email := R.normalizeEmail email
  if email = "" then .error (.raised .valueError "email must not be empty")
  else if pyStrip actor = "" then .error (.raised .valueError "actor must not be empty")
  else
    match ← store.findByEmail email with
    | none => .error (.raised .lookupError "identity account was not found")
    | some account =>
        if account.accessLevel = "user" then return (account, true)
        else if account.accessLevel ≠ "operator" then
          .error (.raised .valueError "only user-to-operator access grants are supported")
        else return (account, false)

/-- The two writes of a grant. -/
def grantSave (account : LoginAccount) (actor : String) (auditId : Uuid) (now : Instant)
    (store : IdentityStore) : Except Failure IdentityStore := do
  let store ← store.saveAccount { account with accessLevel := "operator" }
  return { store with
    accessLevelAudits := store.accessLevelAudits.put auditId
      ⟨auditId, account.userId, pyStrip actor, "user", "operator", now⟩ }

/-- The halves of `signup` make it up. -/
theorem signup_eq (request : SignupRequest) (userId : Uuid) (salt : List UInt8) (now : Instant)
    (store : IdentityStore) :
    R.signup request userId salt now store = (do
      signupRead R request.email store
      let account := newAccount R request userId salt now
      let store ← store.saveAccount account
      return (⟨account.userId, account.email, account.isActive⟩, store)) := by
  simp only [Runtime.signup, signupRead, newAccount]
  cases store.findByEmail (R.normalizeEmail request.email) with
  | error failure => rfl
  | ok found => cases found <;> rfl

/-- The halves of `grant_operator_access` make it up. -/
theorem grant_eq (email actor : String) (auditId : Uuid) (now : Instant) (store : IdentityStore) :
    R.grant email actor auditId now store = (do
      let (account, change) ← grantRead R email actor store
      if change then
        let store ← grantSave account actor auditId now store
        return ((account.userId, true), store)
      else return ((account.userId, false), store)) := by
  simp only [Runtime.grant, grantRead]
  split
  · rfl
  split
  · rfl
  cases store.findByEmail (R.normalizeEmail email) with
  | error failure => rfl
  | ok found =>
      cases found with
      | none => rfl
      | some account =>
          simp only [bind, Except.bind]
          by_cases user : account.accessLevel = "user"
          · simp only [user, if_true, pure, Except.pure, grantSave, bind, Except.bind]
            cases store.saveAccount { account with accessLevel := "operator" } <;> rfl
          · by_cases operator : account.accessLevel = "operator"
            · simp [operator, pure, Except.pure]
            · simp [user, operator]

end Halves

/-! ## The system -/

/-- What a client has read and not written on yet. -/
inductive Phase where
  | idle
  | signingUp (request : SignupRequest)
  | loggingIn (request : LoginRequest) (found : Option LoginAccount)
  | granting (account : LoginAccount) (actor : String)

structure State where
  identity : IdentityStore
  sessions : Sessions.Index.State
  phases : Nat → Phase

def State.start (now : Instant) : State := ⟨.empty, Sessions.Index.empty now, fun _ => .idle⟩

def State.enter (s : State) (client : Nat) (phase : Phase) : State :=
  { s with phases := Function.update s.phases client phase }

inductive Action where
  | signup (client : Nat) (request : SignupRequest)
  | saveAccount (client : Nat) (userId : Uuid) (salt : List UInt8)
  | login (client : Nat) (request : LoginRequest)
  | createSession (client : Nat) (secret : String)
  | grant (client : Nat) (email actor : String)
  | saveGrant (client : Nat) (auditId : Uuid)
  /-- The session store, the revocation behind a grant included. -/
  | sessions (action : Sessions.Index.Action)

section Step

variable (R : Runtime)

/-- `login` behind its lookup. -/
def loginSession (request : LoginRequest) (found : Option LoginAccount) (secret : String) :
    Except Failure SessionData := do
  let account ← R.accepted request.password found
  account.session secret

def step (s : State) : Action → State
  | .signup client request =>
      match signupRead R request.email s.identity with
      | .ok () => s.enter client (.signingUp request)
      | .error _ => s.enter client .idle
  | .saveAccount client userId salt =>
      match s.phases client with
      | .signingUp request =>
          match s.identity.saveAccount (newAccount R request userId salt s.sessions.now) with
          | .ok identity => State.enter { s with identity } client .idle
          | .error _ => s.enter client .idle
      | _ => s
  | .login client request =>
      match s.identity.findByEmail (R.normalizeEmail request.email) with
      | .ok found => s.enter client (.loggingIn request found)
      | .error _ => s.enter client .idle
  | .createSession client secret =>
      match s.phases client with
      | .loggingIn request found =>
          match loginSession R request found secret with
          | .ok session =>
              State.enter { s with sessions := Sessions.Index.step s.sessions (.create session) }
                client .idle
          | .error _ => s.enter client .idle
      | _ => s
  | .grant client email actor =>
      match grantRead R email actor s.identity with
      | .ok (account, true) => s.enter client (.granting account actor)
      | _ => s.enter client .idle
  | .saveGrant client auditId =>
      match s.phases client with
      | .granting account actor =>
          match grantSave account actor auditId s.sessions.now s.identity with
          | .ok identity => State.enter { s with identity } client .idle
          | .error _ => s.enter client .idle
      | _ => s
  | .sessions action => { s with sessions := Sessions.Index.step s.sessions action }

/-- Drawn ids are new, and sessions are made by logins only. -/
def Allowed (s : State) : Action → Prop
  | .saveAccount _ userId _ => s.identity.loginAccounts.find userId = none
  | .saveGrant _ auditId => s.identity.accessLevelAudits.find auditId = none
  | .sessions (.create _) => False
  | _ => True

def run (now : Instant) (trace : List Action) : State := exec (step R) (.start now) trace

end Step

/-! ## The invariant -/

/-- An account as it may look later. -/
def Became (before after : LoginAccount) : Prop :=
  after = before ∨ before.accessLevel = "user" ∧ after = { before with accessLevel := "operator" }

/-- The account is there still, perhaps promoted since. -/
def Stored (store : IdentityStore) (before : LoginAccount) : Prop :=
  ∃ account ∈ store.loginAccounts.rows, Became before account

/-- The grant of an account is on record. -/
def OnRecord (store : IdentityStore) (userId : Uuid) : Prop :=
  ∃ audit ∈ store.accessLevelAudits.rows, audit.subjectUserId = userId ∧ audit.actor ≠ "" ∧
    audit.previousAccessLevel = "user" ∧ audit.newAccessLevel = "operator"

structure IdentityInv (store : IdentityStore) : Prop where
  keyed : store.loginAccounts.Keyed (·.userId)
  emails : ∀ a ∈ store.loginAccounts.rows, ∀ b ∈ store.loginAccounts.rows, a.email = b.email → a = b
  levels : ∀ a ∈ store.loginAccounts.rows,
    a.accessLevel = "user" ∨ a.accessLevel = "operator" ∧ OnRecord store a.userId
  audits : ∀ audit ∈ store.accessLevelAudits.rows, ∃ a ∈ store.loginAccounts.rows,
    a.userId = audit.subjectUserId ∧ a.accessLevel = "operator"

/-- Nothing is lost between two stores. -/
structure Later (before after : IdentityStore) : Prop where
  accounts : ∀ account ∈ before.loginAccounts.rows, Stored after account
  audits : ∀ audit ∈ before.accessLevelAudits.rows, audit ∈ after.accessLevelAudits.rows

section Invariant

variable (R : Runtime) (now : Instant)

/-- A login of the run found this, for the email of its request. -/
def HasRead (trace : List Action) (request : LoginRequest) (found : Option LoginAccount) : Prop :=
  ∃ front client back, trace = front ++ .login client request :: back ∧
    (run R now front).identity.findByEmail (R.normalizeEmail request.email) = .ok found

/-- What a client has read is there still. -/
def Fits (store : IdentityStore) (trace : List Action) : Phase → Prop
  | .loggingIn request found => HasRead R now trace request found
  | .granting account actor => Stored store account ∧ account.accessLevel = "user" ∧
      pyStrip actor ≠ ""
  | _ => True

/-- Every session is one of an account that a login had read and whose password was right. -/
def FromLogins (trace : List Action) (keys : SessionKeys) : Prop :=
  ∀ key payload last, keys.sessions key = some (payload, last) →
    ∃ request account, HasRead R now trace request (some account) ∧
      R.accepted request.password (some account) = .ok account ∧ payload = account.payload

structure Inv (trace : List Action) (s : State) : Prop where
  identity : IdentityInv s.identity
  phases : ∀ client, Fits R now s.identity trace (s.phases client)
  sessions : FromLogins R now trace s.sessions.store

/-- What a step has to show. -/
def Keeps (trace : List Action) (s after : State) : Prop :=
  Inv R now trace after ∧ Later s.identity after.identity

end Invariant

/-! ### The accounts -/

section Accounts

variable {store after : IdentityStore} {account : LoginAccount}

theorem Became.trans {a b c : LoginAccount} (first : Became a b) (second : Became b c) :
    Became a c := by
  rcases first with rfl | ⟨user, rfl⟩
  · exact second
  · rcases second with rfl | ⟨again, -⟩
    · exact .inr ⟨user, rfl⟩
    · exact absurd again (by decide : ("operator" : String) ≠ "user")

theorem Became.userId {a b : LoginAccount} (became : Became a b) : b.userId = a.userId := by
  rcases became with rfl | ⟨-, rfl⟩ <;> rfl

theorem Stored.later {later : IdentityStore} (stored : Stored store account)
    (kept : Later store later) : Stored later account := by
  obtain ⟨held, member, became⟩ := stored
  obtain ⟨last, there, promoted⟩ := kept.accounts held member
  exact ⟨last, there, became.trans promoted⟩

theorem Later.refl (store : IdentityStore) : Later store store :=
  ⟨fun account member => ⟨account, member, .inl rfl⟩, fun _ member => member⟩

theorem Later.trans {first second third : IdentityStore} (one : Later first second)
    (two : Later second third) : Later first third :=
  ⟨fun account member => (one.accounts account member).later two,
    fun audit member => two.audits audit (one.audits audit member)⟩

theorem OnRecord.later {userId : Uuid} (recorded : OnRecord store userId)
    (kept : Later store after) : OnRecord after userId := by
  obtain ⟨audit, member, told⟩ := recorded
  exact ⟨audit, kept.audits audit member, told⟩

/-- The unique constraint: nobody else has the email of a saved account. -/
theorem saveAccount_email (saved : store.saveAccount account = .ok after) {row : LoginAccount}
    (member : row ∈ store.loginAccounts.rows) (same : row.email = account.email) :
    row.userId = account.userId := by
  unfold IdentityStore.saveAccount at saved
  split at saved
  · cases saved
  · rename_i distinct
    by_contra other
    exact distinct (List.any_eq_true.mpr ⟨row, member, by simp [same, other]⟩)

/-- The accounts after a save: emails stay unique. -/
theorem IdentityInv.emails_save (inv : IdentityInv store)
    (saved : store.saveAccount account = .ok after) :
    ∀ a ∈ after.loginAccounts.rows, ∀ b ∈ after.loginAccounts.rows, a.email = b.email → a = b := by
  obtain rfl := IdentityStore.saveAccount_ok saved
  have rows := inv.keyed.mem_rows_put_iff account
  intro a memberA b memberB same
  rcases (rows a).mp memberA with rfl | ⟨oldA, otherA⟩ <;>
    rcases (rows b).mp memberB with rfl | ⟨oldB, otherB⟩
  · rfl
  · exact absurd (saveAccount_email saved oldB same.symm) otherB
  · exact absurd (saveAccount_email saved oldA same) otherA
  · exact inv.emails a oldA b oldB same

/-- A signup adds an account of level "user". -/
theorem IdentityInv.signup (inv : IdentityInv store)
    (new : store.loginAccounts.find account.userId = none) (level : account.accessLevel = "user")
    (saved : store.saveAccount account = .ok after) : IdentityInv after ∧ Later store after := by
  have emails := inv.emails_save saved
  obtain rfl := IdentityStore.saveAccount_ok saved
  have others (row) (member : row ∈ store.loginAccounts.rows) : row.userId ≠ account.userId := by
    intro same
    rw [inv.keyed.mem_rows_iff, same, new] at member
    cases member
  have rows := inv.keyed.mem_rows_put_iff account
  refine ⟨⟨inv.keyed.put account, emails, ?_, ?_⟩, ?_, fun _ member => member⟩
  · intro a member
    rcases (rows a).mp member with rfl | ⟨old, -⟩
    · exact .inl level
    · exact inv.levels a old
  · intro audit member
    obtain ⟨a, old, told⟩ := inv.audits audit member
    exact ⟨a, (rows a).mpr (.inr ⟨old, others a old⟩), told⟩
  · intro a old
    exact ⟨a, (rows a).mpr (.inr ⟨old, others a old⟩), .inl rfl⟩

theorem IdentityInv.eq_of_userId (inv : IdentityInv store) {a b : LoginAccount}
    (memberA : a ∈ store.loginAccounts.rows) (memberB : b ∈ store.loginAccounts.rows)
    (same : b.userId = a.userId) : a = b := by
  rw [inv.keyed.mem_rows_iff] at memberA memberB
  rw [same] at memberB
  exact Option.some.inj (memberA.symm.trans memberB)

theorem IdentityInv.emails_nodup (inv : IdentityInv store) :
    (store.loginAccounts.rows.map (·.email)).Nodup :=
  (inv.keyed.rows_nodup.of_map _).map_on inv.emails

/-- A grant promotes its account, and both tables say so. -/
theorem IdentityInv.grant (inv : IdentityInv store) (held : Stored store account)
    (level : account.accessLevel = "user") {actor : String} (named : pyStrip actor ≠ "")
    {auditId : Uuid} (new : store.accessLevelAudits.find auditId = none) {now : Instant}
    (saved : grantSave account actor auditId now store = .ok after) :
    IdentityInv after ∧ Later store after := by
  obtain ⟨between, save, written⟩ := bind_ok saved
  have emails := inv.emails_save save
  obtain rfl := IdentityStore.saveAccount_ok save
  obtain rfl := Except.ok.inj written
  set promoted : LoginAccount := { account with accessLevel := "operator" } with here
  set audit : AccessLevelAudit := ⟨auditId, account.userId, pyStrip actor, "user", "operator", now⟩
  have rows := inv.keyed.mem_rows_put_iff promoted
  have kept (row) (member : row ∈ store.accessLevelAudits.rows) :
      row ∈ (store.accessLevelAudits.put auditId audit).rows := by
    obtain ⟨key, found⟩ := Table.mem_rows.mp member
    have other : key ≠ auditId := by
      rintro rfl
      rw [new] at found
      cases found
    exact Table.mem_rows.mpr ⟨key, (Table.find_put_of_ne _ _ other).trans found⟩
  have recorded : audit ∈ (store.accessLevelAudits.put auditId audit).rows :=
    Table.mem_rows.mpr ⟨auditId, Table.find_put_self ..⟩
  refine ⟨⟨inv.keyed.put promoted, emails, ?_, ?_⟩, ?_, kept⟩
  · intro a member
    rcases (rows a).mp member with rfl | ⟨old, -⟩
    · exact .inr ⟨rfl, audit, recorded, rfl, named, rfl, rfl⟩
    · refine (inv.levels a old).imp id fun ⟨operator, row, there, told⟩ => ?_
      exact ⟨operator, row, kept row there, told⟩
  · intro row member
    rcases Table.mem_rows_put member with rfl | old
    · exact ⟨promoted, (rows promoted).mpr (.inl rfl), rfl, rfl⟩
    · obtain ⟨a, there, owner, operator⟩ := inv.audits row old
      by_cases mine : a.userId = promoted.userId
      · exact ⟨promoted, (rows promoted).mpr (.inl rfl), mine.symm.trans owner, rfl⟩
      · exact ⟨a, (rows a).mpr (.inr ⟨there, mine⟩), owner, operator⟩
  · intro a member
    by_cases mine : a.userId = promoted.userId
    · -- The account that is written over is the one that was read, or is promoted already.
      obtain ⟨row, there, became⟩ := held
      obtain rfl := inv.eq_of_userId member there (became.userId.trans mine.symm)
      refine ⟨promoted, (rows promoted).mpr (.inl rfl), ?_⟩
      rcases became with rfl | ⟨-, rfl⟩
      · exact .inr ⟨level, rfl⟩
      · exact .inl rfl
    · exact ⟨a, (rows a).mpr (.inr ⟨member, mine⟩), .inl rfl⟩

end Accounts

/-! ### One step -/

section OneStep

variable {R : Runtime} {now : Instant} {s : State} {trace : List Action}

theorem grantRead_change {email actor : String} {store : IdentityStore} {account : LoginAccount}
    (read : grantRead R email actor store = .ok (account, true)) :
    account ∈ store.loginAccounts.rows ∧ account.accessLevel = "user" ∧ pyStrip actor ≠ "" := by
  simp only [grantRead] at read
  split at read
  · cases read
  split at read
  · cases read
  rename_i named
  obtain ⟨found, lookup, rest⟩ := bind_ok read
  cases found with
  | none => cases rest
  | some row =>
      simp only at rest
      split at rest
      · rename_i level
        cases rest
        exact ⟨(IdentityStore.findByEmail_some lookup).1, level, named⟩
      · split at rest <;> cases rest

theorem HasRead.snoc {request : LoginRequest} {found : Option LoginAccount} (action : Action)
    (read : HasRead R now trace request found) :
    HasRead R now (trace ++ [action]) request found := by
  obtain ⟨front, client, back, rfl, lookup⟩ := read
  exact ⟨front, client, back ++ [action], by simp, lookup⟩

theorem Fits.later {store after : IdentityStore} (kept : Later store after) (action : Action)
    {phase : Phase} (fits : Fits R now store trace phase) :
    Fits R now after (trace ++ [action]) phase := by
  cases phase with
  | loggingIn request found => exact HasRead.snoc action fits
  | granting account actor => exact ⟨fits.1.later kept, fits.2⟩
  | _ => trivial

theorem FromLogins.snoc {keys : SessionKeys} (action : Action)
    (stored : FromLogins R now trace keys) : FromLogins R now (trace ++ [action]) keys := by
  intro key payload last entry
  obtain ⟨request, account, read, rest⟩ := stored key payload last entry
  exact ⟨request, account, read.snoc action, rest⟩

theorem FromLogins.create {keys after : SessionKeys} (stored : FromLogins R now trace keys)
    {clock : Instant} {session : SessionData} {request : LoginRequest}
    {found : Option LoginAccount} {secret : String} (read : HasRead R now trace request found)
    (logged : loginSession R request found secret = .ok session)
    (created : RedisSessionStore.create clock keys session = .ok after) :
    FromLogins R now trace after := by
  obtain ⟨account, accepted, drawn⟩ := bind_ok logged
  obtain rfl := accepted_ok accepted
  obtain ⟨-, owner, fields⟩ := LoginAccount.session_ok drawn
  obtain ⟨own, same⟩ := RedisSessionStore.create_sessions created
  intro key payload last entry
  rw [same] at entry
  by_cases mine : key = own
  · subst mine
    rw [Expiring.set_self] at entry
    cases entry
    refine ⟨request, account, read, accepted, ?_⟩
    rw [owner, fields]
    rfl
  · rw [Expiring.set_of_ne _ _ mine] at entry
    exact stored key payload last entry

theorem Inv.enter (inv : Inv R now trace s) (action : Action) {identity : IdentityStore}
    (kept : Later s.identity identity) (identityInv : IdentityInv identity) (client : Nat)
    {phase : Phase} (fits : Fits R now identity (trace ++ [action]) phase) :
    Keeps R now (trace ++ [action]) s (State.enter { s with identity } client phase) := by
  refine ⟨⟨identityInv, ?_, inv.sessions.snoc action⟩, kept⟩
  intro other
  by_cases same : other = client
  · subst same
    simpa [State.enter] using fits
  · simpa [State.enter, same] using (inv.phases other).later kept action

theorem Inv.leave (inv : Inv R now trace s) (action : Action) (client : Nat) :
    Keeps R now (trace ++ [action]) s (s.enter client .idle) :=
  inv.enter action (.refl _) inv.identity client trivial

/-- The session store is left alone, or a login has made one more. -/
theorem Inv.sessions_step (inv : Inv R now trace s) (action : Action)
    {sessions : Sessions.Index.State} (kept : FromLogins R now trace sessions.store) :
    Keeps R now (trace ++ [action]) s { s with sessions } :=
  ⟨⟨inv.identity, fun client => (inv.phases client).later (.refl _) action, kept.snoc action⟩,
    .refl _⟩

theorem Inv.unchanged (inv : Inv R now trace s) (action : Action) :
    Keeps R now (trace ++ [action]) s s :=
  inv.sessions_step action inv.sessions

theorem inv_step (action : Action) (inv : Inv R now trace (run R now trace))
    (allowed : Allowed (run R now trace) action) :
    Keeps R now (trace ++ [action]) (run R now trace) (step R (run R now trace) action) := by
  generalize reached : run R now trace = s at inv allowed
  cases action with
  | signup client request =>
      simp only [step]
      cases signupRead R request.email s.identity with
      | error failure => exact inv.leave _ client
      | ok free => exact inv.enter _ (.refl _) inv.identity client trivial
  | saveAccount client userId salt =>
      simp only [step]
      cases phase : s.phases client with
      | signingUp request =>
          simp only
          cases saved : s.identity.saveAccount (newAccount R request userId salt s.sessions.now) with
          | error failure => exact inv.leave _ client
          | ok identity =>
              have new : s.identity.loginAccounts.find userId = none := allowed
              obtain ⟨identityInv, kept⟩ := inv.identity.signup new rfl saved
              exact inv.enter _ kept identityInv client trivial
      | _ => exact inv.unchanged _
  | login client request =>
      simp only [step]
      cases found : s.identity.findByEmail (R.normalizeEmail request.email) with
      | error failure => exact inv.leave _ client
      | ok account =>
          refine inv.enter _ (.refl _) inv.identity client ?_
          exact ⟨trace, client, [], rfl, by rw [reached]; exact found⟩
  | createSession client secret =>
      simp only [step]
      cases phase : s.phases client with
      | loggingIn request found =>
          simp only
          cases logged : loginSession R request found secret with
          | error failure => exact inv.leave _ client
          | ok session =>
              have read : HasRead R now trace request found := by
                simpa only [Fits, phase] using inv.phases client
              have made : FromLogins R now trace
                  (Sessions.Index.step s.sessions (.create session)).store := by
                simp only [Sessions.Index.step]
                cases created : RedisSessionStore.create s.sessions.now s.sessions.store session with
                | error failure => exact inv.sessions
                | ok after => exact inv.sessions.create read logged created
              have left : Inv R now trace { s with
                  sessions := Sessions.Index.step s.sessions (.create session) } :=
                ⟨inv.identity, inv.phases, made⟩
              exact left.leave _ client
      | _ => exact inv.unchanged _
  | grant client email actor =>
      simp only [step]
      split
      · rename_i account read
        obtain ⟨member, level, named⟩ := grantRead_change read
        exact inv.enter _ (.refl _) inv.identity client ⟨⟨account, member, .inl rfl⟩, level, named⟩
      · exact inv.leave _ client
  | saveGrant client auditId =>
      simp only [step]
      cases phase : s.phases client with
      | granting account actor =>
          simp only
          cases saved : grantSave account actor auditId s.sessions.now s.identity with
          | error failure => exact inv.leave _ client
          | ok identity =>
              have fits := inv.phases client
              rw [phase] at fits
              obtain ⟨held, level, named⟩ := fits
              obtain ⟨identityInv, kept⟩ := inv.identity.grant held level named allowed saved
              exact inv.enter _ kept identityInv client trivial
      | _ => exact inv.unchanged _
  | sessions action =>
      refine inv.sessions_step _ ?_
      cases action with
      | create session => exact allowed.elim
      | proceed client =>
          intro key payload last entry
          obtain ⟨before, old⟩ :=
            Sessions.Credentials.proceed_sessions (s.sessions.pending client) entry
          exact inv.sessions key payload before old
      | _ => exact inv.sessions

theorem inv_start : Inv R now [] (.start now) := by
  refine ⟨⟨Table.keyed_empty _, ?_, ?_, ?_⟩, fun _ => trivial, nofun⟩
  · intro a member
    cases member
  · intro a member
    cases member
  · intro audit member
    cases member

theorem sessions_of_logged {client : Nat} {request : LoginRequest} {found : Option LoginAccount}
    {secret : String} {session : SessionData} (read : s.phases client = .loggingIn request found)
    (logged : loginSession R request found secret = .ok session) :
    (step R s (.createSession client secret)).sessions =
      Sessions.Index.step s.sessions (.create session) := by
  simp only [step, read, logged, State.enter]

/-- **The invariant of every run.** -/
theorem inv_run (allowed : Admissible (step R) Allowed (.start now) trace) :
    Inv R now trace (run R now trace) :=
  trace_induction (motive := fun trace s => Inv R now trace s) inv_start
    (fun _ action _ inv allowed => (inv_step action inv allowed).1) allowed

/-- Between two points of a run nothing is lost, by induction along the actions between them. -/
theorem later_run {front : List Action} (back : List Action)
    (allowed : Admissible (step R) Allowed (.start now) (front ++ back)) :
    Later (run R now front).identity (run R now (front ++ back)).identity := by
  induction back using List.reverseRecOn with
  | nil => simpa using Later.refl _
  | append_singleton back action ih =>
      rw [← List.append_assoc] at allowed ⊢
      obtain ⟨before, next⟩ := (admissible_snoc _ _ _ _ _).mp allowed
      refine (ih before).trans ?_
      simpa only [run, exec_snoc] using (inv_step action (inv_run before) next).2

end OneStep

/-! ## The operators -/

section Operators

variable {R : Runtime} {now : Instant}

/-- `get_current_session` answers with what is stored. -/
theorem current_stored {clock : Instant} {keys : SessionKeys} {credentials : Option String}
    {session : SessionData} (current : getCurrentSession clock keys credentials = .ok session) :
    ∃ key payload last, keys.sessions key = some (payload, last) ∧
      session = ⟨credentials.getD "", payload.userId, payload.data⟩ := by
  cases credentials with
  | none => cases current
  | some text =>
      obtain ⟨found, read, answer⟩ := bind_ok current
      obtain ⟨key, -, got⟩ := bind_ok read
      obtain rfl := Except.ok.inj got
      cases held : keys.sessions.get clock key with
      | none => simp [held] at answer
      | some payload =>
          simp only [held, Option.map_some] at answer
          cases answer
          obtain ⟨last, entry, -⟩ := (Expiring.get_eq_some _ _).mp held
          exact ⟨key, payload, last, entry, rfl⟩

/-- A session that has just been created is a current one. -/
theorem current_created {user text : String} (made : Made user text) (data : Dict)
    (s : Sessions.Index.State) :
    getCurrentSession (Sessions.Index.step s (.create ⟨text, user, data⟩)).now
      (Sessions.Index.step s (.create ⟨text, user, data⟩)).store (some text) = .ok ⟨text, user, data⟩ := by
  have alive : s.now ≤ s.now + seconds ttlSeconds :=
    Int.le_add_of_nonneg_right (by decide)
  simp only [Sessions.Index.step, create, made.sessionRoutingTag, made.sessionKey,
    userRoutingTag_ok made.1, userKey_ok made.1, bind, Except.bind, ne_eq, not_true, if_false, pure,
    Except.pure, getCurrentSession, RedisSessionStore.get, Expiring.get_set_self, if_pos alive,
    Option.map_some]

theorem accepted_verified {password : String} {account : LoginAccount}
    (accepted : R.accepted password (some account) = .ok account) :
    R.verifyPassword password account.passwordHash = .ok true := by
  obtain ⟨valid, verified, rest⟩ := bind_ok accepted
  split at rest
  · rename_i both
    rw [verified, (Bool.and_eq_true_iff.mp both).2]
  · cases rest

/-- An account at operator level does not change any more. -/
theorem Stored.operator {store : IdentityStore} {account : LoginAccount}
    (stored : Stored store account) (operator : account.accessLevel = "operator") :
    account ∈ store.loginAccounts.rows := by
  obtain ⟨held, member, rfl | ⟨user, -⟩⟩ := stored
  · exact member
  · rw [operator] at user
    exact absurd user (by decide)

/-- Of the levels an account can have, the operator's alone passes the check of an operator
route. -/
theorem operator_of_passed {store : IdentityStore} (inv : IdentityInv store)
    {account : LoginAccount} (member : account ∈ store.loginAccounts.rows) {text : String}
    (passed : requireAccessLevel .operator ⟨text, account.payload.userId, account.payload.data⟩ =
      .ok ()) : account.accessLevel = "operator" ∧ OnRecord store account.userId := by
  rcases inv.levels account member with user | operator
  · have level : (account.payload.data.get "access_level") = some (.str "user") := by
      rw [← user]
      rfl
    simp only [requireAccessLevel, level, AccessLevel.ofJson] at passed
    exact absurd passed (by decide)
  · exact operator

/-- **Whoever passes the check of an operator route has logged in with the password of an
account whose grant was on record by then and is so still**, whatever the clients do in between. -/
theorem operator_access_is_audited {trace : List Action}
    (allowed : Admissible (step R) Allowed (.start now) trace) {credentials : Option String}
    {session : SessionData}
    (current : getCurrentSession (run R now trace).sessions.now (run R now trace).sessions.store
      credentials = .ok session)
    (passed : requireAccessLevel .operator session = .ok ()) :
    ∃ front client request back, trace = front ++ .login client request :: back ∧
      ∃ account ∈ (run R now front).identity.loginAccounts.rows,
        account.email = R.normalizeEmail request.email ∧
        R.verifyPassword request.password account.passwordHash = .ok true ∧
        session.userId = account.userId.str ∧ account.accessLevel = "operator" ∧
        OnRecord (run R now front).identity account.userId ∧
        account ∈ (run R now trace).identity.loginAccounts.rows ∧
        OnRecord (run R now trace).identity account.userId := by
  obtain ⟨text, payload, last, entry, rfl⟩ := current_stored current
  obtain ⟨request, account, ⟨front, client, back, rfl, found⟩, accepted, rfl⟩ :=
    (inv_run allowed).sessions _ payload last entry
  obtain ⟨member, email⟩ := IdentityStore.findByEmail_some found
  have before := ((admissible_append _ _ _ _ _).mp allowed).1
  obtain ⟨operator, recorded⟩ := operator_of_passed (inv_run before).identity member passed
  refine ⟨front, client, request, back, rfl, account, member, email, accepted_verified accepted,
    rfl, operator, recorded, ?_⟩
  have kept := later_run _ allowed
  exact ⟨(kept.accounts account member).operator operator, recorded.later kept⟩

namespace Sample

/-- Passwords are kept as they are. -/
def runtime : Runtime where
  lower := id
  hashPassword _ password := password
  verifyPassword password hash := .ok (password == hash)

def userId : Uuid := 7

def secret : String := "3VZ1Cq0nK2bq7sXh4mYt9wPzRfLdJgUeA5vNc8oTiEk"

/-- The id of the session that is made last. -/
def sessionId : String := tagOf userId.str ++ ("." ++ secret)

/-- Two grants have read the account before either writes. -/
def trace : List Action := [
  .signup 0 ⟨"one@example.com", "secret"⟩, .saveAccount 0 userId [],
  .grant 1 "one@example.com" "local-bootstrap", .grant 2 " one@example.com" "operations",
  .saveGrant 2 1, .saveGrant 1 2, .login 0 ⟨"one@example.com ", "secret"⟩,
  .createSession 0 secret]

def session : SessionData :=
  ⟨sessionId, userId.str, [("shard_id", .str "2"), ("access_level", .str "operator")]⟩

/-- The account the login reads. -/
def account : LoginAccount where
  userId
  email := "one@example.com"
  passwordHash := "secret"
  accessLevel := "operator"
  shardId := "2"
  createdAt := 0

theorem allowed : Admissible (step runtime) Allowed (.start 0) trace :=
  ⟨trivial, rfl, trivial, trivial, rfl, rfl, trivial, trivial, trivial⟩

theorem read : (run runtime 0 (trace.take 7)).phases 0 =
    .loggingIn ⟨"one@example.com ", "secret"⟩ (some account) := rfl

theorem made : Made userId.str sessionId := ⟨Uuid.str_ne_empty userId, secret, by decide, rfl⟩

theorem logged : loginSession runtime ⟨"one@example.com ", "secret"⟩ (some account) secret =
    .ok session := by
  have accepted : runtime.accepted "secret" (some account) = .ok account := by decide +kernel
  have drawn : createSessionId userId.str secret = .ok sessionId := by
    simp only [createSessionId, userRoutingTag_ok userId.str_ne_empty]
    rfl
  calc loginSession runtime ⟨"one@example.com ", "secret"⟩ (some account) secret
    _ = account.session secret := by simp only [loginSession, accepted, bind, Except.bind]
    _ = .ok session := by
        simp only [LoginAccount.session, account, drawn, bind, Except.bind]
        rfl

theorem reached : (run runtime 0 trace).sessions =
    Sessions.Index.step (Sessions.Index.empty 0) (.create session) := by
  have unused : (run runtime 0 (trace.take 7)).sessions = Sessions.Index.empty 0 := rfl
  have last : run runtime 0 trace =
      step runtime (run runtime 0 (trace.take 7)) (.createSession 0 secret) :=
    exec_snoc _ _ (trace.take 7) _
  rw [last, sessions_of_logged read logged, unused]

theorem current : getCurrentSession (run runtime 0 trace).sessions.now
    (run runtime 0 trace).sessions.store (some sessionId) = .ok session := by
  rw [reached]
  exact current_created made session.data _

theorem first_operator :
    ∃ front client request back, trace = front ++ .login client request :: back ∧
      ∃ account ∈ (run runtime 0 front).identity.loginAccounts.rows,
        account.email = runtime.normalizeEmail request.email ∧
        runtime.verifyPassword request.password account.passwordHash = .ok true ∧
        session.userId = account.userId.str ∧ account.accessLevel = "operator" ∧
        OnRecord (run runtime 0 front).identity account.userId ∧
        account ∈ (run runtime 0 trace).identity.loginAccounts.rows ∧
        OnRecord (run runtime 0 trace).identity account.userId :=
  operator_access_is_audited allowed current rfl

end Sample

/-- **An account is never lost and only ever changes by its promotion, no two share an email,
and the operators are those with an audit record.** -/
theorem promotions_are_audited {front back : List Action}
    (allowed : Admissible (step R) Allowed (.start now) (front ++ back)) :
    (∀ account ∈ (run R now front).identity.loginAccounts.rows,
      Stored (run R now (front ++ back)).identity account) ∧
    ((run R now front).identity.loginAccounts.rows.map (·.email)).Nodup ∧
    ∀ account ∈ (run R now front).identity.loginAccounts.rows,
      account.accessLevel = "user" ∧ ¬ OnRecord (run R now front).identity account.userId ∨
        account.accessLevel = "operator" ∧ OnRecord (run R now front).identity account.userId := by
  have before := ((admissible_append _ _ _ _ _).mp allowed).1
  have inv := (inv_run before).identity
  refine ⟨(later_run back allowed).accounts, inv.emails_nodup, ?_⟩
  intro account member
  refine (inv.levels account member).imp (fun user => ⟨user, ?_⟩) id
  rintro ⟨audit, recorded, subject, -⟩
  obtain ⟨other, there, owner, operator⟩ := inv.audits audit recorded
  obtain rfl := inv.eq_of_userId member there (owner.trans subject)
  rw [user] at operator
  exact absurd operator (by decide)

end Operators

namespace Sample

/-- Two accounts, of which one has been promoted and the other is about to be. -/
def promotions : List Action := [
  .signup 0 ⟨"one@example.com", "secret"⟩, .signup 1 ⟨"two@example.com", "secret"⟩,
  .saveAccount 1 8 [], .saveAccount 0 userId [], .grant 2 "two@example.com" "operations",
  .grant 3 "one@example.com" "operations", .saveGrant 2 1, .saveGrant 3 2]

theorem first_account :
    (∀ account ∈ (run runtime 0 (promotions.take 7)).identity.loginAccounts.rows,
      Stored (run runtime 0 promotions).identity account) ∧
    ((run runtime 0 (promotions.take 7)).identity.loginAccounts.rows.map (·.email)).Nodup ∧
    ∀ account ∈ (run runtime 0 (promotions.take 7)).identity.loginAccounts.rows,
      account.accessLevel = "user" ∧
          ¬ OnRecord (run runtime 0 (promotions.take 7)).identity account.userId ∨
        account.accessLevel = "operator" ∧
          OnRecord (run runtime 0 (promotions.take 7)).identity account.userId :=
  @promotions_are_audited runtime 0 (promotions.take 7) (promotions.drop 7)
    ⟨trivial, trivial, rfl, rfl, trivial, trivial, rfl, rfl, trivial⟩

/-- The two accounts are there then. -/
example : ((run runtime 0 (promotions.take 7)).identity.loginAccounts.rows.map (·.accessLevel)) =
    ["operator", "user"] := rfl

end Sample

end KisAutoTrading.Identity.AuditedAccess
