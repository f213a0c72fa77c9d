/-
# Sessions.Credentials — texts that are no session ids, at the three entry points

A client's text reaches the session store in `get_current_session`, which every route with
a session depends on, in `validate_session`, and in `_authorized_websocket_session`. The
first two answer a text under which nothing is stored with 401; the third closes the socket.

The store makes a key of the text first. `_session_routing_tag` raises `ValueError` where
`create_session_id` cannot have made the text, and nobody catches that:
`answered_cleanly_iff` says that, in every state the session store gets into by logins,
refreshes and revocations, exactly the texts with a character on both sides of their first
dot are answered cleanly.
-/
import KisAutoTrading.Modules.Identity
import KisAutoTrading.Routers.Replayed
import KisAutoTrading.Sessions.Index

namespace KisAutoTrading

open Theory

set_option autoImplicit false

/-! ## The entry points -/

structure ValidateSessionResponse where
  userId : Uuid
  shardId : String

/-- What `_authorized_websocket_session` leaves: the session, or a closed socket. -/
inductive Authorized where
  | session (current : SessionData)
  | closed (code : Nat)

/-- `_bearer_credentials`. Only the letters of ASCII lower to those of "bearer". -/
def bearerCredentials (authorization : Option String) : Option String := do
  let chars := (← authorization).toList
  let scheme := String.ofList (chars.takeWhile (· != ' '))
  let credentials := String.ofList (chars.dropWhile (· != ' ')).tail
  if scheme.toLower ≠ "bearer" ∨ ' ' ∉ chars ∨ credentials = "" then none
  else some credentials

section EntryPoints

variable (now : Instant) (store : SessionKeys)

/-- `get_current_session`. -/
def getCurrentSession (credentials : Option String) : Except Failure SessionData := do
  match credentials with
  | none => .error (.http 401 "Bearer session is required")
  | some credentials =>
      match ← RedisSessionStore.get now store credentials with
      | none => .error (.http 401 "Invalid session")
      | some session => return session

/-- `validate_session`. -/
def validateSession (accessToken : String) : Except Failure ValidateSessionResponse := do
  match ← RedisSessionStore.get now store accessToken with
  | none => .error (.http 401 "Invalid session")
  | some session =>
      match session.data.get "shard_id" with
      | some (.str shardId) =>
          match Uuid.ofStr session.userId with
          | some userId => return ⟨userId, shardId⟩
          | none => .error (.raised .valueError "badly formed hexadecimal UUID string")
      | _ => .error (.http 500 "Session shard is missing")

/-- `_current_websocket_session`, then `require_access_level(AccessLevel.USER)`. -/
def websocketSession (authorization : Option String) : Except Failure SessionData := do
  let current ← getCurrentSession now store (bearerCredentials authorization)
  requireAccessLevel .user current
  return current

/-- `_authorized_websocket_session`. -/
def authorizedWebsocketSession (authorization : Option String) : Except Failure Authorized :=
  match websocketSession now store authorization with
  | .ok current => .ok (.session current)
  | .error (.http _ _) => .ok (.closed 1008)
  | .error (.raised .sessionStoreError _) => .ok (.closed 1013)
  | .error failure => .error failure

end EntryPoints

namespace Sessions.Credentials

open Theory.Runs RedisSessionStore Sessions.Index

/-- The session stored under the key of a text. -/
def stored (s : State) (text : String) : Option SessionData :=
  match sessionKey text with
  | .ok key => (s.store.sessions.get s.now key).map fun payload =>
      ⟨text, payload.userId, payload.data⟩
  | .error _ => none

/-- A call returns what it has to for the stored session, or answers 401 for want of one. -/
def Answers {α : Type} (returned : SessionData → α → Prop) (held : Option SessionData) :
    Except Failure α → Prop
  | .ok value => ∃ session, held = some session ∧ returned session value
  | .error (.http 401 _) => held = none
  | .error _ => False

/-- The stored session is returned, or the socket is closed for a breach of policy. -/
def Authorizes (held : Option SessionData) : Except Failure Authorized → Prop
  | .ok (.session current) => held = some current
  | .ok (.closed code) => code = 1008
  | .error _ => False

/-- All three entry points, given the text as a client's credentials. -/
structure AnsweredCleanly (s : State) (text : String) : Prop where
  current : Answers (fun session current => current = session) (stored s text)
    (getCurrentSession s.now s.store (some text))
  validated : Answers
    (fun session response => session.userId = response.userId.str ∧
      session.data.get "shard_id" = some (.str response.shardId))
    (stored s text) (validateSession s.now s.store text)
  websocket : Authorizes (stored s text)
    (authorizedWebsocketSession s.now s.store (some ("Bearer " ++ text)))

/-- The text has a first dot and a character on both sides of it. -/
def SessionIdShaped (text : String) : Prop :=
  ∃ tag secret : String, tag ≠ "" ∧ secret ≠ "" ∧ '.' ∉ tag.toList ∧ text = tag ++ ("." ++ secret)

/-- Sessions are created by `login`. -/
def LoggedIn : Action → Prop
  | .create session => ∃ account secret, LoginAccount.session account secret = .ok session
  | _ => True

/-- Every stored session is one that a login created. -/
def FromLogin (s : State) : Prop :=
  ∀ key payload last, s.store.sessions key = some (payload, last) →
    ∃ account : LoginAccount, payload = account.payload

/-! ## The routing tag -/

section RoutingTag

variable {text : String}

theorem sessionRoutingTag_of_shaped (shaped : SessionIdShaped text) :
    ∃ tag, sessionRoutingTag text = .ok tag := by
  obtain ⟨tag, secret, tagged, some, dotless, rfl⟩ := shaped
  have chars : (tag ++ ("." ++ secret)).toList = tag.toList ++ '.' :: secret.toList := by
    simp only [String.toList_append]
    rfl
  have tagged' : tag.toList ≠ [] := by simpa using tagged
  have some' : secret.toList ≠ [] := by simpa using some
  have passes := differ_of_not_mem dotless
  refine ⟨tag, ?_⟩
  simp [sessionRoutingTag, chars, List.takeWhile_append_of_pos passes,
    List.dropWhile_append_of_pos passes, tagged', some']

theorem sessionRoutingTag_of_not_shaped (unshaped : ¬ SessionIdShaped text) :
    sessionRoutingTag text =
      .error (.raised .valueError "session_id must be created by create_session_id") := by
  refine if_pos ?_
  by_contra both
  obtain ⟨tagged, some⟩ := not_or.mp both
  refine unshaped ⟨String.ofList (text.toList.takeWhile (· != '.')),
    String.ofList (text.toList.dropWhile (· != '.')).tail, ?_, ?_, ?_, ?_⟩
  · simpa using tagged
  · simpa using some
  · intro member
    have passes := List.mem_takeWhile_imp (by simpa using member)
    simp at passes
  · apply String.toList_inj.mp
    cases rest : text.toList.dropWhile (· != '.') with
    | nil => simp [rest] at some
    | cons first secret =>
        have dot : first = '.' := by
          have fails := List.head_dropWhile_not (p := (· != '.')) (l := text.toList) (by simp [rest])
          simpa [rest] using fails
        have split := List.takeWhile_append_dropWhile (p := (· != '.')) (l := text.toList)
        rw [rest, dot] at split
        simpa using split.symm

end RoutingTag

/-! ## The stored sessions -/

/-- The second command of a call makes no payload: an entry that is left has an earlier one's. -/
theorem proceed_sessions {now : Instant} {store : SessionKeys} {key : String}
    {payload : SessionPayload} {last : Instant} (pending : Pending)
    (found : (proceed now store pending).sessions key = some (payload, last)) :
    ∃ before, store.sessions key = some (payload, before) := by
  cases pending with
  | idle => exact ⟨last, found⟩
  | refreshing sessionId userId =>
      cases result : extend now store sessionId userId with
      | error failure =>
          simp only [proceed, result] at found
          exact ⟨last, found⟩
      | ok extended =>
          obtain ⟨own, same⟩ := extend_sessions result
          simp only [proceed, result, same] at found
          rcases Expiring.expire_cases _ found with old | ⟨rfl, -, held⟩
          · exact ⟨last, old⟩
          · obtain ⟨before, entry, -⟩ := (Expiring.get_eq_some _ _).mp held
            exact ⟨before, entry⟩
  | revoking sessionId userId =>
      cases result : remove now store sessionId userId with
      | error failure =>
          simp only [proceed, result] at found
          exact ⟨last, found⟩
      | ok removed =>
          obtain ⟨own, same⟩ := remove_sessions result
          simp only [proceed, result, same] at found
          by_cases mine : key = own
          · subst mine
            rw [Expiring.delete_self] at found
            cases found
          · rw [Expiring.delete_of_ne _ mine] at found
            exact ⟨last, found⟩
  | revokingAll userId read =>
      cases result : removeAll store userId read with
      | error failure =>
          simp only [proceed, result] at found
          exact ⟨last, found⟩
      | ok removed =>
          obtain ⟨keys, same⟩ := removeAll_sessions result
          simp only [proceed, result, same, Expiring.foldl_delete] at found
          split at found
          · cases found
          · exact ⟨last, found⟩

theorem fromLogin_step {s : State} (action : Action) (stored : FromLogin s)
    (login : LoggedIn action) : FromLogin (step s action) := by
  cases action with
  | create session =>
      obtain ⟨account, secret, created⟩ := login
      obtain ⟨-, owner, fields⟩ := LoginAccount.session_ok created
      simp only [step]
      cases outcome : create s.now s.store session with
      | error failure => exact stored
      | ok after =>
          obtain ⟨own, same⟩ := create_sessions outcome
          intro key payload last found
          simp only [same] at found
          by_cases mine : key = own
          · subst mine
            simp only [Expiring.set_self, Option.some.injEq, Prod.mk.injEq] at found
            refine ⟨account, ?_⟩
            rw [← found.1, owner, fields]
            rfl
          · rw [Expiring.set_of_ne _ _ mine] at found
            exact stored key payload last found
  | proceed client =>
      intro key payload last found
      obtain ⟨before, entry⟩ := proceed_sessions (s.pending client) found
      exact stored key payload before entry
  | _ => exact stored

theorem fromLogin_empty (now : Instant) : FromLogin (empty now) := nofun

/-! ## The answers -/

section Answers

variable {s : State} {text : String}

theorem get_of_shaped (shaped : SessionIdShaped text) :
    RedisSessionStore.get s.now s.store text = .ok (stored s text) := by
  obtain ⟨tag, tagged⟩ := sessionRoutingTag_of_shaped shaped
  simp only [RedisSessionStore.get, stored, sessionKey, tagged, bind, Except.bind, pure,
    Except.pure]

theorem get_of_not_shaped (unshaped : ¬ SessionIdShaped text) :
    RedisSessionStore.get s.now s.store text =
      .error (.raised .valueError "session_id must be created by create_session_id") := by
  simp only [RedisSessionStore.get, sessionKey, sessionRoutingTag_of_not_shaped unshaped, bind,
    Except.bind]

/-- A stored session is a login's. -/
theorem FromLogin.of_stored (stored : FromLogin s) {session : SessionData}
    (held : Credentials.stored s text = some session) :
    ∃ account : LoginAccount, session.userId = account.userId.str ∧
      session.data.get "shard_id" = some (.str account.shardId) := by
  unfold Credentials.stored at held
  split at held
  · rename_i key keyed
    obtain ⟨payload, found, rfl⟩ := Option.map_eq_some_iff.mp held
    obtain ⟨last, entry, -⟩ := (Expiring.get_eq_some _ _).mp found
    obtain ⟨account, rfl⟩ := stored key payload last entry
    exact ⟨account, rfl, rfl⟩
  · cases held

theorem bearerCredentials_bearer :
    bearerCredentials (some ("Bearer " ++ text)) = if text = "" then none else some text := by
  have chars : ("Bearer " ++ text).toList = "Bearer".toList ++ ' ' :: text.toList := by
    rw [String.toList_append]
    rfl
  have lowered : "Bearer".toLower = "bearer" := by decide +kernel
  simp [bearerCredentials, chars, lowered]

theorem current_answers (shaped : SessionIdShaped text) :
    Answers (fun session current => current = session) (stored s text)
      (getCurrentSession s.now s.store (some text)) := by
  simp only [getCurrentSession, get_of_shaped shaped, bind, Except.bind]
  cases stored s text with
  | none => exact rfl
  | some session => exact ⟨session, rfl, rfl⟩

theorem FromLogin.validated_answers (login : FromLogin s) (shaped : SessionIdShaped text) :
    Answers
      (fun session response => session.userId = response.userId.str ∧
        session.data.get "shard_id" = some (.str response.shardId))
      (stored s text) (validateSession s.now s.store text) := by
  simp only [validateSession, get_of_shaped shaped, bind, Except.bind]
  cases held : stored s text with
  | none => exact rfl
  | some session =>
      obtain ⟨account, owner, shard⟩ := login.of_stored held
      simp only [shard, owner, Uuid.ofStr_str]
      exact ⟨session, rfl, owner, shard⟩

/-- The access level is checked too, and what that raises is an `HTTPException`. -/
theorem requireAccessLevel_cases (required : AccessLevel) (session : SessionData) :
    requireAccessLevel required session = .ok () ∨
      ∃ detail, requireAccessLevel required session = .error (.http 403 detail) := by
  unfold requireAccessLevel
  split
  · exact .inr ⟨_, rfl⟩
  · split
    · exact .inr ⟨_, rfl⟩
    · exact .inl rfl

theorem websocket_authorizes (shaped : SessionIdShaped text) :
    Authorizes (stored s text)
      (authorizedWebsocketSession s.now s.store (some ("Bearer " ++ text))) := by
  have some : text ≠ "" := by
    rintro rfl
    obtain ⟨tag, tagged⟩ := sessionRoutingTag_of_shaped shaped
    cases tagged
  simp only [authorizedWebsocketSession, websocketSession, bearerCredentials_bearer, if_neg some,
    getCurrentSession, get_of_shaped shaped, bind, Except.bind]
  cases stored s text with
  | none => exact rfl
  | some session =>
      rcases requireAccessLevel_cases .user session with passed | ⟨detail, refused⟩
      · simp only [pure, Except.pure, passed]
        exact rfl
      · simp only [pure, Except.pure, refused]
        exact rfl

end Answers

/-- **Exactly the texts with a character on both sides of their first dot are answered
cleanly**, whatever has been stored for them. -/
theorem answered_cleanly_iff {now : Instant} {trace : List Action}
    (logins : Admissible step (fun _ => LoggedIn) (empty now) trace) (text : String) :
    AnsweredCleanly (exec step (empty now) trace) text ↔ SessionIdShaped text := by
  have login : FromLogin (exec step (empty now) trace) :=
    exec_invariant (fun _ action stored allowed => fromLogin_step action stored allowed)
      (fromLogin_empty now) logins
  constructor
  · intro clean
    by_contra unshaped
    have raised := clean.validated
    simp only [validateSession, get_of_not_shaped unshaped, bind, Except.bind] at raised
    exact raised
  · intro shaped
    exact ⟨current_answers shaped, login.validated_answers shaped, websocket_authorizes shaped⟩

/-! ## A text without a dot -/

namespace Sample

def account : LoginAccount where
  userId := 0x3f2504e04f8911d39a0c0305e82c3301
  email := "one@example.com"
  passwordHash := "scrypt$16384$8$1"
  shardId := "1"
  createdAt := 0

/-- The tag of the account's id, and a secret. -/
def sessionId : String :=
  tagOf account.userId.str ++ ("." ++ "3VZ1Cq0nK2bq7sXh4mYt9wPzRfLdJgUeA5vNc8oTiEk")

def session : SessionData :=
  ⟨sessionId, account.userId.str,
    [("shard_id", .str account.shardId), ("access_level", .str account.accessLevel)]⟩

def trace : List Action := [.create session]

theorem session_created :
    account.session "3VZ1Cq0nK2bq7sXh4mYt9wPzRfLdJgUeA5vNc8oTiEk" = .ok session := by
  have named : account.userId.str ≠ "" := by decide +kernel
  simp only [LoginAccount.session, createSessionId, userRoutingTag_ok named, bind, Except.bind]
  rfl

theorem logged_in : Admissible step (fun _ => LoggedIn) (empty 0) trace :=
  ⟨⟨account, _, session_created⟩, trivial⟩

theorem sessionId_shaped : SessionIdShaped sessionId :=
  ⟨tagOf account.userId.str, "3VZ1Cq0nK2bq7sXh4mYt9wPzRfLdJgUeA5vNc8oTiEk", by decide +kernel,
    by decide, not_mem_tagOf (by decide +kernel) _, rfl⟩

theorem session_is_answered : AnsweredCleanly (exec step (empty 0) trace) sessionId :=
  (answered_cleanly_iff logged_in sessionId).mpr sessionId_shaped

theorem abc_not_shaped : ¬ SessionIdShaped "abc" := by
  rintro ⟨tag, secret, -, -, -, same⟩
  have dot : '.' ∈ "abc".toList := by
    rw [same]
    simp
  revert dot
  decide +kernel

/-- `Bearer abc`: the exception of the key builder leaves all three. -/
theorem abc_is_not_answered :
    let s := exec step (empty 0) trace
    let failure : Failure :=
      .raised .valueError "session_id must be created by create_session_id"
    Admissible step (fun _ => LoggedIn) (empty 0) trace ∧
      getCurrentSession s.now s.store (some "abc") = .error failure ∧
      validateSession s.now s.store "abc" = .error failure ∧
      authorizedWebsocketSession s.now s.store (some ("Bearer " ++ "abc")) = .error failure ∧
      ¬ AnsweredCleanly s "abc" := by
  intro s failure
  have got : RedisSessionStore.get s.now s.store "abc" = .error failure :=
    get_of_not_shaped abc_not_shaped
  have validated : validateSession s.now s.store "abc" = .error failure := by
    simp only [validateSession, got, bind, Except.bind]
  refine ⟨logged_in, ?_, validated, ?_, ?_⟩
  · simp only [getCurrentSession, got, bind, Except.bind]
  · have some : "abc" ≠ "" := by decide
    simp only [authorizedWebsocketSession, websocketSession, bearerCredentials_bearer, if_neg some,
      getCurrentSession, got, bind, Except.bind, failure]
  · intro clean
    have raised := clean.validated
    rw [validated] at raised
    exact raised

end Sample

end Sessions.Credentials

end KisAutoTrading
