/-
# Infrastructure.SessionStore — sessions and the index of a user's sessions

`create_session_id` and `RedisSessionStore`. A session has a key of its own, and its id is
a member of the set of its user's sessions; both keys carry the user's routing tag in
braces, so that a cluster keeps them in one slot. What the store does between two answers
of Redis is one function here: `create` is one `MULTI`; `refresh` and `revoke` are a `get`
and a `MULTI`; `revoke_user_sessions` is an `SMEMBERS` and a `DEL`.

The payload is what `json.loads` reads back from the text `json.dumps` wrote. `Made` is
what is known of the ids that `create_session_id` draws.
-/
import KisAutoTrading.Infrastructure.Messaging
import KisAutoTrading.Theory.Base64
import KisAutoTrading.Theory.Expiring

namespace KisAutoTrading

open Theory

set_option autoImplicit false

/-- `_user_routing_tag`. -/
def userRoutingTag (userId : String) : Except Failure String :=
  if userId = "" then .error (.raised .valueError "user_id must not be empty")
  else .ok (String.ofList (Base64.encode userId.toUTF8.data.toList))

/-- `_session_routing_tag`: the text before the first dot. -/
def sessionRoutingTag (sessionId : String) : Except Failure String :=
  let tag := sessionId.toList.takeWhile (· != '.')
  let secret := (sessionId.toList.dropWhile (· != '.')).tail
  if tag = [] ∨ secret = [] then
    .error (.raised .valueError "session_id must be created by create_session_id")
  else .ok (String.ofList tag)

/-- `create_session_id`; the secret is drawn. -/
def createSessionId (userId secret : String) : Except Failure String := do
  let tag ← userRoutingTag userId
  return tag ++ ("." ++ secret)

/-- What a session key holds. -/
structure SessionPayload where
  userId : String
  data : Dict

/-- The keys of the session namespace. -/
structure SessionKeys where
  sessions : Expiring String SessionPayload Instant
  userSets : Expiring String (List String) Instant

namespace RedisSessionStore

def keyNamespace : String := "kis_session"

def ttlSeconds : Int := 3600

/-- Both kinds of key carry their routing tag in braces. -/
def taggedKey (tag suffix : String) : String :=
  keyNamespace ++ (":\x7b" ++ (tag ++ ("\x7d:" ++ suffix)))

/-- `_session_key`. -/
def sessionKey (sessionId : String) : Except Failure String := do
  let tag ← sessionRoutingTag sessionId
  return taggedKey tag ("session:" ++ sessionId)

/-- `_user_key`. -/
def userKey (userId : String) : Except Failure String := do
  let tag ← userRoutingTag userId
  return taggedKey tag "user-sessions"

section Commands

variable (now : Instant) (store : SessionKeys)

/-- `create`: the session, its entry in the index, and the lifetime of both. -/
def create (session : SessionData) : Except Failure SessionKeys := do
  let tag ← sessionRoutingTag session.sessionId
  let userTag ← userRoutingTag session.userId
  if tag ≠ userTag then
    .error (.raised .sessionStoreError "Session ID does not belong to the session user")
  else
    let key ← sessionKey session.sessionId
    let index ← userKey session.userId
    let members := (store.userSets.get now index).getD []
    return {
      sessions := store.sessions.set key ⟨session.userId, session.data⟩ (now + seconds ttlSeconds)
      userSets := store.userSets.set index (members.insert session.sessionId)
        (now + seconds ttlSeconds) }

/-- `get`. -/
def get (sessionId : String) : Except Failure (Option SessionData) := do
  let key ← sessionKey sessionId
  return (store.sessions.get now key).map fun payload => ⟨sessionId, payload.userId, payload.data⟩

/-- The two `EXPIRE` of `refresh`. -/
def extend (sessionId userId : String) : Except Failure (Bool × SessionKeys) := do
  let key ← sessionKey sessionId
  let index ← userKey userId
  return ((store.sessions.get now key).isSome, {
    sessions := store.sessions.expire now key (now + seconds ttlSeconds)
    userSets := store.userSets.expire now index (now + seconds ttlSeconds) })

/-- The `DEL` and the `SREM` of `revoke`; a set without members is gone. -/
def remove (sessionId userId : String) : Except Failure (Bool × SessionKeys) := do
  let key ← sessionKey sessionId
  let index ← userKey userId
  return ((store.sessions.get now key).isSome, {
    sessions := store.sessions.delete key
    userSets := store.userSets.change now index fun members =>
      let rest := members.filter (· ≠ sessionId)
      if rest = [] then none else some rest })

/-- The `SMEMBERS` of `revoke_user_sessions`. -/
def members (userId : String) : Except Failure (List String) := do
  let index ← userKey userId
  return (store.userSets.get now index).getD []

/-- The `DEL` of `revoke_user_sessions`. -/
def removeAll (userId : String) (sessionIds : List String) : Except Failure SessionKeys := do
  let index ← userKey userId
  let keys ← sessionIds.mapM sessionKey
  return {
    sessions := keys.foldl Expiring.delete store.sessions
    userSets := store.userSets.delete index }

end Commands

/-! ## The session keys after a command -/

section Commands

variable {now : Instant} {store after : SessionKeys} {sessionId userId : String}

/-- `create` stores the payload of the session under one key. -/
theorem create_sessions {session : SessionData} (created : create now store session = .ok after) :
    ∃ key, after.sessions =
      store.sessions.set key ⟨session.userId, session.data⟩ (now + seconds ttlSeconds) := by
  obtain ⟨tag, -, rest⟩ := bind_ok created
  obtain ⟨userTag, -, rest⟩ := bind_ok rest
  split at rest
  · cases rest
  · obtain ⟨key, -, rest⟩ := bind_ok rest
    obtain ⟨index, -, answer⟩ := bind_ok rest
    cases answer
    exact ⟨key, rfl⟩

theorem extend_sessions {alive : Bool}
    (extended : extend now store sessionId userId = .ok (alive, after)) :
    ∃ key, after.sessions = store.sessions.expire now key (now + seconds ttlSeconds) := by
  obtain ⟨key, -, rest⟩ := bind_ok extended
  obtain ⟨index, -, answer⟩ := bind_ok rest
  cases answer
  exact ⟨key, rfl⟩

theorem remove_sessions {alive : Bool}
    (removed : remove now store sessionId userId = .ok (alive, after)) :
    ∃ key, after.sessions = store.sessions.delete key := by
  obtain ⟨key, -, rest⟩ := bind_ok removed
  obtain ⟨index, -, answer⟩ := bind_ok rest
  cases answer
  exact ⟨key, rfl⟩

theorem removeAll_sessions {read : List String} (removed : removeAll store userId read = .ok after) :
    ∃ keys : List String, after.sessions = keys.foldl Expiring.delete store.sessions := by
  obtain ⟨index, -, rest⟩ := bind_ok removed
  obtain ⟨keys, -, answer⟩ := bind_ok rest
  cases answer
  exact ⟨keys, rfl⟩

end Commands

/-! ## Keys -/

/-- The text between the first opening brace of a key and the next closing one, or the whole
key if there is none: the part a cluster hashes. -/
def hashTag (key : String) : List Char :=
  let inner := (key.toList.dropWhile (· != '{')).tail
  let tag := inner.takeWhile (· != '}')
  if '}' ∈ inner ∧ tag ≠ [] then tag else key.toList

/-- The routing tag of a user id that is not empty. -/
def tagOf (userId : String) : String := String.ofList (Base64.encode userId.toUTF8.data.toList)

def sessionAt (userId sessionId : String) : String :=
  taggedKey (tagOf userId) ("session:" ++ sessionId)

def indexAt (userId : String) : String := taggedKey (tagOf userId) "user-sessions"

/-- The id is one that `create_session_id` draws for the user. -/
def Made (userId sessionId : String) : Prop :=
  userId ≠ "" ∧ ∃ secret, secret ≠ "" ∧ sessionId = tagOf userId ++ ("." ++ secret)

section Keys

variable {userId other sessionId tag tag' suffix suffix' : String}

theorem differ_of_not_mem {c : Char} {text : List Char} (absent : c ∉ text) :
    ∀ d ∈ text, (d != c) = true := by
  intro d member
  simpa using fun same : d = c => absent (same ▸ member)

theorem not_mem_tagOf {c : Char} (outside : c ∉ Base64.alphabet) (userId : String) :
    c ∉ (tagOf userId).toList := by
  intro member
  rw [tagOf, String.toList_ofList] at member
  exact outside (Base64.mem_alphabet_of_mem_encode member)

theorem tagOf_inj (same : tagOf userId = tagOf other) : userId = other := by
  have chars := congrArg String.toList same
  simp only [tagOf, String.toList_ofList] at chars
  have bytes := Base64.encode_injective chars
  apply String.toByteArray_inj.mp
  exact ByteArray.ext (Array.toList_inj.mp bytes)

theorem tagOf_ne_empty (named : userId ≠ "") : tagOf userId ≠ "" := by
  intro empty
  have blank : tagOf "" = "" := by decide +kernel
  exact named (tagOf_inj (empty.trans blank.symm))

theorem userRoutingTag_ok (named : userId ≠ "") : userRoutingTag userId = .ok (tagOf userId) :=
  if_neg named

theorem userKey_ok (named : userId ≠ "") : userKey userId = .ok (indexAt userId) := by
  simp only [userKey, userRoutingTag_ok named]
  rfl

/-- A tag ends at the first closing brace. -/
theorem taggedKey_inj (closed : '}' ∉ tag.toList) (closed' : '}' ∉ tag'.toList)
    (same : taggedKey tag suffix = taggedKey tag' suffix') : tag = tag' ∧ suffix = suffix' := by
  have chars := congrArg String.toList same
  simp only [taggedKey, String.toList_append, List.append_cancel_left_eq] at chars
  have brace : "\x7d:".toList = ['}', ':'] := rfl
  rw [brace] at chars
  have tags : tag.toList = tag'.toList := by
    have first := congrArg (List.takeWhile (· != '}')) chars
    simpa [List.takeWhile_append_of_pos (differ_of_not_mem closed),
      List.takeWhile_append_of_pos (differ_of_not_mem closed')] using first
  rw [tags, List.append_cancel_left_eq] at chars
  simp only [List.cons_append, List.nil_append, List.cons.injEq, true_and] at chars
  exact ⟨String.toList_inj.mp tags, String.toList_inj.mp chars⟩

theorem closed_tagOf (userId : String) : '}' ∉ (tagOf userId).toList :=
  not_mem_tagOf (by decide +kernel) userId

theorem sessionAt_inj {sessionId' : String}
    (same : sessionAt userId sessionId = sessionAt other sessionId') :
    userId = other ∧ sessionId = sessionId' := by
  obtain ⟨tags, suffixes⟩ := taggedKey_inj (closed_tagOf userId) (closed_tagOf other) same
  have chars := congrArg String.toList suffixes
  simp only [String.toList_append, List.append_cancel_left_eq] at chars
  exact ⟨tagOf_inj tags, String.toList_inj.mp chars⟩

/-- Two users have two session sets. -/
theorem indexAt_inj (same : indexAt userId = indexAt other) : userId = other :=
  tagOf_inj (taggedKey_inj (closed_tagOf userId) (closed_tagOf other) same).1

theorem hashTag_taggedKey (closed : '}' ∉ tag.toList) (named : tag ≠ "") :
    hashTag (taggedKey tag suffix) = tag.toList := by
  have opened : (taggedKey tag suffix).toList.dropWhile (· != '{') =
      '{' :: (tag.toList ++ '}' :: ':' :: suffix.toList) := by
    simp only [taggedKey, String.toList_append]
    rfl
  have some : tag.toList ≠ [] := by simpa using named
  simp [hashTag, opened, List.takeWhile_append_of_pos (differ_of_not_mem closed), some]

theorem Made.sessionRoutingTag (made : Made userId sessionId) :
    sessionRoutingTag sessionId = .ok (tagOf userId) := by
  obtain ⟨named, secret, drawn, rfl⟩ := made
  have dotless : ∀ c ∈ (tagOf userId).toList, (c != '.') = true :=
    differ_of_not_mem (not_mem_tagOf (by decide +kernel) userId)
  have tagged : (tagOf userId).toList ≠ [] := by simpa using tagOf_ne_empty named
  have some : secret.toList ≠ [] := by simpa using drawn
  have chars : (tagOf userId ++ ("." ++ secret)).toList =
      (tagOf userId).toList ++ '.' :: secret.toList := by
    simp only [String.toList_append]
    rfl
  simp [KisAutoTrading.sessionRoutingTag, chars, List.takeWhile_append_of_pos dotless,
    List.dropWhile_append_of_pos dotless, tagged, some]

theorem Made.sessionKey (made : Made userId sessionId) :
    sessionKey sessionId = .ok (sessionAt userId sessionId) := by
  simp only [RedisSessionStore.sessionKey, made.sessionRoutingTag]
  rfl

theorem Made.owner (made : Made userId sessionId) (made' : Made other sessionId) :
    userId = other := by
  have tags := made.sessionRoutingTag.symm.trans made'.sessionRoutingTag
  exact tagOf_inj (Except.ok.inj tags)

theorem made_of_createSessionId {secret : String} (drawn : secret ≠ "")
    (created : createSessionId userId secret = .ok sessionId) : Made userId sessionId := by
  by_cases named : userId = ""
  · subst named
    cases created
  · rw [createSessionId, userRoutingTag_ok named] at created
    cases created
    exact ⟨named, secret, drawn, rfl⟩

end Keys

end RedisSessionStore

end KisAutoTrading
