/-
# Sessions.Index — every live session is in its user's set

The session key and the set of its user's sessions live and expire separately. `Indexed`
says how they are kept in step: a key that can be read belongs to an id in the set of its
user, and the set expires no earlier. Clients interleave command by command: `refresh`,
`revoke` and `revoke_user_sessions` read first and write in a command of their own.

The write of `revoke_user_sessions` deletes the set as a whole, with the sessions it read.
`undisturbed_index_complete`: in runs in which no live session has joined the set in
between, the index is complete, and a further revocation that nothing disturbs leaves
no session of its user. One that has joined stays alive outside every set (`Joined`).
-/
import KisAutoTrading.Infrastructure.SessionStore
import KisAutoTrading.Theory.Runs

namespace KisAutoTrading.Sessions.Index

open Theory Theory.Runs RedisSessionStore

set_option autoImplicit false

/-- What a client has read and not acted on yet. -/
inductive Pending where
  | idle
  | refreshing (sessionId userId : String)
  | revoking (sessionId userId : String)
  | revokingAll (userId : String) (read : List String)

structure State where
  now : Instant
  store : SessionKeys
  pending : Nat → Pending

inductive Action where
  | wait (duration : Nat)
  | create (session : SessionData)
  | get (sessionId : String)
  | refresh (client : Nat) (sessionId : String)
  | revoke (client : Nat) (sessionId : String)
  | revokeUserSessions (client : Nat) (userId : String)
  /-- The client's second command. -/
  | proceed (client : Nat)

def State.enter (s : State) (client : Nat) (pending : Pending) : State :=
  { s with pending := Function.update s.pending client pending }

/-- `revoke_user_sessions` after its `SMEMBERS`: nothing is left to do for an empty set. -/
def afterMembers (userId : String) : Except Failure (List String) → Pending
  | .ok [] => .idle
  | .ok read => .revokingAll userId read
  | .error _ => .idle

/-- `refresh` and `revoke` after their `GET`. -/
def afterGet (next : String → Pending) : Except Failure (Option SessionData) → Pending
  | .ok (some session) => next session.userId
  | _ => .idle

/-- The store after the second command of a call. -/
def proceed (now : Instant) (store : SessionKeys) : Pending → SessionKeys
  | .idle => store
  | .refreshing sessionId userId =>
      match extend now store sessionId userId with
      | .ok (_, extended) => extended
      | .error _ => store
  | .revoking sessionId userId =>
      match remove now store sessionId userId with
      | .ok (_, removed) => removed
      | .error _ => store
  | .revokingAll userId read =>
      match removeAll store userId read with
      | .ok removed => removed
      | .error _ => store

def step (s : State) : Action → State
  | .wait duration => { s with now := s.now + duration }
  | .create session =>
      match create s.now s.store session with
      | .ok store => { s with store }
      | .error _ => s
  | .get _ => s
  | .refresh client sessionId =>
      s.enter client (afterGet (.refreshing sessionId) (get s.now s.store sessionId))
  | .revoke client sessionId =>
      s.enter client (afterGet (.revoking sessionId) (get s.now s.store sessionId))
  | .revokeUserSessions client userId =>
      s.enter client (afterMembers userId (members s.now s.store userId))
  | .proceed client =>
      State.enter { s with store := proceed s.now s.store (s.pending client) } client .idle

/-- Session ids are those `create_session_id` draws. -/
def Issued : Action → Prop
  | .create session => ∃ user, Made user session.sessionId
  | .get sessionId => ∃ user, Made user sessionId
  | .refresh _ sessionId => ∃ user, Made user sessionId
  | .revoke _ sessionId => ∃ user, Made user sessionId
  | _ => True

/-- When a revocation deletes a user's set, every session in it that is alive is one it has
read. -/
def NoneJoined (s : State) : Action → Prop
  | .proceed client => ∀ user read, s.pending client = .revokingAll user read →
      ∀ members, s.store.userSets.get s.now (indexAt user) = some members →
        ∀ sessionId ∈ members,
          (s.store.sessions.get s.now (sessionAt user sessionId)).isSome → sessionId ∈ read
  | _ => True

/-- The key of every session that can be read belongs to an id in the set of its user, and
the set expires no earlier. -/
def Indexed (s : State) : Prop :=
  ∀ key payload last, s.store.sessions key = some (payload, last) → s.now ≤ last →
    ∃ sessionId index members bound, sessionKey sessionId = .ok key ∧
      userKey payload.userId = .ok index ∧ s.store.userSets index = some (members, bound) ∧
      sessionId ∈ members ∧ last ≤ bound

/-- No session of the user can be read. -/
def Ended (s : State) (user : String) : Prop :=
  ∀ key payload, s.store.sessions.get s.now key = some payload → payload.userId ≠ user

/-! ## The invariant -/

structure StoreInv (now : Instant) (sessions : Expiring String SessionPayload Instant)
    (userSets : Expiring String (List String) Instant) : Prop where
  keyed : ∀ key payload last, sessions key = some (payload, last) →
    (∃ sessionId, Made payload.userId sessionId ∧ key = sessionAt payload.userId sessionId) ∧
      last ≤ now + seconds ttlSeconds
  indexed : ∀ user sessionId payload last,
    sessions (sessionAt user sessionId) = some (payload, last) → now ≤ last →
    ∃ members bound, userSets (indexAt user) = some (members, bound) ∧
      sessionId ∈ members ∧ last ≤ bound
  made : ∀ user members bound, userSets (indexAt user) = some (members, bound) →
    ∀ sessionId ∈ members, Made user sessionId

/-- What a client has read is an id of the user. -/
def Fits : Pending → Prop
  | .idle => True
  | .refreshing sessionId userId => Made userId sessionId
  | .revoking sessionId userId => Made userId sessionId
  | .revokingAll userId read => userId ≠ "" ∧ ∀ sessionId ∈ read, Made userId sessionId

structure Inv (s : State) : Prop where
  store : StoreInv s.now s.store.sessions s.store.userSets
  pending : ∀ client, Fits (s.pending client)

/-! ## One step -/

theorem create_ok {now : Instant} {store after : SessionKeys} {user : String}
    {session : SessionData} (made : Made user session.sessionId) (created : create now store session = .ok after) :
    user = session.userId ∧ after = {
      sessions := store.sessions.set (sessionAt user session.sessionId)
        ⟨session.userId, session.data⟩ (now + seconds ttlSeconds)
      userSets := store.userSets.set (indexAt user)
        (((store.userSets.get now (indexAt user)).getD []).insert session.sessionId)
        (now + seconds ttlSeconds) } := by
  by_cases named : session.userId = ""
  · simp [create, made.sessionRoutingTag, named, userRoutingTag, bind, Except.bind] at created
  · by_cases same : tagOf user = tagOf session.userId
    · obtain rfl := tagOf_inj same
      refine ⟨rfl, ?_⟩
      simpa [create, made.sessionRoutingTag, made.sessionKey, userRoutingTag_ok named,
        userKey_ok named, bind, Except.bind, pure, Except.pure] using created.symm
    · simp [create, made.sessionRoutingTag, userRoutingTag_ok named, same, bind,
        Except.bind] at created

section Store

variable {now : Instant} {sessions : Expiring String SessionPayload Instant}
  {userSets : Expiring String (List String) Instant} {user sessionId : String}

/-- The set of a live session can be read. -/
theorem StoreInv.set_alive (inv : StoreInv now sessions userSets) {payload : SessionPayload}
    {last : Instant} (found : sessions (sessionAt user sessionId) = some (payload, last))
    (alive : now ≤ last) :
    ∃ members, userSets.get now (indexAt user) = some members ∧ sessionId ∈ members := by
  obtain ⟨members, bound, set, member, later⟩ := inv.indexed user sessionId payload last found alive
  exact ⟨members, (Expiring.get_eq_some _ _).mpr ⟨bound, set, le_trans alive later⟩, member⟩

theorem StoreInv.wait (inv : StoreInv now sessions userSets) (duration : Nat) :
    StoreInv (now + duration) sessions userSets := by
  have later : now ≤ now + duration := Int.le_add_of_nonneg_right (Int.natCast_nonneg duration)
  refine ⟨?_, ?_, inv.made⟩
  · intro key payload last found
    obtain ⟨owner, bounded⟩ := inv.keyed key payload last found
    exact ⟨owner, le_trans bounded (Int.add_le_add_right later _)⟩
  · intro user sessionId payload last found alive
    exact inv.indexed user sessionId payload last found (le_trans later alive)

/-- `create`: the new session is in the set, which now outlives every session there is. -/
theorem StoreInv.create (inv : StoreInv now sessions userSets) (made : Made user sessionId)
    (data : Dict) :
    StoreInv now
      (sessions.set (sessionAt user sessionId) ⟨user, data⟩ (now + seconds ttlSeconds))
      (userSets.set (indexAt user)
        (((userSets.get now (indexAt user)).getD []).insert sessionId)
        (now + seconds ttlSeconds)) := by
  refine ⟨?_, ?_, ?_⟩
  · intro key payload last found
    by_cases same : key = sessionAt user sessionId
    · subst same
      simp only [Expiring.set_self, Option.some.injEq, Prod.mk.injEq] at found
      obtain ⟨rfl, rfl⟩ := found
      exact ⟨⟨sessionId, made, rfl⟩, le_refl _⟩
    · rw [Expiring.set_of_ne _ _ same] at found
      exact inv.keyed key payload last found
  · intro owner other payload last found alive
    by_cases same : sessionAt owner other = sessionAt user sessionId
    · obtain ⟨rfl, rfl⟩ := sessionAt_inj same
      simp only [Expiring.set_self, Option.some.injEq, Prod.mk.injEq] at found
      obtain ⟨-, rfl⟩ := found
      exact ⟨_, _, Expiring.set_self _ _, List.mem_insert_self, le_refl _⟩
    · rw [Expiring.set_of_ne _ _ same] at found
      by_cases mine : owner = user
      · subst mine
        obtain ⟨members, set, member⟩ := inv.set_alive found alive
        refine ⟨_, _, Expiring.set_self _ _, ?_, (inv.keyed _ _ _ found).2⟩
        rw [set, Option.getD_some]
        exact List.mem_insert_of_mem member
      · rw [Expiring.set_of_ne _ _ fun sameKey => mine (indexAt_inj sameKey)]
        exact inv.indexed owner other payload last found alive
  · intro owner members bound found other member
    by_cases mine : owner = user
    · subst mine
      simp only [Expiring.set_self, Option.some.injEq, Prod.mk.injEq] at found
      obtain ⟨rfl, rfl⟩ := found
      rcases List.mem_insert_iff.mp member with rfl | old
      · exact made
      · cases set : userSets.get now (indexAt owner) with
        | none => simp [set] at old
        | some held =>
            obtain ⟨bound', entry, -⟩ := (Expiring.get_eq_some _ _).mp set
            exact inv.made owner held bound' entry other (by simpa [set] using old)
    · rw [Expiring.set_of_ne _ _ fun sameKey => mine (indexAt_inj sameKey)] at found
      exact inv.made owner members bound found other member

/-- `refresh`: a session that is extended has a set, which is extended with it. -/
theorem StoreInv.extend (inv : StoreInv now sessions userSets) :
    StoreInv now
      (sessions.expire now (sessionAt user sessionId) (now + seconds ttlSeconds))
      (userSets.expire now (indexAt user) (now + seconds ttlSeconds)) := by
  have before : ∀ owner other payload last,
      (sessions.expire now (sessionAt user sessionId) (now + seconds ttlSeconds))
        (sessionAt owner other) = some (payload, last) → now ≤ last →
      ∃ last', sessions (sessionAt owner other) = some (payload, last') ∧ now ≤ last' ∧
        (last = last' ∨ owner = user ∧ last = now + seconds ttlSeconds) := by
    intro owner other payload last found alive
    rcases Expiring.expire_cases _ found with old | ⟨same, rfl, held⟩
    · exact ⟨last, old, alive, .inl rfl⟩
    · obtain ⟨last', entry, alive'⟩ := (Expiring.get_eq_some _ _).mp held
      rw [← same] at entry
      exact ⟨last', entry, alive', .inr ⟨(sessionAt_inj same).1, rfl⟩⟩
  refine ⟨?_, ?_, ?_⟩
  · intro key payload last found
    rcases Expiring.expire_cases _ found with old | ⟨rfl, rfl, held⟩
    · exact inv.keyed key payload last old
    · obtain ⟨last', entry, -⟩ := (Expiring.get_eq_some _ _).mp held
      exact ⟨(inv.keyed _ _ _ entry).1, le_refl _⟩
  · intro owner other payload last found alive
    obtain ⟨last', entry, alive', when⟩ := before owner other payload last found alive
    obtain ⟨members, set, member⟩ := inv.set_alive entry alive'
    by_cases mine : owner = user
    · subst mine
      refine ⟨members, now + seconds ttlSeconds, ?_, member, ?_⟩
      · simp only [Expiring.expire, set, Expiring.set_self]
      · rcases when with rfl | ⟨-, rfl⟩
        · exact (inv.keyed _ _ _ entry).2
        · exact le_refl _
    · obtain rfl : last = last' := by
        rcases when with same | ⟨same, -⟩
        · exact same
        · exact absurd same mine
      rw [Expiring.expire_of_ne _ fun sameKey => mine (indexAt_inj sameKey)]
      exact inv.indexed owner other payload last entry alive
  · intro owner members bound found other member
    rcases Expiring.expire_cases _ found with old | ⟨same, -, held⟩
    · exact inv.made owner members bound old other member
    · obtain ⟨bound', entry, -⟩ := (Expiring.get_eq_some _ _).mp held
      rw [← same] at entry
      exact inv.made owner members bound' entry other member

/-- `revoke`: the session goes, and its id from the set. -/
theorem StoreInv.remove (inv : StoreInv now sessions userSets) :
    StoreInv now
      (sessions.delete (sessionAt user sessionId))
      (userSets.change now (indexAt user) fun members =>
        let rest := members.filter (· ≠ sessionId)
        if rest = [] then none else some rest) := by
  have before : ∀ key payload last,
      (sessions.delete (sessionAt user sessionId)) key = some (payload, last) →
      key ≠ sessionAt user sessionId ∧ sessions key = some (payload, last) := by
    intro key payload last found
    by_cases same : key = sessionAt user sessionId
    · simp [same] at found
    · rw [Expiring.delete_of_ne _ same] at found
      exact ⟨same, found⟩
  refine ⟨fun key payload last found => inv.keyed key payload last (before key payload last found).2,
    ?_, ?_⟩
  · intro owner other payload last found alive
    obtain ⟨different, entry⟩ := before _ payload last found
    obtain ⟨members, bound, set, member, later⟩ := inv.indexed owner other payload last entry alive
    by_cases mine : owner = user
    · subst mine
      have kept : other ∈ members.filter (· ≠ sessionId) := by
        simp only [List.mem_filter, member, true_and, decide_eq_true_eq]
        rintro rfl
        exact different rfl
      refine ⟨members.filter (· ≠ sessionId), bound, ?_, kept, later⟩
      rw [Expiring.change_self _ set, if_pos (le_trans alive later)]
      simp only [if_neg (List.ne_nil_of_mem kept), Option.map_some]
    · rw [Expiring.change_of_ne _ fun sameKey => mine (indexAt_inj sameKey)]
      exact ⟨members, bound, set, member, later⟩
  · intro owner members bound found other member
    rcases Expiring.change_cases _ found with old | ⟨same, held, entry, rewritten⟩
    · exact inv.made owner members bound old other member
    · rw [← same] at entry
      refine inv.made owner held bound entry other ?_
      simp only at rewritten
      split at rewritten
      · cases rewritten
      · cases rewritten
        exact (List.mem_filter.mp member).1

/-- `revoke_user_sessions`: the set goes, and with it every session in it that is alive. -/
theorem StoreInv.removeAll (inv : StoreInv now sessions userSets) {read : List String}
    (noneJoined : ∀ members, userSets.get now (indexAt user) = some members →
      ∀ sessionId ∈ members, (sessions.get now (sessionAt user sessionId)).isSome →
        sessionId ∈ read) :
    StoreInv now
      ((read.map (sessionAt user)).foldl Expiring.delete sessions)
      (userSets.delete (indexAt user)) := by
  have before : ∀ key payload last,
      ((read.map (sessionAt user)).foldl Expiring.delete sessions) key =
        some (payload, last) →
      key ∉ read.map (sessionAt user) ∧ sessions key = some (payload, last) := by
    intro key payload last found
    rw [Expiring.foldl_delete] at found
    split at found
    · cases found
    · rename_i absent
      exact ⟨absent, found⟩
  refine ⟨fun key payload last found => inv.keyed key payload last (before key payload last found).2,
    ?_, ?_⟩
  · intro owner other payload last found alive
    obtain ⟨absent, entry⟩ := before _ payload last found
    by_cases mine : owner = user
    · subst mine
      obtain ⟨members, set, member⟩ := inv.set_alive entry alive
      refine absurd (List.mem_map_of_mem (noneJoined members set other member ?_)) absent
      rw [(Expiring.get_eq_some _ _).mpr ⟨last, entry, alive⟩]
      rfl
    · rw [Expiring.delete_of_ne _ fun sameKey => mine (indexAt_inj sameKey)]
      exact inv.indexed owner other payload last entry alive
  · intro owner members bound found other member
    by_cases mine : owner = user
    · simp [mine] at found
    · rw [Expiring.delete_of_ne _ fun sameKey => mine (indexAt_inj sameKey)] at found
      exact inv.made owner members bound found other member

end Store

variable {s : State}

theorem Inv.enter (inv : Inv s) (client : Nat) {pending : Pending} (fits : Fits pending) :
    Inv (s.enter client pending) := by
  refine ⟨inv.store, ?_⟩
  intro other
  by_cases same : other = client
  · subst same
    simpa [State.enter] using fits
  · simpa [State.enter, same] using inv.pending other

/-- A session that is found belongs to the user its id was made for. -/
theorem Inv.fits_afterGet (inv : Inv s) {user sessionId : String} (made : Made user sessionId)
    {next : String → Pending} (fits : Made user sessionId → Fits (next user)) :
    Fits (afterGet next (get s.now s.store sessionId)) := by
  simp only [RedisSessionStore.get, made.sessionKey, bind, Except.bind, pure, Except.pure]
  cases found : s.store.sessions.get s.now (sessionAt user sessionId) with
  | none => trivial
  | some payload =>
      obtain ⟨last, entry, -⟩ := (Expiring.get_eq_some _ _).mp found
      obtain ⟨⟨other, -, same⟩, -⟩ := inv.store.keyed _ _ _ entry
      obtain ⟨owner, -⟩ := sessionAt_inj same
      show Fits (next payload.userId)
      rw [← owner]
      exact fits made

theorem Inv.fits_afterMembers (inv : Inv s) (user : String) :
    Fits (afterMembers user (members s.now s.store user)) := by
  by_cases named : user = ""
  · simp [members, userKey, userRoutingTag, named, bind, Except.bind, afterMembers, Fits]
  · simp only [members, userKey_ok named, bind, Except.bind, pure, Except.pure]
    cases found : s.store.userSets.get s.now (indexAt user) with
    | none => trivial
    | some read =>
        obtain ⟨bound, entry, -⟩ := (Expiring.get_eq_some _ _).mp found
        cases read with
        | nil => trivial
        | cons first rest => exact ⟨named, inv.store.made user _ bound entry⟩

theorem sessionKeys_ok {user : String} {read : List String}
    (made : ∀ sessionId ∈ read, Made user sessionId) :
    read.mapM sessionKey = .ok (read.map (sessionAt user)) := by
  induction read with
  | nil => rfl
  | cons first rest ih =>
      rw [List.mapM_cons, (made first (by simp)).sessionKey,
        ih fun sessionId member => made sessionId (by simp [member])]
      rfl

theorem proceed_revokingAll {now : Instant} {store : SessionKeys} {user : String}
    {read : List String} (named : user ≠ "") (made : ∀ sessionId ∈ read, Made user sessionId) :
    proceed now store (.revokingAll user read) = {
      sessions := (read.map (sessionAt user)).foldl Expiring.delete store.sessions
      userSets := store.userSets.delete (indexAt user) } := by
  simp only [proceed, RedisSessionStore.removeAll, userKey_ok named, sessionKeys_ok made, bind,
    Except.bind, pure, Except.pure]

/-- The second command of a call. -/
theorem Inv.proceed (inv : Inv s) {client : Nat} (noneJoined : NoneJoined s (.proceed client)) :
    StoreInv s.now (proceed s.now s.store (s.pending client)).sessions
      (proceed s.now s.store (s.pending client)).userSets := by
  have fits := inv.pending client
  cases pending : s.pending client with
  | idle => exact inv.store
  | refreshing sessionId user =>
      rw [pending] at fits
      have made : Made user sessionId := fits
      simp only [Index.proceed, extend, made.sessionKey, userKey_ok made.1, bind, Except.bind, pure,
        Except.pure]
      exact inv.store.extend
  | revoking sessionId user =>
      rw [pending] at fits
      have made : Made user sessionId := fits
      simp only [Index.proceed, remove, made.sessionKey, userKey_ok made.1, bind, Except.bind, pure,
        Except.pure]
      exact inv.store.remove
  | revokingAll user read =>
      rw [pending] at fits
      obtain ⟨named, made⟩ := fits
      rw [proceed_revokingAll named made]
      exact inv.store.removeAll (noneJoined user read pending)

theorem inv_step (action : Action) (inv : Inv s) (allowed : Issued action ∧ NoneJoined s action) :
    Inv (step s action) := by
  cases action with
  | wait duration => exact ⟨inv.store.wait duration, inv.pending⟩
  | create session =>
      obtain ⟨user, made⟩ := allowed.1
      simp only [step]
      cases created : create s.now s.store session with
      | error failure => exact inv
      | ok store =>
          obtain ⟨rfl, rfl⟩ := create_ok made created
          exact ⟨inv.store.create made session.data, inv.pending⟩
  | get sessionId => exact inv
  | refresh client sessionId =>
      obtain ⟨user, made⟩ := allowed.1
      exact inv.enter client (inv.fits_afterGet made id)
  | revoke client sessionId =>
      obtain ⟨user, made⟩ := allowed.1
      exact inv.enter client (inv.fits_afterGet made id)
  | revokeUserSessions client user => exact inv.enter client (inv.fits_afterMembers user)
  | proceed client =>
      have kept : Inv { s with store := proceed s.now s.store (s.pending client) } :=
        ⟨inv.proceed allowed.2, inv.pending⟩
      exact kept.enter client trivial

theorem Inv.indexed (inv : Inv s) : Indexed s := by
  intro key payload last found alive
  obtain ⟨⟨sessionId, made, rfl⟩, -⟩ := inv.store.keyed key payload last found
  obtain ⟨members, bound, set, member, later⟩ :=
    inv.store.indexed payload.userId sessionId payload last found alive
  exact ⟨sessionId, indexAt payload.userId, members, bound, made.sessionKey, userKey_ok made.1, set,
    member, later⟩

/-! ## Whole runs -/

/-- `revoke_user_sessions` with nobody in between. -/
def revocation (client : Nat) (user : String) (duration : Nat) : List Action :=
  [.revokeUserSessions client user, .wait duration, .proceed client]

/-- A live session of the user is in the set that can be read. -/
theorem Inv.member_of_live (inv : Inv s) {key : String} {payload : SessionPayload}
    {last : Instant} (entry : s.store.sessions key = some (payload, last)) (alive : s.now ≤ last) :
    ∃ sessionId members, Made payload.userId sessionId ∧
      key = sessionAt payload.userId sessionId ∧
      s.store.userSets.get s.now (indexAt payload.userId) = some members ∧
      sessionId ∈ members := by
  obtain ⟨⟨sessionId, made, rfl⟩, -⟩ := inv.store.keyed key payload last entry
  obtain ⟨members, set, member⟩ := inv.store.set_alive entry alive
  exact ⟨sessionId, members, made, rfl, set, member⟩

theorem Inv.revoked (inv : Inv s) (client : Nat) (user : String) (duration : Nat) :
    Ended (exec step s (revocation client user duration)) user := by
  rintro key payload found rfl
  obtain ⟨last, entry, alive⟩ := (Expiring.get_eq_some _ _).mp found
  have sooner : s.now ≤ last := by
    refine le_trans (Int.le_add_of_nonneg_right (Int.natCast_nonneg duration)) ?_
    exact alive
  simp only [revocation, exec_cons, exec_nil, step, State.enter, Function.update_self] at entry
  have named : payload.userId ≠ "" := by
    rintro empty
    have idle : afterMembers payload.userId (members s.now s.store payload.userId) = .idle := by
      rw [empty]
      rfl
    rw [idle] at entry
    obtain ⟨sessionId, -, made, -⟩ := inv.member_of_live entry sooner
    exact made.1 empty
  have reads : members s.now s.store payload.userId =
      .ok ((s.store.userSets.get s.now (indexAt payload.userId)).getD []) := by
    simp only [members, userKey_ok named]
    rfl
  rw [reads] at entry
  have made := inv.fits_afterMembers payload.userId
  rw [reads] at made
  cases read : (s.store.userSets.get s.now (indexAt payload.userId)).getD [] with
  | nil =>
      rw [read] at entry
      obtain ⟨sessionId, members, -, -, set, member⟩ := inv.member_of_live entry sooner
      rw [set, Option.getD_some] at read
      rw [read] at member
      cases member
  | cons first rest =>
      rw [read] at entry made
      obtain ⟨-, made⟩ := made
      simp only [afterMembers, proceed_revokingAll named made, Expiring.foldl_delete] at entry
      split at entry
      · cases entry
      · rename_i absent
        obtain ⟨sessionId, members, -, rfl, set, member⟩ := inv.member_of_live entry sooner
        rw [set, Option.getD_some] at read
        rw [read] at member
        exact absent (List.mem_map_of_mem member)

/-- What holds of the session keys at every moment of a run. -/
structure Complete (s : State) : Prop where
  indexed : Indexed s
  /-- A revocation that nothing disturbs leaves no session of its user. -/
  revocable : ∀ client user duration, Ended (exec step s (revocation client user duration)) user
  /-- Two users have two session sets. -/
  apart : ∀ user other index, userKey user = .ok index → userKey other = .ok index → user = other
  /-- A session and its user's set carry the same hash tag. -/
  tagged : ∀ user secret sessionId, secret ≠ "" → createSessionId user secret = .ok sessionId →
    ∃ key index, sessionKey sessionId = .ok key ∧ userKey user = .ok index ∧
      hashTag key = hashTag index

theorem userKey_eq {user index : String} (key : userKey user = .ok index) :
    index = indexAt user := by
  by_cases named : user = ""
  · simp [userKey, userRoutingTag, named, bind, Except.bind] at key
  · rw [userKey_ok named] at key
    exact (Except.ok.inj key).symm

theorem Inv.complete (inv : Inv s) : Complete s := by
  refine ⟨inv.indexed, inv.revoked, ?_, ?_⟩
  · intro user other index key key'
    exact indexAt_inj ((userKey_eq key).symm.trans (userKey_eq key'))
  · intro user secret sessionId drawn created
    have made := made_of_createSessionId drawn created
    refine ⟨_, _, made.sessionKey, userKey_ok made.1, ?_⟩
    have named := tagOf_ne_empty made.1
    rw [sessionAt, indexAt, hashTag_taggedKey (closed_tagOf user) named,
      hashTag_taggedKey (closed_tagOf user) named]

/-- Redis before the first session. -/
def empty (now : Instant) : State := ⟨now, ⟨Expiring.empty, Expiring.empty⟩, fun _ => .idle⟩

theorem inv_empty (now : Instant) : Inv (empty now) :=
  ⟨⟨nofun, nofun, nofun⟩, fun _ => trivial⟩

/-- **Where no live session joins a set that is about to be deleted, the index is complete.** -/
theorem undisturbed_index_complete {now : Instant} {trace : List Action}
    (undisturbed : Admissible step (fun s action => Issued action ∧ NoneJoined s action)
      (empty now) trace) : Complete (exec step (empty now) trace) := by
  have inv : Inv (exec step (empty now) trace) :=
    exec_invariant (fun _ action inv allowed => inv_step action inv allowed) (inv_empty now)
      undisturbed
  exact inv.complete

/-! ## A session that joins in between -/

namespace Joined

def user : String := "user-1"

def firstId : String := "dXNlci0x.3VZ1Cq0nK2bq7sXh4mYt9wPzRfLdJgUeA5vNc8oTiEk"

def secondId : String := "dXNlci0x.Qm7rTz0xYb3kWc5vNp9sLd1fGh2jKa4uEo6iRyTtVwM"

def session (sessionId : String) : SessionData :=
  ⟨sessionId, user, [("shard_id", .str "1"), ("access_level", .str "user")]⟩

/-- A revocation has read the set when the second session is created. -/
def trace : List Action :=
  [.create (session firstId), .revokeUserSessions 0 user, .create (session secondId), .proceed 0]

theorem firstId_made : Made user firstId :=
  ⟨by decide, "3VZ1Cq0nK2bq7sXh4mYt9wPzRfLdJgUeA5vNc8oTiEk", by decide, by decide +kernel⟩

theorem secondId_made : Made user secondId :=
  ⟨by decide, "Qm7rTz0xYb3kWc5vNp9sLd1fGh2jKa4uEo6iRyTtVwM", by decide, by decide +kernel⟩

theorem second_alive : ∃ payload last, payload.userId = user ∧ 0 ≤ last ∧
    (exec step (empty 0) trace).store.sessions (sessionAt user secondId) = some (payload, last) :=
  ⟨_, seconds 3600, rfl, by decide, rfl⟩

theorem set_gone : (exec step (empty 0) trace).store.userSets (indexAt user) = none := rfl

theorem joined_session_outlives_revocation :
    Admissible step (fun _ action => Issued action) (empty 0) trace ∧
      ¬ Indexed (exec step (empty 0) trace) ∧
      ¬ Ended (exec step (exec step (empty 0) trace) (revocation 0 user 0)) user := by
  obtain ⟨payload, last, owner, alive, found⟩ := second_alive
  refine ⟨⟨⟨user, firstId_made⟩, trivial, ⟨user, secondId_made⟩, trivial, trivial⟩, ?_, ?_⟩
  · intro indexed
    obtain ⟨sessionId, index, members, bound, -, key, set, -⟩ := indexed _ payload last found alive
    rw [owner] at key
    rw [userKey_eq key, set_gone] at set
    cases set
  · intro ended
    refine ended (sessionAt user secondId) payload ?_ owner
    exact (Expiring.get_eq_some _ _).mpr ⟨last, found, alive⟩

/-- Without the second session the revocation empties the index. -/
theorem alone_index_complete :
    Complete (exec step (empty 0) [.create (session firstId), .revokeUserSessions 0 user,
      .wait 1000000, .proceed 0]) := by
  refine undisturbed_index_complete ⟨⟨⟨user, firstId_made⟩, trivial⟩, ⟨trivial, trivial⟩,
    ⟨trivial, trivial⟩, ⟨trivial, ?_⟩, trivial⟩
  intro owner read pending members set sessionId member _
  have reads : Pending.revokingAll user [firstId] = .revokingAll owner read := pending
  cases reads
  have holds : some [firstId] = some members := set
  cases holds
  exact member

end Joined

end KisAutoTrading.Sessions.Index
