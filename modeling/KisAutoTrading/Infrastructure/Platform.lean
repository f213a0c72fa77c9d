/-
# Infrastructure.Platform — what the program calls but does not contain

`Platform` collects the functions of the Python runtime and of pydantic that the
program relies on and whose source is not part of it: the name-based `uuid5`, the
digest `sha256`, and the field validators and serializers of `BaseModel`. The round
trips stated as fields are pydantic's documented ones: a value written by
`model_dump(mode="json")` (or a UUID written by `str`) is read back by
`model_validate`. Nothing else about these functions is assumed; that `uuid5` does
not collide is never assumed here, only, where a result needs it, on the names one
run uses.

`Failure` is what a handler may raise: an `HTTPException` with its status and
detail, or another exception with its class and message.
-/
import KisAutoTrading.Theory.Json
import Mathlib.Tactic.IntervalCases

namespace KisAutoTrading

open Theory

set_option autoImplicit false

structure Platform where
  uuid5 : Uuid → String → Uuid
  validateUuid : Json → Option Uuid
  validateBool : Json → Option Bool
  validateInt : Json → Option Int
  validateFloat : Json → Option PyFloat
  validateDatetime : Json → Option Datetime
  dumpFloat : PyFloat → Json
  dumpDatetime : Datetime → Json
  /-- The built-in `str`. -/
  pyStr : Json → String
  /-- `hashlib.sha256(text.encode("utf-8")).hexdigest()`. -/
  sha256 : String → String
  /-- `model_dump_json` of a model whose fields are those of the object. -/
  modelDumpJson : Json → String
  validateUuid_str : ∀ u : Uuid, validateUuid (.str u.str) = some u
  validateBool_bool : ∀ b, validateBool (.bool b) = some b
  validateInt_int : ∀ i, validateInt (.int i) = some i
  validateFloat_dump : ∀ q, validateFloat (dumpFloat (.finite q)) = some (.finite q)
  validateDatetime_dump : ∀ d, validateDatetime (dumpDatetime d) = some d
  pyStr_str : ∀ s, pyStr (.str s) = s

/-- `str` fields accept text and nothing else. -/
def validateStr : Json → Option String
  | .str s => some s
  | _ => none

/-- `uuid.NAMESPACE_URL`. -/
def namespaceUrl : Uuid := 0x6ba7b8119dad11d180b400c04fd430c8

/-- A platform that reads back what it writes, for a given `uuid5` and the ISO text
of one date: the interface above asks for nothing that cannot be had. -/
def Platform.reference (uuid5 : Uuid → String → Uuid) (date : Datetime) (text : String) :
    Platform where
  uuid5 := uuid5
  validateUuid | .str s => Uuid.ofStr s | _ => none
  validateBool | .bool b => some b | _ => none
  validateInt | .int i => some i | _ => none
  validateFloat | .float x => some x | _ => none
  validateDatetime
    | .str s => if s = text then some date else none
    | .obj [("aware", .int i)] => some (.aware i)
    | .obj [("naive", .int i)] => some (.naive i)
    | _ => none
  dumpFloat := .float
  dumpDatetime d :=
    if d = date then .str text
    else
      match d with
      | .aware i => .obj [("aware", .int i)]
      | .naive i => .obj [("naive", .int i)]
  pyStr
    | .null => "None"
    | .bool b => if b then "True" else "False"
    | .int i => toString i
    | .str s => s
    | _ => ""
  sha256 text := text
  modelDumpJson
    | .obj [("stock_code", .str code)] => "\x7b\"stock_code\":\"" ++ (code ++ "\"\x7d")
    | _ => ""
  validateUuid_str := Uuid.ofStr_str
  validateBool_bool _ := rfl
  validateInt_int _ := rfl
  validateFloat_dump _ := rfl
  validateDatetime_dump d := by
    by_cases same : d = date
    · simp [same]
    · cases d <;> simp [same]
  pyStr_str _ := rfl

inductive ErrorClass where
  | valueError
  | typeError
  | keyError
  | runtimeError
  | shardRoutingError
  | sessionStoreError
  | requestReplayConflict
  | requestReplayInProgress
  | integrityError
  | dataError
  | lookupError
  | multipleResultsFound
  | yahooFinanceNewsError
  | yahooFinanceNewsTimeoutError
  | yahooFinanceNewsProviderError
  /-- `httpx.HTTPError` and its two families, one of which carries a response. -/
  | httpError
  | requestError
  | httpStatusError (statusCode : Nat)
  deriving DecidableEq

inductive Failure where
  | http (statusCode : Nat) (detail : String)
  | raised (errorClass : ErrorClass) (message : String)
  deriving DecidableEq

/-- A sequence that goes through goes through at both parts. -/
theorem bind_ok {ε α β : Type} {check : Except ε α} {rest : α → Except ε β} {result : β}
    (answered : check >>= rest = .ok result) :
    ∃ value, check = .ok value ∧ rest value = .ok result := by
  cases check with
  | error failure => cases answered
  | ok value => exact ⟨value, rfl, answered⟩

theorem map_eq_ok {ε α β : Type} {f : α → β} {result : Except ε α} {value : β} :
    f <$> result = .ok value ↔ ∃ given, result = .ok given ∧ f given = value := by
  cases result with
  | error failure =>
      constructor
      · intro same
        cases same
      · rintro ⟨given, same, -⟩
        cases same
  | ok given =>
      constructor
      · intro same
        exact ⟨given, rfl, Except.ok.inj same⟩
      · rintro ⟨other, same, rfl⟩
        cases same
        rfl

/-- What a list is read as is read item by item. -/
theorem mem_of_mapM_ok {ε α β : Type} {read : β → Except ε α} {items : List β} {values : List α}
    (parsed : items.mapM read = .ok values) :
    ∀ value ∈ values, ∃ item, read item = .ok value := by
  induction items generalizing values with
  | nil =>
      cases parsed
      simp
  | cons item rest ih =>
      rw [List.mapM_cons] at parsed
      obtain ⟨head, first, more⟩ := bind_ok parsed
      obtain ⟨tail, others, whole⟩ := bind_ok more
      cases whole
      intro value member
      rcases List.mem_cons.mp member with rfl | later
      · exact ⟨item, first⟩
      · exact ih others value later

/-- A list that is read has no item that is not. -/
theorem mapM_ok_of_mem {ε α β : Type} {read : β → Except ε α} {items : List β} {values : List α}
    (parsed : items.mapM read = .ok values) : ∀ item ∈ items, ∃ value, read item = .ok value := by
  induction items generalizing values with
  | nil => simp
  | cons first rest ih =>
      rw [List.mapM_cons] at parsed
      obtain ⟨head, here, more⟩ := bind_ok parsed
      obtain ⟨tail, others, -⟩ := bind_ok more
      intro item member
      rcases List.mem_cons.mp member with rfl | later
      · exact ⟨head, here⟩
      · exact ih others item later

/-- What a list raises is raised by one of its items. -/
theorem mem_of_mapM_error {ε α β : Type} {read : β → Except ε α} {items : List β} {failure : ε}
    (raised : items.mapM read = .error failure) : ∃ item ∈ items, read item = .error failure := by
  induction items with
  | nil => cases raised
  | cons first rest ih =>
      rw [List.mapM_cons] at raised
      cases head : read first with
      | error other =>
          rw [head] at raised
          cases raised
          exact ⟨first, List.mem_cons_self, head⟩
      | ok value =>
          cases tail : rest.mapM read with
          | error other =>
              simp only [head, tail, bind, Except.bind] at raised
              cases raised
              obtain ⟨item, member, here⟩ := ih tail
              exact ⟨item, List.mem_cons_of_mem _ member, here⟩
          | ok values =>
              simp only [head, tail, bind, Except.bind] at raised
              cases raised

/-- A list is read if every item is. -/
theorem mapM_eq_ok {ε α β : Type} {read : β → Except ε α} {write : β → α} {items : List β}
    (each : ∀ item ∈ items, read item = .ok (write item)) :
    items.mapM read = .ok (items.map write) := by
  induction items with
  | nil => rfl
  | cons item rest ih =>
      have first := each item (by simp)
      have others := ih fun other member => each other (by simp [member])
      simp [List.mapM_cons, first, others, bind, Except.bind, pure, Except.pure]

/-- `SessionData`: the authenticated session a route handler is given. -/
structure SessionData where
  sessionId : String
  userId : String
  data : Dict

structure ShardTarget where
  store : String
  shardId : Option String
  deriving DecidableEq

def accountShardCount : Nat := 2

/-- `_shard_id_for`: the account shard a user is placed on at sign-up. -/
def shardIdFor (userId : Uuid) : String := toString (userId.val % accountShardCount + 1)

/-- The session `login` creates for a user: his id, and the shard and access level
of his account. `signup` chose the shard by `shardIdFor` and nothing changes it. -/
structure LoginSession (session : SessionData) (user : Uuid) : Prop where
  userId : session.userId = user.str
  shardId : session.data.get "shard_id" = some (.str (shardIdFor user))

/-- `_subscription_location`, `_profile_location` and `_notification_location` are
one function: the session's user and the account shard its rows live on. -/
def sessionLocation (session : SessionData) : Except Failure (Uuid × ShardTarget) :=
  match session.data.get "shard_id" with
  | some (.str shardId) =>
      if shardId = "" then .error (.http 500 "Session shard is missing")
      else
        match Uuid.ofStr session.userId with
        | some userId => .ok (userId, ⟨"account", some shardId⟩)
        | none => .error (.http 500 "Session user is invalid")
  | _ => .error (.http 500 "Session shard is missing")

theorem shardIdFor_cases (user : Uuid) : shardIdFor user = "1" ∨ shardIdFor user = "2" := by
  have bound : user.val % accountShardCount < 2 := Nat.mod_lt _ (by decide)
  rw [shardIdFor]
  interval_cases user.val % accountShardCount
  · exact .inl rfl
  · exact .inr rfl

theorem LoginSession.location {session : SessionData} {user : Uuid}
    (login : LoginSession session user) :
    sessionLocation session = .ok (user, ⟨"account", some (shardIdFor user)⟩) := by
  have nonempty : shardIdFor user ≠ "" := by
    rcases shardIdFor_cases user with h | h <;> rw [h] <;> decide
  simp [sessionLocation, login.shardId, login.userId, nonempty, Uuid.ofStr_str]

end KisAutoTrading
