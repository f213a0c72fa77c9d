/-
# Modules.Account — the investor profile of a user

`update_profile`: the profile is replaced as a whole and the replacement announced,
unless it is what the row holds already. PostgreSQL takes neither a NUL character in
a text column nor a number without a finite value in a JSON column, so a profile that
has one is refused when the transaction is flushed.
-/
import KisAutoTrading.Infrastructure.Database

namespace KisAutoTrading

open Theory

set_option autoImplicit false

structure UpdateProfileRequest where
  investmentExperience : String
  riskTolerance : String
  investmentGoal : String
  monthlyBudget : PyFloat

/-- `_profile_location`. -/
def profileLocation (session : SessionData) : Except Failure (Uuid × ShardTarget) :=
  sessionLocation session

/-- `==` on two profiles. -/
def UserProfile.pyEq (a b : UserProfile) : Bool :=
  a.userId = b.userId && a.investmentExperience = b.investmentExperience &&
    a.riskTolerance = b.riskTolerance && a.investmentGoal = b.investmentGoal &&
    a.monthlyBudget.pyEq b.monthlyBudget && a.profileCompleted = b.profileCompleted

def hasNul (text : String) : Bool := text.toList.contains (Char.ofNat 0)

/-- What PostgreSQL answers to the statements that store and announce a profile. -/
def flushProfile (profile : UserProfile) : Except Failure Unit :=
  if hasNul profile.investmentExperience || hasNul profile.riskTolerance ||
      hasNul profile.investmentGoal then
    .error (.raised .dataError "invalid byte sequence for encoding UTF8: 0x00")
  else
    match profile.monthlyBudget with
    | .finite _ => .ok ()
    | _ => .error (.raised .dataError "invalid input syntax for type json")

def UpdateProfileRequest.profile (request : UpdateProfileRequest) (userId : Uuid) :
    UserProfile where
  userId
  investmentExperience := request.investmentExperience
  riskTolerance := request.riskTolerance
  investmentGoal := request.investmentGoal
  monthlyBudget := request.monthlyBudget
  profileCompleted := true

/-- The event `update_profile` enqueues. -/
def profileUpdated (profile : UserProfile) (target : ShardTarget) (eventId : String)
    (now : Instant) : OutboxEventRecord :=
  outboxRecord {
    eventType := "account.profile.updated"
    aggregateId := profile.userId.str
    routingKey := "account.profile.updated"
    payload := [
      ("user_id", .str profile.userId.str),
      ("shard_id", .str (target.shardId.getD "")),
      ("investment_experience", .str profile.investmentExperience),
      ("risk_tolerance", .str profile.riskTolerance),
      ("investment_goal", .str profile.investmentGoal),
      ("monthly_budget", .float profile.monthlyBudget),
      ("profile_completed", .bool profile.profileCompleted)]
    eventId
    occurredAt := now }

/-- The row is what the request asks for. -/
def AccountShard.holdsProfile (shard : AccountShard) (profile : UserProfile) : Bool :=
  match shard.profiles.find profile.userId with
  | some existing => existing.pyEq profile
  | none => false

/-- `update_profile`. -/
def updateProfile (request : UpdateProfileRequest) (session : SessionData) (eventId : String)
    (now : Instant) (dbs : Databases) : Except Failure (UserProfile × Databases) := do
  let (userId, target) ← profileLocation session
  let profile := request.profile userId
  dbs.accountSession target fun shard => do
    if shard.holdsProfile profile then return (profile, shard)
    flushProfile profile
    return (profile, { shard with
      profiles := shard.profiles.put userId profile
      outbox := shard.outbox ++ [profileUpdated profile target eventId now] })

/-- `jsonable_encoder` of a profile. -/
def UserProfile.json (profile : UserProfile) : Json := .obj [
  ("user_id", .str profile.userId.str),
  ("investment_experience", .str profile.investmentExperience),
  ("risk_tolerance", .str profile.riskTolerance),
  ("investment_goal", .str profile.investmentGoal),
  ("monthly_budget", .float profile.monthlyBudget),
  ("profile_completed", .bool profile.profileCompleted)]

end KisAutoTrading
