/-
# Token.ResponseParsing — which token responses are accepted or rejected cleanly

`_parse_token_response` answers a body with a token, or raises
`KisTokenCoordinatorError`, for which the routes answer 503 (`AcceptedCleanly`). A token
has a value and a type that are not empty, and expires later than now.

Four kinds of body break this. `json.loads` can raise more than a `ValueError`; an integer
too large for a float makes `math.isfinite` raise; a lifetime can end after the last
`datetime`; and a lifetime of at most half a microsecond is rounded to none.
`accepted_cleanly_iff`: where none of the four is met (`Acceptable`), and nowhere else, the
response is accepted or rejected cleanly.
-/
import KisAutoTrading.Routers.OperatorMarketData

namespace KisAutoTrading.Token.ResponseParsing

open Theory

set_option autoImplicit false

section Response

variable (C : Codec) (content : List UInt8) (now : Instant)

/-- A token that is one, or the error of the coordinator. -/
def CleanOutcome : Except TokenFailure KisAccessToken → Prop
  | .ok token => token.value ≠ "" ∧ token.tokenType ≠ "" ∧ now < token.expiresAt
  | .error failure => ∃ message, failure = .coordinator message

structure AcceptedCleanly : Prop where
  outcome : CleanOutcome now (C.parseTokenResponse content now)
  /-- A failed token is a 503. -/
  answered : ∀ failure unavailable, C.parseTokenResponse content now = .error failure →
    answerKisCall unavailable (.error (.token failure) : Except KisCallFailure KisDomesticStockPrice) =
      .http 503 unavailable

/-- The lifetime in microseconds. -/
def microseconds (lifetime : ℚ) : Int := roundHalfEven (lifetime * 1000000)

/-- `expires_in` is no number, or one of a magnitude that `math.isfinite`, `timedelta` and the
addition to the clock can bear, and that is not rounded to nothing. -/
def LifetimeFits : Json → Prop
  | .int value => overflowsFloat value = false ∧ (0 < value → now + value * 1000000 ≤ maxInstant)
  | .float (.finite lifetime) => 0 < lifetime →
      0 < microseconds lifetime ∧ now + microseconds lifetime ≤ maxInstant
  | _ => True

/-- The response names a token and its type, both not empty, and `expires_in`. -/
def Names (payload expiresIn : Json) : Prop :=
  ((subscript payload "access_token").bind nonemptyText).isSome ∧
    ((subscript payload "token_type").bind nonemptyText).isSome ∧
    subscript payload "expires_in" = some expiresIn

/-- `json.loads` raises at most a `ValueError`, and the lifetime of a token that is named fits. -/
def Acceptable : Prop :=
  C.loadsBytes content ≠ .raised ∧ ∀ payload expiresIn, C.loadsBytes content = .value payload →
    Names payload expiresIn → LifetimeFits now expiresIn

end Response

/-! ## Lifetimes -/

section Lifetimes

variable {now : Instant}

theorem microseconds_intCast (value : Int) : microseconds value = value * 1000000 := by
  rw [microseconds, ← roundHalfEven_intCast (value * 1000000)]
  push_cast
  rfl

/-- What `_parse_token_response` makes of a positive lifetime. -/
def expiring (value kind : String) (now : Instant) (lifetime : ℚ) :
    Except TokenFailure KisAccessToken :=
  if maxInstant < now + microseconds lifetime then .error .overflow
  else .ok ⟨value, kind, now + microseconds lifetime⟩

theorem expiring_clean_iff {value kind : String} (valued : value ≠ "") (kinded : kind ≠ "")
    (lifetime : ℚ) :
    CleanOutcome now (expiring value kind now lifetime) ↔
      0 < microseconds lifetime ∧ now + microseconds lifetime ≤ maxInstant := by
  unfold expiring
  by_cases late : maxInstant < now + microseconds lifetime
  · rw [if_pos late]
    constructor
    · rintro ⟨message, foreign⟩
      cases foreign
    · intro fits
      exact absurd fits.2 (not_le.mpr late)
  · rw [if_neg late]
    show value ≠ "" ∧ kind ≠ "" ∧ now < now + microseconds lifetime ↔ _
    have ahead : now < now + microseconds lifetime ↔ 0 < microseconds lifetime :=
      lt_add_iff_pos_right now
    simp only [valued, kinded, ne_eq, not_false_eq_true, true_and, ahead, not_lt.mp late, and_true]

/-- Where the three fields are given, the response is rejected or made a token. -/
theorem positiveNumber_clean_iff {value kind : String} (valued : value ≠ "") (kinded : kind ≠ "")
    (expiresIn : Json) :
    CleanOutcome now (do
      match ← positiveNumber expiresIn with
      | none => .error invalidResponse
      | some lifetime => expiring value kind now lifetime) ↔ LifetimeFits now expiresIn := by
  have rejected : CleanOutcome now (.error invalidResponse) := ⟨_, rfl⟩
  have overflows : ¬ CleanOutcome now (.error .overflow) := by
    rintro ⟨message, foreign⟩
    cases foreign
  cases expiresIn with
  | int number =>
      by_cases huge : overflowsFloat number = true
      · simp [positiveNumber, LifetimeFits, huge, bind, Except.bind, overflows]
      · by_cases positive : 0 < number
        · have positiveMicroseconds : 0 < number * 1000000 := by omega
          have lifetime : CleanOutcome now (expiring value kind now number) ↔ _ :=
            expiring_clean_iff valued kinded number
          rw [microseconds_intCast] at lifetime
          simp only [positiveNumber, if_neg huge, if_neg (not_le.mpr positive), bind, Except.bind]
          simp [lifetime, LifetimeFits, huge, positive, positiveMicroseconds]
        · simp only [positiveNumber, if_neg huge, if_pos (not_lt.mp positive), bind, Except.bind]
          simp [LifetimeFits, huge, positive, rejected]
  | float number =>
      cases number with
      | finite lifetime =>
          by_cases positive : 0 < lifetime
          · simp only [positiveNumber, if_neg (not_le.mpr positive), bind, Except.bind]
            simp [expiring_clean_iff valued kinded, LifetimeFits, positive]
          · simp only [positiveNumber, if_pos (not_lt.mp positive), bind, Except.bind]
            simp [LifetimeFits, positive, rejected]
      | _ => exact ⟨fun _ => trivial, fun _ => rejected⟩
  | _ => exact ⟨fun _ => trivial, fun _ => rejected⟩

end Lifetimes

/-! ## Responses -/

section Parsing

variable {C : Codec} {content : List UInt8} {now : Instant}

theorem parse_named {payload accessToken tokenType expiresIn : Json} {value kind : String}
    (loaded : C.loadsBytes content = .value payload)
    (access : subscript payload "access_token" = some accessToken)
    (type : subscript payload "token_type" = some tokenType)
    (expires : subscript payload "expires_in" = some expiresIn)
    (valued : nonemptyText accessToken = some value) (kinded : nonemptyText tokenType = some kind) :
    C.parseTokenResponse content now = (do
      match ← positiveNumber expiresIn with
      | none => .error invalidResponse
      | some lifetime => expiring value kind now lifetime) := by
  simp only [Codec.parseTokenResponse, loaded, access, type, expires, valued, kinded]
  rfl

/-- A response that does not name a token, its type and its lifetime is rejected. -/
theorem parse_unnamed {payload : Json} (loaded : C.loadsBytes content = .value payload)
    (unnamed : ∀ expiresIn, ¬ Names payload expiresIn) :
    C.parseTokenResponse content now = .error invalidResponse := by
  simp only [Codec.parseTokenResponse, loaded]
  split
  · rename_i accessToken tokenType expiresIn access type expires
    split
    · rename_i value kind valued kinded
      refine absurd ⟨?_, ?_, expires⟩ (unnamed expiresIn)
      · simp [access, valued]
      · simp [type, kinded]
    · rfl
  · rfl

theorem parse_clean_iff :
    CleanOutcome now (C.parseTokenResponse content now) ↔ Acceptable C content now := by
  cases loaded : C.loadsBytes content with
  | valueError =>
      have rejected : C.parseTokenResponse content now = .error invalidResponse := by
        simp only [Codec.parseTokenResponse, loaded]
      rw [rejected]
      exact ⟨fun _ => ⟨by simp [loaded], by simp [loaded]⟩, fun _ => ⟨_, rfl⟩⟩
  | raised =>
      have escaped : C.parseTokenResponse content now = .error .raised := by
        simp only [Codec.parseTokenResponse, loaded]
      rw [escaped]
      constructor
      · rintro ⟨message, foreign⟩
        cases foreign
      · intro acceptable
        exact absurd loaded acceptable.1
  | value payload =>
      have acceptable_iff : Acceptable C content now ↔
          ∀ expiresIn, Names payload expiresIn → LifetimeFits now expiresIn := by
        constructor
        · intro acceptable expiresIn names
          exact acceptable.2 payload expiresIn loaded names
        · intro fits
          refine ⟨by simp [loaded], ?_⟩
          intro other expiresIn same names
          obtain rfl : payload = other := Loaded.value.inj (loaded.symm.trans same)
          exact fits expiresIn names
      rw [acceptable_iff]
      by_cases named : ∃ expiresIn, Names payload expiresIn
      · obtain ⟨expiresIn, access, type, expires⟩ := named
        obtain ⟨value, valued⟩ := Option.isSome_iff_exists.mp access
        obtain ⟨kind, kinded⟩ := Option.isSome_iff_exists.mp type
        obtain ⟨accessToken, accessFound, valueRead⟩ := Option.bind_eq_some_iff.mp valued
        obtain ⟨tokenType, typeFound, kindRead⟩ := Option.bind_eq_some_iff.mp kinded
        rw [parse_named loaded accessFound typeFound expires valueRead kindRead,
          positiveNumber_clean_iff (nonemptyText_ne valueRead) (nonemptyText_ne kindRead)]
        constructor
        · intro fits other names
          have same : expiresIn = other := Option.some.inj (expires.symm.trans names.2.2)
          exact same ▸ fits
        · intro fits
          exact fits expiresIn ⟨access, type, expires⟩
      · have unnamed : ∀ expiresIn, ¬ Names payload expiresIn := not_exists.mp named
        rw [parse_unnamed loaded unnamed]
        exact ⟨fun _ expiresIn names => absurd names (unnamed expiresIn), fun _ => ⟨_, rfl⟩⟩

end Parsing

/-- **A token response is accepted or rejected cleanly exactly where `json.loads` raises at most
a `ValueError` and the lifetime of a token that is named fits.** -/
theorem accepted_cleanly_iff (C : Codec) (content : List UInt8) (now : Instant) :
    AcceptedCleanly C content now ↔ Acceptable C content now := by
  constructor
  · intro cleanly
    exact parse_clean_iff.mp cleanly.outcome
  · intro acceptable
    have clean := parse_clean_iff.mpr acceptable
    refine ⟨clean, ?_⟩
    intro failure unavailable raised
    rw [raised] at clean
    obtain ⟨message, rfl⟩ := clean
    rfl

/-! ## Three lifetimes that do not fit -/

namespace Sample

/-- A response with the given literal as its lifetime. -/
def responseText (expiresIn : String) : String :=
  "\x7b\"access_token\":\"token-value\",\"token_type\":\"Bearer\",\"expires_in\":" ++
    (expiresIn ++ "\x7d")

def response (expiresIn : Json) : Json := .obj [
  ("access_token", .str "token-value"),
  ("token_type", .str "Bearer"),
  ("expires_in", expiresIn)]

/-- `json.loads` on that response. -/
def codec (literal : String) (expiresIn : Json) : Codec where
  loads _ := .valueError
  loadsBytes content :=
    if content = utf8 (responseText literal) then .value (response expiresIn) else .valueError
  dumps _ := ""
  isoformat _ := ""
  fromisoformat _ := none

/-- In the autumn of 2026. -/
def now : Instant := 1790553600000000

/-- The literal of 10 to the power of 400. -/
def hugeLiteral : String := String.ofList ('1' :: List.replicate 400 '0')

theorem not_clean {literal : String} {expiresIn : Json} (unfit : ¬ LifetimeFits now expiresIn) :
    ¬ AcceptedCleanly (codec literal expiresIn) (utf8 (responseText literal)) now := by
  intro cleanly
  have acceptable := parse_clean_iff.mp cleanly.outcome
  exact unfit (acceptable.2 (response expiresIn) expiresIn (if_pos rfl) ⟨rfl, rfl, rfl⟩)

/-- Thirty thousand years, a lifetime beyond the floats, and a tenth of a microsecond. -/
theorem three_lifetimes_not_clean :
    ¬ AcceptedCleanly (codec "1000000000000" (.int 1000000000000))
        (utf8 (responseText "1000000000000")) now ∧
      ¬ AcceptedCleanly (codec hugeLiteral (.int (10 ^ 400))) (utf8 (responseText hugeLiteral)) now ∧
      ¬ AcceptedCleanly (codec "1e-7" (.float (.finite (1 / 10000000))))
        (utf8 (responseText "1e-7")) now := by
  refine ⟨not_clean ?_, not_clean ?_, not_clean ?_⟩
  · intro fits
    have past := fits.2 (by decide)
    revert past
    decide
  · intro fits
    have small := fits.1
    revert small
    decide +kernel
  · intro fits
    have later := (fits (by norm_num)).1
    revert later
    decide +kernel

end Sample

end KisAutoTrading.Token.ResponseParsing
