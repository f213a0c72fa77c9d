/-
# Kis.ResponseErrors — what the response parsers raise

Each of the three parsers has an error class of its own for a response that is unusable, and
the routes answer 502 for it. `FailsCleanly`: given a status and a body, the parsers raise
nothing else.

They do not keep to it. Of what `json.loads` raises they catch `JSONDecodeError` alone, and
the parser of the candles calls `int` on a volume that `isdigit` has let through.
`fails_cleanly_iff` says for which responses neither happens.
-/
import KisAutoTrading.Routers.OperatorMarketData

namespace KisAutoTrading.Kis.ResponseErrors

open Theory

set_option autoImplicit false

/-- The outcome is a value or the client's own error. -/
def OwnErrors {α : Type} (outcome : Except KisRaised α) : Prop :=
  ∀ failure, outcome = .error failure → ∃ message, failure = .own message

/-- The route answers 502 for an unusable response. -/
def Answers502 {α : Type} (unavailable : String) (outcome : Except KisRaised α) : Prop :=
  ∀ failure, outcome = .error failure →
    answerKisCall unavailable (.error (.response failure) : Except KisCallFailure α) =
      .http 502 unavailable

section Response

variable (J : JsonModule) (P : Platform) (stockCode : String) (statusCode : Int)
  (content : List UInt8)

/-- `_parse_response` followed by `_parse_holdings`. -/
def parsedHoldings : Except KisRaised (List KisDomesticStockHolding) := do
  let payload ← J.parseResponse P statusCode content
  parseHoldings payload

structure FailsCleanly : Prop where
  price : OwnErrors (J.parsePriceResponse P stockCode statusCode content)
  daily : OwnErrors (J.parseDailyPriceResponse stockCode statusCode content)
  holdings : OwnErrors (parsedHoldings J P statusCode content)
  priceRoute : Answers502 marketDataUnavailable
    (J.parsePriceResponse P stockCode statusCode content)
  dailyRoute : Answers502 marketDataUnavailable
    (J.parseDailyPriceResponse stockCode statusCode content)
  holdingsRoute : Answers502 domesticAccountUnavailable (parsedHoldings J P statusCode content)

/-- `json.loads` reads the body, or raises `JSONDecodeError`. -/
def Loadable : Prop :=
  J.loadsBytes content = .decodeError ∨ ∃ payload, J.loadsBytes content = .value payload

/-- Up to the first row that is rejected, `int` reads every volume. -/
def volumesRead : List Json → Bool
  | [] => true
  | row :: rest =>
      match dailyTexts row with
      | none => true
      | some texts => (pyInt texts.volume).isSome && volumesRead rest

/-- The status is an error already, or the body can be loaded, and its candles if it has any
have volumes that are integers. -/
def Clean : Prop :=
  ¬ (200 ≤ statusCode ∧ statusCode < 300) ∨
    Loadable J content ∧ ∀ payload rows, J.loadsBytes content = .value payload →
      dailyRows payload = some rows → volumesRead rows = true

end Response

/-! ## The shared head -/

section Outcome

variable {α β : Type} {outcome : Except KisRaised α}

theorem ownErrors_ok (value : α) : OwnErrors (.ok value : Except KisRaised α) := nofun

theorem ownErrors_own (message : String) : OwnErrors (.error (.own message) : Except KisRaised α) :=
  fun _ raised => ⟨message, (Except.error.inj raised).symm⟩

theorem OwnErrors.bind {rest : α → Except KisRaised β} (own : OwnErrors outcome)
    (more : ∀ value, outcome = .ok value → OwnErrors (rest value)) :
    OwnErrors (outcome >>= rest) := by
  intro failure raised
  cases first : outcome with
  | error failure' =>
      rw [first] at raised
      cases raised
      exact own failure first
  | ok value =>
      rw [first] at raised
      exact more value first failure raised

theorem mapM_ownErrors {f : β → Except KisRaised α} (own : ∀ item, OwnErrors (f item))
    (items : List β) : OwnErrors (items.mapM f) := by
  intro failure raised
  obtain ⟨item, -, here⟩ := mem_of_mapM_error raised
  exact own item failure here

theorem OwnErrors.answers502 (own : OwnErrors outcome) (unavailable : String) :
    Answers502 unavailable outcome := by
  intro failure raised
  obtain ⟨message, rfl⟩ := own failure raised
  rfl

variable {J : JsonModule} {P : Platform} {what stockCode : String} {statusCode : Int}
  {content : List UInt8} {payload : Json}

theorem loadResponse_ownErrors
    (clean : ¬ (200 ≤ statusCode ∧ statusCode < 300) ∨ Loadable J content) :
    OwnErrors (J.loadResponse what statusCode content) := by
  unfold JsonModule.loadResponse
  split
  · exact ownErrors_own _
  · rename_i fine
    rcases clean with error | decoded | ⟨payload, loaded⟩
    · exact absurd error fine
    · rw [decoded]
      exact ownErrors_own _
    · rw [loaded]
      exact ownErrors_ok payload

theorem loadResponse_ok (fine : 200 ≤ statusCode ∧ statusCode < 300)
    (loaded : J.loadsBytes content = .value payload) :
    J.loadResponse what statusCode content = .ok payload := by
  simp only [JsonModule.loadResponse, not_not.mpr fine, if_false, loaded]

/-- A payload that was loaded is what the bytes are. -/
theorem loadResponse_eq_ok (parsed : J.loadResponse what statusCode content = .ok payload) :
    J.loadsBytes content = .value payload := by
  unfold JsonModule.loadResponse at parsed
  split at parsed
  · cases parsed
  · split at parsed <;> cases parsed
    assumption

theorem loadable_of_ownErrors (fine : 200 ≤ statusCode ∧ statusCode < 300)
    (own : OwnErrors (J.loadResponse what statusCode content)) : Loadable J content := by
  unfold JsonModule.loadResponse at own
  rw [if_neg (not_not.mpr fine)] at own
  unfold Loadable
  cases loaded : J.loadsBytes content with
  | value payload => exact .inr ⟨payload, rfl⟩
  | decodeError => exact .inl rfl
  | valueError | raised =>
      rw [loaded] at own
      obtain ⟨message, foreign⟩ := own _ rfl
      cases foreign

end Outcome

/-! ## The payloads -/

section Payload

variable (P : Platform) (stockCode : String)

theorem pricePayload_ownErrors (payload : Json) : OwnErrors (P.pricePayload stockCode payload) := by
  unfold Platform.pricePayload
  split
  · split
    · split
      · split
        · exact ownErrors_ok _
        · exact ownErrors_own _
      · exact ownErrors_own _
    · exact ownErrors_own _
  · exact ownErrors_own _

theorem balancePayload_ownErrors (payload : Json) : OwnErrors (P.balancePayload payload) := by
  unfold Platform.balancePayload
  split
  · split
    · exact ownErrors_ok _
    · exact ownErrors_own _
  · exact ownErrors_own _

theorem requiredString_ownErrors (payload : Dict) (name : String) :
    OwnErrors (requiredString payload name) := by
  unfold requiredString
  split
  · exact ownErrors_ok _
  · exact ownErrors_own _

theorem parseHolding_ownErrors (record : Json) : OwnErrors (parseHolding record) := by
  cases record with
  | obj fields =>
      have required := requiredString_ownErrors fields
      exact (required _).bind fun _ _ => (required _).bind fun _ _ => (required _).bind fun _ _ =>
        (required _).bind fun _ _ => (required _).bind fun _ _ => ownErrors_ok _
  | _ => exact ownErrors_own _

theorem parseHoldings_ownErrors (payload : Dict) : OwnErrors (parseHoldings payload) := by
  unfold parseHoldings
  split
  · exact mapM_ownErrors parseHolding_ownErrors _
  · exact ownErrors_own _

/-- The loop over the rows raises `ValueError` where it gets to a volume that is no integer. -/
theorem mapM_dailyCandle_ownErrors_iff (rows : List Json) :
    OwnErrors (rows.mapM (dailyCandle stockCode)) ↔ volumesRead rows = true := by
  induction rows with
  | nil => exact ⟨fun _ => rfl, fun _ => ownErrors_ok _⟩
  | cons row rest ih =>
      rw [List.mapM_cons, volumesRead]
      cases checked : dailyTexts row with
      | none =>
          simp only [dailyCandle, checked]
          exact ⟨fun _ => trivial, fun _ => ownErrors_own _⟩
      | some texts =>
          cases number : pyInt texts.volume with
          | none =>
              simp only [dailyCandle, checked, number]
              refine ⟨fun own => ?_, nofun⟩
              obtain ⟨message, foreign⟩ := own _ rfl
              cases foreign
          | some volume =>
              simp only [dailyCandle, checked, number, Option.isSome_some, Bool.true_and]
              rw [← ih]
              constructor
              · intro own failure raised
                refine own failure ?_
                simp only [bind, Except.bind]
                rw [raised]
              · intro own
                exact own.bind fun _ _ => ownErrors_ok _

theorem dailyPayload_ownErrors_iff (payload : Json) :
    OwnErrors (dailyPayload stockCode payload) ↔
      ∀ rows, dailyRows payload = some rows → volumesRead rows = true := by
  unfold dailyPayload
  cases given : dailyRows payload with
  | none => exact ⟨fun _ _ => nofun, fun _ => ownErrors_own _⟩
  | some rows =>
      refine (mapM_dailyCandle_ownErrors_iff stockCode rows).trans ⟨?_, fun read => read rows rfl⟩
      rintro read _ ⟨⟩
      exact read

end Payload

/-! ## The parsers -/

section Parsers

variable {J : JsonModule} {P : Platform} {stockCode : String} {statusCode : Int}
  {content : List UInt8}

theorem parsePriceResponse_ownErrors
    (clean : ¬ (200 ≤ statusCode ∧ statusCode < 300) ∨ Loadable J content) :
    OwnErrors (J.parsePriceResponse P stockCode statusCode content) :=
  (loadResponse_ownErrors clean).bind fun payload _ => pricePayload_ownErrors P stockCode payload

theorem parsedHoldings_ownErrors
    (clean : ¬ (200 ≤ statusCode ∧ statusCode < 300) ∨ Loadable J content) :
    OwnErrors (parsedHoldings J P statusCode content) :=
  ((loadResponse_ownErrors clean).bind fun payload _ => balancePayload_ownErrors P payload).bind
    fun payload _ => parseHoldings_ownErrors payload

theorem Clean.loadable (clean : Clean J statusCode content) :
    ¬ (200 ≤ statusCode ∧ statusCode < 300) ∨ Loadable J content :=
  clean.imp_right And.left

theorem parseDailyPriceResponse_ownErrors_iff :
    OwnErrors (J.parseDailyPriceResponse stockCode statusCode content) ↔
      Clean J statusCode content := by
  constructor
  · intro own
    by_cases fine : 200 ≤ statusCode ∧ statusCode < 300
    · have loadable : Loadable J content := by
        have loads : OwnErrors (J.loadResponse "KIS domestic daily price" statusCode content) := by
          intro failure raised
          refine own failure ?_
          simp only [JsonModule.parseDailyPriceResponse, raised]
          rfl
        exact loadable_of_ownErrors fine loads
      refine .inr ⟨loadable, ?_⟩
      intro payload rows loaded given
      refine (dailyPayload_ownErrors_iff stockCode payload).mp ?_ rows given
      have parsed : J.loadResponse "KIS domestic daily price" statusCode content = .ok payload :=
        loadResponse_ok fine loaded
      rw [JsonModule.parseDailyPriceResponse, parsed] at own
      exact own
    · exact .inl fine
  · intro clean
    refine (loadResponse_ownErrors clean.loadable).bind fun payload parsed => ?_
    refine (dailyPayload_ownErrors_iff stockCode payload).mpr ?_
    intro rows given
    rcases clean with error | ⟨-, read⟩
    · rw [JsonModule.loadResponse, if_pos error] at parsed
      cases parsed
    · exact read payload rows (loadResponse_eq_ok parsed) given

end Parsers

/-- **The three parsers fail cleanly exactly on the responses that have an error status, or
whose body is loaded or no JSON, and whose volumes are integers.** -/
theorem fails_cleanly_iff (J : JsonModule) (P : Platform) (stockCode : String) (statusCode : Int)
    (content : List UInt8) :
    FailsCleanly J P stockCode statusCode content ↔ Clean J statusCode content := by
  constructor
  · intro cleanly
    exact parseDailyPriceResponse_ownErrors_iff.mp cleanly.daily
  · intro clean
    have price : OwnErrors (J.parsePriceResponse P stockCode statusCode content) :=
      parsePriceResponse_ownErrors clean.loadable
    have daily : OwnErrors (J.parseDailyPriceResponse stockCode statusCode content) :=
      parseDailyPriceResponse_ownErrors_iff.mpr clean
    have holdings : OwnErrors (parsedHoldings J P statusCode content) :=
      parsedHoldings_ownErrors clean.loadable
    exact ⟨price, daily, holdings, price.answers502 _, daily.answers502 _, holdings.answers502 _⟩

/-! ## Two bodies that are not rejected cleanly -/

namespace Sample

/-- A row whose volume ends in a superscript. -/
def row : Json := .obj [
  ("stck_bsop_date", .str "20260928"),
  ("stck_oprc", .str "71000"),
  ("stck_hgpr", .str "71500"),
  ("stck_lwpr", .str "70500"),
  ("stck_clpr", .str "71200"),
  ("acml_vol", .str "12²")]

def rowText : String :=
  "\x7b\"rt_cd\":\"0\",\"output\":[\x7b\"stck_bsop_date\":\"20260928\",\"stck_oprc\":\"71000\"," ++
  "\"stck_hgpr\":\"71500\",\"stck_lwpr\":\"70500\",\"stck_clpr\":\"71200\"," ++
  "\"acml_vol\":\"12²\"\x7d]\x7d"

/-- A byte that no UTF-8 text has. -/
def noText : List UInt8 := [0xff]

/-- The module `json` on the two bodies. -/
def json : JsonModule where
  loads _ := .decodeError
  loadsBytes content :=
    if content = noText then .valueError
    else if content = utf8 rowText then .value (dailyEnvelope [row])
    else .decodeError
  dumps _ := rowText

def platform : Platform :=
  .reference (fun _ _ => 0) (.aware 0) "1970-01-01T00:00:00Z"

/-- Bytes that are no text raise `UnicodeDecodeError`, the superscript `ValueError`. -/
theorem no_text_and_superscript_escape :
    ¬ FailsCleanly json platform "005930" 200 noText ∧
      ¬ FailsCleanly json platform "005930" 200 (utf8 rowText) := by
  constructor
  · intro cleanly
    obtain ⟨message, foreign⟩ := cleanly.price .valueError rfl
    cases foreign
  · intro cleanly
    have loaded : json.loadsBytes (utf8 rowText) = .value (dailyEnvelope [row]) := by
      have other : utf8 rowText ≠ noText := by decide +kernel
      simp only [json, if_neg other, if_true]
    rcases parseDailyPriceResponse_ownErrors_iff.mp cleanly.daily with error | ⟨-, read⟩
    · exact error (by decide)
    · have superscript := read _ [row] loaded rfl
      revert superscript
      decide +kernel

end Sample

end KisAutoTrading.Kis.ResponseErrors
