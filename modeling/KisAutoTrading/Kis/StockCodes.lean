/-
# Kis.StockCodes — one language in three modules

What a domestic stock code is, is written down three times. `normalize_domestic_stock_code` and
`_domestic_stock_code_from_payload` strip the text and ask for six characters that are ASCII
and decimal digits of any script; the client has a pattern for the whole text. `Agree` says of a
text that the first two accept it alike and what they accept, and that the code they make of
it is `Served`: it is its own normal form and matches the pattern.

Behind that stand two facts about Unicode: the ASCII characters among the decimal digits are
the ten of `[0-9]` (`isAsciiDecimal_eq`), and none of them is a blank. `codes_served` follows
them into the stores: no subscription, event or projection carries another code.
-/
import KisAutoTrading.Infrastructure.KisMarketData
import KisAutoTrading.Routers.DurableJobs
import KisAutoTrading.Signal.Replication
import KisAutoTrading.Theory.CharClass

namespace KisAutoTrading.Kis.StockCodes

open Theory Theory.Runs Signal.Replication

set_option autoImplicit false

/-- `[0-9]{6}`. -/
def stockCodePattern : RegularExpression Char := charClass "0123456789".toList ^ 6

/-- The condition under which the two validators raise, as they write it. -/
def refused (normalized : String) : Bool :=
  normalized.length ≠ 6 || !isAscii normalized || !isDecimal normalized

/-- No later check refuses the code. -/
structure Served (code : String) : Prop where
  again : normalizeDomesticStockCode code = some code
  matched : isStockCode code = true
  priced : ∀ (client : KisMarketDataClient) token answer before after,
    (client.getDomesticStockPrice code token answer before after).1 ≠ .error .stockCode
  charted : ∀ (client : KisMarketDataClient) token answer before after,
    (client.getDomesticDailyCandles code token answer before after).1 ≠ .error .stockCode

/-- What is asked of the validators for a text. -/
structure Agree (text : String) : Prop where
  /-- The text without the blanks around it has to be a word of the pattern. -/
  accepted : ∀ code, normalizeDomesticStockCode text = some code ↔
    code = pyStrip text ∧ code.toList ∈ stockCodePattern.matches'
  /-- A payload that holds the text is read as the same code. -/
  fromPayload : ∀ (payload : Dict) jobType, payload.get "stock_code" = some (.str text) → ∀ code,
    domesticStockCodeFromPayload payload jobType = .ok code ↔
      normalizeDomesticStockCode text = some code
  served : ∀ code, normalizeDomesticStockCode text = some code → Served code

/-- The conditions of the three modules, as they write them. -/
structure AsWritten (text : String) : Prop where
  normalize : normalizeDomesticStockCode text =
    if refused (pyStrip text) then none else some (pyStrip text)
  fromPayload : ∀ (payload : Dict) jobType, payload.get "stock_code" = some (.str text) →
    domesticStockCodeFromPayload payload jobType =
      if refused (pyStrip text) then
        .error (.raised .valueError
          (jobType ++ " stock_code must be a six-digit domestic stock code"))
      else .ok (pyStrip text)
  fullmatch : isStockCode text = stockCodePattern.rmatch text.toList

/-! ## Digits -/

section Digits

variable {text code : String}

/-- Beyond ASCII lie all the other digits. -/
theorem decimal_iff_digit {c : Char} (ascii : c.toNat < 128) :
    (decimalZeros.any fun first => first ≤ c.toNat && c.toNat ≤ first + 9) = true ↔
      ('0' ≤ c && c ≤ '9') = true := by
  have beyond : ∀ first ∈ decimalZeros, first = 48 ∨ 128 ≤ first := by decide
  have zero : 48 ∈ decimalZeros := by decide
  simp only [List.any_eq_true, Bool.and_eq_true, decide_eq_true_eq, Char.le_def,
    UInt32.le_iff_toNat_le]
  constructor
  · rintro ⟨first, member, low, high⟩
    rcases beyond first member with rfl | far
    · exact ⟨low, high⟩
    · omega
  · rintro ⟨low, high⟩
    exact ⟨48, zero, low, high⟩

theorem ascii_of_digit {c : Char} (digit : ('0' ≤ c && c ≤ '9') = true) : c.toNat < 128 := by
  simp only [Bool.and_eq_true, decide_eq_true_eq, Char.le_def, UInt32.le_iff_toNat_le] at digit
  exact lt_of_le_of_lt digit.2 (by decide)

/-- ASCII and decimal digits: the digits from 0 to 9. -/
theorem isAsciiDecimal_eq (text : String) :
    isAsciiDecimal text = (isAscii text && isDecimal text) := by
  rw [Bool.eq_iff_iff]
  simp only [isAsciiDecimal, isAscii, isDecimal, Bool.and_eq_true, List.all_eq_true,
    decide_eq_true_eq]
  constructor
  · rintro ⟨some, digits⟩
    have ascii : ∀ c ∈ text.toList, c.toNat < 128 := fun c member =>
      ascii_of_digit (by simpa using digits c member)
    refine ⟨ascii, some, ?_⟩
    intro c member
    exact (decimal_iff_digit (ascii c member)).mpr (by simpa using digits c member)
  · rintro ⟨ascii, some, decimal⟩
    refine ⟨some, ?_⟩
    intro c member
    simpa using (decimal_iff_digit (ascii c member)).mp (decimal c member)

theorem mem_digits {c : Char} : c ∈ "0123456789".toList ↔ ('0' ≤ c && c ≤ '9') = true := by
  constructor
  · have all : "0123456789".toList.all (fun c => '0' ≤ c && c ≤ '9') = true := by decide
    exact List.all_eq_true.mp all c
  · intro digit
    simp only [Bool.and_eq_true, decide_eq_true_eq, Char.le_def, UInt32.le_iff_toNat_le] at digit
    obtain ⟨low, high⟩ : 48 ≤ c.toNat ∧ c.toNat ≤ 57 := digit
    rw [← Char.ofNat_toNat c]
    interval_cases c.toNat <;> decide

/-- Six characters from 0 to 9 are what the pattern matches. -/
theorem isStockCode_iff : isStockCode code = true ↔ code.toList ∈ stockCodePattern.matches' := by
  rw [stockCodePattern, mem_charClass_pow, isStockCode, isAsciiDecimal]
  simp only [Bool.and_eq_true, decide_eq_true_eq, Bool.not_eq_true', List.isEmpty_eq_false_iff,
    List.all_eq_true, mem_digits]
  constructor
  · rintro ⟨six, -, digits⟩
    exact ⟨six, digits⟩
  · rintro ⟨six, digits⟩
    refine ⟨six, ?_, digits⟩
    intro empty
    rw [empty] at six
    cases six

/-! ## The three modules -/

theorem normalize_eq_some : normalizeDomesticStockCode text = some code ↔
    code = pyStrip text ∧ isStockCode code = true := by
  unfold normalizeDomesticStockCode isStockCode
  simp only
  split
  · rename_i refused
    simp only [reduceCtorEq, false_iff, Bool.and_eq_true, decide_eq_true_eq]
    rintro ⟨rfl, six, decimal⟩
    exact refused.elim (fun other => other six) (fun other => by rw [decimal] at other; cases other)
  · rename_i accepted
    obtain ⟨six, decimal⟩ := not_or.mp accepted
    simp only [Option.some.injEq, Bool.and_eq_true, decide_eq_true_eq]
    constructor
    · rintro rfl
      exact ⟨rfl, not_not.mp six, by simpa using decimal⟩
    · rintro ⟨rfl, -⟩
      rfl

/-- The validator of a payload does what the policy does with the text that the payload holds. -/
theorem fromPayload_eq {payload : Dict} (holds : payload.get "stock_code" = some (.str text))
    (jobType : String) :
    domesticStockCodeFromPayload payload jobType =
      match normalizeDomesticStockCode text with
      | some code => .ok code
      | none => .error (.raised .valueError
          (jobType ++ " stock_code must be a six-digit domestic stock code")) := by
  simp only [domesticStockCodeFromPayload, holds, normalizeDomesticStockCode]
  split <;> rfl

section Calls

variable {α : Type} {call : CachedCall α} {fetch : Except KisCallFailure α} {before after : Moment}

theorem lookup_ne_stockCode : call.lookup before ≠ .error .stockCode := by
  unfold CachedCall.lookup
  split
  · simp
  · simp
  · split <;> simp

theorem save_ne_stockCode {value : α} : call.save value after ≠ .error .stockCode := by
  unfold CachedCall.save
  split <;> simp

/-- The cache raises no error of a stock code. -/
theorem run_ne_stockCode (fetched : fetch ≠ .error .stockCode) :
    (call.run fetch before after).1 ≠ .error .stockCode := by
  unfold CachedCall.run
  split
  · rename_i failure missed
    intro same
    cases same
    exact lookup_ne_stockCode missed
  · simp
  · split
    · exact fetched
    · split
      · simp
      · rename_i failure refused
        intro same
        cases same
        exact save_ne_stockCode refused

end Calls

theorem fetchWith_ne_stockCode {α : Type} {token : Except TokenFailure KisAccessToken}
    {answer : Except ProviderFailure ExternalResponse} {parse : Int → List UInt8 → Except KisRaised α} :
    fetchWith token answer parse ≠ .error .stockCode := by
  unfold fetchWith
  split
  · simp
  · split
    · simp
    · split <;> simp

/-- What one validator has accepted the others accept. -/
theorem served_of_normalized (normalized : normalizeDomesticStockCode text = some code) :
    Served code := by
  obtain ⟨-, matched⟩ := normalize_eq_some.mp normalized
  refine ⟨normalize_idem normalized, matched, ?_, ?_⟩
  · intro client token answer before after
    rw [KisMarketDataClient.getDomesticStockPrice, if_pos matched]
    exact run_ne_stockCode fetchWith_ne_stockCode
  · intro client token answer before after
    rw [KisMarketDataClient.getDomesticDailyCandles, if_pos matched]
    exact run_ne_stockCode fetchWith_ne_stockCode

/-- A projection that is read carries a normalized code. -/
theorem served_of_projection {P : Platform} {payload : Dict}
    {projection : SignalSubscriptionProjection}
    (read : P.subscriptionProjectionFromPayload payload = .ok projection) :
    Served projection.stockCode := by
  unfold Platform.subscriptionProjectionFromPayload at read
  split at read
  · cases read
  · split at read
    · cases read
    · rename_i normalized
      cases read
      exact served_of_normalized normalized

theorem agree (text : String) : Agree text := by
  refine ⟨?_, ?_, fun code => served_of_normalized⟩
  · intro code
    rw [normalize_eq_some, isStockCode_iff]
  · intro payload jobType holds code
    rw [fromPayload_eq holds jobType]
    cases normalizeDomesticStockCode text with
    | some other => simp
    | none => simp

/-- The model's conditions are those of the source. -/
theorem as_written (text : String) : AsWritten text := by
  have written : refused (pyStrip text) = true ↔
      (pyStrip text).toList.length ≠ 6 ∨ isAsciiDecimal (pyStrip text) = false := by
    simp only [refused, isAsciiDecimal_eq, Bool.or_eq_true, decide_eq_true_eq, Bool.not_eq_true',
      Bool.and_eq_false_iff, or_assoc]
    exact Iff.rfl
  refine ⟨?_, ?_, ?_⟩
  · simp only [normalizeDomesticStockCode, written]
  · intro payload jobType holds
    simp only [domesticStockCodeFromPayload, holds, written]
  · rw [Bool.eq_iff_iff, isStockCode_iff, RegularExpression.rmatch_iff_matches']

/-- A job that is admitted has a code that is served to its end. -/
theorem admitted_served {jobType : String} {payload : Dict}
    (admitted : validateDurableJobPayload jobType payload = .ok ())
    (collects : jobType = "market_price_snapshot" ∨ jobType = "domestic_daily_candle_collection") :
    ∃ code, domesticStockCodeFromPayload payload jobType = .ok code ∧ Served code := by
  rw [validateDurableJobPayload, if_pos collects] at admitted
  obtain ⟨code, read, -⟩ := bind_ok admitted
  refine ⟨code, read, ?_⟩
  cases holds : payload.get "stock_code" with
  | none =>
      simp only [domesticStockCodeFromPayload, holds] at read
      cases read
  | some value =>
      cases value with
      | str text =>
          exact served_of_normalized (((agree text).fromPayload payload jobType holds code).mp read)
      | _ =>
          simp only [domesticStockCodeFromPayload, holds] at read
          cases read

end Digits

/-! ## The stores -/

/-- Every subscription, every event of one and every projection carries a code that is served. -/
structure CodesServed (P : Platform) (dbs : Databases) : Prop where
  rows : ∀ shardId id row, (dbs.account shardId).subscriptions.find id = some row →
    Served row.stockCode
  events : ∀ shardId, ∀ record ∈ (dbs.account shardId).outbox, ∃ projection,
    P.subscriptionProjectionFromPayload record.payload = .ok projection ∧ Served projection.stockCode
  projections : ∀ id row, dbs.automation.subscriptionProjections.find id = some row →
    Served row.stockCode

section Stores

variable {P : Platform} {dbs : Databases}

theorem codesServed_empty (P : Platform) : CodesServed P .empty := by
  refine ⟨?_, ?_, ?_⟩
  · intro shardId id row found
    simp [Databases.empty, AccountShard.empty] at found
  · intro shardId record member
    simp [Databases.empty, AccountShard.empty] at member
  · intro id row found
    simp [Databases.empty, AutomationStore.empty] at found

theorem codesServed_write (served : CodesServed P dbs) {user : Uuid} {row : SignalSubscription}
    (new : Served row.stockCode) (eventId : String) (now : Instant) :
    CodesServed P (writeSubscription dbs (shardIdFor user) row eventId now) := by
  refine ⟨?_, ?_, served.projections⟩
  · intro shardId id other found
    rw [writeSubscription_find] at found
    split at found
    · cases found
      exact new
    · exact served.rows shardId id other found
  · intro shardId record member
    rcases mem_writeSubscription_outbox.mp member with old | ⟨-, rfl⟩
    · exact served.events shardId record old
    · exact ⟨_, subscriptionProjection_of_update P shardId eventId now new.again, new⟩

/-- Whatever a call decides, it writes the row of the code it was given, or one that stands. -/
theorem codesServed_call (served : CodesServed P dbs) {text : String} {session : SessionData}
    {choose : Uuid → Uuid → String → Option SignalSubscription → Decision SignalSubscription}
    (writes : ∀ id user code existing row, choose id user code existing = .write row →
      row.stockCode = code ∨ ∃ old, existing = some old ∧ row.stockCode = old.stockCode)
    (login : ∃ user, LoginSession session user) (eventId : String) (now : Instant) :
    CodesServed P (dbs.commit (P.changeSubscription choose text session eventId now dbs)) := by
  obtain ⟨user, login⟩ := login
  obtain same | ⟨code, row, normalized, decided, result⟩ :=
    @changeSubscription_cases P choose text session user login eventId now dbs
  · rwa [same]
  · rw [result]
    refine codesServed_write served ?_ eventId now
    rcases writes _ _ _ _ row decided with given | ⟨old, stored, kept⟩
    · rw [given]
      exact served_of_normalized normalized
    · rw [kept]
      exact served.rows _ _ old stored

theorem codesServed_step (dbs : Databases) (action : Action) (served : CodesServed P dbs)
    (allowed : Allowed dbs action) : CodesServed P (step P dbs action) := by
  cases action with
  | subscribe request session eventId now =>
      refine codesServed_call served ?_ allowed.1 eventId now
      intro id user code existing row written
      exact .inl (subscribe_continues written).stockCode_eq
  | unsubscribe request session eventId now =>
      refine codesServed_call served ?_ allowed.1 eventId now
      intro id user code existing row written
      cases existing with
      | none => cases written
      | some old =>
          simp only [unsubscribeDecision] at written
          split at written
          · cases written
            exact .inr ⟨old, rfl, rfl⟩
          · cases written
  | deliver message =>
      cases handled : dbs.automationSession (P.handleSignalSubscriptionUpdate message) with
      | error failure =>
          simp only [step, handled, Databases.commit]
          exact served
      | ok result =>
          obtain ⟨value, after⟩ := result
          obtain ⟨store, ran, rfl⟩ := Databases.automationSession_commits handled
          obtain ⟨projection, processed, projections, read, rfl, stored⟩ :=
            handleSignalSubscriptionUpdate_cases ran
          simp only [step, handled, Databases.commit]
          refine ⟨served.rows, served.events, ?_⟩
          intro id row found
          rcases stored with rfl | rfl
          · exact served.projections id row found
          · rw [Table.find_put] at found
            split at found
            · cases found
              exact served_of_projection read
            · exact served.projections id row found

end Stores

/-- **The validators describe one language**, and no code that one of them has accepted is
refused later: not that of an admitted job, of a stored subscription or of a projected event. -/
theorem stock_codes_agree (P : Platform) :
    (∀ text, Agree text ∧ AsWritten text) ∧
    (∀ jobType payload, validateDurableJobPayload jobType payload = .ok () →
      (jobType = "market_price_snapshot" ∨ jobType = "domestic_daily_candle_collection") →
      ∃ code, domesticStockCodeFromPayload payload jobType = .ok code ∧ Served code) ∧
    ∀ trace, Admissible (step P) Allowed .empty trace → CodesServed P (run P trace) := by
  refine ⟨fun text => ⟨agree text, as_written text⟩, fun jobType payload => admitted_served, ?_⟩
  intro trace admissible
  exact exec_invariant codesServed_step (codesServed_empty P) admissible

end KisAutoTrading.Kis.StockCodes
