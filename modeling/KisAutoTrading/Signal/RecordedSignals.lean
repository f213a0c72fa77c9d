/-
# Signal.RecordedSignals — what `record_signal` enqueues, at the worker

`record_signal` stores a signal as it is and enqueues it if it expires. The worker reads the
event back, puts the stock code into its normal form, which it may not have, and compares
`expires_at` with the clock, which a time without a zone cannot be.

`AlwaysProcessed` is what the two sides promise each other about one signal, in every state
of either. `always_processed_iff`: it holds of the signals that are never enqueued and of
those with a domestic stock code and an `expires_at` with a time zone (`Deliverable`), and
of no other.
-/
import KisAutoTrading.Worker.MessageHandler

namespace KisAutoTrading.Signal.RecordedSignals

open Theory

set_option autoImplicit false

section Promise

-- `accepts`: PostgreSQL takes the rows of the signal when they are flushed.
variable (P : Platform) (accepts : SignalEvent → Bool)

/-- A call of `record_signal` has stored the signal and enqueued the record. -/
structure Enqueued (signal : SignalEvent) (record : OutboxEventRecord) (eventId : String)
    (now : Instant) (dbs after : Databases) : Prop where
  recorded : P.recordSignal signal eventId now dbs = .ok (signal, after)
  flushed : accepts signal = true
  stored : after.automation.signalEvents.find signal.signalId = some signal
  enqueued : after.automation.outbox = dbs.automation.outbox ++ [record]

/-- The worker reads the signal back, up to blanks around its stock code, and handles the
event whatever is in its databases by then. -/
structure Processed (signal : SignalEvent) (record : OutboxEventRecord) : Prop where
  decoded : P.signalFromPayload record.message.payload =
    .ok { signal with stockCode := pyStrip signal.stockCode }
  handled : ∀ now newId dbs, ∃ answer after,
    P.handleMessage record.message now newId dbs = .ok (answer, after)

def AlwaysProcessed (signal : SignalEvent) : Prop :=
  ∀ record eventId now dbs after, Enqueued P accepts signal record eventId now dbs after →
    Processed P signal record

end Promise

/-- The stock code is domestic, and the signal expires at a time with a time zone. -/
structure Deliverable (signal : SignalEvent) : Prop where
  domestic : (normalizeDomesticStockCode signal.stockCode).isSome
  aware : ∃ expiry, signal.expiresAt = some (.aware expiry)

section Sides

variable {P : Platform} {accepts : SignalEvent → Bool} {signal : SignalEvent} {eventId : String}
  {now : Instant} {dbs after : Databases} {record : OutboxEventRecord}

/-! ## The producer -/

theorem recordSignal_new (expires : signal.expiresAt ≠ none)
    (new : dbs.automation.signalEvents.find signal.signalId = none) :
    P.recordSignal signal eventId now dbs = .ok (signal, { dbs with
      automation := { dbs.automation with
        signalEvents := dbs.automation.signalEvents.put signal.signalId signal
        outbox := dbs.automation.outbox ++ [P.signalCreated signal eventId now] } }) := by
  obtain ⟨expiry, expiresAt⟩ := Option.ne_none_iff_exists'.mp expires
  simp only [Platform.recordSignal, Databases.automationSession, new, expiresAt]

/-- What is enqueued is the event of the signal, which expires. -/
theorem Enqueued.record_eq (enqueued : Enqueued P accepts signal record eventId now dbs after) :
    signal.expiresAt ≠ none ∧ record = P.signalCreated signal eventId now := by
  have recorded := enqueued.recorded
  have grown := enqueued.enqueued
  cases found : dbs.automation.signalEvents.find signal.signalId with
  | some existing =>
      simp only [Platform.recordSignal, Databases.automationSession, found] at recorded
      cases recorded
      simp at grown
  | none =>
      cases expires : signal.expiresAt with
      | none =>
          simp only [Platform.recordSignal, Databases.automationSession, found, expires] at recorded
          cases recorded
          simp at grown
      | some expiry =>
          rw [recordSignal_new (by simp [expires]) found] at recorded
          cases recorded
          simp only [List.append_cancel_left_eq, List.cons.injEq, and_true] at grown
          exact ⟨by simp, grown.symm⟩

theorem enqueued_first (expires : signal.expiresAt ≠ none) (flushed : accepts signal = true) :
    ∃ after, Enqueued P accepts signal (P.signalCreated signal eventId now) eventId now .empty
      after :=
  ⟨_, recordSignal_new expires rfl, flushed, Table.find_put_self _ _ _, rfl⟩

/-! ## The worker -/

section Worker

variable (dated : ∀ date, P.dumpDatetime date ≠ .null)

include dated in
theorem validateOptionalDatetime_dump (expiresAt : Option Datetime) :
    P.validateOptionalDatetime (some ((expiresAt.map P.dumpDatetime).getD .null)) =
      some expiresAt := by
  cases expiresAt with
  | none => rfl
  | some date =>
      show P.validateOptionalDatetime (some (P.dumpDatetime date)) = some (some date)
      have back := P.validateDatetime_dump date
      revert back
      cases text : P.dumpDatetime date with
      | null => exact absurd text (dated date)
      | _ => exact fun back => by simp [Platform.validateOptionalDatetime, back]

include dated in
theorem validateSignalEvent_dump (finite : ∃ value, signal.confidence = .finite value) :
    P.validateSignalEvent (P.dumpSignalEvent signal) = some signal := by
  obtain ⟨value, confidence⟩ := finite
  have expiry := validateOptionalDatetime_dump dated signal.expiresAt
  simp [Platform.validateSignalEvent, Platform.dumpSignalEvent, Dict.get, List.lookup_cons,
    validateStr, P.validateUuid_str, P.validateDatetime_dump, confidence, P.validateFloat_dump,
    expiry]
  rw [← confidence]

theorem normalize_eq_pyStrip {text code : String}
    (normalized : normalizeDomesticStockCode text = some code) : code = pyStrip text := by
  simp only [normalizeDomesticStockCode] at normalized
  split at normalized
  · cases normalized
  · exact (Option.some.inj normalized).symm

theorem normalize_pyStrip (text : String) :
    normalizeDomesticStockCode (pyStrip text) = normalizeDomesticStockCode text := by
  simp only [normalizeDomesticStockCode, pyStrip_pyStrip]

include dated in
theorem signalFromPayload_dump (finite : ∃ value, signal.confidence = .finite value) {code : String}
    (domestic : normalizeDomesticStockCode signal.stockCode = some code) :
    P.signalFromPayload (P.dumpSignalEvent signal) =
      .ok { signal with stockCode := pyStrip signal.stockCode } := by
  simp only [Platform.signalFromPayload, validateSignalEvent_dump dated finite, domestic,
    ← normalize_eq_pyStrip domestic]

/-- `ApplicationMessageHandler.handle` hands the event to `_handle_signal_created`. -/
theorem handleMessage_signalCreated (time : Instant) (newId : Uuid → String) :
    P.handleMessage (P.signalCreated signal eventId now).message time newId dbs =
      (dbs.automationSession (P.handleSignalCreated
        (P.signalCreated signal eventId now).message time newId)).map fun (_, dbs) => (none, dbs) :=
  rfl

/-- A signal that was decoded, with a normal code and an aware `expires_at`, is handled. -/
theorem handleSignalCreated_ok {message : EventMessage} {read : SignalEvent} {expiry : Instant}
    (decoded : P.signalFromPayload message.payload = .ok read)
    (aware : read.expiresAt = some (.aware expiry)) (time : Instant) (newId : Uuid → String)
    (store : AutomationStore) :
    ∃ store', P.handleSignalCreated message time newId store = .ok ((), store') := by
  have listed := listEnabledSignalSubscriptions_ok store.subscriptionProjections
    (signalFromPayload_normal decoded) fanOutLimit
  simp only [Platform.handleSignalCreated, decoded, aware, listed, bind, Except.bind]
  split
  · split
    · exact ⟨_, rfl⟩
    · exact ⟨_, rfl⟩
  · exact ⟨_, rfl⟩

/-- The first delivery of an event whose signal expires at a time without a zone. -/
theorem handleSignalCreated_naive {message : EventMessage} {read : SignalEvent} {reading : Int}
    (decoded : P.signalFromPayload message.payload = .ok read)
    (naive : read.expiresAt = some (.naive reading)) (time : Instant) (newId : Uuid → String) :
    P.handleSignalCreated message time newId .empty =
      .error (.raised .typeError "can't compare offset-naive and offset-aware datetimes") := by
  simp only [Platform.handleSignalCreated, decoded, naive, bind, Except.bind]
  rfl

include dated in
theorem processed_of_deliverable (finite : ∃ value, signal.confidence = .finite value)
    (deliverable : Deliverable signal) :
    Processed P signal (P.signalCreated signal eventId now) := by
  obtain ⟨code, domestic⟩ := Option.isSome_iff_exists.mp deliverable.domestic
  obtain ⟨expiry, aware⟩ := deliverable.aware
  have decoded := signalFromPayload_dump dated finite domestic
  have expires : ({ signal with stockCode := pyStrip signal.stockCode } : SignalEvent).expiresAt =
    some (.aware expiry) := aware
  refine ⟨decoded, ?_⟩
  intro time newId dbs
  obtain ⟨store, handled⟩ : ∃ store, P.handleSignalCreated
      (P.signalCreated signal eventId now).message time newId dbs.automation = .ok ((), store) :=
    handleSignalCreated_ok decoded expires time newId dbs.automation
  rw [handleMessage_signalCreated]
  simp only [Databases.automationSession, handled]
  exact ⟨none, _, rfl⟩

/-- Decoding fails without a domestic code, the first delivery without a time zone. -/
theorem deliverable_of_processed (expires : signal.expiresAt ≠ none)
    (processed : Processed P signal (P.signalCreated signal eventId now)) : Deliverable signal := by
  have decoded : P.signalFromPayload (P.dumpSignalEvent signal) =
    .ok { signal with stockCode := pyStrip signal.stockCode } := processed.decoded
  constructor
  · have normal := signalFromPayload_normal decoded
    rw [normalize_pyStrip] at normal
    exact Option.isSome_of_eq_some normal
  · obtain ⟨date, expiresAt⟩ := Option.ne_none_iff_exists'.mp expires
    cases date with
    | aware expiry => exact ⟨expiry, expiresAt⟩
    | naive reading =>
        obtain ⟨answer, after, handled⟩ := processed.handled 0 (fun _ => eventId) .empty
        have naive : ({ signal with stockCode := pyStrip signal.stockCode } :
          SignalEvent).expiresAt = some (.naive reading) := expiresAt
        have failed : P.handleSignalCreated (P.signalCreated signal eventId now).message 0
            (fun _ => eventId) .empty = .error _ :=
          handleSignalCreated_naive decoded naive 0 fun _ => eventId
        rw [handleMessage_signalCreated] at handled
        simp only [Databases.automationSession, Databases.empty, failed] at handled
        cases handled

/-- The first call of `record_signal` puts the promise to the test. -/
theorem deliverable_of_alwaysProcessed (processed : AlwaysProcessed P accepts signal)
    (flushed : accepts signal = true) (expires : signal.expiresAt ≠ none) : Deliverable signal := by
  obtain ⟨after, enqueued⟩ : ∃ after, Enqueued P accepts signal (P.signalCreated signal "" 0) "" 0
      .empty after := enqueued_first expires flushed
  exact deliverable_of_processed expires (processed _ _ _ _ _ enqueued)

end Worker

end Sides

/-- **Exactly the signals that are never enqueued, or have a domestic stock code and expire
at a time with a time zone, are always processed.** -/
theorem always_processed_iff (P : Platform) (accepts : SignalEvent → Bool)
    (dated : ∀ date, P.dumpDatetime date ≠ .null)
    (finite : ∀ signal, accepts signal = true → ∃ value, signal.confidence = .finite value)
    (signal : SignalEvent) :
    AlwaysProcessed P accepts signal ↔
      (accepts signal = true → signal.expiresAt ≠ none → Deliverable signal) := by
  constructor
  · intro processed flushed expires
    exact deliverable_of_alwaysProcessed processed flushed expires
  · intro deliverable record eventId now dbs after enqueued
    obtain ⟨expires, rfl⟩ := enqueued.record_eq
    have flushed := enqueued.flushed
    exact processed_of_deliverable dated (finite signal flushed) (deliverable flushed expires)

/-! ## A domestic signal and two others -/

namespace Sample

def platform : Platform :=
  .reference (fun _ _ => 0x6f1d3f0a6f0e4f559f571f6f0d3b7c21) (.aware 0) "1970-01-01T00:00:00Z"

/-- JSON has no text for the floats that are not finite. -/
def accepts (signal : SignalEvent) : Bool :=
  match signal.confidence with
  | .finite _ => true
  | _ => false

def signal (stockCode : String) (expiresAt : Datetime) : SignalEvent :=
  ⟨0x9b2f6a1c0d4e4f7a8c3b5e6d7f809142, stockCode, "buy", "71000", .finite 1, .aware 0,
    some expiresAt⟩

theorem dated (date : Datetime) : platform.dumpDatetime date ≠ .null := by
  by_cases epoch : date = .aware 0
  · subst epoch
    exact nofun
  · cases date <;> simp [platform, Platform.reference, epoch]

theorem finite (signal : SignalEvent) (accepted : accepts signal = true) :
    ∃ value, signal.confidence = .finite value := by
  unfold accepts at accepted
  split at accepted
  · exact ⟨_, by assumption⟩
  · cases accepted

/-- Blanks around a domestic code are taken off. -/
theorem domestic_processed :
    AlwaysProcessed platform accepts (signal " 005930 " (.aware (seconds 60))) :=
  (always_processed_iff platform accepts dated finite _).mpr fun _ _ =>
    ⟨by decide +kernel, _, rfl⟩

/-- A foreign code is refused at the worker, and so is an expiry without a time zone. -/
theorem foreign_and_naive_not_processed :
    ¬ AlwaysProcessed platform accepts (signal "AAPL" (.aware (seconds 60))) ∧
      ¬ AlwaysProcessed platform accepts (signal "005930" (.naive (seconds 60))) := by
  constructor
  · intro processed
    have domestic := (deliverable_of_alwaysProcessed processed rfl nofun).domestic
    revert domestic
    decide +kernel
  · intro processed
    obtain ⟨expiry, aware⟩ := (deliverable_of_alwaysProcessed processed rfl nofun).aware
    cases aware

end Sample

end KisAutoTrading.Signal.RecordedSignals
