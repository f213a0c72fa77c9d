/-
# Signal.FanOut — how complete the fan-out of a signal is

`_handle_signal_created` handles a live signal once: it asks for the enabled
projections of the signal's code, at most 1000 of them, and writes an intent for
each. `fanOut_complete_iff` says exactly when every enabled projection gets its
intent: a live signal needs at most `fanOutLimit` of them. Past the limit the
projections with the highest subscription ids are left out, and since the claim of
the event makes the first handling final they never get one (`fanOut_leaves_out`,
which holds whatever `uuid5` is).
-/
import KisAutoTrading.Worker.MessageHandler

namespace KisAutoTrading.Signal.FanOut

open Theory

set_option autoImplicit false

/-- The enabled projections of a stock code. -/
def subscribers (store : AutomationStore) (stockCode : String) :
    List SignalSubscriptionProjection :=
  store.subscriptionProjections.rows.filter fun row =>
    row.stockCode = stockCode ∧ row.enabled = true

/-- The signal has an expiry and it lies ahead. -/
def Live (signal : SignalEvent) (now expiry : Instant) : Prop :=
  signal.expiresAt = some (.aware expiry) ∧ now < expiry

/-- The signal has no expiry, or it has passed. -/
def Over (signal : SignalEvent) (now : Instant) : Prop :=
  signal.expiresAt = none ∨ ∃ expiry, signal.expiresAt = some (.aware expiry) ∧ expiry ≤ now

/-- The one intent of a signal and a subscription. -/
def OnlyIntent (intents : Table Uuid SignalDeliveryIntent) (signalId subscriptionId : Uuid)
    (intent : SignalDeliveryIntent) : Prop :=
  intents.find intent.intentId = some intent ∧ intent.signalId = signalId ∧
    intent.subscriptionId = subscriptionId ∧
    ∀ id other, intents.find id = some other → other.signalId = signalId →
      other.subscriptionId = subscriptionId → id = intent.intentId ∧ other = intent

/-- Every subscriber has exactly one pending intent, with its user and shard and the
signal's expiry, and nobody else has one. -/
structure Served (signal : SignalEvent) (expiry : Instant) (before after : AutomationStore) :
    Prop where
  each : ∀ row ∈ subscribers before signal.stockCode, ∃ intent,
    OnlyIntent after.deliveryIntents signal.signalId row.subscriptionId intent ∧
      intent.status = "pending" ∧ intent.userId = row.userId ∧ intent.shardId = row.shardId ∧
      intent.expiresAt = .aware expiry
  others : ∀ id intent, after.deliveryIntents.find id = some intent →
    intent.signalId = signal.signalId →
      ∃ row ∈ subscribers before signal.stockCode, row.subscriptionId = intent.subscriptionId

/-- What handling the event of `signal` should do to the store. -/
def Complete (P : Platform) (message : EventMessage) (signal : SignalEvent) (now : Instant)
    (newId : Uuid → String) (store : AutomationStore) : Prop :=
  (∀ expiry, Live signal now expiry → ∃ after,
    P.handleSignalCreated message now newId store = .ok ((), after) ∧
      Served signal expiry store after) ∧
  (Over signal now → ∃ after, P.handleSignalCreated message now newId store = .ok ((), after) ∧
    after.deliveryIntents = store.deliveryIntents)

/-- The store before a signal's event is handled for the first time. -/
structure First (P : Platform) (message : EventMessage) (signal : SignalEvent)
    (store : AutomationStore) : Prop where
  decoded : P.signalFromPayload message.payload = .ok signal
  unclaimed : message.eventId ∉ store.processedMessages
  noneYet : ∀ id intent, store.deliveryIntents.find id = some intent →
    intent.signalId ≠ signal.signalId
  projections : Table.Keyed (·.subscriptionId) store.subscriptionProjections
  intents : ∀ id intent, store.deliveryIntents.find id = some intent →
    id = P.uuid5 namespaceUrl (intentName intent.signalId intent.subscriptionId)

/-- The names `uuid5` is given for the stored intents and those to be written. -/
def namesUsed (signal : SignalEvent) (store : AutomationStore) : Set String :=
  { name | (∃ row ∈ subscribers store signal.stockCode,
      name = intentName signal.signalId row.subscriptionId) ∨
    ∃ id intent, store.deliveryIntents.find id = some intent ∧
      name = intentName intent.signalId intent.subscriptionId }

theorem intentName_inj {a b c d : Uuid} (same : intentName a b = intentName c d) :
    a = c ∧ b = d := by
  obtain ⟨signals, rest⟩ := Uuid.str_append_inj same
  exact ⟨signals, Uuid.str_inj.mp (string_append_right_inj rest)⟩

section Loop

variable {P : Platform} {store : AutomationStore}

/-- The loop: what is stored stays, and of the rest the first under an id is written. -/
theorem find_foldl_materializeIntent (newId : Uuid → String) (now : Instant)
    (intents : List SignalDeliveryIntent) (store : AutomationStore) (id : Uuid) :
    (intents.foldl (P.materializeIntent newId now) store).deliveryIntents.find id =
      (store.deliveryIntents.find id).or (intents.find? fun intent => intent.intentId = id) := by
  induction intents generalizing store with
  | nil => simp
  | cons intent rest ih =>
      rw [List.foldl_cons, ih, Platform.materializeIntent]
      cases stored : store.deliveryIntents.find intent.intentId with
      | some other =>
          by_cases same : intent.intentId = id
          · subst same
            simp [stored]
          · simp [same]
      | none =>
          by_cases same : intent.intentId = id
          · subst same
            simp [stored]
          · simp [same, Table.find_put_of_ne _ _ (Ne.symm same)]

/-- The projections the handler asks for. -/
def asked (store : AutomationStore) (signal : SignalEvent) : List SignalSubscriptionProjection :=
  selectEnabled store.subscriptionProjections signal.stockCode fanOutLimit

theorem mem_subscribers_of_mem_asked {signal : SignalEvent} {row : SignalSubscriptionProjection}
    (member : row ∈ asked store signal) : row ∈ subscribers store signal.stockCode :=
  (List.mem_insertionSort _).mp (List.mem_of_mem_take member)

theorem mem_asked_of_le {signal : SignalEvent} {row : SignalSubscriptionProjection}
    (few : (subscribers store signal.stockCode).length ≤ fanOutLimit)
    (member : row ∈ subscribers store signal.stockCode) : row ∈ asked store signal := by
  have sorted := (List.mem_insertionSort fun a b : SignalSubscriptionProjection =>
    a.subscriptionId ≤ b.subscriptionId).mpr member
  rw [asked, selectEnabled, List.take_of_length_le]
  · exact sorted
  · rw [List.length_insertionSort]
    exact few

/-- Past the limit some subscriber is not asked for, nor is anyone with its id. -/
theorem exists_not_asked {signal : SignalEvent}
    (keyed : Table.Keyed (·.subscriptionId) store.subscriptionProjections)
    (many : fanOutLimit < (subscribers store signal.stockCode).length) :
    ∃ row ∈ subscribers store signal.stockCode,
      ∀ other ∈ asked store signal, other.subscriptionId ≠ row.subscriptionId := by
  let sorted := (subscribers store signal.stockCode).insertionSort fun a b =>
    a.subscriptionId ≤ b.subscriptionId
  have perm : sorted.Perm (subscribers store signal.stockCode) := List.perm_insertionSort _ _
  have long : fanOutLimit < sorted.length := by rw [perm.length_eq]; exact many
  have distinct : (sorted.map (·.subscriptionId)).Nodup := by
    rw [(perm.map _).nodup_iff]
    exact keyed.rows_nodup.sublist (List.filter_sublist.map _)
  -- The first row past the limit is in what the limit drops.
  have dropped : sorted[fanOutLimit] ∈ sorted.drop fanOutLimit := by
    rw [List.drop_eq_getElem_cons long]
    exact List.mem_cons_self
  refine ⟨sorted[fanOutLimit], perm.mem_iff.mp (List.mem_of_mem_drop dropped), ?_⟩
  intro other member same
  refine List.disjoint_take_drop distinct (le_refl fanOutLimit) ?_ (List.map_drop ▸
    List.mem_map_of_mem dropped)
  rw [← same, ← List.map_take]
  exact List.mem_map_of_mem member

end Loop

section Handling

variable {P : Platform} {message : EventMessage} {signal : SignalEvent} {now : Instant}
  {newId : Uuid → String} {store : AutomationStore}

/-- The store when the loop has run. -/
def served (P : Platform) (message : EventMessage) (signal : SignalEvent) (now expiry : Instant)
    (newId : Uuid → String) (store : AutomationStore) : AutomationStore :=
  ((asked store signal).map (P.deliveryIntent signal (.aware expiry))).foldl
    (P.materializeIntent newId now)
    { store with processedMessages := insert message.eventId store.processedMessages }

theorem handle_live (first : First P message signal store) {expiry : Instant}
    (live : Live signal now expiry) :
    P.handleSignalCreated message now newId store =
      .ok ((), served P message signal now expiry newId store) := by
  have ahead : ¬ expiry ≤ now := not_le.mpr live.2
  have query := listEnabledSignalSubscriptions_ok store.subscriptionProjections
    (signalFromPayload_normal first.decoded) fanOutLimit
  simp only [Platform.handleSignalCreated, first.decoded, bind, Except.bind, Inbox.claim,
    first.unclaimed, if_false, if_true, live.1, ahead, query]
  rfl

theorem handle_over (first : First P message signal store) (expired : Over signal now) :
    P.handleSignalCreated message now newId store = .ok ((), { store with
      processedMessages := insert message.eventId store.processedMessages }) := by
  rcases expired with none | ⟨expiry, some, passed⟩
  · simp [Platform.handleSignalCreated, first.decoded, bind, Except.bind, Inbox.claim,
      first.unclaimed, none]
  · simp [Platform.handleSignalCreated, first.decoded, bind, Except.bind, Inbox.claim,
      first.unclaimed, some, passed]

/-- What is stored afterwards was there before, or is the intent of an asked-for row. -/
theorem find_served {expiry : Instant} {id : Uuid} {intent : SignalDeliveryIntent}
    (found : (served P message signal now expiry newId store).deliveryIntents.find id =
      some intent) :
    store.deliveryIntents.find id = some intent ∨
      id = intent.intentId ∧ ∃ row ∈ asked store signal,
        intent = P.deliveryIntent signal (.aware expiry) row := by
  rw [served, find_foldl_materializeIntent] at found
  cases old : store.deliveryIntents.find id with
  | some other =>
      simp only [old, Option.some_or] at found
      exact .inl found
  | none =>
      simp only [old, Option.none_or] at found
      obtain ⟨row, member, rfl⟩ := List.mem_map.mp (List.mem_of_find?_eq_some found)
      have here := List.find?_some found
      simp only [decide_eq_true_eq] at here
      exact .inr ⟨here.symm, row, member, rfl⟩

/-- An asked-for row has its intent afterwards. -/
theorem served_find (first : First P message signal store)
    (inj : Set.InjOn (P.uuid5 namespaceUrl) (namesUsed signal store)) {expiry : Instant}
    {row : SignalSubscriptionProjection} (member : row ∈ asked store signal) :
    (served P message signal now expiry newId store).deliveryIntents.find
        (P.deliveryIntent signal (.aware expiry) row).intentId =
      some (P.deliveryIntent signal (.aware expiry) row) := by
  have used : intentName signal.signalId row.subscriptionId ∈ namesUsed signal store :=
    .inl ⟨row, mem_subscribers_of_mem_asked member, rfl⟩
  cases found : (served P message signal now expiry newId store).deliveryIntents.find
      (P.deliveryIntent signal (.aware expiry) row).intentId with
  | some intent =>
      rcases find_served found with old | ⟨same, other, asked, rfl⟩
      · -- A stored intent under this id would be one of the same signal.
        have names := inj used (.inr ⟨_, intent, old, rfl⟩) (first.intents _ intent old)
        exact absurd (intentName_inj names).1.symm (first.noneYet _ intent old)
      · have names := inj used (.inl ⟨other, mem_subscribers_of_mem_asked asked, rfl⟩) same
        have stored := (List.mem_filter.mp (mem_subscribers_of_mem_asked member)).1
        have stored' := (List.mem_filter.mp (mem_subscribers_of_mem_asked asked)).1
        rw [first.projections.mem_rows_iff] at stored stored'
        rw [(intentName_inj names).2, stored'] at stored
        rw [Option.some.inj stored]
  | none =>
      rw [served, find_foldl_materializeIntent] at found
      obtain ⟨-, missing⟩ := Option.or_eq_none_iff.mp found
      rw [List.find?_eq_none] at missing
      exact absurd (decide_eq_true rfl) (missing _ (List.mem_map_of_mem member))

theorem served_of_le (first : First P message signal store)
    (inj : Set.InjOn (P.uuid5 namespaceUrl) (namesUsed signal store)) {expiry : Instant}
    (few : (subscribers store signal.stockCode).length ≤ fanOutLimit) :
    Served signal expiry store (served P message signal now expiry newId store) := by
  constructor
  · intro row member
    have member' := mem_asked_of_le few member
    refine ⟨P.deliveryIntent signal (.aware expiry) row,
      ⟨served_find first inj member', rfl, rfl, ?_⟩, rfl, rfl, rfl, rfl⟩
    intro id other found sameSignal sameSubscription
    rcases find_served found with old | ⟨rfl, row', asked', rfl⟩
    · exact absurd sameSignal (first.noneYet id other old)
    · have named : (P.deliveryIntent signal (.aware expiry) row').intentId =
          (P.deliveryIntent signal (.aware expiry) row).intentId := by
        simp only [Platform.deliveryIntent] at sameSubscription ⊢
        rw [sameSubscription]
      rw [named, served_find first inj member'] at found
      exact ⟨named, (Option.some.inj found).symm⟩
  · intro id intent found sameSignal
    rcases find_served found with old | ⟨-, row, asked', rfl⟩
    · exact absurd sameSignal (first.noneYet id intent old)
    · exact ⟨row, mem_subscribers_of_mem_asked asked', rfl⟩

/-- Past the limit some subscriber has no intent at all. -/
theorem not_served_of_lt (first : First P message signal store) {expiry : Instant}
    (many : fanOutLimit < (subscribers store signal.stockCode).length) :
    ¬ Served signal expiry store (served P message signal now expiry newId store) := by
  intro complete
  obtain ⟨row, member, left⟩ := exists_not_asked first.projections many
  obtain ⟨intent, ⟨found, sameSignal, sameSubscription, -⟩, -⟩ := complete.each row member
  rcases find_served found with old | ⟨-, other, asked', same⟩
  · exact first.noneYet _ intent old sameSignal
  · refine left other asked' ?_
    rw [← sameSubscription, same]
    rfl

end Handling

/-- **When the fan-out is complete.** Handling the event of a signal for the first
time does what it should if and only if the signal is not live or at most
`fanOutLimit` enabled projections have its stock code. -/
theorem fanOut_complete_iff (P : Platform) (message : EventMessage) (signal : SignalEvent)
    (now : Instant) (newId : Uuid → String) (store : AutomationStore)
    (first : First P message signal store)
    (inj : Set.InjOn (P.uuid5 namespaceUrl) (namesUsed signal store)) :
    Complete P message signal now newId store ↔
      ((∃ expiry, Live signal now expiry) →
        (subscribers store signal.stockCode).length ≤ fanOutLimit) := by
  constructor
  · rintro ⟨whenLive, -⟩ ⟨expiry, live⟩
    obtain ⟨after, handled, complete⟩ := whenLive expiry live
    rw [handle_live first live, Except.ok.injEq, Prod.mk.injEq] at handled
    by_contra many
    rw [← handled.2] at complete
    exact not_served_of_lt first (not_le.mp many) complete
  · intro few
    refine ⟨fun expiry live => ⟨_, handle_live first live, ?_⟩,
      fun expired => ⟨_, handle_over first expired, rfl⟩⟩
    exact served_of_le first inj (few ⟨expiry, live⟩)

/-! ## A crowd -/

namespace Crowd

def platform (uuid5 : Uuid → String → Uuid) : Platform :=
  .reference uuid5 (.aware 0) "1970-01-01T00:00:00Z"

def signal : SignalEvent :=
  ⟨0x6f1d3f0a6f0e4f559f571f6f0d3b7c21, "005930", "buy", "71000", .finite 1, .aware 0,
    some (.aware (seconds 60))⟩

def message (P : Platform) : EventMessage where
  eventType := "signal.created"
  aggregateId := signal.signalId.str
  payload := P.dumpSignalEvent signal
  routingKey := "signal.created"
  eventId := "0d0c8a52-3d4f-4f0c-8f55-6a7d5f9b1a02"
  occurredAt := 0

def follower (k : Nat) : SignalSubscriptionProjection :=
  ⟨Fin.ofNat (2 ^ 128) k, Fin.ofNat (2 ^ 128) k, shardIdFor (Fin.ofNat (2 ^ 128) k), "005930", true,
    1⟩

/-- The enabled projections of `n` users. -/
def followers : Nat → Table Uuid SignalSubscriptionProjection
  | 0 => ∅
  | n + 1 => (followers n).put (follower n).subscriptionId (follower n)

def store (n : Nat) : AutomationStore := { AutomationStore.empty with
  subscriptionProjections := followers n }

theorem followers_keyed (n : Nat) : Table.Keyed (·.subscriptionId) (followers n) := by
  induction n with
  | zero => exact Table.keyed_empty _
  | succ n ih => exact ih.put (follower n)

theorem follower_inj {j k : Nat} (jBound : j < 2 ^ 128) (kBound : k < 2 ^ 128)
    (same : (follower j).subscriptionId = (follower k).subscriptionId) : j = k := by
  have values := congrArg Fin.val same
  simp only [follower, Fin.val_ofNat, Nat.mod_eq_of_lt jBound, Nat.mod_eq_of_lt kBound] at values
  exact values

theorem followers_find {n k : Nat} (bound : n ≤ 2 ^ 128) (member : k < n) :
    (followers n).find (follower k).subscriptionId = some (follower k) := by
  induction n with
  | zero => cases member
  | succ n ih =>
      rw [followers, Table.find_put]
      split
      · rename_i same
        rw [follower_inj (by omega) (by omega) same]
      · rename_i different
        have other : k ≠ n := fun same => different (by rw [same])
        exact ih (by omega) (by omega)

/-- All of them are subscribers of the signal. -/
theorem le_length_subscribers {n : Nat} (bound : n ≤ 2 ^ 128) :
    n ≤ (subscribers (store n) signal.stockCode).length := by
  have distinct : ((List.range n).map follower).Nodup := by
    refine List.Nodup.map_on ?_ List.nodup_range
    intro j jMember k kMember same
    rw [List.mem_range] at jMember kMember
    exact follower_inj (by omega) (by omega) (congrArg _ same)
  have included : (List.range n).map follower ⊆ subscribers (store n) signal.stockCode := by
    intro row member
    obtain ⟨k, kMember, rfl⟩ := List.mem_map.mp member
    rw [List.mem_range] at kMember
    refine List.mem_filter.mpr ⟨?_, by simp [follower, signal]⟩
    exact Table.mem_rows.mpr ⟨_, followers_find bound kMember⟩
  have count := (distinct.subperm included).length_le
  rwa [List.length_map, List.length_range] at count

theorem first (uuid5 : Uuid → String → Uuid) (n : Nat) :
    First (platform uuid5) (message (platform uuid5)) signal (store n) where
  decoded := rfl
  unclaimed := Finset.notMem_empty _
  noneYet id intent found := by simp [store, AutomationStore.empty] at found
  projections := followers_keyed n
  intents id intent found := by simp [store, AutomationStore.empty] at found

theorem live : Live signal 1 (seconds 60) := ⟨rfl, by decide⟩

/-- With 1001 subscribers the fan-out is not complete, whatever `uuid5` is. -/
theorem fanOut_leaves_out :
    Live signal 1 (seconds 60) ∧ ∀ (uuid5 : Uuid → String → Uuid) (newId : Uuid → String),
      First (platform uuid5) (message (platform uuid5)) signal (store 1001) ∧
        ¬ Complete (platform uuid5) (message (platform uuid5)) signal 1 newId (store 1001) := by
  refine ⟨live, fun uuid5 newId => ⟨first uuid5 1001, fun complete => ?_⟩⟩
  obtain ⟨after, handled, served⟩ := complete.1 (seconds 60) live
  rw [handle_live (first uuid5 1001) live, Except.ok.injEq, Prod.mk.injEq] at handled
  rw [← handled.2] at served
  exact not_served_of_lt (first uuid5 1001)
    (Nat.lt_of_lt_of_le (by decide) (le_length_subscribers (by norm_num))) served

/-- Two followers, a third one who has left and a fourth one of another code. -/
def mixed : AutomationStore := { AutomationStore.empty with
  subscriptionProjections := ((followers 2).put (follower 2).subscriptionId
    { follower 2 with enabled := false }).put (follower 3).subscriptionId
    { follower 3 with stockCode := "000660" } }

/-- `uuid5` of the two names used for the two followers. -/
def intentIds : Platform := platform fun _ name =>
  if name = intentName signal.signalId (follower 0).subscriptionId
  then 0xc669ae255e4659498f8435d0a294cfe9 else 0x7fe29cbb2f395c31bf965d2c6246a676

theorem first_mixed : First intentIds (message intentIds) signal mixed where
  decoded := rfl
  unclaimed := Finset.notMem_empty _
  noneYet id intent found := by simp [mixed, AutomationStore.empty] at found
  projections := ((followers_keyed 2).put { follower 2 with enabled := false }).put
    { follower 3 with stockCode := "000660" }
  intents id intent found := by simp [mixed, AutomationStore.empty] at found

/-- The two get an intent each, and the others none. -/
theorem followers_served :
    Set.InjOn (intentIds.uuid5 namespaceUrl) (namesUsed signal mixed) ∧
      Complete intentIds (message intentIds) signal 1
        (fun id => if id = 0xc669ae255e4659498f8435d0a294cfe9
          then "0d0c8a52-3d4f-4f0c-8f55-6a7d5f9b1a03" else "0d0c8a52-3d4f-4f0c-8f55-6a7d5f9b1a04") mixed := by
  have only : subscribers mixed signal.stockCode = [follower 1, follower 0] := rfl
  have inj : Set.InjOn (intentIds.uuid5 namespaceUrl) (namesUsed signal mixed) := by
    have two : ∀ name ∈ namesUsed signal mixed,
        name = intentName signal.signalId (follower 0).subscriptionId ∨
          name = intentName signal.signalId (follower 1).subscriptionId := by
      rintro name (⟨row, member, rfl⟩ | ⟨id, intent, found, -⟩)
      · rw [only, List.mem_cons, List.mem_singleton] at member
        exact member.symm.imp (fun same => by rw [same]) fun same => by rw [same]
      · simp [mixed, AutomationStore.empty] at found
    have apart : intentName signal.signalId (follower 1).subscriptionId ≠
        intentName signal.signalId (follower 0).subscriptionId := fun same =>
      absurd (intentName_inj same).2 (by decide)
    intro a aUsed b bUsed same
    rcases two a aUsed with rfl | rfl <;> rcases two b bUsed with rfl | rfl
    · rfl
    · simp [intentIds, platform, Platform.reference, apart] at same
    · simp [intentIds, platform, Platform.reference, apart] at same
    · rfl
  refine ⟨inj, (fanOut_complete_iff _ _ _ _ _ _ first_mixed inj).mpr fun _ => ?_⟩
  rw [only]
  decide

end Crowd

end KisAutoTrading.Signal.FanOut
