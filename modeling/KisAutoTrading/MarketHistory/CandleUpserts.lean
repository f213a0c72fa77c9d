/-
# MarketHistory.CandleUpserts — candles saved over and over

Candles are collected daily in windows that overlap, so a candle is saved many times. Whatever
calls were made, in whatever order and with whatever failures, `Upserts` says what the table
holds: for each stock and date one row, that of the candle saved last.

A row's name joins code and date with a colon. The parser admits only dates of eight
characters, so the two are told apart by their lengths, whatever the code is
(`candleName_inj`); that `uuid5` tells the names of one run apart is assumed. On one date of a
stock there is then one row, and the newest hundred rows are in strict order.
-/
import KisAutoTrading.Kis.CacheTransparency
import KisAutoTrading.Modules.MarketHistory
import KisAutoTrading.Theory.Joins
import KisAutoTrading.Theory.Runs
import Mathlib.Data.List.Find

namespace KisAutoTrading.MarketHistory.CandleUpserts

open Theory Theory.Runs

set_option autoImplicit false

/-! ## Calls and what they save -/

/-- One call, and which of its statements fail. -/
structure SaveCall where
  candles : List KisDomesticDailyCandle
  faults : Plan Failure

section Calls

variable (P : Platform)

def save (table : DomesticDailyCandles) (call : SaveCall) :
    Except Failure (List DomesticDailyCandle) × DomesticDailyCandles :=
  P.saveDomesticDailyCandles call.faults call.candles table

/-- The table after a call. -/
def step (table : DomesticDailyCandles) (call : SaveCall) : DomesticDailyCandles :=
  (save P table call).2

/-- The candles of a call that is answered. -/
def kept (table : DomesticDailyCandles) (call : SaveCall) : List KisDomesticDailyCandle :=
  match (save P table call).1 with
  | .ok _ => call.candles
  | .error _ => []

/-- The candles that were saved by the calls of a run, in order. -/
def saved : DomesticDailyCandles → List SaveCall → List KisDomesticDailyCandle
  | _, [] => []
  | table, call :: rest => kept P table call ++ saved (step P table call) rest

end Calls

/-- A candle the parser makes of an item of a response. -/
def ParserAccepted (candle : KisDomesticDailyCandle) : Prop :=
  ∃ stockCode item, dailyCandle stockCode item = .ok candle

/-- The last candle of a stock for a date. -/
def lastSaved (history : List KisDomesticDailyCandle) (stockCode tradingDate : String) :
    Option KisDomesticDailyCandle :=
  history.reverse.find? fun candle => candle.stockCode = stockCode ∧ candle.tradingDate = tradingDate

/-- Batches without a stock and date in common. -/
def DisjointPairs (first second : List KisDomesticDailyCandle) : Prop :=
  ∀ candle ∈ first, ∀ other ∈ second,
    ¬ (candle.stockCode = other.stockCode ∧ candle.tradingDate = other.tradingDate)

/-- What is listed of a stock: its rows with the greatest dates, a hundred at most, from the
greatest down. -/
structure Newest (stockCode : String) (table : DomesticDailyCandles)
    (listed : List DomesticDailyCandle) : Prop where
  stored : ∀ row ∈ listed, row ∈ table.rows ∧ row.stockCode = stockCode
  atMost : listed.length ≤ 100
  decreasing : listed.Pairwise fun row older => older.tradingDate < row.tradingDate
  greatest : ∀ row ∈ table.rows, row.stockCode = stockCode →
    row ∈ listed ∨ listed.length = 100 ∧ ∀ newer ∈ listed, row.tradingDate < newer.tradingDate

/-- What is asked of the calls of a run that begins with an empty table. -/
structure Upserts (P : Platform) (calls : List SaveCall) : Prop where
  /-- A call that fails changes nothing. -/
  failed : ∀ table call failure, (save P table call).1 = .error failure → step P table call = table
  /-- A call fails for its volumes or its statements only. -/
  answered : ∀ table candles, (∀ candle ∈ candles, candle.volume < 2 ^ 63) →
    (save P table ⟨candles, fun _ => none⟩).1 = .ok (candles.map P.dailyCandleModel)
  /-- For each stock and date there is exactly the row of the candle saved last. -/
  latest : ∀ stockCode tradingDate,
    ((exec (step P) ∅ calls).rows.filter fun row =>
      row.stockCode = stockCode ∧ row.tradingDate = tradingDate) =
    ((lastSaved (saved P ∅ calls) stockCode tradingDate).map P.dailyCandleModel).toList
  /-- Saving the same batch again changes nothing. -/
  again : ∀ table first second answer, (save P table first).1 = .ok answer →
    second.candles = first.candles →
    ∀ id, (step P (step P table first) second).find id = (step P table first).find id
  /-- Batches of disjoint pairs commute. -/
  commute : ∀ first ∈ calls, ∀ second ∈ calls, DisjointPairs first.candles second.candles →
    ∀ table id, (step P (step P table first) second).find id =
      (step P (step P table second) first).find id
  listed : ∀ stockCode, Newest stockCode (exec (step P) ∅ calls)
    (listDomesticDailyCandles stockCode (exec (step P) ∅ calls))

/-! ## Names -/

section Names

variable {candle other : KisDomesticDailyCandle} {stockCode tradingDate : String}

theorem ParserAccepted.date_length (accepted : ParserAccepted candle) :
    candle.tradingDate.toList.length = 8 := by
  obtain ⟨code, item, parsed⟩ := accepted
  exact (Kis.CacheTransparency.dailyCandle_parsed parsed).date.1

/-- Dates of one length leave no doubt where the code ends. -/
theorem candleName_inj {code date code' date' : String}
    (length : date.toList.length = date'.toList.length)
    (same : candleName code date = candleName code' date') : code = code' ∧ date = date' := by
  have ends : (":" ++ date).toList.length = (":" ++ date').toList.length := by
    rw [String.toList_append, String.toList_append, List.length_append, List.length_append, length]
  obtain ⟨-, rest⟩ := append_inj_of_length same rfl
  obtain ⟨code, colon⟩ := append_inj_of_length' rest ends
  obtain ⟨-, date⟩ := append_inj_of_length colon rfl
  exact ⟨code, date⟩

/-- The names of the candles of a run. -/
def names (candles : List KisDomesticDailyCandle) : Set String :=
  {name | ∃ candle ∈ candles, candleName candle.stockCode candle.tradingDate = name}

variable {P : Platform} {candles : List KisDomesticDailyCandle}

/-- Two candles have one id exactly if they are of one stock and date. -/
theorem candleId_eq_iff (apart : Set.InjOn (P.uuid5 namespaceUrl) (names candles))
    (accepted : ∀ candle ∈ candles, ParserAccepted candle) (member : candle ∈ candles)
    (member' : other ∈ candles) :
    (P.dailyCandleModel candle).candleId = (P.dailyCandleModel other).candleId ↔
      candle.stockCode = other.stockCode ∧ candle.tradingDate = other.tradingDate := by
  constructor
  · intro same
    have length : candle.tradingDate.toList.length = other.tradingDate.toList.length := by
      rw [(accepted candle member).date_length, (accepted other member').date_length]
    exact candleName_inj length (apart ⟨candle, member, rfl⟩ ⟨other, member', rfl⟩ same)
  · rintro ⟨code, date⟩
    simp only [Platform.dailyCandleModel, code, date]

end Names

/-! ## One call -/

section Step

variable {P : Platform} {table : DomesticDailyCandles} {call : SaveCall}

/-- A call puts in the rows of the candles it keeps. -/
theorem step_eq (table : DomesticDailyCandles) (call : SaveCall) :
    step P table call = P.upsertCandles (kept P table call) table := by
  unfold step kept save
  obtain ⟨failure, failed⟩ | answered :=
    P.saveDomesticDailyCandles_cases call.faults call.candles table
  · simp only [failed]
    rfl
  · simp only [answered]

/-- What a call keeps does not depend on the rows. -/
theorem kept_eq (table other : DomesticDailyCandles) (call : SaveCall) :
    kept P table call = kept P other call := by
  unfold kept save
  rw [P.saveDomesticDailyCandles_answer table other]

theorem mem_of_mem_kept {candle : KisDomesticDailyCandle} (member : candle ∈ kept P table call) :
    candle ∈ call.candles := by
  unfold kept at member
  split at member
  · exact member
  · cases member

theorem find_step (table : DomesticDailyCandles) (call : SaveCall) (id : Uuid) :
    (step P table call).find id =
      (((kept P table call).reverse.find? fun candle =>
        (P.dailyCandleModel candle).candleId = id).map P.dailyCandleModel).or (table.find id) := by
  rw [step_eq, Platform.find_upsertCandles]

theorem save_again {first second : SaveCall} {answer : List DomesticDailyCandle}
    (answered : (save P table first).1 = .ok answer) (same : second.candles = first.candles)
    (id : Uuid) : (step P (step P table first) second).find id = (step P table first).find id := by
  have firstKept : kept P table first = first.candles := by
    simp only [kept, answered]
  rw [find_step _ second, find_step _ first, firstKept]
  unfold kept
  split
  · rw [same, ← Option.or_assoc, Option.or_self]
  · rfl

/-- Calls that keep nothing under one id commute. -/
theorem step_comm {first second : SaveCall}
    (disjoint : ∀ candle ∈ first.candles, ∀ other ∈ second.candles,
      (P.dailyCandleModel candle).candleId ≠ (P.dailyCandleModel other).candleId)
    (table : DomesticDailyCandles) (id : Uuid) :
    (step P (step P table first) second).find id =
      (step P (step P table second) first).find id := by
  rw [find_step _ second, find_step _ first, find_step _ first, find_step _ second,
    kept_eq (step P table first) table second, kept_eq (step P table second) table first]
  cases here : (kept P table first).reverse.find? fun candle =>
      (P.dailyCandleModel candle).candleId = id with
  | none => simp
  | some candle =>
      cases there : (kept P table second).reverse.find? fun candle =>
          (P.dailyCandleModel candle).candleId = id with
      | none => simp
      | some other =>
          have member := mem_of_mem_kept (List.mem_reverse.mp (List.mem_of_find?_eq_some here))
          have member' := mem_of_mem_kept (List.mem_reverse.mp (List.mem_of_find?_eq_some there))
          have named := List.find?_some here
          have named' := List.find?_some there
          rw [decide_eq_true_eq] at named named'
          exact absurd (named.trans named'.symm) (disjoint candle member other member')

end Step

/-! ## Runs -/

section Runs

variable {P : Platform} {calls : List SaveCall}

theorem mem_call_of_mem_saved {table : DomesticDailyCandles} {candle : KisDomesticDailyCandle}
    (member : candle ∈ saved P table calls) : ∃ call ∈ calls, candle ∈ call.candles := by
  induction calls generalizing table with
  | nil => cases member
  | cons call rest ih =>
      rcases List.mem_append.mp member with here | later
      · exact ⟨call, List.mem_cons_self, mem_of_mem_kept here⟩
      · obtain ⟨other, among, inside⟩ := ih later
        exact ⟨other, List.mem_cons_of_mem _ among, inside⟩

/-- Under an id stands the candle that was saved last of those with it, by induction on the
calls. -/
theorem find_exec (table : DomesticDailyCandles) (id : Uuid) :
    (exec (step P) table calls).find id =
      (((saved P table calls).reverse.find? fun candle =>
        (P.dailyCandleModel candle).candleId = id).map P.dailyCandleModel).or (table.find id) := by
  induction calls generalizing table with
  | nil => simp [saved]
  | cons call rest ih =>
      rw [exec_cons, ih, find_step, saved, List.reverse_append, List.find?_append, Option.map_or,
        Option.or_assoc]

theorem find_run (id : Uuid) :
    (exec (step P) ∅ calls).find id =
      ((saved P ∅ calls).reverse.find? fun candle =>
        (P.dailyCandleModel candle).candleId = id).map P.dailyCandleModel := by
  rw [find_exec, Table.find_empty, Option.or_none]

variable (P calls) in
theorem keyed_run : Table.Keyed (·.candleId) (exec (step P) ∅ calls) := by
  intro id row found
  rw [find_run] at found
  obtain ⟨candle, last, rfl⟩ := Option.map_eq_some_iff.mp found
  simpa using List.find?_some last

/-- A row is the row of a candle that was saved. -/
theorem mem_rows_run {row : DomesticDailyCandle} (member : row ∈ (exec (step P) ∅ calls).rows) :
    ∃ candle ∈ saved P ∅ calls, P.dailyCandleModel candle = row := by
  obtain ⟨id, found⟩ := Table.mem_rows.mp member
  rw [find_run] at found
  obtain ⟨candle, last, rfl⟩ := Option.map_eq_some_iff.mp found
  exact ⟨candle, List.mem_reverse.mp (List.mem_of_find?_eq_some last), rfl⟩

end Runs

/-! ## Stocks and dates -/

section Pairs

variable {P : Platform} {calls : List SaveCall}
  (apart : Set.InjOn (P.uuid5 namespaceUrl) (names (saved P ∅ calls)))
  (accepted : ∀ candle ∈ saved P ∅ calls, ParserAccepted candle)

include apart accepted

/-- For a candle that was saved, the last one under its id is the last of its stock and date. -/
theorem find_pair {candle : KisDomesticDailyCandle} (member : candle ∈ saved P ∅ calls) :
    (exec (step P) ∅ calls).find (P.dailyCandleModel candle).candleId =
      (lastSaved (saved P ∅ calls) candle.stockCode candle.tradingDate).map P.dailyCandleModel := by
  have one : ∀ other ∈ (saved P ∅ calls).reverse,
      decide ((P.dailyCandleModel other).candleId = (P.dailyCandleModel candle).candleId) =
        decide (other.stockCode = candle.stockCode ∧ other.tradingDate = candle.tradingDate) := by
    intro other there
    exact decide_eq_decide.mpr (candleId_eq_iff apart accepted (List.mem_reverse.mp there) member)
  rw [find_run, lastSaved, List.find?_congr one]

theorem latest_run (stockCode tradingDate : String) :
    ((exec (step P) ∅ calls).rows.filter fun row =>
      row.stockCode = stockCode ∧ row.tradingDate = tradingDate) =
    ((lastSaved (saved P ∅ calls) stockCode tradingDate).map P.dailyCandleModel).toList := by
  cases last : lastSaved (saved P ∅ calls) stockCode tradingDate with
  | none =>
      refine List.filter_eq_nil_iff.mpr ?_
      intro row member pair
      obtain ⟨candle, there, rfl⟩ := mem_rows_run member
      exact List.find?_eq_none.mp last candle (List.mem_reverse.mpr there) pair
  | some candle =>
      have there := List.mem_reverse.mp (List.mem_of_find?_eq_some last)
      have pair := List.find?_some last
      simp only [decide_eq_true_eq] at pair
      obtain ⟨rfl, rfl⟩ := pair
      have ids : ∀ row ∈ (exec (step P) ∅ calls).rows,
          decide (row.stockCode = candle.stockCode ∧ row.tradingDate = candle.tradingDate) =
            decide (row.candleId = (P.dailyCandleModel candle).candleId) := by
        intro row member
        obtain ⟨other, saved, rfl⟩ := mem_rows_run member
        exact decide_eq_decide.mpr (candleId_eq_iff apart accepted saved there).symm
      rw [List.filter_congr ids, (keyed_run P calls).filter_rows, find_pair apart accepted there, last]

/-- The rows of a stock are of different dates. -/
theorem dates_nodup (stockCode : String) :
    (((exec (step P) ∅ calls).rows.filter fun row => row.stockCode = stockCode).map
      (·.tradingDate)).Nodup := by
  have distinct : ((exec (step P) ∅ calls).rows.filter fun row => row.stockCode = stockCode).Nodup :=
    ((keyed_run P calls).rows_nodup.of_map _).filter _
  refine List.Nodup.map_on ?_ distinct
  intro row member other member' date
  obtain ⟨here, code⟩ := List.mem_filter.mp member
  obtain ⟨here', code'⟩ := List.mem_filter.mp member'
  obtain ⟨candle, saved, rfl⟩ := mem_rows_run here
  obtain ⟨candle', saved', rfl⟩ := mem_rows_run here'
  have codes : candle.stockCode = candle'.stockCode :=
    (of_decide_eq_true code).trans (of_decide_eq_true code').symm
  have ids := (candleId_eq_iff apart accepted saved saved').mpr ⟨codes, date⟩
  exact List.inj_on_of_nodup_map (keyed_run P calls).rows_nodup here here' ids

theorem newest_run (stockCode : String) :
    Newest stockCode (exec (step P) ∅ calls)
      (listDomesticDailyCandles stockCode (exec (step P) ∅ calls)) := by
  have strict := SortedBy.pairwise_lt (fun row : DomesticDailyCandle =>
    OrderDual.toDual row.tradingDate) (dates_nodup apart accepted stockCode)
  have members (row : DomesticDailyCandle) := (List.perm_insertionSort
    (fun a b : DomesticDailyCandle => b.tradingDate ≤ a.tradingDate)
      ((exec (step P) ∅ calls).rows.filter fun row => row.stockCode = stockCode)).mem_iff (a := row)
  refine ⟨?_, List.length_take_le _ _, strict.take, ?_⟩
  · intro row listed
    obtain ⟨stored, code⟩ := List.mem_filter.mp ((members row).mp (List.mem_of_mem_take listed))
    exact ⟨stored, of_decide_eq_true code⟩
  · intro row stored code
    have among : row ∈ (exec (step P) ∅ calls).rows.filter fun row => row.stockCode = stockCode :=
      List.mem_filter.mpr ⟨stored, decide_eq_true code⟩
    exact SortedBy.mem_take_or _ strict 100 ((members row).mpr among)

end Pairs

/-- **Collecting candles is an idempotent upsert.** After any calls the table holds, for each
stock and date, the candle that was saved last. -/
theorem candles_upserted (P : Platform) (calls : List SaveCall)
    (accepted : ∀ call ∈ calls, ∀ candle ∈ call.candles, ParserAccepted candle)
    (apart : Set.InjOn (P.uuid5 namespaceUrl) (names (calls.flatMap (·.candles)))) :
    Upserts P calls := by
  have among {call : SaveCall} {candle : KisDomesticDailyCandle} (here : call ∈ calls)
      (member : candle ∈ call.candles) : candle ∈ calls.flatMap (·.candles) :=
    List.mem_flatMap.mpr ⟨call, here, member⟩
  have all : ∀ candle ∈ calls.flatMap (·.candles), ParserAccepted candle := by
    intro candle member
    obtain ⟨call, here, inside⟩ := List.mem_flatMap.mp member
    exact accepted call here candle inside
  have given : ∀ candle ∈ saved P ∅ calls, candle ∈ calls.flatMap (·.candles) := by
    intro candle member
    obtain ⟨call, here, inside⟩ := mem_call_of_mem_saved member
    exact among here inside
  have savedApart : Set.InjOn (P.uuid5 namespaceUrl) (names (saved P ∅ calls)) := by
    refine apart.mono ?_
    rintro name ⟨candle, member, rfl⟩
    exact ⟨candle, given candle member, rfl⟩
  have savedAccepted : ∀ candle ∈ saved P ∅ calls, ParserAccepted candle :=
    fun candle member => all candle (given candle member)
  refine {
    failed := fun table call failure => Script.transaction_error
    answered := ?_
    latest := latest_run savedApart savedAccepted
    again := fun table first second answer => save_again
    commute := ?_
    listed := newest_run savedApart savedAccepted }
  · intro table candles small
    have fits : ∀ model ∈ candles.map P.dailyCandleModel,
        -2 ^ 63 ≤ model.volume ∧ model.volume < 2 ^ 63 := by
      intro model member
      obtain ⟨candle, here, rfl⟩ := List.mem_map.mp member
      have volume := small candle here
      simp only [Platform.dailyCandleModel]
      omega
    exact congrArg Prod.fst (Script.transaction_clean (saveModels_answers fits))
  · intro first here second there disjoint
    refine step_comm ?_
    intro candle member other member' same
    exact disjoint candle member other member'
      ((candleId_eq_iff apart all (among here member) (among there member')).mp same)

namespace Sample

/-- `uuid5` as the sum of the characters. -/
def platform : Platform :=
  Platform.reference (fun _ name => Fin.ofNat _ (name.toList.map Char.toNat).sum) (.aware 0) ""

def candle (tradingDate closePrice : String) : KisDomesticDailyCandle :=
  ⟨"005930", tradingDate, "70000", "71000", "69000", closePrice, 1200⟩

/-- Two windows that overlap in a date, the second of which fails once. -/
def calls : List SaveCall := [
  ⟨[candle "20260810" "70500", candle "20260811" "70700"], fun _ => none⟩,
  ⟨[candle "20260811" "70900"], fun _ => some (.raised .runtimeError "connection lost")⟩,
  ⟨[candle "20260811" "70900"], fun _ => none⟩]

theorem accepted (tradingDate closePrice : String) (length : tradingDate.length = 8)
    (dated : isDigit tradingDate = true) (closed : closePrice ≠ "") :
    ParserAccepted (candle tradingDate closePrice) := by
  have prices : "70000" ≠ "" ∧ "71000" ≠ "" ∧ "69000" ≠ "" := by decide
  have volume : isDigit "1200" = true ∧ pyInt "1200" = some 1200 := by decide +kernel
  have parsed : Kis.CacheTransparency.Parsed "005930" (candle tradingDate closePrice) :=
    ⟨rfl, ⟨length, dated⟩, ⟨prices.1, prices.2.1, prices.2.2, closed⟩, "1200", volume⟩
  exact ⟨"005930", _, Kis.CacheTransparency.dailyCandle_back parsed⟩

theorem windows_overlap : Upserts platform calls := by
  refine candles_upserted platform calls ?_ ?_
  · simp only [calls, List.mem_cons, List.not_mem_nil, or_false]
    rintro call (rfl | rfl | rfl) candle member
    all_goals
      simp only [List.mem_cons, List.not_mem_nil, or_false] at member
      rcases member with rfl | rfl
    all_goals exact accepted _ _ (by decide) (by decide +kernel) (by decide)
  · rintro name ⟨candle, member, rfl⟩ other ⟨candle', member', rfl⟩ same
    simp only [calls, List.flatMap_cons, List.flatMap_nil, List.mem_append, List.mem_cons,
      List.not_mem_nil, or_false, or_assoc] at member member'
    rcases member with rfl | rfl | rfl | rfl <;> rcases member' with rfl | rfl | rfl | rfl
    all_goals first
      | rfl
      | exact absurd same (by decide +kernel)

end Sample

end KisAutoTrading.MarketHistory.CandleUpserts
