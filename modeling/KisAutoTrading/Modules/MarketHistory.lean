/-
# Modules.MarketHistory — the table of daily candles

`save_domestic_daily_candles` and `list_domestic_daily_candles` over the table
`domestic_daily_candles` of the automation store. A row is named after its stock code and its
trading date, and `merge` inserts it or replaces the one with its name. The rows of a call are
merged in one transaction; a volume that is no `BIGINT` fails there, and so does any statement
the faults name.
-/
import KisAutoTrading.Infrastructure.KisMarketData
import KisAutoTrading.Theory.SortedBy
import KisAutoTrading.Theory.Table
import KisAutoTrading.Theory.Transaction
import Mathlib.Data.String.Basic

namespace KisAutoTrading

open Theory

set_option autoImplicit false

structure DomesticDailyCandle where
  candleId : Uuid
  stockCode : String
  tradingDate : String
  openPrice : String
  highPrice : String
  lowPrice : String
  closePrice : String
  volume : Int
  deriving DecidableEq

/-- The `domestic_daily_candles` table. -/
abbrev DomesticDailyCandles : Type := Table Uuid DomesticDailyCandle

def candleName (stockCode tradingDate : String) : String :=
  "kis:domestic-daily:" ++ (stockCode ++ (":" ++ tradingDate))

/-- The model a candle is stored as. -/
def Platform.dailyCandleModel (P : Platform) (candle : KisDomesticDailyCandle) :
    DomesticDailyCandle where
  candleId := P.uuid5 namespaceUrl (candleName candle.stockCode candle.tradingDate)
  stockCode := candle.stockCode
  tradingDate := candle.tradingDate
  openPrice := candle.openPrice
  highPrice := candle.highPrice
  lowPrice := candle.lowPrice
  closePrice := candle.closePrice
  volume := candle.volume

/-- `for model in models: await repository.save(model)`, and then the answer. -/
def saveModels (answer : List DomesticDailyCandle) :
    List DomesticDailyCandle → Script Failure DomesticDailyCandles (List DomesticDailyCandle)
  | [] => .done answer
  | model :: rest =>
      if model.volume < -2 ^ 63 ∨ 2 ^ 63 ≤ model.volume then
        .raise (.raised .dataError "value out of int64 range")
      else
        .statement (fun table => table.put model.candleId model) fun _ => saveModels answer rest

/-- `save_domestic_daily_candles`, where the statements of the plan fail: the answer, and the
table it leaves. -/
def Platform.saveDomesticDailyCandles (P : Platform) (faults : Plan Failure)
    (candles : List KisDomesticDailyCandle) (table : DomesticDailyCandles) :
    Except Failure (List DomesticDailyCandle) × DomesticDailyCandles :=
  let models := candles.map P.dailyCandleModel
  (saveModels models models).transaction faults table

/-- `list_domestic_daily_candles`. -/
def listDomesticDailyCandles (stockCode : String) (table : DomesticDailyCandles) :
    List DomesticDailyCandle :=
  ((table.rows.filter fun row => row.stockCode = stockCode).insertionSort
    fun a b => b.tradingDate ≤ a.tradingDate).take 100

/-! ## What a call does -/

section Saving

variable {P : Platform} {faults : Plan Failure} {answer models : List DomesticDailyCandle}
  {candles : List KisDomesticDailyCandle} {table : DomesticDailyCandles}

/-- The rows of candles, put in one after the other. -/
def Platform.upsertCandles (P : Platform) (candles : List KisDomesticDailyCandle)
    (table : DomesticDailyCandles) : DomesticDailyCandles :=
  (candles.map P.dailyCandleModel).foldl (fun table model => table.put model.candleId model) table

theorem saveModels_ok {value : List DomesticDailyCandle} {after : DomesticDailyCandles}
    (saved : (saveModels answer models).outcome table = .ok (value, after)) :
    value = answer ∧
      after = models.foldl (fun table model => table.put model.candleId model) table := by
  induction models generalizing table with
  | nil =>
      cases saved
      exact ⟨rfl, rfl⟩
  | cons model rest ih =>
      rw [saveModels] at saved
      split at saved
      · cases saved
      · exact ih saved

theorem saveModels_answers (small : ∀ model ∈ models, -2 ^ 63 ≤ model.volume ∧ model.volume < 2 ^ 63) :
    (saveModels answer models).outcome table =
      .ok (answer, models.foldl (fun table model => table.put model.candleId model) table) := by
  induction models generalizing table with
  | nil => rfl
  | cons model rest ih =>
      have fits := small model List.mem_cons_self
      have inside : ¬ (model.volume < -2 ^ 63 ∨ 2 ^ 63 ≤ model.volume) := by omega
      rw [saveModels, if_neg inside]
      exact ih fun other member => small other (List.mem_cons_of_mem _ member)

/-- Which statement fails does not depend on the rows. -/
theorem saveModels_run_answer (position : Nat) (table other : DomesticDailyCandles) :
    ((saveModels answer models).run faults position table).1 =
      ((saveModels answer models).run faults position other).1 := by
  induction models generalizing position table other with
  | nil =>
      simp only [saveModels, Script.run]
      split <;> rfl
  | cons model rest ih =>
      rw [saveModels]
      split
      · rfl
      · simp only [Script.run]
        split
        · rfl
        · exact ih _ _ _

/-- A call raises and leaves the table alone, or it answers its models and has put in their
rows. -/
theorem Platform.saveDomesticDailyCandles_cases (P : Platform) (faults : Plan Failure)
    (candles : List KisDomesticDailyCandle) (table : DomesticDailyCandles) :
    (∃ failure, P.saveDomesticDailyCandles faults candles table = (.error failure, table)) ∨
      P.saveDomesticDailyCandles faults candles table =
        (.ok (candles.map P.dailyCandleModel), P.upsertCandles candles table) := by
  cases answered : (P.saveDomesticDailyCandles faults candles table).1 with
  | error failure =>
      exact .inl ⟨failure, Prod.ext answered (Script.transaction_error answered)⟩
  | ok value =>
      obtain ⟨rfl, left⟩ := saveModels_ok (Script.transaction_ok answered)
      exact .inr (Prod.ext answered left)

/-- Whether a call answers does not depend on the rows. -/
theorem Platform.saveDomesticDailyCandles_answer (table other : DomesticDailyCandles) :
    (P.saveDomesticDailyCandles faults candles table).1 =
      (P.saveDomesticDailyCandles faults candles other).1 := by
  have answers (store : DomesticDailyCandles) :
      (P.saveDomesticDailyCandles faults candles store).1 =
        ((saveModels (candles.map P.dailyCandleModel) (candles.map P.dailyCandleModel)).run
          faults 0 store).1 := by
    simp only [Platform.saveDomesticDailyCandles, Script.transaction]
    split
    · rename_i ran
      rw [ran]
    · rename_i ran
      rw [ran]
  rw [answers table, answers other]
  exact saveModels_run_answer 0 table other

theorem Platform.find_upsertCandles (P : Platform) (candles : List KisDomesticDailyCandle)
    (table : DomesticDailyCandles) (id : Uuid) :
    (P.upsertCandles candles table).find id =
      ((candles.reverse.find? fun candle => (P.dailyCandleModel candle).candleId = id).map
        P.dailyCandleModel).or (table.find id) := by
  rw [Platform.upsertCandles, Table.find_foldl_put, ← List.map_reverse, List.find?_map]
  rfl

end Saving

end KisAutoTrading
