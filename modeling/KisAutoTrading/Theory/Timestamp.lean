/-
# Theory.Timestamp — points in time from numbers

`roundHalfEven` is the rounding of both conversions to microseconds, that of a `timedelta` and
that of `datetime.fromtimestamp(number, UTC)`, on exact numbers.

What a timestamp comes to has to lie in the years 1 to 9999. Both ends of that range are whole
seconds, so the rounding moves a bound by half a microsecond, and `even_le_roundHalfEven` says
to which side a tie falls there.
-/
import KisAutoTrading.Theory.Json
import Mathlib.Algebra.Order.Floor.Ring
import Mathlib.Data.Rat.Floor
import Mathlib.Tactic.Linarith
import Mathlib.Tactic.NormNum
import Mathlib.Tactic.Ring

namespace KisAutoTrading.Theory

set_option autoImplicit false

/-- Rounding to the nearest integer, halves to the even one. -/
def roundHalfEven (q : ℚ) : Int :=
  let low := q.floor
  let rest := q - low
  if rest < 1 / 2 then low
  else if 1 / 2 < rest then low + 1
  else if low % 2 = 0 then low
  else low + 1

theorem roundHalfEven_intCast (value : Int) : roundHalfEven value = value := by
  simp [roundHalfEven]

/-- Rounding is within a half. -/
theorem roundHalfEven_bounds (q : ℚ) :
    (roundHalfEven q : ℚ) ≤ q + 1 / 2 ∧ q ≤ roundHalfEven q + 1 / 2 := by
  have low : (q.floor : ℚ) ≤ q := Rat.floor_le q
  have high : q < q.floor + 1 := by exact_mod_cast Rat.lt_floor_add_one q
  unfold roundHalfEven
  simp only
  split
  · constructor <;> linarith
  · split
    · push_cast
      constructor <;> linarith
    · split
      · constructor <;> linarith
      · push_cast
        constructor <;> linarith

/-- A half below an even integer is rounded up to it. -/
theorem roundHalfEven_half {n : Int} (even : n % 2 = 0) : roundHalfEven (n - 1 / 2) = n := by
  have floor : Rat.floor ((n : ℚ) - 1 / 2) = n - 1 := by
    show ⌊(n : ℚ) - 1 / 2⌋ = n - 1
    rw [Int.floor_eq_iff]
    push_cast
    constructor <;> linarith
  have rest : (n : ℚ) - 1 / 2 - (n - 1 : Int) = 1 / 2 := by
    push_cast
    ring
  have odd : ¬ (n - 1) % 2 = 0 := by omega
  simp only [roundHalfEven, floor, rest, lt_irrefl, if_false, if_neg odd]
  omega

/-- An even integer is reached from half below it on. -/
theorem even_le_roundHalfEven {n : Int} (even : n % 2 = 0) (q : ℚ) :
    n ≤ roundHalfEven q ↔ (n : ℚ) - 1 / 2 ≤ q := by
  obtain ⟨low, high⟩ := roundHalfEven_bounds q
  constructor
  · intro reached
    have reached : (n : ℚ) ≤ roundHalfEven q := by exact_mod_cast reached
    linarith
  · intro close
    rcases eq_or_lt_of_le close with tie | above
    · rw [← tie, roundHalfEven_half even]
    · have above : ((n - 1 : Int) : ℚ) < roundHalfEven q := by
        push_cast
        linarith
      have above : n - 1 < roundHalfEven q := by exact_mod_cast above
      omega

/-- What `datetime.fromtimestamp` raises. Which of `OverflowError`, `OSError` and `ValueError` a
number out of range meets depends on its size and on the platform. -/
inductive TimestampError where
  | notANumber
  | outOfRange
  deriving DecidableEq

/-- 0001-01-01T00:00:00Z, in seconds. -/
def firstSecond : Int := -62135596800

/-- 9999-12-31T23:59:59Z, in seconds. -/
def lastSecond : Int := 253402300799

/-- The instant of that many microseconds, which has to lie in the years 1 to 9999. -/
def fromMicroseconds (microseconds : Int) : Except TimestampError Datetime :=
  if firstSecond * 1000000 ≤ microseconds ∧ microseconds < (lastSecond + 1) * 1000000 then
    .ok (.aware microseconds)
  else .error .outOfRange

/-- `datetime.fromtimestamp(timestamp, UTC)` of a floating-point number. -/
def fromTimestamp : PyFloat → Except TimestampError Datetime
  | .finite value => fromMicroseconds (roundHalfEven (value * 1000000))
  | .nan => .error .notANumber
  | _ => .error .outOfRange

/-- `datetime.fromtimestamp(timestamp, UTC)` of an integer. -/
def fromSeconds (value : Int) : Except TimestampError Datetime := fromMicroseconds (value * 1000000)

/-- A number of seconds that, to the microsecond, lies in the years 1 to 9999. -/
def PyFloat.Datable : PyFloat → Prop
  | .finite value => firstSecond - 1 / 2000000 ≤ value ∧ value < lastSecond + 1 - 1 / 2000000
  | _ => False

theorem fromSeconds_ok_iff (value : Int) :
    (∃ date, fromSeconds value = .ok date) ↔ firstSecond ≤ value ∧ value ≤ lastSecond := by
  unfold fromSeconds fromMicroseconds
  split
  · rename_i inside
    simp only [Except.ok.injEq, exists_eq', true_iff]
    omega
  · rename_i outside
    simp only [reduceCtorEq, exists_false, false_iff]
    omega

theorem fromTimestamp_ok_iff {value : PyFloat} :
    (∃ date, fromTimestamp value = .ok date) ↔ value.Datable := by
  cases value with
  | finite value =>
      have first := even_le_roundHalfEven (n := firstSecond * 1000000) (by decide) (value * 1000000)
      have last := even_le_roundHalfEven (n := (lastSecond + 1) * 1000000) (by decide)
        (value * 1000000)
      push_cast at first last
      simp only [fromTimestamp, fromMicroseconds, PyFloat.Datable]
      constructor
      · rintro ⟨date, made⟩
        split at made
        · rename_i inside
          have started := first.mp inside.1
          have ended := (not_congr last).mp (by omega)
          constructor <;> linarith
        · cases made
      · rintro ⟨started, ended⟩
        have inside : firstSecond * 1000000 ≤ roundHalfEven (value * 1000000) :=
          first.mpr (by linarith)
        have before : ¬ (lastSecond + 1) * 1000000 ≤ roundHalfEven (value * 1000000) :=
          (not_congr last).mpr (by linarith)
        exact ⟨_, if_pos ⟨inside, by omega⟩⟩
  | _ => simp [fromTimestamp, PyFloat.Datable]

/-- What is made of a number has a time zone. -/
theorem fromMicroseconds_aware {microseconds : Int} {date : Datetime}
    (made : fromMicroseconds microseconds = .ok date) : date = .aware microseconds := by
  unfold fromMicroseconds at made
  split at made
  · cases made
    rfl
  · cases made

end KisAutoTrading.Theory
