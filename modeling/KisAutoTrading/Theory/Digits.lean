/-
# Theory.Digits — texts of digits and the integers they are read as

`isDigit` is `str.isdigit`, which admits more than the decimal digits of `isDecimal`: the
superscripts and the circled digits, for instance, are digits and no part of a number.
`pyInt` is `int` on such a text; it refuses them, and a text of more digits than
`sys.get_int_max_str_digits()`. `pyInt_toString`: what `str` writes of a natural number is
read back, if it is no longer than some text that was read as the same number.

`pyIntText` is `int` on any text: blanks around it, a sign, and single underscores between the
digits are admitted.
-/
import KisAutoTrading.Theory.Json

namespace KisAutoTrading.Theory

set_option autoImplicit false

/-- The ranges of the code points that are digits and not decimal digits. -/
def otherDigits : List (Nat × Nat) :=
  [(0xb2, 0xb3), (0xb9, 0xb9), (0x1369, 0x1371), (0x19da, 0x19da), (0x2070, 0x2070),
    (0x2074, 0x2079), (0x2080, 0x2089), (0x2460, 0x2468), (0x2474, 0x247c), (0x2488, 0x2490),
    (0x24ea, 0x24ea), (0x24f5, 0x24fd), (0x24ff, 0x24ff), (0x2776, 0x277e), (0x2780, 0x2788),
    (0x278a, 0x2792), (0x10a40, 0x10a43), (0x10e60, 0x10e68), (0x11052, 0x1105a),
    (0x1f100, 0x1f10a)]

/-- The value of a decimal digit of any script. -/
def decimalDigit (c : Char) : Option Nat :=
  (decimalZeros.find? fun first => first ≤ c.toNat && c.toNat ≤ first + 9).map (c.toNat - ·)

/-- `str.isdigit`. -/
def isDigit (text : String) : Bool :=
  !text.toList.isEmpty && text.toList.all fun c =>
    (decimalDigit c).isSome || otherDigits.any fun range => range.1 ≤ c.toNat && c.toNat ≤ range.2

/-- The value of a list of decimal digits, read on from `value`. -/
def readDigits : Nat → List Char → Option Nat
  | value, [] => some value
  | value, c :: rest => (decimalDigit c).bind fun digit => readDigits (10 * value + digit) rest

/-- `sys.get_int_max_str_digits()`. -/
def intMaxStrDigits : Nat := 4300

/-- `int` on a text of digits. -/
def pyInt (text : String) : Option Nat :=
  if intMaxStrDigits < text.toList.length then none else readDigits 0 text.toList

/-- What `int` skips at both ends: of the ASCII blanks not the four separators. -/
def isIntSpace (c : Char) : Bool := isPySpace c && !(28 ≤ c.toNat && c.toNat ≤ 31)

/-- The digits of a text in which a single underscore may stand between two of them. -/
def ungroup : List Char → Option (List Char)
  | [] => none
  | [c] => if c = '_' then none else some [c]
  | c :: '_' :: rest => if c = '_' then none else (c :: ·) <$> ungroup rest
  | c :: rest => if c = '_' then none else (c :: ·) <$> ungroup rest

/-- `int` on any text, where it raises no `ValueError`. -/
def pyIntText (text : String) : Option Int :=
  let magnitude (chars : List Char) : Option Nat :=
    (ungroup chars).bind fun digits => pyInt (String.ofList digits)
  match stripChars isIntSpace text.toList with
  | '-' :: rest => (magnitude rest).map fun n => -n
  | '+' :: rest => (magnitude rest).map fun n => n
  | chars => (magnitude chars).map fun n => n

/-! ## The ten ASCII digits -/

theorem decimalDigit_of_isDigit {c : Char} (digit : c.isDigit = true) :
    decimalDigit c = some (c.toNat - '0'.toNat) := by
  obtain ⟨low, high⟩ : 48 ≤ c.toNat ∧ c.toNat ≤ 57 := by
    simpa [Char.isDigit, UInt32.le_iff_toNat_le] using digit
  have first : (decimalZeros.find? fun first => first ≤ c.toNat && c.toNat ≤ first + 9) =
      some 0x30 := by
    rw [decimalZeros, List.find?_cons_of_pos]
    simp only [Bool.and_eq_true, decide_eq_true_eq]
    omega
  rw [decimalDigit, first]
  rfl

theorem readDigits_of_isDigit {chars : List Char} (digits : ∀ c ∈ chars, c.isDigit = true)
    (value : Nat) : readDigits value chars = some (Nat.ofDigitChars 10 chars value) := by
  induction chars generalizing value with
  | nil => rfl
  | cons c rest ih =>
      rw [readDigits, decimalDigit_of_isDigit (digits c (by simp)), Nat.ofDigitChars_cons]
      exact ih (fun d member => digits d (by simp [member])) _

theorem isDigit_of_mem_toString {n : Nat} {c : Char} (member : c ∈ (toString n).toList) :
    c.isDigit = true := by
  rw [Nat.toString_eq_ofList_toDigits, String.toList_ofList] at member
  exact Nat.isDigit_of_mem_toDigits (by decide) (by decide) member

theorem isDigit_toString (n : Nat) : isDigit (toString n) = true := by
  simp only [isDigit, Bool.and_eq_true, List.all_eq_true]
  refine ⟨by simp, ?_⟩
  intro c member
  simp [decimalDigit_of_isDigit (isDigit_of_mem_toString member)]

/-! ## Reading back -/

theorem readDigits_lt {chars : List Char} {start value : Nat}
    (read : readDigits start chars = some value) : value < (start + 1) * 10 ^ chars.length := by
  induction chars generalizing start with
  | nil =>
      cases read
      simp
  | cons c rest ih =>
      obtain ⟨digit, found, more⟩ := Option.bind_eq_some_iff.mp read
      have small : digit ≤ 9 := by
        obtain ⟨first, isFirst, rfl⟩ := Option.map_eq_some_iff.mp found
        have within := List.find?_some isFirst
        simp only [Bool.and_eq_true, decide_eq_true_eq] at within
        omega
      have bound := ih more
      calc value < (10 * start + digit + 1) * 10 ^ rest.length := bound
        _ ≤ (start + 1) * 10 * 10 ^ rest.length := Nat.mul_le_mul_right _ (by omega)
        _ = (start + 1) * 10 ^ (c :: rest).length := by
          rw [List.length_cons, pow_succ]
          ring

/-- `str` of a number is no longer than a text it was read from. -/
theorem length_toString_le {text : String} {n : Nat} (digits : isDigit text = true)
    (read : pyInt text = some n) : (toString n).toList.length ≤ intMaxStrDigits := by
  unfold pyInt at read
  split at read
  · cases read
  · rename_i short
    have some : 0 < text.toList.length := by
      simp only [isDigit, Bool.and_eq_true, Bool.not_eq_true', List.isEmpty_eq_false_iff] at digits
      exact List.length_pos_iff.mpr digits.1
    have bound : n < 10 ^ text.toList.length := by simpa using readDigits_lt read
    have fits := (Nat.length_toDigits_le_iff (by decide) some).mpr bound
    rw [Nat.toString_eq_ofList_toDigits, String.toList_ofList]
    exact fits.trans (not_lt.mp short)

/-- **The text `str` writes of an integer that was read is read as the same integer.** -/
theorem pyInt_toString {text : String} {n : Nat} (digits : isDigit text = true)
    (read : pyInt text = some n) : pyInt (toString n) = some n := by
  rw [pyInt, if_neg (not_lt.mpr (length_toString_le digits read)),
    readDigits_of_isDigit fun c member => isDigit_of_mem_toString member,
    Nat.toString_eq_ofList_toDigits, String.toList_ofList, Nat.ofDigitChars_ten_toDigits]

/-- A superscript is a digit, and no number. -/
example : isDigit "2²" = true ∧ pyInt "2²" = none := by decide +kernel

/-- Full-width digits are read like their ASCII counterparts. -/
example : pyInt "０１２" = some 12 := by decide +kernel

example : pyIntText " -1_0\n" = some (-10) ∧ pyIntText "1__0" = none ∧ pyIntText "- 1" = none := by
  decide +kernel

end KisAutoTrading.Theory
