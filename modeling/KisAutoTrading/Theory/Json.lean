/-
# Theory.Json — the plain values a Python program passes around

JSON values as a dictionary of keys and values sees them, floating-point numbers
with their three non-finite values, and points in time with or without a time
zone. A dictionary is a list of pairs; `Json.get` reads the first pair with the
key, as `dict.get` does on a dictionary whose keys are distinct.

Text is `String`; `pyStrip` is `str.strip()` with Python's own set of white space,
`isDecimal` is `str.isdecimal` and `isAsciiDecimal` its conjunction with `str.isascii`.
-/
import KisAutoTrading.Theory.Uuid
import Mathlib.Data.Rat.Defs

namespace KisAutoTrading.Theory

set_option autoImplicit false

/-- A binary floating-point number: a finite value or one of the special ones. -/
inductive PyFloat where
  | finite (value : ℚ)
  | posInf
  | negInf
  | nan
  deriving DecidableEq

/-- `==` on floats: not-a-number differs from everything, itself included. -/
def PyFloat.pyEq : PyFloat → PyFloat → Bool
  | .nan, _ => false
  | _, .nan => false
  | a, b => a = b

inductive Json where
  | null
  | bool (value : Bool)
  | int (value : Int)
  | float (value : PyFloat)
  | str (value : String)
  | arr (items : List Json)
  | obj (fields : List (String × Json))

/-- `bool` on a float. -/
def PyFloat.truthy : PyFloat → Bool
  | .finite value => value ≠ 0
  | _ => true

/-- `bool`. -/
def Json.truthy : Json → Bool
  | .null => false
  | .bool value => value
  | .int value => value ≠ 0
  | .float value => value.truthy
  | .str value => value ≠ ""
  | .arr items => !items.isEmpty
  | .obj fields => !fields.isEmpty

/-- A dictionary with string keys. -/
abbrev Dict : Type := List (String × Json)

/-- `dict.get`: the value under a key. -/
def Dict.get (d : Dict) (key : String) : Option Json := d.lookup key

section Set

variable {K V : Type} [DecidableEq K]

/-- `dict[key] = value`: in the place of the key, or at the end. -/
def setEntry : List (K × V) → K → V → List (K × V)
  | [], key, value => [(key, value)]
  | (name, field) :: rest, key, value =>
      if name = key then (name, value) :: rest else (name, field) :: setEntry rest key value

/-- A new key comes last. -/
theorem setEntry_new {entries : List (K × V)} {key : K} (absent : ∀ entry ∈ entries, entry.1 ≠ key)
    (value : V) : setEntry entries key value = entries ++ [(key, value)] := by
  induction entries with
  | nil => rfl
  | cons entry rest ih =>
      have other := absent entry List.mem_cons_self
      rw [setEntry, if_neg other, ih fun later member => absent later (List.mem_cons_of_mem _ member)]
      rfl

end Set

def Dict.set (d : Dict) (key : String) (value : Json) : Dict := setEntry d key value

theorem Dict.set_new {d : Dict} {key : String} (absent : ∀ field ∈ d, field.1 ≠ key) (value : Json) :
    Dict.set d key value = d ++ [(key, value)] :=
  setEntry_new absent value

/-- A point in time in microseconds: an instant, or a wall-clock reading without a
time zone, which Python refuses to order against an instant. -/
inductive Datetime where
  | aware (instant : Int)
  | naive (reading : Int)
  deriving DecidableEq

/-! ## Text -/

/-- The code points for which `str.isspace` holds. -/
def isPySpace (c : Char) : Bool :=
  let n := c.toNat
  (9 ≤ n && n ≤ 13) || (28 ≤ n && n ≤ 32) || n == 0x85 || n == 0xA0 || n == 0x1680 ||
    (0x2000 ≤ n && n ≤ 0x200A) || n == 0x2028 || n == 0x2029 || n == 0x202F || n == 0x205F ||
    n == 0x3000

def pyStrip (text : String) : String := String.ofList (stripChars isPySpace text.toList)

/-- `str.isascii`. -/
def isAscii (text : String) : Bool := text.toList.all fun c => c.toNat < 128

/-- `text.isascii() and text.isdecimal()`: one or more of the digits 0 to 9. -/
def isAsciiDecimal (text : String) : Bool :=
  !text.toList.isEmpty && text.toList.all fun c => '0' ≤ c && c ≤ '9'

/-- The zeros of the decimal digit scripts of Unicode 15; the other nine digits of a
script follow its zero. -/
def decimalZeros : List Nat :=
  [0x30, 0x660, 0x6f0, 0x7c0, 0x966, 0x9e6, 0xa66, 0xae6, 0xb66, 0xbe6, 0xc66, 0xce6, 0xd66,
    0xde6, 0xe50, 0xed0, 0xf20, 0x1040, 0x1090, 0x17e0, 0x1810, 0x1946, 0x19d0, 0x1a80, 0x1a90,
    0x1b50, 0x1bb0, 0x1c40, 0x1c50, 0xa620, 0xa8d0, 0xa900, 0xa9d0, 0xa9f0, 0xaa50, 0xabf0,
    0xff10, 0x104a0, 0x10d30, 0x11066, 0x110f0, 0x11136, 0x111d0, 0x112f0, 0x11450, 0x114d0,
    0x11650, 0x116c0, 0x11730, 0x118e0, 0x11950, 0x11c50, 0x11d50, 0x11da0, 0x11f50, 0x16a60,
    0x16ac0, 0x16b50, 0x1d7ce, 0x1d7d8, 0x1d7e2, 0x1d7ec, 0x1d7f6, 0x1e140, 0x1e2f0, 0x1e4f0,
    0x1e950, 0x1fbf0]

/-- `str.isdecimal`: one or more decimal digits of any script. -/
def isDecimal (text : String) : Bool :=
  !text.toList.isEmpty &&
    text.toList.all fun c => decimalZeros.any fun first => first ≤ c.toNat && c.toNat ≤ first + 9

theorem isPySpace_of_digit {c : Char} (digit : ('0' ≤ c && c ≤ '9') = true) :
    isPySpace c = false := by
  simp only [Bool.and_eq_true, decide_eq_true_eq, Char.le_def, UInt32.le_iff_toNat_le] at digit
  have low : 48 ≤ c.toNat := digit.1
  have high : c.toNat ≤ 57 := digit.2
  simp only [isPySpace, Bool.or_eq_false_iff, Bool.and_eq_false_iff, decide_eq_false_iff_not,
    beq_eq_false_iff_ne]
  omega

/-- Text made of digits has nothing to strip. -/
theorem pyStrip_of_isAsciiDecimal {text : String} (decimal : isAsciiDecimal text = true) :
    pyStrip text = text := by
  simp only [isAsciiDecimal, Bool.and_eq_true, List.all_eq_true] at decimal
  have plain : stripChars isPySpace text.toList = text.toList :=
    stripChars_of_not_mem fun c member => isPySpace_of_digit (by simpa using decimal.2 c member)
  rw [pyStrip, plain, String.ofList_toList]

/-- `str.strip` is idempotent. -/
@[simp] theorem pyStrip_pyStrip (text : String) : pyStrip (pyStrip text) = pyStrip text := by
  simp only [pyStrip, String.toList_ofList, stripChars_stripChars]

/-! ## Distinct keys -/

/-- `list(dict.fromkeys(…))`: the first occurrence of each text. -/
def fromKeys (texts : List String) : List String := texts.eraseDups

theorem mem_fromKeys {text : String} {texts : List String} :
    text ∈ fromKeys texts ↔ text ∈ texts := List.mem_eraseDups

theorem fromKeys_nodup (texts : List String) : (fromKeys texts).Nodup := by
  induction h : texts.length using Nat.strong_induction_on generalizing texts with
  | _ n ih =>
      cases texts with
      | nil => exact List.nodup_nil
      | cons first rest =>
          simp only [List.length_cons] at h
          have shorter : (rest.filter fun text => !text == first).length < n := by
            have := List.length_filter_le (fun text => !text == first) rest
            omega
          rw [fromKeys, List.eraseDups_cons, List.nodup_cons]
          refine ⟨?_, ih _ shorter _ rfl⟩
          simp [List.mem_eraseDups]

theorem fromKeys_of_nodup {texts : List String} (distinct : texts.Nodup) :
    fromKeys texts = texts := by
  induction texts with
  | nil => rfl
  | cons first rest ih =>
      obtain ⟨absent, restDistinct⟩ := List.nodup_cons.mp distinct
      have others : rest.filter (fun text => !text == first) = rest := by
        rw [List.filter_eq_self]
        intro text member
        have differs : text ≠ first := fun same => absent (same ▸ member)
        simpa using differs
      rw [fromKeys, List.eraseDups_cons, others]
      exact congrArg (first :: ·) (ih restDistinct)

end KisAutoTrading.Theory
