/-
# Theory.Uuid — 128-bit identifiers and their canonical text

A UUID is its 128-bit integer. `Uuid.str` is the canonical text, five groups of
lower-case hexadecimal digits; `Uuid.ofStr` is the lenient reader of Python's
`uuid.UUID(hex=…)`: the substrings `urn:` and `uuid:` are removed, surrounding
braces and every hyphen are dropped, and thirty-two hexadecimal digits must
remain. What else `int(hex, 16)` reads in thirty-two characters (`0x`, a sign,
underscores, blanks, other digits) is left out. `ofStr_str` is the round trip, so
the text determines the identifier (`str_injective`), also in front of a separator
and more text (`str_append_inj`).
-/
import Mathlib.Data.Fin.Basic
import Mathlib.Data.List.DropRight
import Mathlib.Tactic.NormNum
import Mathlib.Tactic.Ring

namespace KisAutoTrading.Theory

set_option autoImplicit false

/-! ## Hexadecimal digits -/

def hexDigit (d : Nat) : Char := if d < 10 then Char.ofNat (48 + d) else Char.ofNat (87 + d)

/-- The low `w` hexadecimal digits of `n`, most significant first. -/
def hexDigits : Nat → Nat → List Char
  | 0, _ => []
  | w + 1, n => hexDigits w (n / 16) ++ [hexDigit (n % 16)]

def hexValue (c : Char) : Option Nat :=
  if '0' ≤ c ∧ c ≤ '9' then some (c.toNat - 48)
  else if 'a' ≤ c ∧ c ≤ 'f' then some (c.toNat - 87)
  else if 'A' ≤ c ∧ c ≤ 'F' then some (c.toNat - 55)
  else none

/-- Read a digit string, accumulating from the left. -/
def hexFold : Nat → List Char → Option Nat
  | acc, [] => some acc
  | acc, c :: rest => (hexValue c).bind fun d => hexFold (16 * acc + d) rest

@[simp] theorem hexDigits_length (w n : Nat) : (hexDigits w n).length = w := by
  induction w generalizing n with
  | zero => rfl
  | succ w ih => simp [hexDigits, ih]

theorem hexValue_hexDigit : ∀ d < 16, hexValue (hexDigit d) = some d := by decide

theorem hexDigits_add (w v n : Nat) :
    hexDigits (w + v) n = hexDigits w (n / 16 ^ v) ++ hexDigits v n := by
  induction v generalizing n with
  | zero => simp [hexDigits]
  | succ v ih =>
      rw [← Nat.add_assoc, hexDigits, ih, hexDigits, List.append_assoc, Nat.div_div_eq_div_mul,
        ← Nat.pow_succ']

theorem hexFold_append (acc : Nat) (front back : List Char) :
    hexFold acc (front ++ back) = (hexFold acc front).bind fun a => hexFold a back := by
  induction front generalizing acc with
  | nil => rfl
  | cons c rest ih =>
      cases value : hexValue c with
      | none => simp [hexFold, value]
      | some d => simp [hexFold, value, ih]

theorem hexFold_hexDigits (w n acc : Nat) :
    hexFold acc (hexDigits w n) = some (16 ^ w * acc + n % 16 ^ w) := by
  induction w generalizing n with
  | zero => simp [hexDigits, hexFold, Nat.mod_one]
  | succ w ih =>
      have digit := hexValue_hexDigit (n % 16) (Nat.mod_lt n (by decide))
      rw [hexDigits, hexFold_append, ih]
      simp only [Option.bind_some, hexFold, digit, Option.some.injEq]
      rw [Nat.pow_succ', Nat.mod_mul]
      ring

theorem hexDigit_ne {c : Char} (outside : hexValue c = none) (d : Nat) (small : d < 16) :
    hexDigit d ≠ c := by
  intro same
  rw [← same, hexValue_hexDigit d small] at outside
  cases outside

theorem not_mem_hexDigits {c : Char} (outside : hexValue c = none) (w n : Nat) :
    c ∉ hexDigits w n := by
  induction w generalizing n with
  | zero => simp [hexDigits]
  | succ w ih =>
      rw [hexDigits, List.mem_append, List.mem_singleton, not_or]
      exact ⟨ih _, fun same => hexDigit_ne outside _ (Nat.mod_lt n (by decide)) same.symm⟩

/-! ## Removing text -/

/-- Drop every occurrence of `pattern`; `skip` characters of a match remain. -/
def removeAll (pattern : List Char) : Nat → List Char → List Char
  | _, [] => []
  | skip + 1, _ :: rest => removeAll pattern skip rest
  | 0, c :: rest =>
      if pattern.isPrefixOf (c :: rest) then removeAll pattern (pattern.length - 1) rest
      else c :: removeAll pattern 0 rest

/-- Drop the characters in `set` from both ends. -/
def stripChars (set : Char → Bool) (text : List Char) : List Char :=
  ((text.dropWhile set).reverse.dropWhile set).reverse

theorem removeAll_of_not_mem {p : Char} {pattern text : List Char} (absent : p ∉ text) :
    removeAll (p :: pattern) 0 text = text := by
  induction text with
  | nil => rfl
  | cons c rest ih =>
      have ne : p ≠ c := fun same => absent (by simp [same])
      rw [removeAll, if_neg (by simp [List.isPrefixOf, ne]), ih (fun m => absent (by simp [m]))]

theorem dropWhile_of_not_mem {set : Char → Bool} {text : List Char}
    (absent : ∀ c ∈ text, set c = false) : text.dropWhile set = text := by
  cases text with
  | nil => rfl
  | cons c rest => simp [absent c (by simp)]

theorem stripChars_of_not_mem {set : Char → Bool} {text : List Char}
    (absent : ∀ c ∈ text, set c = false) : stripChars set text = text := by
  rw [stripChars, dropWhile_of_not_mem absent,
    dropWhile_of_not_mem (fun c member => absent c (List.mem_reverse.mp member)),
    List.reverse_reverse]

/-- What is left has nothing more to drop. -/
theorem stripChars_stripChars (set : Char → Bool) (text : List Char) :
    stripChars set (stripChars set text) = stripChars set text := by
  have right : ∀ front : List Char, (front.reverse.dropWhile set).reverse = front.rdropWhile set :=
    fun _ => rfl
  simp only [stripChars, right]
  have front : ((text.dropWhile set).rdropWhile set).dropWhile set =
      (text.dropWhile set).rdropWhile set := by
    rw [List.dropWhile_eq_self_iff]
    intro some
    have isPrefix := List.rdropWhile_prefix set (l := text.dropWhile set)
    rw [isPrefix.getElem some]
    exact List.dropWhile_get_zero_not set text _
  rw [front, List.rdropWhile_idempotent]

/-! ## Identifiers -/

/-- A UUID as its 128-bit integer. -/
abbrev Uuid : Type := Fin (2 ^ 128)

instance Uuid.neZero : NeZero (2 ^ 128 : Nat) := ⟨by norm_num⟩

namespace Uuid

/-- The characters of the canonical text, in groups of 8, 4, 4, 4 and 12. -/
def chars (u : Uuid) : List Char :=
  hexDigits 8 (u.val / 16 ^ 24) ++ '-' :: (hexDigits 4 (u.val / 16 ^ 20) ++
    '-' :: (hexDigits 4 (u.val / 16 ^ 16) ++ '-' :: (hexDigits 4 (u.val / 16 ^ 12) ++
      '-' :: hexDigits 12 u.val)))

def str (u : Uuid) : String := String.ofList u.chars

def ofStr (text : String) : Option Uuid :=
  let hex := removeAll "uuid:".toList 0 (removeAll "urn:".toList 0 text.toList)
  let digits := (stripChars (fun c => c == '{' || c == '}') hex).filter (· != '-')
  if digits.length = 32 then
    (hexFold 0 digits).bind fun n => if h : n < 2 ^ 128 then some ⟨n, h⟩ else none
  else none

@[simp] theorem chars_length (u : Uuid) : u.chars.length = 36 := by simp [chars]

theorem str_ne_empty (u : Uuid) : u.str ≠ "" := by
  intro empty
  have length := congrArg (fun text => text.toList.length) empty
  simp [str] at length

theorem not_mem_chars {c : Char} (outside : hexValue c = none) (notHyphen : c ≠ '-') (u : Uuid) :
    c ∉ u.chars := by
  simp [chars, not_mem_hexDigits outside, notHyphen]

theorem filter_hyphen_hexDigits (w n : Nat) :
    (hexDigits w n).filter (· != '-') = hexDigits w n := by
  refine List.filter_eq_self.mpr fun c member => ?_
  have : c ≠ '-' := fun same => not_mem_hexDigits (by decide) w n (same ▸ member)
  simpa using this

theorem filter_chars (u : Uuid) : u.chars.filter (· != '-') = hexDigits 32 u.val := by
  have split32 := hexDigits_add 20 12 u.val
  have split20 := hexDigits_add 16 4 (u.val / 16 ^ 12)
  have split16 := hexDigits_add 12 4 (u.val / 16 ^ 12 / 16 ^ 4)
  have split12 := hexDigits_add 8 4 (u.val / 16 ^ 12 / 16 ^ 4 / 16 ^ 4)
  norm_num [Nat.div_div_eq_div_mul] at split32 split20 split16 split12
  norm_num [chars, List.filter_append, filter_hyphen_hexDigits, split32, split20, split16,
    split12]

/-- **The text of a UUID reads back as that UUID.** -/
theorem ofStr_str (u : Uuid) : ofStr u.str = some u := by
  have noU : 'u' ∉ u.chars := not_mem_chars (by decide) (by decide) u
  have noBrace : ∀ c ∈ u.chars, (c == '{' || c == '}') = false := by
    intro c member
    have left : c ≠ '{' := fun same => not_mem_chars (by decide) (by decide) u (same ▸ member)
    have right : c ≠ '}' := fun same => not_mem_chars (by decide) (by decide) u (same ▸ member)
    simp [left, right]
  have plain : removeAll "uuid:".toList 0 (removeAll "urn:".toList 0 u.chars) = u.chars := by
    rw [show "urn:".toList = 'u' :: "rn:".toList from rfl, removeAll_of_not_mem noU,
      show "uuid:".toList = 'u' :: "uid:".toList from rfl, removeAll_of_not_mem noU]
  have small : u.val % 16 ^ 32 = u.val := Nat.mod_eq_of_lt (by have := u.isLt; norm_num at this ⊢; exact this)
  simp only [ofStr, str, String.toList_ofList, plain, stripChars_of_not_mem noBrace, filter_chars,
    hexDigits_length, if_true, hexFold_hexDigits, Option.bind_some, Nat.mul_zero, Nat.zero_add,
    small, u.isLt, dif_pos]

theorem str_injective : Function.Injective str := by
  intro a b same
  have := ofStr_str a
  rw [same, ofStr_str b] at this
  exact (Option.some.inj this).symm

@[simp] theorem str_inj {a b : Uuid} : a.str = b.str ↔ a = b := str_injective.eq_iff

/-- The text is of fixed width, so what follows it is determined too. -/
theorem str_append_inj {a b : Uuid} {s t : String} (same : a.str ++ s = b.str ++ t) :
    a = b ∧ s = t := by
  have chars := congrArg String.toList same
  simp only [String.toList_append, str, String.toList_ofList] at chars
  obtain ⟨left, right⟩ := List.append_inj chars (by simp)
  exact ⟨str_injective (congrArg String.ofList left), String.toList_inj.mp right⟩

end Uuid

end KisAutoTrading.Theory
