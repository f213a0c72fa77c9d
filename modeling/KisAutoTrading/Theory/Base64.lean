/-
# Theory.Base64 — the URL-safe alphabet, without padding and with it

Three bytes are four six-bit numbers (`sextets`), and one or two bytes at the end two or
three. `encode` writes them in the URL-safe alphabet: what is left of the padded encoding
when the `=` at its end are taken off. Different bytes give different text
(`encode_injective`), and the text has no other characters (`mem_alphabet_of_mem_encode`).

`decode` reads padded text as a lenient decoder does: it passes over the characters that are
in no alphabet, and stops where a quad is padded. `decode_encodePadded` is the round trip.
-/
import Mathlib.Data.List.GetD
import Mathlib.Data.List.Nodup
import Mathlib.Logic.Function.Basic

namespace KisAutoTrading.Theory.Base64

set_option autoImplicit false

def alphabet : List Char :=
  "ABCDEFGHIJKLMNOPQRSTUVWXYZabcdefghijklmnopqrstuvwxyz0123456789-_".toList

/-- The character of a six-bit number. -/
def digit (n : Nat) : Char := alphabet.getD n 'A'

/-- The bits of the bytes, six at a time and filled up with zeros. -/
def sextets : List UInt8 → List Nat
  | [] => []
  | [a] => [a.toNat / 4, a.toNat % 4 * 16]
  | [a, b] => [a.toNat / 4, a.toNat % 4 * 16 + b.toNat / 16, b.toNat % 16 * 4]
  | a :: b :: c :: rest =>
      a.toNat / 4 :: (a.toNat % 4 * 16 + b.toNat / 16) :: (b.toNat % 16 * 4 + c.toNat / 64) ::
        (c.toNat % 64) :: sextets rest

def encode (bytes : List UInt8) : List Char := (sextets bytes).map digit

theorem digit_mem (n : Nat) : digit n ∈ alphabet := by
  unfold digit
  by_cases inside : n < alphabet.length
  · rw [List.getD_eq_getElem _ _ inside]
    exact List.getElem_mem inside
  · rw [List.getD_eq_default _ _ (Nat.not_lt.mp inside)]
    decide

theorem mem_alphabet_of_mem_encode {bytes : List UInt8} {c : Char} (member : c ∈ encode bytes) :
    c ∈ alphabet := by
  obtain ⟨n, -, rfl⟩ := List.mem_map.mp member
  exact digit_mem n

/-! ## Reading back -/

theorem digit_inj {m n : Nat} (small : m < 64) (small' : n < 64) (same : digit m = digit n) :
    m = n := by
  have length : alphabet.length = 64 := by decide +kernel
  have distinct : alphabet.Nodup := by decide +kernel
  unfold digit at same
  rw [List.getD_eq_getElem _ _ (by omega), List.getD_eq_getElem _ _ (by omega)] at same
  exact (List.Nodup.getElem_inj_iff distinct).mp same

theorem sextets_lt (bytes : List UInt8) : ∀ n ∈ sextets bytes, n < 64 := by
  induction bytes using sextets.induct with
  | case1 => nofun
  | case2 a =>
      have := a.toNat_lt
      simp only [sextets, List.mem_cons, List.not_mem_nil, or_false]
      omega
  | case3 a b =>
      have := a.toNat_lt
      have := b.toNat_lt
      simp only [sextets, List.mem_cons, List.not_mem_nil, or_false]
      omega
  | case4 a b c rest ih =>
      have := a.toNat_lt
      have := b.toNat_lt
      have := c.toNat_lt
      simp only [sextets, List.mem_cons]
      rintro n (rfl | rfl | rfl | rfl | later)
      · omega
      · omega
      · omega
      · omega
      · exact ih n later

theorem sextets_injective : Function.Injective sextets := by
  intro bytes
  induction bytes using sextets.induct with
  | case1 =>
      intro other same
      match other with
      | [] => rfl
      | [_] | [_, _] | _ :: _ :: _ :: _ => cases same
  | case2 a =>
      intro other same
      match other with
      | [a'] =>
          simp only [sextets, List.cons.injEq, and_true] at same
          have first : a = a' := UInt8.toNat_inj.mp (by omega)
          rw [first]
      | [] | [_, _] | _ :: _ :: _ :: _ => simp [sextets] at same
  | case3 a b =>
      intro other same
      match other with
      | [a', b'] =>
          have := b.toNat_lt
          have := b'.toNat_lt
          simp only [sextets, List.cons.injEq, and_true] at same
          have first : a = a' := UInt8.toNat_inj.mp (by omega)
          have second : b = b' := UInt8.toNat_inj.mp (by omega)
          rw [first, second]
      | [] | [_] | _ :: _ :: _ :: _ => simp [sextets] at same
  | case4 a b c rest ih =>
      intro other same
      match other with
      | a' :: b' :: c' :: rest' =>
          have := b.toNat_lt
          have := b'.toNat_lt
          have := c.toNat_lt
          have := c'.toNat_lt
          simp only [sextets, List.cons.injEq] at same
          obtain ⟨one, two, three, four, tail⟩ := same
          have first : a = a' := UInt8.toNat_inj.mp (by omega)
          have second : b = b' := UInt8.toNat_inj.mp (by omega)
          have third : c = c' := UInt8.toNat_inj.mp (by omega)
          rw [first, second, third, ih tail]
      | [] | [_] | [_, _] => simp [sextets] at same

theorem map_digit_inj {first second : List Nat} (small : ∀ n ∈ first, n < 64)
    (small' : ∀ n ∈ second, n < 64) (same : first.map digit = second.map digit) :
    first = second := by
  induction first generalizing second with
  | nil =>
      cases second with
      | nil => rfl
      | cons n rest => cases same
  | cons m rest ih =>
      cases second with
      | nil => cases same
      | cons n others =>
          simp only [List.map_cons, List.cons.injEq] at same
          have head := digit_inj (small m (by simp)) (small' n (by simp)) same.1
          have tail := ih (fun k member => small k (by simp [member]))
            (fun k member => small' k (by simp [member])) same.2
          rw [head, tail]

/-- **Different bytes give different text.** -/
theorem encode_injective : Function.Injective encode := by
  intro bytes other same
  exact sextets_injective (map_digit_inj (sextets_lt bytes) (sextets_lt other) same)

/-! ## Padding -/

def padding : List UInt8 → List Char
  | [] => []
  | [_] => ['=', '=']
  | [_, _] => ['=']
  | _ :: _ :: _ :: rest => padding rest

/-- `urlsafe_b64encode`. -/
def encodePadded (bytes : List UInt8) : List Char := encode bytes ++ padding bytes

/-- The characters of a quad that were read: the bits that are no whole byte yet, and, after
two characters, whether a first `=` has come. -/
inductive Quad where
  | start
  | one (left : Nat)
  | two (left : Nat) (padded : Bool)
  | three (left : Nat)

/-- The number of a character. Both alphabets are read: only the two characters in which the
URL-safe one differs are translated. -/
def sextet (c : Char) : Option Nat :=
  if c = '+' then some 62 else if c = '/' then some 63 else alphabet.idxOf? c

/-- The bytes of the text after a quad that was begun; a quad may only be left padded. -/
def decodeFrom : Quad → List Char → Option (List UInt8)
  | .start, [] => some []
  | _, [] => none
  | quad, c :: rest =>
      if c = '=' then
        match quad with
        | .three _ | .two _ true => some []
        | .two left false => decodeFrom (.two left true) rest
        | quad => decodeFrom quad rest
      else
        match sextet c with
        | none => decodeFrom quad rest
        | some n =>
            match quad with
            | .start => decodeFrom (.one n) rest
            | .one left =>
                (UInt8.ofNat (left * 4 + n / 16) :: ·) <$> decodeFrom (.two (n % 16) false) rest
            | .two left _ =>
                (UInt8.ofNat (left * 16 + n / 4) :: ·) <$> decodeFrom (.three (n % 4)) rest
            | .three left => (UInt8.ofNat (left * 64 + n) :: ·) <$> decodeFrom .start rest

/-- `urlsafe_b64decode`, where it raises no `binascii.Error`. -/
def decode (chars : List Char) : Option (List UInt8) := decodeFrom .start chars

theorem eq_of_mem_padding {bytes : List UInt8} {c : Char} (member : c ∈ padding bytes) : c = '=' := by
  induction bytes using padding.induct with
  | case1 => simp [padding] at member
  | case2 a => simpa [padding] using member
  | case3 a b => simpa [padding] using member
  | case4 a b c rest ih => exact ih member

theorem mem_encodePadded {bytes : List UInt8} {c : Char} (member : c ∈ encodePadded bytes) :
    c ∈ alphabet ∨ c = '=' :=
  (List.mem_append.mp member).imp mem_alphabet_of_mem_encode eq_of_mem_padding

section Quads

variable {n left : Nat} {rest : List Char}

theorem digit_ne_pad (n : Nat) : digit n ≠ '=' := by
  have outside : '=' ∉ alphabet := by decide +kernel
  intro same
  exact outside (same ▸ digit_mem n)

theorem sextet_digit (small : n < 64) : sextet (digit n) = some n := by
  have all : ∀ n < 64, sextet (digit n) = some n := by decide +kernel
  exact all n small

@[simp] theorem decodeFrom_start (small : n < 64) :
    decodeFrom .start (digit n :: rest) = decodeFrom (.one n) rest := by
  simp only [decodeFrom, if_neg (digit_ne_pad n), sextet_digit small]

@[simp] theorem decodeFrom_one (small : n < 64) :
    decodeFrom (.one left) (digit n :: rest) =
      (UInt8.ofNat (left * 4 + n / 16) :: ·) <$> decodeFrom (.two (n % 16) false) rest := by
  simp only [decodeFrom, if_neg (digit_ne_pad n), sextet_digit small]

@[simp] theorem decodeFrom_two (small : n < 64) :
    decodeFrom (.two left false) (digit n :: rest) =
      (UInt8.ofNat (left * 16 + n / 4) :: ·) <$> decodeFrom (.three (n % 4)) rest := by
  simp only [decodeFrom, if_neg (digit_ne_pad n), sextet_digit small]

@[simp] theorem decodeFrom_three (small : n < 64) :
    decodeFrom (.three left) (digit n :: rest) =
      (UInt8.ofNat (left * 64 + n) :: ·) <$> decodeFrom .start rest := by
  simp only [decodeFrom, if_neg (digit_ne_pad n), sextet_digit small]

end Quads

/-- A byte that is put together again. -/
theorem ofNat_eq {a : UInt8} {n : Nat} (same : n = a.toNat) : UInt8.ofNat n = a := by
  rw [same, UInt8.ofNat_toNat]

/-- **What was encoded is decoded.** -/
theorem decode_encodePadded (bytes : List UInt8) : decode (encodePadded bytes) = some bytes := by
  unfold decode encodePadded encode
  induction bytes using sextets.induct with
  | case1 => rfl
  | case2 a =>
      have := a.toNat_lt
      have first : UInt8.ofNat (a.toNat / 4 * 4 + a.toNat % 4 * 16 / 16) = a := ofNat_eq (by omega)
      simp only [sextets, padding, List.map_cons, List.map_nil, List.cons_append, List.nil_append]
      rw [decodeFrom_start (by omega), decodeFrom_one (by omega), first]
      rfl
  | case3 a b =>
      have := a.toNat_lt
      have := b.toNat_lt
      have first : UInt8.ofNat (a.toNat / 4 * 4 + (a.toNat % 4 * 16 + b.toNat / 16) / 16) = a :=
        ofNat_eq (by omega)
      have second : UInt8.ofNat
          ((a.toNat % 4 * 16 + b.toNat / 16) % 16 * 16 + b.toNat % 16 * 4 / 4) = b :=
        ofNat_eq (by omega)
      simp only [sextets, padding, List.map_cons, List.map_nil, List.cons_append, List.nil_append]
      rw [decodeFrom_start (by omega), decodeFrom_one (by omega), decodeFrom_two (by omega), first,
        second]
      rfl
  | case4 a b c rest ih =>
      have := a.toNat_lt
      have := b.toNat_lt
      have := c.toNat_lt
      have first : UInt8.ofNat (a.toNat / 4 * 4 + (a.toNat % 4 * 16 + b.toNat / 16) / 16) = a :=
        ofNat_eq (by omega)
      have second : UInt8.ofNat ((a.toNat % 4 * 16 + b.toNat / 16) % 16 * 16 +
          (b.toNat % 16 * 4 + c.toNat / 64) / 4) = b := ofNat_eq (by omega)
      have third : UInt8.ofNat ((b.toNat % 16 * 4 + c.toNat / 64) % 4 * 64 + c.toNat % 64) = c :=
        ofNat_eq (by omega)
      simp only [sextets, padding, List.map_cons, List.cons_append]
      rw [decodeFrom_start (by omega), decodeFrom_one (by omega), decodeFrom_two (by omega),
        decodeFrom_three (by omega), first, second, third, ih]
      rfl

end KisAutoTrading.Theory.Base64
