/-
# Theory.CharClass — character classes of regular expressions

`charClass` is a class such as `[0-9]`, the sum of its characters. The words of a class to the
power `n` are those of `n` characters, all of the class (`mem_charClass_pow`).
-/
import Mathlib.Computability.RegularExpressions

namespace KisAutoTrading.Theory

set_option autoImplicit false

universe u

variable {α : Type u} {chars word : List α} {n : Nat}

/-- One of the characters. -/
def charClass (chars : List α) : RegularExpression α :=
  chars.foldr (fun c others => RegularExpression.char c + others) 0

theorem mem_charClass : word ∈ (charClass chars).matches' ↔ ∃ c ∈ chars, word = [c] := by
  induction chars with
  | nil =>
      simp only [charClass, List.foldr_nil, RegularExpression.matches'_zero, List.not_mem_nil,
        false_and, exists_false, iff_false]
      exact Language.notMem_zero word
  | cons c rest ih =>
      rw [charClass, List.foldr_cons, RegularExpression.matches'_add, Language.mem_add,
        RegularExpression.matches'_char]
      simp only [List.mem_cons, exists_eq_or_imp]
      exact or_congr Iff.rfl ih

/-- **The words of a class to a power are counted and checked.** -/
theorem mem_charClass_pow :
    word ∈ (charClass chars ^ n).matches' ↔ word.length = n ∧ ∀ c ∈ word, c ∈ chars := by
  rw [RegularExpression.matches'_pow, Language.mem_pow]
  constructor
  · rintro ⟨parts, rfl, counted, each⟩
    have single : ∀ part ∈ parts, part.length = 1 ∧ ∀ c ∈ part, c ∈ chars := by
      intro part member
      obtain ⟨c, inside, rfl⟩ := mem_charClass.mp (each part member)
      refine ⟨rfl, ?_⟩
      intro d here
      rwa [List.mem_singleton.mp here]
    refine ⟨?_, ?_⟩
    · rw [List.length_flatten, List.map_congr_left fun part member => (single part member).1,
        List.map_const', List.sum_replicate_nat, counted, Nat.mul_one]
    · intro c member
      obtain ⟨part, here, inside⟩ := List.mem_flatten.mp member
      exact (single part here).2 c inside
  · rintro ⟨counted, each⟩
    refine ⟨word.map fun c => [c], ?_, ?_, ?_⟩
    · rw [← List.flatMap_def, List.flatMap_singleton']
    · rw [List.length_map, counted]
    · intro part member
      obtain ⟨c, here, rfl⟩ := List.mem_map.mp member
      exact mem_charClass.mpr ⟨c, each c here, rfl⟩

end KisAutoTrading.Theory
