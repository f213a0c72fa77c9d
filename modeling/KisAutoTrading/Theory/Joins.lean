/-
# Theory.Joins — texts joined without quoting

A key made of a heading and a rest determines both if no heading starts another (`PrefixFree`).
Two fields joined by a separator do not determine them: `join_eq_join_iff` says exactly when
two pairs are joined to one list, namely when the same elements, separator included, end one
pair's first field and start the other's second. Where the first fields have one length they
are determined (`append_inj_of_length`).
-/
import Mathlib.Data.List.Infix

namespace KisAutoTrading.Theory

set_option autoImplicit false

/-- No heading starts the heading of another index. -/
def PrefixFree {ι α : Type} (heading : ι → List α) : Prop :=
  ∀ i j, heading i <+: heading j → i = j

section Joins

variable {ι α : Type} {first first' second second' rest rest' : List α}

theorem PrefixFree.eq_of_append {heading : ι → List α} (free : PrefixFree heading) {i j : ι}
    (same : heading i ++ rest = heading j ++ rest') : i = j := by
  have starts : heading i <+: heading j ++ rest' := ⟨rest, same⟩
  rcases List.prefix_or_prefix_of_prefix starts (List.prefix_append _ _) with before | before
  · exact free i j before
  · exact (free j i before).symm

/-- Two joins are equal if the fields are, or if elements around a separator moved from the one
field to the other. -/
theorem join_eq_join_iff {separator : α} :
    first ++ separator :: second = first' ++ separator :: second' ↔
      (first = first' ∧ second = second') ∨
        (∃ middle, first' = first ++ separator :: middle ∧ second = middle ++ separator :: second') ∨
        ∃ middle, first = first' ++ separator :: middle ∧ second' = middle ++ separator :: second := by
  rw [List.append_eq_append_iff]
  constructor
  · rintro (⟨between, start, rest⟩ | ⟨between, start, rest⟩)
    · cases between with
      | nil =>
          simp only [List.nil_append, List.cons.injEq, true_and] at rest
          exact .inl ⟨by simpa using start.symm, rest⟩
      | cons head middle =>
          simp only [List.cons_append, List.cons.injEq] at rest
          obtain ⟨rfl, rest⟩ := rest
          exact .inr (.inl ⟨middle, start, rest⟩)
    · cases between with
      | nil =>
          simp only [List.nil_append, List.cons.injEq, true_and] at rest
          exact .inl ⟨by simpa using start, rest.symm⟩
      | cons head middle =>
          simp only [List.cons_append, List.cons.injEq] at rest
          obtain ⟨rfl, rest⟩ := rest
          exact .inr (.inr ⟨middle, start, rest⟩)
  · rintro (⟨rfl, rfl⟩ | ⟨middle, rfl, rfl⟩ | ⟨middle, rfl, rfl⟩)
    · exact .inl ⟨[], by simp⟩
    · exact .inl ⟨separator :: middle, by simp⟩
    · exact .inr ⟨separator :: middle, by simp⟩

end Joins

/-! ## Text -/

section Text

variable {first first' second second' : String}

theorem append_inj_of_length (same : first ++ second = first' ++ second')
    (length : first.toList.length = first'.toList.length) : first = first' ∧ second = second' := by
  have lists := congrArg String.toList same
  simp only [String.toList_append] at lists
  obtain ⟨starts, ends⟩ := List.append_inj lists length
  exact ⟨String.toList_inj.mp starts, String.toList_inj.mp ends⟩

/-- The same from the end. -/
theorem append_inj_of_length' (same : first ++ second = first' ++ second')
    (length : second.toList.length = second'.toList.length) : first = first' ∧ second = second' := by
  have lists := congrArg String.toList same
  simp only [String.toList_append] at lists
  obtain ⟨starts, ends⟩ := List.append_inj' lists length
  exact ⟨String.toList_inj.mp starts, String.toList_inj.mp ends⟩

/-- `join_eq_join_iff` for texts around a colon. -/
theorem colon_join_eq_iff :
    first ++ (":" ++ second) = first' ++ (":" ++ second') ↔
      (first = first' ∧ second = second') ∨
        (∃ middle, first' = first ++ (":" ++ middle) ∧ second = middle ++ (":" ++ second')) ∨
        ∃ middle, first = first' ++ (":" ++ middle) ∧ second' = middle ++ (":" ++ second) := by
  have joined (text other : String) :
      (text ++ (":" ++ other)).toList = text.toList ++ ':' :: other.toList := by
    simp only [String.toList_append]
    rfl
  simp only [← String.toList_inj, joined, join_eq_join_iff]
  refine or_congr Iff.rfl (or_congr ?_ ?_)
  all_goals
    constructor
    · rintro ⟨middle, start, ends⟩
      exact ⟨String.ofList middle, by simpa using start, by simpa using ends⟩
    · rintro ⟨middle, start, ends⟩
      exact ⟨middle.toList, start, ends⟩

end Text

end KisAutoTrading.Theory
