/-
# Theory.SortedBy — lists sorted by a key

`insertionSort` by the keys of the items. Where the keys are distinct the order is strict, and
a strictly sorted list is the only sorted arrangement of its items (`insertionSort_eq`), so two
ways to collect the same items end in the same list.
-/
import Mathlib.Data.List.Sort
import Mathlib.Order.Defs.LinearOrder

namespace KisAutoTrading.Theory.SortedBy

set_option autoImplicit false

universe u v

section Sorted

variable {α : Type u} {β : Type v} [LinearOrder β] (key : α → β)

theorem pairwise_le (items : List α) :
    (items.insertionSort fun a b => key a ≤ key b).Pairwise fun a b => key a ≤ key b := by
  have total : Std.Total fun a b => key a ≤ key b := ⟨fun a b => le_total (key a) (key b)⟩
  have transitive : IsTrans α fun a b => key a ≤ key b := ⟨fun _ _ _ => le_trans⟩
  exact List.pairwise_insertionSort _ items

/-- Distinct keys are sorted strictly. -/
theorem pairwise_lt {items : List α} (distinct : (items.map key).Nodup) :
    (items.insertionSort fun a b => key a ≤ key b).Pairwise fun a b => key a < key b := by
  have sorted := List.perm_insertionSort (fun a b => key a ≤ key b) items
  have apart : (items.insertionSort fun a b => key a ≤ key b).Pairwise fun a b => key a ≠ key b :=
    List.pairwise_map.mp ((sorted.map key).nodup_iff.mpr distinct)
  exact ((pairwise_le key items).and apart).imp fun ⟨below, differs⟩ => lt_of_le_of_ne below differs

theorem nodup_of_pairwise_lt {items : List α} (sorted : items.Pairwise fun a b => key a < key b) :
    (items.map key).Nodup :=
  List.pairwise_map.mpr (sorted.imp fun below => ne_of_lt below)

/-- **A strictly sorted list is what sorting its items in any order gives.** -/
theorem insertionSort_eq {items sorted : List α}
    (strict : sorted.Pairwise fun a b => key a < key b) (same : items.Perm sorted) :
    (items.insertionSort fun a b => key a ≤ key b) = sorted := by
  refine List.Perm.eq_of_pairwise ?_ (pairwise_le key items) (strict.imp fun below => le_of_lt below)
    ((List.perm_insertionSort _ items).trans same)
  intro a b memberA memberB below above
  have memberA' := same.mem_iff.mp ((List.perm_insertionSort _ items).mem_iff.mp memberA)
  exact List.inj_on_of_nodup_map (nodup_of_pairwise_lt key strict) memberA' memberB
    (le_antisymm below above)

/-- An item is among the first `n`, or these are `n` and all before it. -/
theorem mem_take_or {sorted : List α} (strict : sorted.Pairwise fun a b => key a < key b) (n : Nat)
    {item : α} (member : item ∈ sorted) :
    item ∈ sorted.take n ∨ (sorted.take n).length = n ∧ ∀ kept ∈ sorted.take n, key kept < key item := by
  rw [← List.take_append_drop n sorted, List.mem_append] at member
  rcases member with kept | dropped
  · exact .inl kept
  · rw [← List.take_append_drop n sorted, List.pairwise_append] at strict
    refine .inr ⟨?_, fun kept here => strict.2.2 kept here item dropped⟩
    have long := List.length_pos_of_mem dropped
    rw [List.length_drop] at long
    rw [List.length_take]
    omega

end Sorted

end KisAutoTrading.Theory.SortedBy
