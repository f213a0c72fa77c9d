/-
# Theory.Batch — the first items of a queue in a given order

`batch le size items` sorts the items and takes the first `size`. An item is left
out only behind a full batch of items that come before it (`not_mem_batch`), and it
is left out whenever `size` items come strictly before it (`not_mem_of_le_ahead`):
between the two, who is served depends on how many stand ahead and on nothing else.

`countP_lt_of_dropped` is the step of a counting argument over rounds: a predicate
that is only ever lost, and is lost somewhere, holds less often.
-/
import Mathlib.Data.List.Sort
import Mathlib.Data.List.Count

namespace KisAutoTrading.Theory

set_option autoImplicit false

variable {α : Type} (le : α → α → Prop) [DecidableRel le]

/-- The first `size` of the items. -/
def batch (size : Nat) (items : List α) : List α := (items.insertionSort le).take size

section Batch

variable {size : Nat} {items : List α} {x : α}

theorem mem_of_mem_batch (mem : x ∈ batch le size items) : x ∈ items :=
  (List.mem_insertionSort le).mp (List.mem_of_mem_take mem)

theorem countP_batch_le (p : α → Bool) : (batch le size items).countP p ≤ items.countP p := by
  have sorted : (items.insertionSort le).countP p = items.countP p :=
    (List.perm_insertionSort le items).countP_eq p
  rw [← sorted]
  exact (List.take_sublist size _).countP_le

variable [Std.Total le] [IsTrans α le]

/-- What is taken comes before what is left. -/
theorem le_of_mem_take_of_mem_drop {y : α} (taken : y ∈ (items.insertionSort le).take size)
    (left : x ∈ (items.insertionSort le).drop size) : le y x := by
  have sorted := List.pairwise_insertionSort le items
  rw [← List.take_append_drop size (items.insertionSort le)] at sorted
  exact (List.pairwise_append.mp sorted).2.2 y taken x left

/-- An item is left out behind a full batch of items that come before it. -/
theorem not_mem_batch (mem : x ∈ items) (out : x ∉ batch le size items) :
    (batch le size items).length = size ∧ ∀ y ∈ batch le size items, le y x := by
  have split : x ∈ (items.insertionSort le).take size ++ (items.insertionSort le).drop size := by
    rw [List.take_append_drop]
    exact (List.mem_insertionSort le).mpr mem
  have left : x ∈ (items.insertionSort le).drop size :=
    (List.mem_append.mp split).resolve_left out
  have long : 0 < ((items.insertionSort le).drop size).length := List.length_pos_of_mem left
  rw [List.length_drop] at long
  refine ⟨?_, fun y taken => le_of_mem_take_of_mem_drop le taken left⟩
  show ((items.insertionSort le).take size).length = size
  rw [List.length_take]
  omega

/-- An item with `size` items strictly before it is left out. -/
theorem not_mem_of_le_ahead {ahead : α → Bool}
    (strict : ∀ y ∈ items, ahead y = true → ¬ le x y) (enough : size ≤ items.countP ahead) :
    x ∉ batch le size items := by
  intro mem
  have self : ahead x = false := by
    rw [← Bool.not_eq_true]
    intro before
    exact strict x (mem_of_mem_batch le mem) before ((Std.Total.total (r := le) x x).elim id id)
  -- nothing ahead of a taken item is left
  have none : ((items.insertionSort le).drop size).countP ahead = 0 := by
    rw [List.countP_eq_zero]
    intro y left before
    have member : y ∈ items := (List.mem_insertionSort le).mp (List.mem_of_mem_drop left)
    exact strict y member before (le_of_mem_take_of_mem_drop le mem left)
  have split : items.countP ahead =
      (batch le size items).countP ahead + ((items.insertionSort le).drop size).countP ahead := by
    rw [batch, ← List.countP_append, List.take_append_drop]
    exact ((List.perm_insertionSort le items).countP_eq ahead).symm
  have fewer : (batch le size items).countP ahead < (batch le size items).length :=
    List.countP_lt_length_iff.mpr ⟨x, mem, self⟩
  have short : (batch le size items).length ≤ size := List.length_take_le size _
  omega

end Batch

omit [DecidableRel le] in
/-- A predicate that is only ever lost, and is lost somewhere, holds less often. -/
theorem countP_lt_of_dropped {p q : α → Bool} {items : List α}
    (only : ∀ y ∈ items, q y = true → p y = true) {x : α} (mem : x ∈ items) (had : p x = true)
    (lost : q x = false) : items.countP q < items.countP p := by
  induction items with
  | nil => cases mem
  | cons head rest ih =>
      have rests : rest.countP q ≤ rest.countP p :=
        List.countP_mono_left fun y member => only y (List.mem_cons_of_mem _ member)
      rw [List.countP_cons, List.countP_cons]
      rcases List.mem_cons.mp mem with rfl | member
      · rw [if_pos had, if_neg (by simp [lost])]
        omega
      · have fewer := ih (fun y inRest => only y (List.mem_cons_of_mem _ inRest)) member
        have first : (if q head = true then 1 else 0) ≤ if p head = true then 1 else 0 := by
          by_cases holds : q head = true
          · simp [holds, only head List.mem_cons_self holds]
          · simp [holds]
        omega

end KisAutoTrading.Theory
