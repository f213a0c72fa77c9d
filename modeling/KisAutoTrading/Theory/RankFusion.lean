/-
# Theory.RankFusion — one ranking made of two

Two lists place items by rank, and an item scores the weight of its rank for each place it has.
`Ranking` is the order by score, the greater first, and then by the item itself; it is strict
(`Before`), so there is one ranking of given items (`Ranking.eq`), and sorting finds it
(`ranking_of_sort`). If weights fall with the rank, an item that is placed no worse than another
in both lists and better in one is ranked before it (`before_of_placed`), and a ranking that is
cut off keeps that order (`Ranking.before_in_take`).
-/
import KisAutoTrading.Theory.SortedBy
import Mathlib.Algebra.Order.Group.Defs
import Mathlib.Data.Prod.Lex
import Mathlib.Order.Monotone.Basic

namespace KisAutoTrading.Theory.RankFusion

set_option autoImplicit false

universe u v

section Order

variable {ι : Type u} {R : Type v} [LinearOrder ι] [LinearOrder R] {score : ι → R} {a b c : ι}

/-- By score, the greater first, and then by the item. -/
def Before (score : ι → R) (a b : ι) : Prop := score b < score a ∨ score a = score b ∧ a < b

/-- The items in order, each once. -/
structure Ranking (score : ι → R) (items ranked : List ι) : Prop where
  sorted : ranked.Pairwise (Before score)
  mem : ∀ item, item ∈ ranked ↔ item ∈ items

theorem Before.asymm (before : Before score a b) : ¬ Before score b a := by
  rintro (below | ⟨same, above⟩)
  · rcases before with above | ⟨same, -⟩
    · exact lt_asymm above below
    · exact absurd same (ne_of_lt below)
  · rcases before with below | ⟨-, below⟩
    · exact absurd same (ne_of_lt below)
    · exact lt_asymm above below

variable {items items' ranked ranked' : List ι}

theorem Ranking.nodup (ranking : Ranking score items ranked) : ranked.Nodup :=
  ranking.sorted.imp fun before same => by
    subst same
    exact before.asymm before

/-- **There is one ranking.** -/
theorem Ranking.eq (ranking : Ranking score items ranked) (other : Ranking score items' ranked')
    (same : ∀ item, item ∈ items ↔ item ∈ items') : ranked = ranked' := by
  have members : ∀ item, item ∈ ranked ↔ item ∈ ranked' := fun item =>
    (ranking.mem item).trans ((same item).trans (other.mem item).symm)
  have perm := (List.perm_ext_iff_of_nodup ranking.nodup other.nodup).mpr members
  exact perm.eq_of_pairwise (fun _ _ _ _ before after => absurd after before.asymm)
    ranking.sorted other.sorted

/-- An item that comes before another one is there if the other is, however many are kept. -/
theorem Ranking.before_in_take (ranking : Ranking score items ranked) (before : Before score a b)
    (member : a ∈ items) {limit i : Nat} (place : (ranked.take limit)[i]? = some b) :
    ∃ j < i, (ranked.take limit)[j]? = some a := by
  have inside : i < limit := by
    by_contra outside
    rw [List.getElem?_take_eq_none (not_lt.mp outside)] at place
    cases place
  have at_i : ranked[i]? = some b := by rwa [List.getElem?_take_of_lt inside] at place
  obtain ⟨j, at_j⟩ := List.getElem?_of_mem ((ranking.mem a).mpr member)
  have earlier : j < i := by
    by_contra later
    rcases Nat.lt_or_eq_of_le (not_lt.mp later) with above | rfl
    · obtain ⟨_, item⟩ := List.getElem?_eq_some_iff.mp at_i
      obtain ⟨_, item'⟩ := List.getElem?_eq_some_iff.mp at_j
      have sorted := List.pairwise_iff_getElem.mp ranking.sorted i j ‹_› ‹_› above
      rw [item, item'] at sorted
      exact before.asymm sorted
    · cases at_i.symm.trans at_j
      exact before.asymm before
  exact ⟨j, earlier, (List.getElem?_take_of_lt (earlier.trans inside)).trans at_j⟩

end Order

section Scores

variable {ι : Type u} {R : Type v} [DecidableEq ι] [AddCommGroup R] (weight : Nat → R)

/-- The weights of an item's places in a list that begins at a rank. -/
def contribution : Nat → List ι → ι → R
  | _, [], _ => 0
  | rank, placed :: rest, item =>
      (if placed = item then weight rank else 0) + contribution (rank + 1) rest item

/-- The score of an item in two lists, whose ranks begin at 1. -/
def fused (first second : List ι) (item : ι) : R :=
  contribution weight 1 first item + contribution weight 1 second item

theorem fused_comm (first second : List ι) : fused weight first second = fused weight second first :=
  funext fun _ => add_comm _ _

variable {weight} {list : List ι} {item : ι} {rank i : Nat}

theorem contribution_of_not_mem (absent : item ∉ list) : contribution weight rank list item = 0 := by
  induction list generalizing rank with
  | nil => rfl
  | cons placed rest ih =>
      have apart : placed ≠ item := fun same => absent (same ▸ List.mem_cons_self)
      rw [contribution, if_neg apart, zero_add, ih fun member => absent (List.mem_cons_of_mem _ member)]

/-- An item with one place has its weight. -/
theorem contribution_of_place (once : list.count item ≤ 1) (place : list[i]? = some item) :
    contribution weight rank list item = weight (rank + i) := by
  induction list generalizing rank i with
  | nil => cases place
  | cons placed rest ih =>
      by_cases same : placed = item
      · subst same
        have absent : placed ∉ rest := by
          intro member
          have more := List.count_pos_iff.mpr member
          rw [List.count_cons_self] at once
          omega
        cases i with
        | zero =>
            rw [contribution, if_pos rfl, contribution_of_not_mem absent, add_zero]
            rfl
        | succ i =>
            rw [List.getElem?_cons_succ] at place
            exact absurd (List.mem_of_getElem? place) absent
      · cases i with
        | zero => exact absurd (Option.some.inj place) same
        | succ i =>
            rw [List.count_cons_of_ne same] at once
            rw [contribution, if_neg same, zero_add, ih once place, Nat.add_right_comm]
            rfl

end Scores

/-! ## Placed better -/

section Placed

variable {ι : Type u} {R : Type v}

/-- Wherever the second item is, the first is there or before. -/
def NoWorse (a b : ι) (list : List ι) : Prop :=
  ∀ i : Nat, list[i]? = some b → ∃ j ≤ i, list[j]? = some a

/-- The first item is before any place of the second. -/
def Better (a b : ι) (list : List ι) : Prop :=
  ∃ j : Nat, list[j]? = some a ∧ ∀ i : Nat, list[i]? = some b → j < i

variable [LinearOrder ι] [AddCommGroup R] [LinearOrder R] [IsOrderedAddMonoid R]
  {weight : Nat → R} (falling : StrictAnti weight) (positive : ∀ rank, 0 < weight rank)
  {a b : ι} {list first second items : List ι} {rank : Nat}

include falling positive

omit [IsOrderedAddMonoid R] in
theorem contribution_le (onceA : list.count a ≤ 1) (onceB : list.count b ≤ 1)
    (noWorse : NoWorse a b list) :
    contribution weight rank list b ≤ contribution weight rank list a := by
  by_cases member : b ∈ list
  · obtain ⟨i, place⟩ := List.getElem?_of_mem member
    obtain ⟨j, before, place'⟩ := noWorse i place
    rw [contribution_of_place onceB place, contribution_of_place onceA place']
    exact falling.antitone (Nat.add_le_add_left before rank)
  · rw [contribution_of_not_mem member]
    by_cases there : a ∈ list
    · obtain ⟨j, place⟩ := List.getElem?_of_mem there
      rw [contribution_of_place onceA place]
      exact le_of_lt (positive _)
    · rw [contribution_of_not_mem there]

omit [IsOrderedAddMonoid R] in
theorem contribution_lt (onceA : list.count a ≤ 1) (onceB : list.count b ≤ 1)
    (better : Better a b list) :
    contribution weight rank list b < contribution weight rank list a := by
  obtain ⟨j, place, before⟩ := better
  rw [contribution_of_place onceA place]
  by_cases member : b ∈ list
  · obtain ⟨i, place'⟩ := List.getElem?_of_mem member
    rw [contribution_of_place onceB place']
    exact falling (Nat.add_lt_add_left (before i place') rank)
  · rw [contribution_of_not_mem member]
    exact positive _

/-- **An item that is placed no worse in both lists and better in one is ranked before.** -/
theorem before_of_placed (onceA : first.count a ≤ 1 ∧ second.count a ≤ 1)
    (onceB : first.count b ≤ 1 ∧ second.count b ≤ 1)
    (noWorse : NoWorse a b first ∧ NoWorse a b second)
    (better : Better a b first ∨ Better a b second) : Before (fused weight first second) a b := by
  refine .inl ?_
  rcases better with better | better
  · exact add_lt_add_of_lt_of_le (contribution_lt falling positive onceA.1 onceB.1 better)
      (contribution_le falling positive onceA.2 onceB.2 noWorse.2)
  · exact add_lt_add_of_le_of_lt (contribution_le falling positive onceA.1 onceB.1 noWorse.1)
      (contribution_lt falling positive onceA.2 onceB.2 better)

end Placed

/-! ## Sorting -/

section Sorting

variable {ι : Type u} {R : Type v} [LinearOrder ι] [AddCommGroup R] [LinearOrder R]
  [IsOrderedAddMonoid R] (score : ι → R)

/-- What a ranking sorts by. -/
def sortKey (item : ι) : R ×ₗ ι := toLex (-score item, item)

theorem sortKey_lt_iff {a b : ι} : sortKey score a < sortKey score b ↔ Before score a b := by
  rw [sortKey, sortKey, Prod.Lex.toLex_lt_toLex, Before, neg_lt_neg_iff, neg_inj]

/-- Sorting distinct items by the key ranks them. -/
theorem ranking_of_sort {items : List ι} (distinct : items.Nodup) :
    Ranking score items (items.insertionSort fun a b => sortKey score a ≤ sortKey score b) := by
  have injective : Function.Injective (sortKey score) := fun a b same =>
    congrArg Prod.snd (toLex_inj.mp same)
  refine ⟨?_, fun item => (List.perm_insertionSort _ items).mem_iff⟩
  exact (SortedBy.pairwise_lt _ (distinct.map injective)).imp (sortKey_lt_iff score).mp

end Sorting

end KisAutoTrading.Theory.RankFusion
