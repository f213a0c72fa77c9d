/-
# Theory.Expiring — a key-value store whose entries expire

What a cache server offers: a value is stored with the time until which it can be
read, is gone from then on, and `setNx` stores only where nothing can be read. An
expired entry is not told apart from a missing one, so nothing here removes it.
-/
import Mathlib.Order.Lattice
import Mathlib.Logic.Function.Basic

namespace KisAutoTrading.Theory

set_option autoImplicit false

/-- Values of type `V` under keys of type `K`, each with the last time it can be read. -/
def Expiring (K V T : Type) : Type := K → Option (V × T)

namespace Expiring

variable {K V T : Type} [DecidableEq K] [LinearOrder T]

def empty : Expiring K V T := fun _ => none

/-- `GET`. -/
def get (store : Expiring K V T) (now : T) (key : K) : Option V :=
  match store key with
  | some (value, last) => if now ≤ last then some value else none
  | none => none

/-- `SET` with an expiry. -/
def set (store : Expiring K V T) (key : K) (value : V) (last : T) : Expiring K V T :=
  Function.update store key (some (value, last))

/-- `SET … NX`: whether it stored, and the store after. -/
def setNx (store : Expiring K V T) (now : T) (key : K) (value : V) (last : T) :
    Bool × Expiring K V T :=
  match store.get now key with
  | some _ => (false, store)
  | none => (true, store.set key value last)

/-- `DEL`. -/
def delete (store : Expiring K V T) (key : K) : Expiring K V T :=
  Function.update store key none

/-- `EXPIRE`: an entry that can still be read gets a new last time. -/
def expire (store : Expiring K V T) (now : T) (key : K) (last : T) : Expiring K V T :=
  match store.get now key with
  | some value => store.set key value last
  | none => store

/-- A command that rewrites the value of an entry that can still be read, or removes it; its
last time stays. -/
def change (store : Expiring K V T) (now : T) (key : K) (rewrite : V → Option V) :
    Expiring K V T :=
  Function.update store key <|
    match store key with
    | some (value, last) => if now ≤ last then (rewrite value).map (·, last) else some (value, last)
    | none => none

variable (store : Expiring K V T) {now later last : T} {key : K} (value : V)

omit [LinearOrder T] in
@[simp] theorem set_self : (store.set key value last) key = some (value, last) :=
  Function.update_self key _ store

theorem get_set_self : (store.set key value last).get now key =
    if now ≤ last then some value else none := by
  simp only [get, set_self]

omit [LinearOrder T] in
@[simp] theorem delete_self : (store.delete key) key = none := Function.update_self key _ store

omit [LinearOrder T] in
@[simp] theorem set_of_ne {other : K} (ne : other ≠ key) :
    (store.set key value last) other = store other :=
  Function.update_of_ne ne _ store

omit [LinearOrder T] in
@[simp] theorem delete_of_ne {other : K} (ne : other ≠ key) :
    (store.delete key) other = store other :=
  Function.update_of_ne ne _ store

omit [LinearOrder T] in
theorem foldl_delete (keys : List K) (key : K) :
    (keys.foldl delete store) key = if key ∈ keys then none else store key := by
  induction keys generalizing store with
  | nil => simp
  | cons first rest ih =>
      rw [List.foldl_cons, ih]
      by_cases later : key ∈ rest
      · simp [later]
      · by_cases same : key = first
        · simp [same]
        · simp [later, same]

@[simp] theorem get_delete_self : (store.delete key).get now key = none := by
  simp only [get, delete_self]

omit [DecidableEq K] in
theorem get_eq_some : store.get now key = some value ↔
    ∃ last, store key = some (value, last) ∧ now ≤ last := by
  unfold get
  constructor
  · intro held
    split at held
    · rename_i stored last entry
      split at held
      · rename_i alive
        cases held
        exact ⟨last, entry, alive⟩
      · cases held
    · cases held
  · rintro ⟨last, entry, alive⟩
    simp [entry, alive]

/-- An extended entry has its value still; the others are as they were. -/
theorem expire_cases {other : K} {stored : V} {bound : T}
    (found : (store.expire now key last) other = some (stored, bound)) :
    store other = some (stored, bound) ∨
      other = key ∧ bound = last ∧ store.get now key = some stored := by
  unfold expire at found
  cases alive : store.get now key with
  | none =>
      rw [alive] at found
      exact .inl found
  | some held =>
      simp only [alive] at found
      by_cases same : other = key
      · subst same
        simp only [set_self, Option.some.injEq, Prod.mk.injEq] at found
        obtain ⟨rfl, rfl⟩ := found
        exact .inr ⟨rfl, rfl, rfl⟩
      · rw [set_of_ne _ _ same] at found
        exact .inl found

theorem expire_of_ne {other : K} (ne : other ≠ key) :
    (store.expire now key last) other = store other := by
  unfold expire
  cases store.get now key with
  | none => rfl
  | some value => exact set_of_ne store _ ne

theorem change_of_ne {rewrite : V → Option V} {other : K} (ne : other ≠ key) :
    (store.change now key rewrite) other = store other :=
  Function.update_of_ne ne _ store

theorem change_self {rewrite : V → Option V} {held : V} (entry : store key = some (held, last)) :
    (store.change now key rewrite) key =
      if now ≤ last then (rewrite held).map (·, last) else some (held, last) := by
  refine (Function.update_self key _ store).trans ?_
  rw [entry]

/-- An entry after a change was there before, or is what it rewrote. -/
theorem change_cases {rewrite : V → Option V} {other : K} {stored : V} {bound : T}
    (found : (store.change now key rewrite) other = some (stored, bound)) :
    store other = some (stored, bound) ∨
      other = key ∧ ∃ held, store key = some (held, bound) ∧ rewrite held = some stored := by
  by_cases same : other = key
  · subst same
    cases entry : store other with
    | none =>
        have gone : (store.change now other rewrite) other = none := by
          refine (Function.update_self other _ store).trans ?_
          rw [entry]
        rw [gone] at found
        cases found
    | some before =>
        obtain ⟨held, previous⟩ := before
        rw [change_self store entry] at found
        split at found
        · obtain ⟨value, rewritten, same⟩ := Option.map_eq_some_iff.mp found
          cases same
          exact .inr ⟨rfl, held, rfl, rewritten⟩
        · exact .inl found
  · rw [change_of_ne store same] at found
    exact .inl found

omit [DecidableEq K] in
/-- What cannot be read now cannot be read later. -/
theorem get_none_mono (gone : store.get now key = none) (order : now ≤ later) :
    store.get later key = none := by
  unfold get at gone ⊢
  cases entry : store key with
  | none => rfl
  | some stored =>
      rw [entry] at gone
      have past : ¬ now ≤ stored.2 := fun alive => by simp [alive] at gone
      have still : ¬ later ≤ stored.2 := fun alive => past (le_trans order alive)
      simp [still]

end Expiring

end KisAutoTrading.Theory
