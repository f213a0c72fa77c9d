/-
# Theory.RowSession — saving one row through an object-relational session

A transaction at isolation level READ COMMITTED looks up a row by primary key and
later saves an object under that key. The session remembers a row it has loaded as
long as somebody else refers to it, so by the save it may have let go of it.
`merge` is the save: the new object is merged into the loaded row; if none is
loaded the row is looked up again, and only if it is still absent the object will
be inserted. `flush` is what reaches the table at commit: an `UPDATE` by primary
key of the columns in which the object differs from the row it was merged into,
whatever the row has become since, or an `INSERT` that aborts the transaction
when another one has inserted the key. No lock is taken and no version compared.

`flush_save_of_unchanged` is the positive half: if the row is at commit still
the one that was looked up, what the save stores is exactly the object. Where every
change raises a version, a row that is as it was has not changed in between
(`Follows.between`), so it does not matter which of the two lookups is meant.
-/
import Mathlib.Order.Basic

namespace KisAutoTrading.Theory

set_option autoImplicit false

/-- A row type with its column-wise update. -/
structure Columns (R : Type) where
  /-- Write into the stored row the columns in which `new` differs from `base`. -/
  patch : (base new stored : R) → R
  patch_base : ∀ base new, patch base new base = new

/-- One column of an `UPDATE`: written where the object differs from the row it was
merged into. -/
def column {α : Type} [DecidableEq α] (base new stored : α) : α :=
  if new = base then stored else new

@[simp] theorem column_base {α : Type} [DecidableEq α] (base new : α) :
    column base new base = new := by
  unfold column
  split
  · rename_i same; exact same.symm
  · rfl

/-- What a save has scheduled for the flush. -/
inductive Pending (R : Type) where
  | update (base new : R)
  | insert (new : R)
  deriving DecidableEq

section Save

variable {R : Type}

/-- `Session.merge`: `loaded` is the row the session holds, `reread` the row a
second lookup finds, which is made only when none is loaded. -/
def merge (loaded reread : Option R) (new : R) : Pending R :=
  match loaded with
  | some base => .update base new
  | none =>
      match reread with
      | some base => .update base new
      | none => .insert new

/-- The save of a transaction that has looked up `existing`. Unless the session still holds that
row, it looks it up again. -/
def saveAfter (held : Bool) (existing reread : Option R) (new : R) : Pending R :=
  merge (if held then existing else none) reread new

/-- The stored row after the flush; `none` when the transaction aborts. -/
def flush (columns : Columns R) : Pending R → Option R → Option R
  | .update base new, some stored => some (columns.patch base new stored)
  | .update _ _, none => none
  | .insert new, none => some new
  | .insert _, some _ => none

/-- Over a row that is still the one looked up, a save that goes through stores
exactly the object. -/
theorem flush_merge_of_unchanged {columns : Columns R} {row reread : Option R} {new stored : R}
    (flushed : flush columns (merge row reread new) row = some stored) : stored = new := by
  cases row with
  | some base =>
      simp only [merge, flush, columns.patch_base, Option.some.injEq] at flushed
      exact flushed.symm
  | none =>
      cases reread with
      | some base => cases flushed
      | none => exact (Option.some.inj flushed).symm

/-- So does a save that loaded nothing, over a row that is still the one it looked up again. -/
theorem flush_merge_of_reread (columns : Columns R) (row : Option R) (new : R) :
    flush columns (merge none row new) row = some new := by
  cases row with
  | none => rfl
  | some base => simp only [merge, flush, columns.patch_base]

/-- And so does a save whose two lookups, if it makes two, find one row that stays. -/
theorem flush_save_of_unchanged {columns : Columns R} {held : Bool} {row : Option R} {new stored : R}
    (flushed : flush columns (saveAfter held row row new) row = some stored) : stored = new := by
  cases held with
  | true => exact flush_merge_of_unchanged flushed
  | false => exact (Option.some.inj ((flush_merge_of_reread columns row new).symm.trans flushed)).symm

/-- It goes through. -/
theorem flush_save_isSome (columns : Columns R) (held : Bool) (row : Option R) (new : R) :
    (flush columns (saveAfter held row row new) row).isSome := by
  cases held <;> cases row <;> rfl

end Save

/-! ## A row at two moments -/

section Follows

variable {R V : Type}

/-- The row has not gone, and if it has changed its version has risen. -/
def Follows [LT V] (version : R → V) (seen now : Option R) : Prop :=
  ∀ old, seen = some old → ∃ row, now = some row ∧ (row = old ∨ version old < version row)

variable [Preorder V] {version : R → V} {a b c : Option R}

theorem Follows.refl (row : Option R) : Follows version row row :=
  fun old found => ⟨old, found, .inl rfl⟩

theorem Follows.trans (ab : Follows version a b) (bc : Follows version b c) :
    Follows version a c := by
  intro old found
  obtain ⟨row, found', first⟩ := ab old found
  obtain ⟨row', found'', second⟩ := bc row found'
  refine ⟨row', found'', ?_⟩
  rcases first with rfl | first <;> rcases second with rfl | second
  · exact .inl rfl
  · exact .inr second
  · exact .inr first
  · exact .inr (first.trans second)

/-- A row that is as it was has been so all the time. -/
theorem Follows.between (ab : Follows version a b) (ba : Follows version b a) : b = a := by
  cases b with
  | none =>
      cases a with
      | none => rfl
      | some old =>
          obtain ⟨_, found, -⟩ := ab old rfl
          cases found
  | some row =>
      obtain ⟨old, rfl, back⟩ := ba row rfl
      obtain ⟨_, found, forth⟩ := ab old rfl
      cases found
      rcases back with rfl | lower
      · rfl
      · rcases forth with rfl | higher
        · rfl
        · exact absurd higher lower.asymm

end Follows

end KisAutoTrading.Theory
