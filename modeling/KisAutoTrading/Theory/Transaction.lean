/-
# Theory.Transaction — transactions whose statements may fail

A `Script` is the body of a transaction: statements on a working copy of the store, each
followed by what the program does with the copy it then sees. A `Plan` says which
statement fails, counted from the beginning; behind the last one comes the commit.
`transaction` keeps the working copy when script and commit go through, and otherwise the
store it began with.

* `outcome` is the script when nothing fails.
* `transaction_error`: a transaction that fails changes nothing.
* `transaction_ok`: one that does not fail did what `outcome` says, whatever the plan.
-/
import Mathlib.Logic.Basic

namespace KisAutoTrading.Theory

set_option autoImplicit false

/-- Statements on a store of type `S` that end in a value of type `α` or raise. -/
inductive Script (F S α : Type) where
  | done (value : α)
  | raise (failure : F)
  | statement (effect : S → S) (next : S → Script F S α)

/-- Which statement of a transaction fails, and how. -/
abbrev Plan (F : Type) : Type := Nat → Option F

namespace Script

variable {F S α : Type}

/-- The statements from the given one on: the answer, and the working copy. -/
def run (plan : Plan F) : Nat → Script F S α → S → Except F α × S
  | position, .done value, store =>
      match plan position with
      | some failure => (.error failure, store)
      | none => (.ok value, store)
  | _, .raise failure, store => (.error failure, store)
  | position, .statement effect next, store =>
      match plan position with
      | some failure => (.error failure, store)
      | none => run plan (position + 1) (next (effect store)) (effect store)

/-- The answer, and the store the transaction leaves. -/
def transaction (plan : Plan F) (script : Script F S α) (store : S) : Except F α × S :=
  match script.run plan 0 store with
  | (.ok value, working) => (.ok value, working)
  | (.error failure, _) => (.error failure, store)

/-- The script without failures. -/
def outcome : Script F S α → S → Except F (α × S)
  | .done value, store => .ok (value, store)
  | .raise failure, _ => .error failure
  | .statement effect next, store => outcome (next (effect store)) (effect store)

/-- A lookup, which leaves the store alone. -/
def query (next : S → Script F S α) : Script F S α := .statement id next

/-- Statements whose results are not looked at. -/
def writes (effects : List (S → S)) (rest : Script F S α) : Script F S α :=
  effects.foldr (fun effect script => .statement effect fun _ => script) rest

@[simp] theorem outcome_query (next : S → Script F S α) (store : S) :
    (query next).outcome store = (next store).outcome store := rfl

theorem outcome_writes (effects : List (S → S)) (rest : Script F S α) (store : S) :
    (writes effects rest).outcome store =
      rest.outcome (effects.foldl (fun working effect => effect working) store) := by
  induction effects generalizing store with
  | nil => rfl
  | cons effect others ih => exact ih (effect store)

theorem run_ok {plan : Plan F} {position : Nat} {script : Script F S α} {store after : S}
    {value : α} (ran : script.run plan position store = (.ok value, after)) :
    script.outcome store = .ok (value, after) := by
  induction script generalizing position store with
  | done result =>
      simp only [run] at ran
      split at ran
      · cases ran
      · cases ran
        rfl
  | raise failure => cases ran
  | statement effect next ih =>
      simp only [run] at ran
      split at ran
      · cases ran
      · exact ih (effect store) ran

/-- Where no statement fails, the transaction does what the script does. -/
theorem transaction_clean {script : Script F S α} {store after : S} {value : α}
    (answered : script.outcome store = .ok (value, after)) :
    script.transaction (fun _ => none) store = (.ok value, after) := by
  have clean : ∀ position, script.run (fun _ => none) position store = (.ok value, after) := by
    induction script generalizing store with
    | done result =>
        intro position
        cases answered
        rfl
    | raise failure => cases answered
    | statement effect next ih =>
        intro position
        exact ih (effect store) answered (position + 1)
  simp only [transaction, clean]

theorem transaction_error {plan : Plan F} {script : Script F S α} {store : S} {failure : F}
    (failed : (script.transaction plan store).1 = .error failure) :
    (script.transaction plan store).2 = store := by
  unfold transaction at failed ⊢
  split at failed
  · cases failed
  · rfl

theorem transaction_ok {plan : Plan F} {script : Script F S α} {store : S} {value : α}
    (answered : (script.transaction plan store).1 = .ok value) :
    script.outcome store = .ok (value, (script.transaction plan store).2) := by
  unfold transaction at answered ⊢
  split at answered
  · rename_i result working ran
    cases answered
    exact run_ok ran
  · cases answered

end Script

end KisAutoTrading.Theory
