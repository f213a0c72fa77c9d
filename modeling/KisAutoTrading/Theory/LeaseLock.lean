/-
# Theory.LeaseLock — locks that are held for a lease

A lock says of every key who holds it at a time, if nobody touches the lock before. What a
step of a system does to the lock is an effect: nothing, somebody takes a key that nobody
holds, or the holder's token frees it. Which ends a lease has at its very last instant is left
open (`Alive`).

`second_take`: of one key, whoever takes it second does so behind the first lease, or the first
one's token has freed it in between.
-/
import KisAutoTrading.Theory.Runs
import Mathlib.Order.Lattice

namespace KisAutoTrading.Theory.LeaseLock

open Runs

set_option autoImplicit false

variable {L K Tok T S A : Type} [LinearOrder T]

inductive Effect (K Tok T : Type) where
  | nothing
  | take (key : K) (token : Tok) (last : T)
  | free (key : K) (token : Tok)

section Effects

variable (holder : L → T → K → Option Tok) (Alive : T → T → Prop)

/-- From now on the two locks have the same holders of the keys that satisfy `P`. -/
def Agree (now : T) (P : K → Prop) (s t : L) : Prop :=
  ∀ later, now ≤ later → ∀ key, P key → holder t later key = holder s later key

/-- The effect is what happens to the lock at a time. -/
def Does (now : T) (s t : L) : Effect K Tok T → Prop
  | .nothing => Agree holder now (fun _ => True) s t
  | .take key token last => holder s now key = none ∧
      (∀ later, now ≤ later → Alive later last → holder t later key = some token) ∧
      Agree holder now (· ≠ key) s t
  | .free key token => holder s now key = some token ∧
      Agree holder now (· ≠ key) s t

end Effects

/-- A system with a lock and a clock. -/
structure Lawful (holder : L → T → K → Option Tok) (Alive : T → T → Prop) (step : S → A → S)
    (ok : S → A → Prop) (lock : S → L) (clock : S → T) (effect : S → A → Effect K Tok T) : Prop where
  /-- A lease that is alive has been so since. -/
  mono : ∀ now later last, now ≤ later → Alive later last → Alive now last
  time : ∀ s a, ok s a → clock s ≤ clock (step s a)
  does : ∀ s a, ok s a → Does holder Alive (clock s) (lock s) (lock (step s a)) (effect s a)

section Lawful

variable {holder : L → T → K → Option Tok} {Alive : T → T → Prop} {step : S → A → S}
  {ok : S → A → Prop} {lock : S → L} {clock : S → T} {effect : S → A → Effect K Tok T}

theorem clock_le (lawful : Lawful holder Alive step ok lock clock effect) {s : S} {trace : List A}
    (admissible : Admissible step ok s trace) : clock s ≤ clock (exec step s trace) := by
  induction trace generalizing s with
  | nil => exact le_rfl
  | cons a rest ih => exact (lawful.time s a admissible.1).trans (ih admissible.2)

/-- Who holds a key keeps it through a run to the end of the lease, or frees it. -/
theorem held_or_freed (lawful : Lawful holder Alive step ok lock clock effect) {key : K} {token : Tok}
    {last : T} {trace : List A} {s : S} (admissible : Admissible step ok s trace)
    (held : ∀ later, clock s ≤ later → Alive later last → holder (lock s) later key = some token)
    (alive : Alive (clock (exec step s trace)) last) :
    (∀ later, clock (exec step s trace) ≤ later → Alive later last →
        holder (lock (exec step s trace)) later key = some token) ∨
      ∃ early a late, trace = early ++ a :: late ∧ effect (exec step s early) a = .free key token := by
  induction trace generalizing s with
  | nil => exact .inl held
  | cons a rest ih =>
      have order := lawful.time s a admissible.1
      have alive' : Alive (clock s) last :=
        lawful.mono _ _ _ (order.trans (clock_le lawful admissible.2)) alive
      have does := lawful.does s a admissible.1
      have next (kept : ∀ later, clock s ≤ later →
          holder (lock (step s a)) later key = holder (lock s) later key) :=
        ih admissible.2 (fun later after alive =>
          (kept later (order.trans after)).trans (held later (order.trans after) alive)) alive
      have here : (∀ later, clock s ≤ later →
          holder (lock (step s a)) later key = holder (lock s) later key) ∨
            effect s a = .free key token := by
        cases same : effect s a with
        | nothing =>
            rw [same] at does
            exact .inl fun later after => does later after key trivial
        | take other token' last' =>
            rw [same] at does
            obtain ⟨free, -, rest⟩ := does
            have apart : key ≠ other := by
              rintro rfl
              rw [held _ le_rfl alive'] at free
              cases free
            exact .inl fun later after => rest later after key apart
        | free other token' =>
            rw [same] at does
            obtain ⟨own, rest⟩ := does
            by_cases mine : key = other
            · subst mine
              rw [held _ le_rfl alive'] at own
              cases own
              exact .inr rfl
            · exact .inl fun later after => rest later after key mine
      rcases here with kept | freed
      · rcases next kept with stays | ⟨early, b, late, rfl, freed⟩
        · exact .inl stays
        · exact .inr ⟨a :: early, b, late, rfl, freed⟩
      · exact .inr ⟨[], a, rest, rfl, freed⟩

/-- **One holder at a time.** -/
theorem second_take (lawful : Lawful holder Alive step ok lock clock effect) {s : S}
    {front mid back : List A} {a b : A}
    (admissible : Admissible step ok s (front ++ a :: (mid ++ b :: back))) {key : K}
    {token token' : Tok} {last last' : T}
    (first : effect (exec step s front) a = .take key token last)
    (second : effect (exec step s (front ++ a :: mid)) b = .take key token' last') :
    ¬ Alive (clock (exec step s (front ++ a :: mid))) last ∨
      ∃ early c late, mid = early ++ c :: late ∧
        effect (exec step s (front ++ a :: early)) c = .free key token := by
  by_contra neither
  obtain ⟨alive, kept⟩ := not_or.mp neither
  rw [not_not] at alive
  obtain ⟨-, allowed, rest⟩ := (admissible_append ..).mp admissible
  obtain ⟨midOk, bOk, -⟩ := (admissible_append ..).mp rest
  have reached : exec step s (front ++ a :: mid) =
      exec step (step (exec step s front) a) mid := exec_append ..
  rw [reached] at second alive
  have taken := lawful.does _ a allowed
  rw [first] at taken
  rcases held_or_freed lawful midOk
      (fun later after alive => taken.2.1 later ((lawful.time _ a allowed).trans after) alive)
      alive with held | ⟨early, c, late, same, freed⟩
  · have taken' := lawful.does _ b bOk
    rw [second] at taken'
    have free := taken'.1
    rw [held _ le_rfl alive] at free
    cases free
  · refine kept ⟨early, c, late, same, ?_⟩
    rw [exec_append]
    exact freed

end Lawful

end KisAutoTrading.Theory.LeaseLock
