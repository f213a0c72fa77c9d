/-
# Theory.Runs — traces of guarded actions over an explicit state

A system is a total step function `step : S → A → S` together with a guard
`ok : S → A → Prop` that says which actions the environment may take in a state.
A trace is admissible when every action meets its guard in the state it finds.

* `trace_induction` is the one induction: what holds of the empty trace and is
  carried over one more admissible action holds of every admissible trace. The
  property may speak of the trace, so histories need no ghost state.
* `exec_invariant` and `exec_monotone` are its two usual readings: a state
  invariant, and a preorder along which every step moves forward.
* `exec_iff_exists` says which runs lead to what some steps bring about for good.
* `exec_simulation` carries a run of one system over to a run of another, its
  `image`: an action of the first is an action of the second or a stutter.
-/
import Mathlib.Data.List.Induction
import Mathlib.Data.List.Infix

namespace KisAutoTrading.Theory.Runs

set_option autoImplicit false

universe u v

section Runs

variable {S : Type u} {A : Type v} (step : S → A → S) (ok : S → A → Prop)

/-- The state a trace leads to. -/
def exec : S → List A → S
  | s, [] => s
  | s, a :: rest => exec (step s a) rest

/-- Every action of the trace is allowed in the state it meets. -/
def Admissible : S → List A → Prop
  | _, [] => True
  | s, a :: rest => ok s a ∧ Admissible (step s a) rest

instance admissibleDecidable [∀ s a, Decidable (ok s a)] :
    ∀ (s : S) (trace : List A), Decidable (Admissible step ok s trace)
  | _, [] => inferInstanceAs (Decidable True)
  | s, a :: rest =>
      have := admissibleDecidable (step s a) rest
      inferInstanceAs (Decidable (ok s a ∧ Admissible step ok (step s a) rest))

@[simp] theorem exec_nil (s : S) : exec step s [] = s := rfl

@[simp] theorem exec_cons (s : S) (a : A) (rest : List A) :
    exec step s (a :: rest) = exec step (step s a) rest := rfl

theorem exec_append (s : S) (front back : List A) :
    exec step s (front ++ back) = exec step (exec step s front) back := by
  induction front generalizing s with
  | nil => rfl
  | cons a rest ih => exact ih (step s a)

@[simp] theorem exec_snoc (s : S) (trace : List A) (a : A) :
    exec step s (trace ++ [a]) = step (exec step s trace) a :=
  exec_append step s trace [a]

theorem admissible_append (s : S) (front back : List A) :
    Admissible step ok s (front ++ back) ↔
      Admissible step ok s front ∧ Admissible step ok (exec step s front) back := by
  induction front generalizing s with
  | nil => simp [Admissible]
  | cons a rest ih => simp only [List.cons_append, Admissible, exec_cons, ih, and_assoc]

theorem admissible_snoc (s : S) (trace : List A) (a : A) :
    Admissible step ok s (trace ++ [a]) ↔
      Admissible step ok s trace ∧ ok (exec step s trace) a := by
  rw [admissible_append]
  simp [Admissible]

variable {step ok}

theorem Admissible.mono {ok' : S → A → Prop} (weaker : ∀ s a, ok s a → ok' s a) {s : S}
    {trace : List A} (admissible : Admissible step ok s trace) :
    Admissible step ok' s trace := by
  induction trace generalizing s with
  | nil => trivial
  | cons a rest ih => exact ⟨weaker s a admissible.1, ih admissible.2⟩

/-- Without a guard every trace is a run. -/
theorem admissible_true (s : S) (trace : List A) : Admissible step (fun _ _ => True) s trace := by
  induction trace generalizing s with
  | nil => trivial
  | cons a rest ih => exact ⟨trivial, ih (step s a)⟩

/-- A condition on the actions of a trace joins the guard. -/
theorem Admissible.and_forall {cond : A → Prop} {s : S} {trace : List A}
    (admissible : Admissible step ok s trace) (every : ∀ a ∈ trace, cond a) :
    Admissible step (fun s a => ok s a ∧ cond a) s trace := by
  induction trace generalizing s with
  | nil => trivial
  | cons a rest ih =>
      exact ⟨⟨admissible.1, every a (by simp)⟩,
        ih admissible.2 fun b member => every b (by simp [member])⟩

theorem Admissible.of_prefix {s : S} {front trace : List A} (isPrefix : front <+: trace)
    (admissible : Admissible step ok s trace) : Admissible step ok s front := by
  obtain ⟨back, rfl⟩ := isPrefix
  exact ((admissible_append step ok s front back).mp admissible).1

/-- **Induction over a run.** The property may mention the trace that led to the
state, so it can speak of what happened earlier. -/
theorem trace_induction {start : S} {motive : List A → S → Prop} (base : motive [] start)
    (next : ∀ trace a, Admissible step ok start trace → motive trace (exec step start trace) →
      ok (exec step start trace) a → motive (trace ++ [a]) (step (exec step start trace) a))
    {trace : List A} (admissible : Admissible step ok start trace) :
    motive trace (exec step start trace) := by
  induction trace using List.reverseRecOn with
  | nil => exact base
  | append_singleton front a ih =>
      obtain ⟨frontOk, aOk⟩ := (admissible_snoc step ok start front a).mp admissible
      rw [exec_snoc]
      exact next front a frontOk (ih frontOk) aOk

/-- An invariant kept by every allowed step holds after every admissible trace. -/
theorem exec_invariant {invariant : S → Prop}
    (keep : ∀ s a, invariant s → ok s a → invariant (step s a)) {s : S} (holds : invariant s)
    {trace : List A} (admissible : Admissible step ok s trace) :
    invariant (exec step s trace) :=
  trace_induction (motive := fun _ t => invariant t) holds
    (fun _ a _ ih allowed => keep _ a ih allowed) admissible

/-- A preorder along which every allowed step moves forward relates the two ends
of every admissible trace. -/
theorem exec_monotone {invariant : S → Prop} {R : S → S → Prop} (refl : ∀ s, R s s)
    (trans : ∀ a b c, R a b → R b c → R a c)
    (keep : ∀ s a, invariant s → ok s a → invariant (step s a))
    (forward : ∀ s a, invariant s → ok s a → R s (step s a)) {s : S} (holds : invariant s)
    {trace : List A} (admissible : Admissible step ok s trace) :
    R s (exec step s trace) := by
  refine (trace_induction (motive := fun _ t => invariant t ∧ R s t) ⟨holds, refl s⟩
    ?_ admissible).2
  intro trace a _ ih allowed
  exact ⟨keep _ a ih.1 allowed, trans _ _ _ ih.2 (forward _ a ih.1 allowed)⟩

/-- What marked steps bring about and no step undoes holds behind the runs with a marked step. -/
theorem exec_iff_exists (holds : S → Prop) {marked : S → A → Prop}
    (next : ∀ s a, holds (step s a) ↔ holds s ∨ marked s a) {start : S} (fresh : ¬ holds start)
    (trace : List A) :
    holds (exec step start trace) ↔
      ∃ front a back, trace = front ++ a :: back ∧ marked (exec step start front) a := by
  induction trace using List.reverseRecOn with
  | nil => simp [fresh]
  | append_singleton trace a ih =>
      rw [exec_snoc, next, ih]
      constructor
      · rintro (⟨front, b, back, rfl, there⟩ | last)
        · exact ⟨front, b, back ++ [a], by simp, there⟩
        · exact ⟨trace, a, [], rfl, last⟩
      · rintro ⟨front, b, back, same, there⟩
        rcases List.eq_nil_or_concat back with rfl | ⟨back, c, rfl⟩
        · obtain ⟨rfl, rfl⟩ : trace = front ∧ a = b := by simpa using same
          exact .inr there
        · rw [List.concat_eq_append, ← List.cons_append, ← List.append_assoc] at same
          exact .inl ⟨front, b, back, List.append_inj_left' same rfl, there⟩

end Runs

section Simulation

variable {S T : Type u} {A B : Type v} {step : S → A → S} {ok : S → A → Prop}
  {step' : T → B → T} {ok' : T → B → Prop}

/-- What a run of one system does as a run of another: each action is an action of
the second, or none. -/
def image (step : S → A → S) (act : S → A → Option B) : S → List A → List B
  | _, [] => []
  | s, a :: rest => (act s a).toList ++ image step act (step s a) rest

theorem mem_image {act : S → A → Option B} {a : A} {b : B} (always : ∀ s, act s a = some b)
    {s : S} {trace : List A} (member : a ∈ trace) : b ∈ image step act s trace := by
  induction trace generalizing s with
  | nil => cases member
  | cons first rest ih =>
      simp only [image, List.mem_append, Option.mem_toList]
      rcases List.mem_cons.mp member with rfl | later
      · exact .inl (always s)
      · exact .inr (ih later)

/-- One system simulates another: its image is an admissible run of the second and
reaches the same state. -/
theorem exec_simulation {invariant : S → Prop} (view : S → T) (act : S → A → Option B)
    (keep : ∀ s a, invariant s → ok s a → invariant (step s a))
    (simulate : ∀ s a, invariant s → ok s a →
      (∀ b, act s a = some b → ok' (view s) b ∧ view (step s a) = step' (view s) b) ∧
      (act s a = none → view (step s a) = view s))
    {s : S} (holds : invariant s) {trace : List A} (admissible : Admissible step ok s trace) :
    Admissible step' ok' (view s) (image step act s trace) ∧
      exec step' (view s) (image step act s trace) = view (exec step s trace) := by
  induction trace generalizing s with
  | nil => exact ⟨trivial, rfl⟩
  | cons a rest ih =>
      obtain ⟨allowed, restOk⟩ := admissible
      obtain ⟨moves, stutters⟩ := simulate s a holds allowed
      have later := ih (keep s a holds allowed) restOk
      cases choice : act s a with
      | none =>
          rw [stutters choice] at later
          simpa [image, choice] using later
      | some b =>
          obtain ⟨allowed', same⟩ := moves b choice
          rw [same] at later
          simpa [image, choice, Admissible, allowed'] using later

end Simulation

end KisAutoTrading.Theory.Runs
