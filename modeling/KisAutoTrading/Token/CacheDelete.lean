/-
# Token.CacheDelete — what a cache delete removes

`_read_cached_token` decides on the value it fetched and deletes by key, in a command of
its own and outside the refresh lock. A value that was no token when it was read never
becomes one (`run_invalid`), so a delete that still meets the value it was meant for
throws nothing away: `deletes_fetched_keep_tokens`. One that comes after a refresh of
another replica meets the new token and removes it (`Overtaken`); the lock's release, which
compares before it deletes, has no such gap.
-/
import KisAutoTrading.Infrastructure.KisTokenCoordinator
import KisAutoTrading.Theory.Runs

namespace KisAutoTrading.Token.CacheDelete

open Theory Theory.Runs TokenCoordinator

set_option autoImplicit false

/-- The text is a well-formed token that has not expired. -/
def IsToken (C : Codec) (now : Instant) (text : String) : Prop :=
  ∃ payload value tokenType expiresAt, C.loads text = .value payload ∧
    C.cachedFields payload = some (.str value, .str tokenType, .aware expiresAt) ∧
    value ≠ "" ∧ tokenType ≠ "" ∧ now < expiresAt

section

variable (X : Setup)

/-- What the cache has under the token's key. -/
def cached (s : State) : Option String := s.cache.get s.now X.redisCacheKey

/-- A delete finds the value its call fetched, or nothing. -/
def DeletesFetched (s : State) : Action → Prop
  | .act call .delete => ∀ stage value, s.phase call = .deleting stage value →
      ∀ found, cached X s = some found → found = value
  | _ => True

/-- No delete of the run removes a token. -/
def KeepsTokens (start : State) (trace : List Action) : Prop :=
  ∀ front call stage value, front ++ [.act call .delete] <+: trace →
    (exec X.step start front).phase call = .deleting stage value →
    ∀ found, cached X (exec X.step start front) = some found →
      ¬ IsToken X.C (exec X.step start front).now found

/-- What a call is about to delete is no token. -/
def Invalid (s : State) : Prop :=
  ∀ call stage value, s.phase call = .deleting stage value →
    X.C.readCached s.now value = .invalid

end

variable {X : Setup} {s : State}

theorem not_isToken_of_invalid {C : Codec} {now : Instant} {text : String}
    (invalid : C.readCached now text = .invalid) : ¬ IsToken C now text := by
  rintro ⟨payload, value, tokenType, expiresAt, loaded, fields, named, typed, alive⟩
  simp only [Codec.readCached, loaded, fields, Codec.checkCached, nonemptyText, named, typed,
    if_false, not_le.mpr alive] at invalid
  split at invalid <;> cases invalid

/-! ## One step -/

theorem leave_ne_deleting (stage other : Stage) (outcome : Outcome) (value : String) :
    leave stage outcome ≠ .deleting other value := by
  cases stage <;> simp [leave]

theorem afterMiss_ne_deleting (stage other : Stage) (value : String) :
    afterMiss stage ≠ .deleting other value := by
  cases stage <;> simp [afterMiss]

/-- A call comes to delete a value by reading it, when it is no token. -/
theorem perform_deleting {call : Nat} {phase : TokenCoordinator.Phase}
    {command : Command} {stage : Stage}
    {value : String} (deleting : (X.perform s call phase command).1 = .deleting stage value) :
    phase = .deleting stage value ∨ X.C.readCached s.now value = .invalid := by
  have moves := X.perform_moves s call phase command
  generalize (X.perform s call phase command).1 = next at moves deleting
  cases moves with
  | stay => exact .inl deleting
  | get read =>
      rcases X.afterGet_cases s.now read (s.cache.get s.now X.redisCacheKey) with
        missed | ⟨outcome, left⟩ | ⟨found, ⟨-, invalid⟩, deletes⟩
      · exact absurd (missed.symm.trans deleting) (afterMiss_ne_deleting _ _ _)
      · exact absurd (left.symm.trans deleting) (leave_ne_deleting _ _ _ _)
      · obtain ⟨-, rfl⟩ := TokenCoordinator.Phase.deleting.inj (deletes.symm.trans deleting)
        exact .inr invalid
  | deleted read found => exact absurd deleting (afterMiss_ne_deleting _ _ _)
  | readRaised read => exact absurd deleting (leave_ne_deleting _ _ _ _)
  | deleteRaised read found => exact absurd deleting (leave_ne_deleting _ _ _ _)
  | _ => cases deleting

theorem invalid_step (action : Action) (invalid : Invalid X s) : Invalid X (X.step s action) := by
  cases action with
  | wait duration =>
      intro call stage value here
      exact X.C.readCached_invalid_mono (invalid call stage value here)
        (Int.le_add_of_nonneg_right (Int.natCast_nonneg duration))
  | act actor command =>
      intro call stage value here
      obtain ⟨sameNow, samePhase⟩ := X.perform_rest s actor (s.phase actor) command
      simp only [Setup.step, State.move] at here ⊢
      rw [sameNow]
      by_cases same : call = actor
      · subst same
        rw [Function.update_self] at here
        rcases perform_deleting here with before | invalidNow
        · exact invalid call stage value before
        · exact invalidNow
      · rw [Function.update_of_ne same, samePhase] at here
        exact invalid call stage value here

theorem run_invalid {start : State} (idle : ∀ call, start.phase call = .idle)
    {ok : State → Action → Prop} {trace : List Action}
    (admissible : Admissible X.step ok start trace) : Invalid X (exec X.step start trace) := by
  refine exec_invariant (fun _ action invalid _ => invalid_step action invalid) ?_ admissible
  intro call stage value here
  rw [idle call] at here
  cases here

/-- **A delete that meets the value it was meant for removes no token.** -/
theorem deletes_fetched_keep_tokens {start : State} (idle : ∀ call, start.phase call = .idle)
    {trace : List Action} (admissible : Admissible X.step (DeletesFetched X) start trace) :
    KeepsTokens X start trace := by
  intro front call stage value isPrefix here found present
  obtain ⟨frontOk, fetched⟩ := (admissible_snoc _ _ _ _ _).mp (admissible.of_prefix isPrefix)
  rw [fetched stage value here found present]
  exact not_isToken_of_invalid (run_invalid idle frontOk call stage value here)

/-! ## A slow reader -/

namespace Overtaken

open TokenCoordinator.Sample

/-- The cache holds a text that is no token. -/
def start : State where
  now := 0
  lock := Expiring.empty
  cache := Expiring.empty.set setup.redisCacheKey "broken" (seconds 100)
  phase := fun _ => .idle
  requests := []

/-- Call 1 reads, deletes, takes the lock, reads again, and has its token a second later. -/
def refresh : List Action := [
  .act 1 .start, .act 1 .get, .act 1 .delete, .act 1 .acquire, .act 1 .get, .act 1 .send,
  .wait 1000000, .act 1 (.answer (.response ⟨200, content⟩)), .act 1 .set, .act 1 .release]

/-- Call 0 reads the broken text too, and deletes when the refresh is over. -/
def front : List Action := [.act 0 .start, .act 0 .get] ++ refresh

def trace : List Action := front ++ [.act 0 .delete]

theorem deleting : (exec setup.step start front).phase 0 = .deleting .first "broken" := by
  decide +kernel

theorem token_present : cached setup (exec setup.step start front) = some tokenText := by
  decide +kernel

theorem isToken : IsToken setup.C (exec setup.step start front).now tokenText := by
  refine ⟨tokenJson, "token-value", "Bearer", seconds 3601, ?_, rfl, by decide, by decide,
    by decide +kernel⟩
  simp [setup, codec]

theorem slow_reader_deletes_token :
    (∀ call, start.phase call = .idle) ∧ ¬ KeepsTokens setup start trace :=
  ⟨fun _ => rfl, fun keeps =>
    keeps front 0 .first "broken" List.prefix_rfl deleting tokenText token_present isToken⟩

/-- Without the slow reader the delete meets the broken text. -/
theorem deletes_in_turn :
    KeepsTokens setup start refresh ∧
      cached setup (exec setup.step start refresh) = some tokenText := by
  refine ⟨deletes_fetched_keep_tokens (fun _ => rfl) ?_, by decide +kernel⟩
  refine ⟨trivial, trivial, ?_, trivial, trivial, trivial, trivial, trivial, trivial, trivial,
    trivial⟩
  intro stage value here found present
  have reads : TokenCoordinator.Phase.deleting .first "broken" = .deleting stage value := here
  have finds : some "broken" = some found := present
  cases reads
  cases finds
  rfl

end Overtaken

end KisAutoTrading.Token.CacheDelete
