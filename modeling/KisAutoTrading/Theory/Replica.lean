/-
# Theory.Replica — a replica fed by versioned messages

A source keeps one current value per key; every write raises the version of its
key and sends the written value under a fresh message id. A replica keeps one
value per key and a set of message ids it has seen: a message seen before is
skipped, a message whose version is not above the stored one is skipped, any
other replaces the stored value.

`Sync` is what holds between the two however messages are delayed, reordered and
repeated: `Sync.write` and `Sync.receive` preserve it, and `Sync.agree` concludes
that once every message has been seen the replica holds the current values.
-/
import Mathlib.Data.Set.Insert
import Mathlib.Order.Basic

namespace KisAutoTrading.Theory

set_option autoImplicit false

/-- Source and replica: the current values, the messages sent so far, the stored
values and the message ids the replica has seen. -/
structure Replica (K E R : Type) where
  current : Set R
  sent : Set (E × R)
  stored : K → Option R
  seen : Set E

namespace Replica

variable {K E R : Type} [DecidableEq K] (key : R → K) (version : R → Int)

/-- The stored value after a message: replaced only by a higher version. -/
def absorb (stored : Option R) (incoming : R) : Option R :=
  match stored with
  | some row => if version row ≥ version incoming then some row else some incoming
  | none => some incoming

/-- The source writes `value` and sends it as message `id`. -/
def write (s : Replica K E R) (id : E) (value : R) : Replica K E R :=
  { s with
    current := insert value { r ∈ s.current | key r ≠ key value }
    sent := insert (id, value) s.sent }

/-- The replica handles a message it has not seen before. -/
def receive (s : Replica K E R) (id : E) (value : R) : Replica K E R :=
  { s with
    stored := Function.update s.stored (key value) (absorb version (s.stored (key value)) value)
    seen := insert id s.seen }

structure Sync (s : Replica K E R) : Prop where
  /-- One current value per key. -/
  currentUnique : ∀ a ∈ s.current, ∀ b ∈ s.current, key a = key b → a = b
  /-- Nothing sent is ahead of its key's current value. -/
  sentBounded : ∀ m ∈ s.sent, ∃ c ∈ s.current, key c = key m.2 ∧
    (m.2 = c ∨ version m.2 < version c)
  /-- Every current value was sent. -/
  currentSent : ∀ c ∈ s.current, ∃ id, (id, c) ∈ s.sent
  /-- A message id is used once. -/
  sentUnique : ∀ m ∈ s.sent, ∀ m' ∈ s.sent, m.1 = m'.1 → m = m'
  /-- Everything stored was sent, under its own key. -/
  storedSent : ∀ k r, s.stored k = some r → key r = k ∧ ∃ id, (id, r) ∈ s.sent
  /-- A seen message is stored, or something newer is. -/
  seenStored : ∀ m ∈ s.sent, m.1 ∈ s.seen →
    ∃ r, s.stored (key m.2) = some r ∧ version m.2 ≤ version r

omit [DecidableEq K] in
theorem absorb_eq (stored : Option R) (incoming : R) :
    absorb version stored incoming = stored ∨ absorb version stored incoming = some incoming := by
  cases stored with
  | none => exact .inr rfl
  | some row => simp only [absorb]; split <;> simp

omit [DecidableEq K] in
theorem le_absorb_stored {stored : Option R} {row : R} (old : stored = some row) (incoming : R) :
    ∃ r, absorb version stored incoming = some r ∧ version row ≤ version r := by
  subst old
  simp only [absorb]
  split
  · exact ⟨row, rfl, le_rfl⟩
  · exact ⟨incoming, rfl, by omega⟩

omit [DecidableEq K] in
theorem le_absorb_incoming (stored : Option R) (incoming : R) :
    ∃ r, absorb version stored incoming = some r ∧ version incoming ≤ version r := by
  cases stored with
  | none => exact ⟨incoming, rfl, le_rfl⟩
  | some row =>
      simp only [absorb]
      split
      · exact ⟨row, rfl, by omega⟩
      · exact ⟨incoming, rfl, le_rfl⟩

variable {key version}

omit [DecidableEq K] in
theorem Sync.empty : Sync (K := K) (E := E) key version ⟨∅, ∅, fun _ => none, ∅⟩ := by
  constructor <;> simp

/-- A write that raises its key's version and uses a fresh id keeps the two in sync. -/
theorem Sync.write {s : Replica K E R} (sync : Sync key version s) {id : E} {value : R}
    (fresh : ∀ m ∈ s.sent, m.1 ≠ id) (unseen : id ∉ s.seen)
    (raises : ∀ c ∈ s.current, key c = key value → version c < version value) :
    Sync key version (s.write key id value) := by
  refine ⟨?_, ?_, ?_, ?_, ?_, ?_⟩
  · rintro a (rfl | ⟨aOld, aNe⟩) b (rfl | ⟨bOld, bNe⟩) same
    · rfl
    · exact absurd same.symm bNe
    · exact absurd same aNe
    · exact sync.currentUnique a aOld b bOld same
  · rintro m (rfl | old)
    · exact ⟨value, .inl rfl, rfl, .inl rfl⟩
    · obtain ⟨c, member, sameKey, bound⟩ := sync.sentBounded m old
      by_cases replaced : key c = key value
      · have above := raises c member replaced
        refine ⟨value, .inl rfl, replaced.symm.trans sameKey, .inr ?_⟩
        rcases bound with rfl | below
        · exact above
        · exact below.trans above
      · exact ⟨c, .inr ⟨member, replaced⟩, sameKey, bound⟩
  · rintro c (rfl | ⟨old, -⟩)
    · exact ⟨id, .inl rfl⟩
    · obtain ⟨id', member⟩ := sync.currentSent c old
      exact ⟨id', .inr member⟩
  · rintro m (rfl | old) m' (rfl | old') same
    · rfl
    · exact absurd same.symm (fresh m' old')
    · exact absurd same (fresh m old)
    · exact sync.sentUnique m old m' old' same
  · intro k r found
    obtain ⟨keyed, id', member⟩ := sync.storedSent k r found
    exact ⟨keyed, id', .inr member⟩
  · rintro m (rfl | old) seen
    · exact absurd seen unseen
    · exact sync.seenStored m old seen

/-- Handling a sent message for the first time keeps the two in sync. -/
theorem Sync.receive {s : Replica K E R} (sync : Sync key version s) {id : E} {value : R}
    (sent : (id, value) ∈ s.sent) : Sync key version (s.receive key version id value) := by
  refine ⟨sync.currentUnique, sync.sentBounded, sync.currentSent, sync.sentUnique, ?_, ?_⟩
  · intro k r found
    simp only [Replica.receive, Function.update_apply] at found
    split at found
    · rename_i same
      rcases absorb_eq version (s.stored (key value)) value with kept | replaced
      · rw [kept] at found
        obtain ⟨keyed, known⟩ := sync.storedSent _ r found
        exact ⟨keyed.trans same.symm, known⟩
      · rw [replaced, Option.some.injEq] at found
        subst found
        exact ⟨same.symm, id, sent⟩
    · exact sync.storedSent k r found
  · rintro m member (same | seen)
    · have : m = (id, value) := sync.sentUnique m member (id, value) sent same
      subst this
      simp only [Replica.receive, Function.update_self]
      exact le_absorb_incoming version _ _
    · obtain ⟨r, found, bound⟩ := sync.seenStored m member seen
      simp only [Replica.receive, Function.update_apply]
      split
      · rename_i same
        obtain ⟨r', found', bound'⟩ := le_absorb_stored version (same ▸ found) value
        exact ⟨r', found', bound.trans bound'⟩
      · exact ⟨r, found, bound⟩

omit [DecidableEq K] in
/-- **Once every message has been seen, the replica holds the current values.** -/
theorem Sync.agree {s : Replica K E R} (sync : Sync key version s)
    (allSeen : ∀ m ∈ s.sent, m.1 ∈ s.seen) {c : R} (current : c ∈ s.current) :
    s.stored (key c) = some c := by
  obtain ⟨id, sent⟩ := sync.currentSent c current
  obtain ⟨r, found, bound⟩ := sync.seenStored (id, c) sent (allSeen _ sent)
  obtain ⟨keyed, id', sent'⟩ := sync.storedSent _ r found
  obtain ⟨c', current', sameKey, newest⟩ := sync.sentBounded (id', r) sent'
  have : c' = c := sync.currentUnique c' current' c current (sameKey.trans keyed)
  subst this
  rcases newest with same | behind
  · rw [found, ← same]
  · exact absurd behind (not_lt.mpr bound)

end Replica

end KisAutoTrading.Theory
