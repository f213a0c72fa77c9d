/-
# Theory.CreateOnce — creating an object that may be there already

A transaction at READ COMMITTED looks an object up by its key and answers with it if it is
there. If not, it saves a header row and any number of part rows through its session, one
after the other (`Theory.RowSession`), and commits them together with events. Any number
of such calls with different contents contend for one object; each lookup, each save and
each commit is a step of its own.

Between the lookup and the save of the header another call may commit. Then the save finds
a row, becomes an update of it, and the object is written over. `Absent` says of a save that
it does not come to that; a header that is still absent becomes an insert, of which only the
first to commit goes through. `run_created`: in such runs the object is that of one call and
never changes.
-/
import KisAutoTrading.Theory.RowSession
import KisAutoTrading.Theory.Runs
import KisAutoTrading.Theory.Table

namespace KisAutoTrading.Theory.CreateOnce

open Runs

set_option autoImplicit false

/-- Where a store of type `S` keeps the object: its header, the table of parts and the
events, which are read and written. -/
structure Place (S H K C E : Type) where
  header : S → Option H
  parts : S → Table K C
  events : S → List E
  write : S → H → Table K C → List E → S
  header_write : ∀ s h t e, header (write s h t e) = some h
  parts_write : ∀ s h t e, parts (write s h t e) = t
  events_write : ∀ s h t e, events (write s h t e) = e
  headerColumns : Columns H
  partColumns : Columns C

/-- What a call is to create, with a key of its own for every part. -/
structure Content (H K C : Type) where
  header : H
  parts : List (K × C)
  distinct : (parts.map (·.1)).Nodup

/-- Where a call stands. -/
inductive Phase (H K C : Type) where
  | idle
  /-- Its transaction has found no header. -/
  | missed (content : Content H K C)
  | saving (content : Content H K C) (pending : Pending H) (saved : List (K × Pending C))
      (left : List (K × C))
  | answered (header : H)
  | committed (content : Content H K C)
  | aborted

structure State (S H K C : Type) where
  store : S
  calls : Nat → Phase H K C

inductive Action (H K C E : Type) where
  /-- A lookup in a transaction of its own, before the content is there. -/
  | look (call : Nat)
  | find (call : Nat) (content : Content H K C)
  | save (call : Nat)
  | commit (call : Nat) (events : List E)
  | abandon (call : Nat)

section Machine

variable {S H K C E : Type} [DecidableEq K] (place : Place S H K C E)

def State.enter (s : State S H K C) (call : Nat) (phase : Phase H K C) : State S H K C :=
  { s with calls := Function.update s.calls call phase }

/-- The flush of the saved parts, in the order of the saves. -/
def flushParts (columns : Columns C) : List (K × Pending C) → Table K C → Option (Table K C)
  | [], table => some table
  | (key, pending) :: rest, table =>
      match flush columns pending (table.find key) with
      | some stored => flushParts columns rest (table.put key stored)
      | none => none

/-- The flush at the end of a call: a header row that was inserted already, or gone, aborts
it as a whole. -/
def commitCall (store : S) (pending : Pending H) (saved : List (K × Pending C))
    (events : List E) : Option S :=
  match flush place.headerColumns pending (place.header store) with
  | none => none
  | some header =>
      match flushParts place.partColumns saved (place.parts store) with
      | none => none
      | some parts => some (place.write store header parts (place.events store ++ events))

def step (s : State S H K C) : Action H K C E → State S H K C
  | .look call =>
      match s.calls call, place.header s.store with
      | .idle, some header => s.enter call (.answered header)
      | _, _ => s
  | .find call content =>
      match s.calls call with
      | .idle =>
          match place.header s.store with
          | some header => s.enter call (.answered header)
          | none => s.enter call (.missed content)
      | _ => s
  | .save call =>
      match s.calls call with
      | .missed content =>
          s.enter call (.saving content (merge none (place.header s.store) content.header) []
            content.parts)
      | .saving content pending saved ((key, part) :: left) =>
          s.enter call (.saving content pending
            (saved ++ [(key, merge none ((place.parts s.store).find key) part)]) left)
      | _ => s
  | .commit call events =>
      match s.calls call with
      | .saving content pending saved [] =>
          match commitCall place s.store pending saved events with
          | some store => State.enter { s with store } call (.committed content)
          | none => s.enter call .aborted
      | _ => s
  | .abandon call =>
      match s.calls call with
      | .missed _ => s.enter call .aborted
      | .saving _ _ _ _ => s.enter call .aborted
      | _ => s

/-- A save of the header finds it absent still. -/
def Absent (s : State S H K C) : Action H K C E → Prop
  | .save call => ∀ content, s.calls call = .missed content → place.header s.store = none
  | _ => True

/-- Contents are of the kind the calls create, and a commit announces what it creates. -/
def Fits (created : H → List (K × C) → Prop) (announced : H → List E → Prop)
    (s : State S H K C) : Action H K C E → Prop
  | .find _ content => created content.header content.parts
  | .commit call events => ∀ content pending saved,
      s.calls call = .saving content pending saved [] → announced content.header events
  | _ => True

variable (created : H → List (K × C) → Prop) (announced : H → List E → Prop)

/-- The store holds what one call creates, and nothing else has changed. -/
def Created (start store : S) : Prop :=
  ∃ content : Content H K C, ∃ events, created content.header content.parts ∧
    announced content.header events ∧ store = place.write start content.header
      (Table.putAll content.parts (place.parts start)) (place.events start ++ events)

/-- The parts saved so far, against a store in which the object is absent still. -/
def Saved (start : S) (content : Content H K C) (saved : List (K × Pending C))
    (left : List (K × C)) : Prop :=
  ∃ done, content.parts = done ++ left ∧
    saved = done.map fun part => (part.1, merge none ((place.parts start).find part.1) part.2)

/-- What is known of a call. -/
def Known (start store : S) : Phase H K C → Prop
  | .missed content => created content.header content.parts
  | .saving content pending saved left => created content.header content.parts ∧
      pending = .insert content.header ∧
      (place.header store = none → Saved place start content saved left)
  | _ => True

structure Inv (start : S) (s : State S H K C) : Prop where
  store : s.store = start ∨ Created place created announced start s.store
  calls : ∀ call, Known place created start s.store (s.calls call)

end Machine

section Proofs

variable {S H K C E : Type} [DecidableEq K] {place : Place S H K C E}
  {created : H → List (K × C) → Prop} {announced : H → List E → Prop}
  {start : S} {s : State S H K C}

/-! ## The flush -/

/-- Parts saved against a table in which their keys are as they were are put as they are. -/
theorem flushParts_saved (columns : Columns C) (base : Table K C) {done : List (K × C)}
    (distinct : (done.map (·.1)).Nodup) {table : Table K C}
    (same : ∀ part ∈ done, table.find part.1 = base.find part.1) :
    flushParts columns
        (done.map fun part => (part.1, merge none (base.find part.1) part.2)) table =
      some (Table.putAll done table) := by
  induction done generalizing table with
  | nil => rfl
  | cons part rest ih =>
      obtain ⟨absent, distinctRest⟩ := List.nodup_cons.mp distinct
      simp only [List.map_cons, flushParts, same part (by simp), flush_merge_of_reread]
      refine ih distinctRest ?_
      intro other member
      have differs : other.1 ≠ part.1 := by
        intro sameKey
        exact absent (List.mem_map.mpr ⟨other, member, sameKey⟩)
      rw [Table.find_put_of_ne _ _ differs]
      exact same other (by simp [member])

theorem Created.header_ne_none {store : S} (there : Created place created announced start store) :
    place.header store ≠ none := by
  obtain ⟨content, events, -, -, rfl⟩ := there
  rw [place.header_write]
  exact Option.some_ne_none _

theorem Inv.store_eq (inv : Inv place created announced start s)
    (absent : place.header s.store = none) : s.store = start := by
  rcases inv.store with same | there
  · exact same
  · exact absurd absent there.header_ne_none

/-- A commit creates the object if it is absent, and aborts if it is there. -/
theorem Inv.commit (inv : Inv place created announced start s) {call : Nat}
    {content : Content H K C} {pending : Pending H} {saved : List (K × Pending C)}
    (saving : s.calls call = .saving content pending saved []) (events : List E) :
    (place.header s.store ≠ none ∧ commitCall place s.store pending saved events = none) ∨
    (place.header s.store = none ∧ created content.header content.parts ∧
      commitCall place s.store pending saved events = some (place.write start content.header
        (Table.putAll content.parts (place.parts start)) (place.events start ++ events))) := by
  have known := inv.calls call
  rw [saving] at known
  obtain ⟨fits, rfl, parts⟩ := known
  cases there : place.header s.store with
  | some header =>
      left
      exact ⟨Option.some_ne_none _, by simp only [commitCall, there, flush]⟩
  | none =>
      right
      obtain ⟨done, all, rfl⟩ := parts there
      rw [List.append_nil] at all
      have same := inv.store_eq there
      have flushed := flushParts_saved place.partColumns (place.parts start) content.distinct
        (fun _ _ => rfl)
      refine ⟨rfl, fits, ?_⟩
      rw [← all, commitCall, there, same]
      simp only [flush, flushed]

/-! ## One step -/

/-- A call moves on, the store stays. -/
theorem Inv.enter (inv : Inv place created announced start s) (call : Nat) {phase : Phase H K C}
    (known : Known place created start s.store phase) :
    Inv place created announced start (s.enter call phase) := by
  refine ⟨inv.store, ?_⟩
  intro other
  by_cases same : other = call
  · subst same
    simpa [State.enter] using known
  · simpa [State.enter, same] using inv.calls other

/-- What was known of a call before the object was there is known after. -/
theorem Known.after {store after : S} {phase : Phase H K C}
    (known : Known place created start store phase) (there : place.header after ≠ none) :
    Known place created start after phase := by
  cases phase with
  | saving content pending saved left =>
      exact ⟨known.1, known.2.1, fun absent => absurd absent there⟩
  | missed content => exact known
  | _ => trivial

theorem inv_step (action : Action H K C E) (inv : Inv place created announced start s)
    (allowed : Fits created announced s action ∧ Absent place s action) :
    Inv place created announced start (step place s action) := by
  cases action with
  | look call =>
      simp only [step]
      split
      · exact inv.enter call trivial
      · exact inv
  | find call content =>
      simp only [step]
      split
      · split
        · exact inv.enter call trivial
        · exact inv.enter call allowed.1
      · exact inv
  | save call =>
      have known := inv.calls call
      simp only [step]
      split
      · rename_i content missed
        rw [missed] at known
        rw [allowed.2 content missed]
        exact inv.enter call ⟨known, rfl, fun _ => ⟨[], rfl, rfl⟩⟩
      · rename_i content pending saved key part left saving
        rw [saving] at known
        obtain ⟨fits, insert, parts⟩ := known
        refine inv.enter call ⟨fits, insert, ?_⟩
        intro absent
        obtain ⟨done, all, rfl⟩ := parts absent
        refine ⟨done ++ [(key, part)], by simp [all], ?_⟩
        rw [inv.store_eq absent]
        simp
      · exact inv
  | commit call events =>
      simp only [step]
      split
      · rename_i content pending saved saving
        rcases inv.commit saving events with ⟨-, aborts⟩ | ⟨-, fits, commits⟩
        · rw [aborts]
          exact inv.enter call trivial
        · rw [commits]
          have there : Created place created announced start (place.write start content.header
              (Table.putAll content.parts (place.parts start)) (place.events start ++ events)) :=
            ⟨content, events, fits, allowed.1 content pending saved saving, rfl⟩
          have moved : Inv place created announced start
              ⟨place.write start content.header (Table.putAll content.parts (place.parts start))
                (place.events start ++ events), s.calls⟩ :=
            ⟨.inr there, fun other => (inv.calls other).after there.header_ne_none⟩
          exact moved.enter call trivial
      · exact inv
  | abandon call =>
      simp only [step]
      split
      · exact inv.enter call trivial
      · exact inv.enter call trivial
      · exact inv

/-- Once the object is there, no step changes the store. -/
theorem store_step (action : Action H K C E) (inv : Inv place created announced start s)
    (there : place.header s.store ≠ none) : (step place s action).store = s.store := by
  cases action with
  | commit call events =>
      simp only [step]
      split
      · rename_i content pending saved saving
        rcases inv.commit saving events with ⟨-, aborts⟩ | ⟨absent, -⟩
        · rw [aborts]
          rfl
        · exact absurd absent there
      · rfl
  | look call =>
      simp only [step]
      split <;> rfl
  | find call content =>
      simp only [step]
      split
      · split <;> rfl
      · rfl
  | save call =>
      simp only [step]
      split <;> rfl
  | abandon call =>
      simp only [step]
      split <;> rfl

/-! ## A call alone -/

/-- The steps of one call. -/
def callSteps (call : Nat) (content : Content H K C) (events : List E) : List (Action H K C E) :=
  .find call content :: .save call :: (List.replicate content.parts.length (.save call) ++
    [.commit call events])

/-- The saves of the parts, while nothing else happens. -/
theorem exec_saves (call : Nat) {content : Content H K C} {pending : Pending H}
    (left : List (K × C)) {saved : List (K × Pending C)}
    (saving : s.calls call = .saving content pending saved left) :
    exec (step place) s (List.replicate left.length (.save call)) = ⟨s.store,
      Function.update s.calls call (.saving content pending (saved ++ left.map fun part =>
        (part.1, merge none ((place.parts s.store).find part.1) part.2)) [])⟩ := by
  induction left generalizing s saved with
  | nil =>
      have same : Function.update s.calls call (.saving content pending saved []) = s.calls := by
        rw [← saving, Function.update_eq_self]
      simp [same]
  | cons part rest ih =>
      obtain ⟨key, part⟩ := part
      have moved : step place s (.save call) = s.enter call (.saving content pending
          (saved ++ [(key, merge none ((place.parts s.store).find key) part)]) rest) := by
        simp only [step, saving]
      rw [List.length_cons, List.replicate_succ, exec_cons, moved,
        ih (s := s.enter call _) (by simp [State.enter]; rfl)]
      simp [State.enter]

/-- With nothing in between, a call for an absent object creates it. -/
theorem exec_callSteps {call : Nat} (idle : s.calls call = .idle)
    (absent : place.header s.store = none) (content : Content H K C) (events : List E) :
    (exec (step place) s (callSteps call content events)).store =
      place.write s.store content.header (Table.putAll content.parts (place.parts s.store))
        (place.events s.store ++ events) := by
  have found : step place s (.find call content) = s.enter call (.missed content) := by
    simp only [step, idle, absent]
  have saved : step place (s.enter call (.missed content)) (.save call) =
      (s.enter call (.missed content)).enter call
        (.saving content (.insert content.header) [] content.parts) := by
    simp only [step, State.enter, Function.update_self, absent]
    rfl
  have flushed := flushParts_saved place.partColumns (place.parts s.store) content.distinct
    (fun _ _ => rfl)
  rw [callSteps, exec_cons, exec_cons, found, saved, exec_append, exec_saves call content.parts
    (Function.update_self ..)]
  simp only [exec_cons, exec_nil, step, Function.update_self, List.nil_append, State.enter,
    commitCall, absent, flush, flushed]

/-! ## Whole runs -/

theorem inv_start (idle : ∀ call, s.calls call = .idle) :
    Inv place created announced s.store s := by
  refine ⟨.inl rfl, ?_⟩
  intro call
  rw [idle call]
  trivial

/-- **The object is that of one call.** -/
theorem run_created {trace : List (Action H K C E)} (idle : ∀ call, s.calls call = .idle)
    (allowed : Admissible (step place)
      (fun s action => Fits created announced s action ∧ Absent place s action) s trace) :
    Inv place created announced s.store (exec (step place) s trace) := by
  have keep : ∀ (t : State S H K C) action, Inv place created announced s.store t →
      Fits created announced t action ∧ Absent place t action →
      Inv place created announced s.store (step place t action) :=
    fun _ action inv ok => inv_step action inv ok
  exact exec_invariant keep (inv_start idle) allowed

/-- An object that is there is as one call created it. -/
theorem Inv.created_of_header (inv : Inv place created announced start s)
    (absent : place.header start = none) {header : H} (found : place.header s.store = some header) :
    Created place created announced start s.store := by
  rcases inv.store with same | made
  · rw [same, absent] at found
    cases found
  · exact made

/-- **Once it is there it never changes.** -/
theorem run_unchanged {trace front back : List (Action H K C E)}
    (idle : ∀ call, s.calls call = .idle)
    (allowed : Admissible (step place)
      (fun s action => Fits created announced s action ∧ Absent place s action) s trace)
    (earlier : front <+: back) (later : back <+: trace)
    (there : place.header (exec (step place) s front).store ≠ none) :
    (exec (step place) s back).store = (exec (step place) s front).store := by
  obtain ⟨rest, rfl⟩ := earlier
  have backOk := allowed.of_prefix later
  rw [admissible_append] at backOk
  rw [exec_append]
  have keep : ∀ (t : State S H K C) action, Inv place created announced s.store t ∧
        t.store = (exec (step place) s front).store →
      Fits created announced t action ∧ Absent place t action →
      Inv place created announced s.store (step place t action) ∧
        (step place t action).store = (exec (step place) s front).store := by
    rintro t action ⟨inv, same⟩ ok
    refine ⟨inv_step action inv ok, (store_step action inv ?_).trans same⟩
    rwa [same]
  exact (exec_invariant keep ⟨run_created idle backOk.1, rfl⟩ backOk.2).2

end Proofs

end KisAutoTrading.Theory.CreateOnce
