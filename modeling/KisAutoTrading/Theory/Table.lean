/-
# Theory.Table — finite tables with a primary key

A relation of a database with a primary key: finitely many rows, one per key.
Mathlib's association lists (`AList`) carry that invariant, so a table with two
rows under one key cannot be built. `put` is the upsert, `rows` the contents in
no meaningful order; `Keyed` says that every row carries the key it is stored
under, `All` that every row has a property. Proofs use the `find`/`put` laws below and never
look inside.
-/
import Mathlib.Data.List.AList

namespace KisAutoTrading.Theory

set_option autoImplicit false

/-- Finitely many rows of type `V`, one per primary key of type `K`. -/
def Table (K V : Type) : Type := AList fun _ : K => V

namespace Table

variable {K V : Type} [DecidableEq K]

def empty : Table K V := (∅ : AList fun _ : K => V)

instance : EmptyCollection (Table K V) := ⟨empty⟩

instance : Inhabited (Table K V) := ⟨empty⟩

/-- The row stored under a key. -/
def find (t : Table K V) (k : K) : Option V := AList.lookup k t

/-- Insert the row, or replace the row already stored under its key. -/
def put (t : Table K V) (k : K) (v : V) : Table K V := AList.insert k v t

/-- All keys, in no particular order. -/
def keys (t : Table K V) : List K := AList.keys t

/-- All rows, in no particular order. -/
def rows (t : Table K V) : List V := AList.entries t |>.map (·.2)

@[simp] theorem find_empty (k : K) : (∅ : Table K V).find k = none := AList.lookup_empty k

@[simp] theorem find_put_self (t : Table K V) (k : K) (v : V) : (t.put k v).find k = some v :=
  AList.lookup_insert t

@[simp] theorem find_put_of_ne (t : Table K V) {k k' : K} (v : V) (ne : k' ≠ k) :
    (t.put k v).find k' = t.find k' :=
  AList.lookup_insert_ne ne

theorem find_put (t : Table K V) (k k' : K) (v : V) :
    (t.put k v).find k' = if k' = k then some v else t.find k' := by
  by_cases same : k' = k
  · subst same; simp
  · simp [same]

omit [DecidableEq K] in
theorem nodup_keys (t : Table K V) : t.keys.Nodup := AList.keys_nodup t

theorem mem_keys {t : Table K V} {k : K} : k ∈ t.keys ↔ (t.find k).isSome :=
  AList.lookup_isSome.symm

theorem mem_rows {t : Table K V} {v : V} : v ∈ t.rows ↔ ∃ k, t.find k = some v := by
  rw [rows, List.mem_map]
  constructor
  · rintro ⟨⟨k, w⟩, member, rfl⟩
    exact ⟨k, AList.mem_lookup_iff.mpr member⟩
  · rintro ⟨k, found⟩
    exact ⟨⟨k, v⟩, AList.mem_lookup_iff.mp found, rfl⟩

theorem mem_rows_put {t : Table K V} {k : K} {v w : V} (member : w ∈ (t.put k v).rows) :
    w = v ∨ w ∈ t.rows := by
  obtain ⟨key, found⟩ := mem_rows.mp member
  rw [find_put] at found
  split at found
  · exact .inl (Option.some.inj found).symm
  · exact .inr (mem_rows.mpr ⟨key, found⟩)

omit [DecidableEq K] in
@[simp] theorem rows_empty : (∅ : Table K V).rows = [] := rfl

/-- Every row carries the key it is stored under. -/
def Keyed (key : V → K) (t : Table K V) : Prop := ∀ k v, t.find k = some v → key v = k

theorem keyed_empty (key : V → K) : Keyed key (∅ : Table K V) := by
  intro k v found
  simp at found

theorem Keyed.put {key : V → K} {t : Table K V} (keyed : Keyed key t) (v : V) :
    Keyed key (t.put (key v) v) := by
  intro k w found
  rw [find_put] at found
  split at found
  · rename_i same
    cases found
    exact same.symm
  · exact keyed k w found

/-- Membership in a keyed table is a lookup at the row's own key. -/
theorem Keyed.mem_rows_iff {key : V → K} {t : Table K V} (keyed : Keyed key t) {v : V} :
    v ∈ t.rows ↔ t.find (key v) = some v := by
  rw [mem_rows]
  constructor
  · rintro ⟨k, found⟩
    rwa [keyed k v found]
  · exact fun found => ⟨key v, found⟩

/-- The rows of a keyed table have pairwise distinct keys. -/
theorem Keyed.rows_nodup {key : V → K} {t : Table K V} (keyed : Keyed key t) :
    (t.rows.map key).Nodup := by
  have keys : t.rows.map key = AList.keys t := by
    simp only [rows, AList.keys, List.keys, List.map_map]
    apply List.map_congr_left
    rintro ⟨k, v⟩ member
    exact keyed k v (AList.mem_lookup_iff.mpr member)
  rw [keys]
  exact AList.keys_nodup t

/-- The rows after an upsert: the new one, and those under other keys. -/
theorem Keyed.mem_rows_put_iff {key : V → K} {t : Table K V} (keyed : Keyed key t) (v w : V) :
    w ∈ (t.put (key v) v).rows ↔ w = v ∨ w ∈ t.rows ∧ key w ≠ key v := by
  rw [(keyed.put v).mem_rows_iff, find_put, keyed.mem_rows_iff]
  by_cases same : key w = key v
  · simp [same, eq_comm]
  · have differs : w ≠ v := fun equal => same (congrArg key equal)
    simp [same, differs]

theorem Keyed.foldl_put {key : V → K} {t : Table K V} (keyed : Keyed key t) (rows : List V) :
    Keyed key (rows.foldl (fun table row => table.put (key row) row) t) := by
  induction rows generalizing t with
  | nil => exact keyed
  | cons row rest ih => exact ih (keyed.put row)

/-- After upserts the row under a key is the last one with that key, by induction along them. -/
theorem find_foldl_put (key : V → K) (rows : List V) (t : Table K V) (k : K) :
    (rows.foldl (fun table row => table.put (key row) row) t).find k =
      (rows.reverse.find? fun row => key row = k).or (t.find k) := by
  induction rows generalizing t with
  | nil => simp
  | cons row rest ih =>
      rw [List.foldl_cons, ih, find_put, List.reverse_cons, List.find?_append, Option.or_assoc]
      by_cases same : key row = k
      · simp [same]
      · have other : ¬ k = key row := fun here => same here.symm
        simp [same, other]

/-- In a keyed table the rows with a key are the one that is found under it. -/
theorem Keyed.filter_rows {key : V → K} {t : Table K V} (keyed : Keyed key t) (k : K) :
    t.rows.filter (fun row => key row = k) = (t.find k).toList := by
  have distinct : (t.rows.filter fun row => key row = k).Nodup :=
    (keyed.rows_nodup.of_map key).filter _
  have member (row : V) :
      row ∈ t.rows.filter (fun row => key row = k) ↔ t.find k = some row := by
    rw [List.mem_filter, keyed.mem_rows_iff, decide_eq_true_eq]
    constructor
    · rintro ⟨found, same⟩
      rwa [← same]
    · intro found
      have same := keyed k row found
      exact ⟨by rwa [same], same⟩
  cases found : t.find k with
  | none =>
      refine List.eq_nil_iff_forall_not_mem.mpr fun row here => ?_
      rw [member, found] at here
      cases here
  | some row =>
      refine List.perm_singleton.mp ((List.perm_ext_iff_of_nodup distinct (by simp)).mpr ?_)
      intro other
      rw [member, found, List.mem_singleton]
      exact ⟨fun same => (Option.some.inj same).symm, fun same => congrArg some same.symm⟩

/-- The rows after upserts under distinct keys, by induction along them. -/
theorem Keyed.mem_rows_foldl_put {key : V → K} {t : Table K V} (keyed : Keyed key t)
    {rows : List V} (distinct : (rows.map key).Nodup) (w : V) :
    w ∈ (rows.foldl (fun table row => table.put (key row) row) t).rows ↔
      w ∈ rows ∨ w ∈ t.rows ∧ key w ∉ rows.map key := by
  induction rows generalizing t with
  | nil => simp
  | cons row rest ih =>
      obtain ⟨absent, distinctRest⟩ := List.nodup_cons.mp distinct
      rw [List.foldl_cons, ih (keyed.put row) distinctRest, keyed.mem_rows_put_iff]
      simp only [List.mem_cons, List.map_cons, not_or]
      constructor
      · rintro (later | ⟨rfl | ⟨old, differs⟩, others⟩)
        · exact .inl (.inr later)
        · exact .inl (.inl rfl)
        · exact .inr ⟨old, differs, others⟩
      · rintro ((rfl | later) | ⟨old, differs, others⟩)
        · exact .inr ⟨.inl rfl, absent⟩
        · exact .inl later
        · exact .inr ⟨.inr ⟨old, differs⟩, others⟩

/-- The property holds of every row. -/
def All (p : V → Prop) (t : Table K V) : Prop := ∀ v ∈ t.rows, p v

section All

variable {p : V → Prop} {t : Table K V}

omit [DecidableEq K] in
theorem all_empty : All p (∅ : Table K V) := by
  intro v member
  rw [rows_empty] at member
  cases member

theorem All.find (all : All p t) {k : K} {v : V} (found : t.find k = some v) : p v :=
  all v (mem_rows.mpr ⟨k, found⟩)

theorem All.put (all : All p t) (k : K) {v : V} (new : p v) : All p (t.put k v) := by
  intro w member
  rcases mem_rows_put member with rfl | old
  · exact new
  · exact all w old

theorem All.foldl_put {key : V → K} {rows : List V} (all : All p t) (new : ∀ v ∈ rows, p v) :
    All p (rows.foldl (fun table row => table.put (key row) row) t) := by
  induction rows generalizing t with
  | nil => exact all
  | cons row rest ih =>
      exact ih (all.put (key row) (new row (by simp))) fun v member => new v (by simp [member])

end All

/-- Putting a row in counts one more of its kind where the row it replaces is not of it. -/
theorem length_filter_put {t : Table K V} {k : K} {v : V} {kind : V → Bool} (new : kind v = true)
    (old : ∀ w, t.find k = some w → kind w = false) :
    ((t.put k v).rows.filter kind).length = (t.rows.filter kind).length + 1 := by
  have entries : (t.put k v).rows = v :: ((List.kerase k (AList.entries t)).map (·.2)) := rfl
  rw [entries, List.filter_cons_of_pos new, List.length_cons]
  by_cases there : k ∈ (AList.entries t).keys
  · obtain ⟨w, front, back, -, all, rest⟩ := List.exists_of_kerase there
    have held : t.find k = some w := by
      refine AList.mem_lookup_iff.mpr ?_
      rw [all]
      simp
    rw [rest, rows, all]
    simp [old w held]
  · rw [List.kerase_of_notMem_keys there]
    rfl

/-- Rows put in one after the other. -/
def putAll (rows : List (K × V)) (t : Table K V) : Table K V :=
  rows.foldl (fun table row => table.put row.1 row.2) t

/-- All of one kind, under keys of their own, where there was none: they are counted exactly. -/
theorem length_filter_putAll {rows : List (K × V)} {t : Table K V} {kind : V → Bool}
    (distinct : (rows.map (·.1)).Nodup) (new : ∀ row ∈ rows, kind row.2 = true)
    (old : ∀ row ∈ rows, ∀ w, t.find row.1 = some w → kind w = false) :
    ((putAll rows t).rows.filter kind).length = (t.rows.filter kind).length + rows.length := by
  induction rows generalizing t with
  | nil => rfl
  | cons row rest ih =>
      obtain ⟨absent, distinctRest⟩ := List.nodup_cons.mp distinct
      have others : ∀ other ∈ rest, other.1 ≠ row.1 := fun other member sameKey =>
        absent (List.mem_map.mpr ⟨other, member, sameKey⟩)
      have counted := ih (t := t.put row.1 row.2) distinctRest
        (fun other member => new other (by simp [member])) (by
          intro other member w found
          rw [find_put_of_ne _ _ (others other member)] at found
          exact old other (by simp [member]) w found)
      rw [length_filter_put (new row (by simp)) (old row (by simp))] at counted
      rw [List.length_cons]
      exact counted.trans (by omega)

end Table

end KisAutoTrading.Theory
