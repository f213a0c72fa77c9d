/-
# Theory.JsonSorted — JSON values up to the order of keys

With `sort_keys` the writer puts the fields of every object, at any depth, in the order of their
keys: `sortKeys` is the value it writes. An object whose keys are distinct loses nothing but its
order (`get_sortDict`), sorting again changes nothing (`sortKeys_sortKeys`), and what can be
written and read back can be so when it is sorted (`writable_sortKeys`). Two objects that sort alike have
alike fields (`get_of_sortDict`), which is when Python holds two dictionaries for equal.
-/
import KisAutoTrading.Theory.JsonReader
import KisAutoTrading.Theory.SortedBy
import Mathlib.Data.String.Basic

namespace KisAutoTrading.Theory.JsonSorted

open JsonText JsonReader

set_option autoImplicit false

mutual

/-- The value with the fields of all its objects in the order of their keys. -/
def sortKeys : Json → Json
  | .null => .null
  | .bool value => .bool value
  | .int value => .int value
  | .float value => .float value
  | .str value => .str value
  | .arr items => .arr (sortItems items)
  | .obj fields => .obj ((sortValues fields).insertionSort fun a b => a.1 ≤ b.1)

def sortItems : List Json → List Json
  | [] => []
  | item :: rest => sortKeys item :: sortItems rest

/-- The fields as they stand, with their values sorted. -/
def sortValues : List (String × Json) → List (String × Json)
  | [] => []
  | (key, value) :: rest => (key, sortKeys value) :: sortValues rest

end

def sortDict (fields : Dict) : Dict := (sortValues fields).insertionSort fun a b => a.1 ≤ b.1

/-- A value without parts. -/
def Scalar : Json → Prop
  | .arr _ => False
  | .obj _ => False
  | _ => True

@[simp] theorem scalar_str (text : String) : Scalar (.str text) := trivial

@[simp] theorem scalar_bool (value : Bool) : Scalar (.bool value) := trivial

@[simp] theorem scalar_int (value : Int) : Scalar (.int value) := trivial

@[simp] theorem scalar_float (value : PyFloat) : Scalar (.float value) := trivial

theorem sortKeys_of_scalar {value : Json} (scalar : Scalar value) : sortKeys value = value := by
  cases value with
  | arr items => exact scalar.elim
  | obj fields => exact scalar.elim
  | _ => simp only [sortKeys]

theorem sortKeys_obj (fields : Dict) : sortKeys (.obj fields) = .obj (sortDict fields) := by
  simp only [sortKeys, sortDict]

/-! ## The fields of an object -/

section Fields

variable {fields other : Dict}

theorem sortValues_eq_map (fields : Dict) :
    sortValues fields = fields.map fun field => (field.1, sortKeys field.2) := by
  induction fields with
  | nil => rfl
  | cons field rest ih => rw [sortValues, ih, List.map_cons]

theorem sortItems_eq_map (items : List Json) : sortItems items = items.map sortKeys := by
  induction items with
  | nil => rfl
  | cons item rest ih => rw [sortItems, ih, List.map_cons]

theorem sortDict_perm (fields : Dict) : (sortDict fields).Perm (sortValues fields) :=
  List.perm_insertionSort _ _

theorem sortDict_keys (fields : Dict) :
    ((sortDict fields).map (·.1)).Perm (fields.map (·.1)) := by
  have same : (sortValues fields).map (·.1) = fields.map (·.1) := by
    simp [sortValues_eq_map, Function.comp_def]
  rw [← same]
  exact (sortDict_perm fields).map _

theorem sortDict_distinct (distinct : (fields.map (·.1)).Nodup) :
    ((sortDict fields).map (·.1)).Nodup :=
  (sortDict_keys fields).nodup_iff.mpr distinct

/-- With distinct keys a field is found exactly if it is there, by induction along the fields. -/
theorem get_eq_some_iff (distinct : (fields.map (·.1)).Nodup) {key : String} {value : Json} :
    fields.get key = some value ↔ (key, value) ∈ fields := by
  induction fields with
  | nil => simp [Dict.get]
  | cons field rest ih =>
      obtain ⟨name, held⟩ := field
      obtain ⟨absent, distinctRest⟩ := List.nodup_cons.mp distinct
      have found := ih distinctRest
      simp only [Dict.get, List.lookup_cons] at found ⊢
      by_cases same : key = name
      · subst same
        have elsewhere : (key, value) ∉ rest := fun member =>
          absent (List.mem_map.mpr ⟨(key, value), member, rfl⟩)
        simp [elsewhere, eq_comm]
      · simp [beq_eq_false_iff_ne.mpr same, same, found]

/-- The order of distinct keys does not matter to a lookup. -/
theorem get_of_perm (distinct : (fields.map (·.1)).Nodup) (same : fields.Perm other)
    (key : String) : other.get key = fields.get key := by
  have distinct' : (other.map (·.1)).Nodup := (same.map _).nodup_iff.mp distinct
  ext value
  rw [get_eq_some_iff distinct, get_eq_some_iff distinct', same.mem_iff]

theorem get_sortValues (fields : Dict) (key : String) :
    Dict.get (sortValues fields) key = (fields.get key).map sortKeys := by
  induction fields with
  | nil => rfl
  | cons field rest ih =>
      obtain ⟨name, held⟩ := field
      simp only [Dict.get, sortValues, List.lookup_cons] at ih ⊢
      by_cases same : key = name
      · simp [same]
      · simp [beq_eq_false_iff_ne.mpr same, ih]

/-- **Sorting keeps every field**, with its own value sorted. -/
theorem get_sortDict (distinct : (fields.map (·.1)).Nodup) (key : String) :
    (sortDict fields).get key = (fields.get key).map sortKeys := by
  have distinct' : ((sortDict fields).map (·.1)).Nodup := sortDict_distinct distinct
  rw [← get_sortValues, get_of_perm distinct' (sortDict_perm fields)]

/-- Objects that sort alike have the same keys, with values that sort alike. -/
theorem get_of_sortDict (distinct : (other.map (·.1)).Nodup) (same : sortDict fields = sortDict other)
    (key : String) : (fields.get key).map sortKeys = (other.get key).map sortKeys := by
  have distinct' : (fields.map (·.1)).Nodup :=
    (sortDict_keys fields).nodup_iff.mp (same ▸ sortDict_distinct distinct)
  rw [← get_sortDict distinct', same, get_sortDict distinct]

end Fields

/-! ## Sorting again -/

/-- The values can be sorted after the fields. -/
theorem sortValues_insertionSort (fields : Dict) :
    sortValues (fields.insertionSort fun a b => a.1 ≤ b.1) =
      (sortValues fields).insertionSort fun a b => a.1 ≤ b.1 := by
  rw [sortValues_eq_map, sortValues_eq_map]
  exact List.map_insertionSort _ _ _ _ fun _ _ _ _ => Iff.rfl

theorem insertionSort_insertionSort (fields : Dict) :
    (fields.insertionSort fun a b => a.1 ≤ b.1).insertionSort (fun a b => a.1 ≤ b.1) =
      fields.insertionSort fun a b => a.1 ≤ b.1 :=
  (SortedBy.pairwise_le (fun field : String × Json => field.1) fields).insertionSort_eq

mutual

theorem sortKeys_sortKeys : ∀ value, sortKeys (sortKeys value) = sortKeys value
  | .null => rfl
  | .bool _ => rfl
  | .int _ => rfl
  | .float _ => rfl
  | .str _ => rfl
  | .arr items => by simp only [sortKeys, sortItems_sortItems items]
  | .obj fields => by
      simp only [sortKeys, sortValues_insertionSort, sortValues_sortValues fields,
        insertionSort_insertionSort]

theorem sortItems_sortItems : ∀ items, sortItems (sortItems items) = sortItems items
  | [] => rfl
  | item :: rest => by simp only [sortItems, sortKeys_sortKeys item, sortItems_sortItems rest]

theorem sortValues_sortValues : ∀ fields, sortValues (sortValues fields) = sortValues fields
  | [] => rfl
  | (_, value) :: rest => by
      simp only [sortValues, sortKeys_sortKeys value, sortValues_sortValues rest]

end

theorem sortDict_sortDict (fields : Dict) : sortDict (sortDict fields) = sortDict fields := by
  have again := sortKeys_sortKeys (.obj fields)
  simpa only [sortKeys_obj, Json.obj.injEq] using again

theorem sortDict_congr {fields other : Dict} (same : sortValues fields = sortValues other) :
    sortDict fields = sortDict other := by
  rw [sortDict, same, sortDict]

/-! ## What is written and read -/

section Written

variable {R : FloatRepr} {F : Scanner} {levels : Option Nat}

theorem writableFields_iff {fields : Dict} :
    WritableFields R F levels fields ↔ ∀ field ∈ fields, Writable R F levels field.2 := by
  induction fields with
  | nil => simp [WritableFields]
  | cons field rest ih => simp [WritableFields, ih]

mutual

theorem writable_sortKeys : ∀ value levels, Writable R F levels value →
    Writable R F levels (sortKeys value)
  | .null, _, _ => trivial
  | .bool _, _, _ => trivial
  | .int _, _, writable => writable
  | .float _, _, writable => writable
  | .str _, _, _ => trivial
  | .arr items, _, ⟨left, writable⟩ => ⟨left, writable_sortItems items _ writable⟩
  | .obj fields, _, ⟨left, distinct, writable⟩ => by
      rw [sortKeys_obj, Writable]
      refine ⟨left, sortDict_distinct distinct, writableFields_iff.mpr fun field member => ?_⟩
      have inside := writableFields_iff.mp (writable_sortValues fields _ writable)
      exact inside field ((sortDict_perm fields).mem_iff.mp member)

theorem writable_sortItems : ∀ items levels, WritableItems R F levels items →
    WritableItems R F levels (sortItems items)
  | [], _, _ => trivial
  | item :: rest, _, ⟨first, others⟩ =>
      ⟨writable_sortKeys item _ first, writable_sortItems rest _ others⟩

theorem writable_sortValues : ∀ fields levels, WritableFields R F levels fields →
    WritableFields R F levels (sortValues fields)
  | [], _, _ => trivial
  | (_, value) :: rest, _, ⟨first, others⟩ =>
      ⟨writable_sortKeys value _ first, writable_sortValues rest _ others⟩

end

/-- `json.loads` of `json.dumps` with `sort_keys`. -/
theorem loads_encode_sorted {value : Json} (writable : Writable R F F.levels value) :
    loads F (encode R (sortKeys value)) = .ok (.ofJson (sortKeys value)) :=
  loads_encode (writable_sortKeys value _ writable)

end Written

end KisAutoTrading.Theory.JsonSorted
