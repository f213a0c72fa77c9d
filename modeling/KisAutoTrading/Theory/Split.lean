/-
# Theory.Split — `str.split` and `str.join`

`pySplit` splits a text at every occurrence of a character, and finds the parts again that
`pyJoin` joined, where no part has that character in it (`pySplit_pyJoin`).
-/
import Mathlib.Data.List.Basic

namespace KisAutoTrading.Theory

set_option autoImplicit false

/-- `text.split(separator)`. -/
def pySplit (separator : Char) (text : String) : List String :=
  (text.toList.splitOn separator).map String.ofList

/-- `separator.join(parts)`. -/
def pyJoin (separator : Char) (parts : List String) : String :=
  String.ofList ([separator].intercalate (parts.map String.toList))

variable {separator : Char} {parts : List String}

/-- Parts without the separator are found again. -/
theorem pySplit_pyJoin (plain : ∀ part ∈ parts, separator ∉ part.toList) (some : parts ≠ []) :
    pySplit separator (pyJoin separator parts) = parts := by
  rw [pySplit, pyJoin, String.toList_ofList, List.splitOn_intercalate]
  · rw [List.map_map]
    simp
  · intro list member
    obtain ⟨part, there, rfl⟩ := List.mem_map.mp member
    exact plain part there
  · simpa using some

/-- A separator at the end begins an empty part. -/
theorem pyJoin_concat_empty (some : parts ≠ []) :
    pyJoin separator (parts ++ [""]) = pyJoin separator parts ++ String.singleton separator := by
  rw [← String.toList_inj]
  simp only [pyJoin, String.toList_append, String.toList_ofList, List.map_append, List.map_cons,
    List.map_nil]
  induction parts with
  | nil => exact absurd rfl some
  | cons part rest ih =>
      cases rest with
      | nil => simp [List.intercalate]
      | cons other rest =>
          have later := ih (List.cons_ne_nil other rest)
          simp_all [List.intercalate]

end KisAutoTrading.Theory
