import Mathlib.Data.List.ModifyLast
import Mathlib.Data.Nat.Notation
import TowerFold.Operand.Sequence

/-!
# Slices of sequences

A slice of a sequence is a sequence of the same kind: the items from one place up to another
one. Its elements are found among those of the whole sequence.
-/

namespace TowerFold

namespace Grid

variable {α : Type} {g : Grid α} {slices : List (Grid α)}

/-- The part of a grid between two places on its outermost axis, if it has one. -/
def slice (g : Grid α) (start stop : ℕ) : Grid α :=
  match g.shape with
  | [] => g
  | n :: inner =>
    ⟨inner.reverse ++ [min stop n - start], fun index => g.entry (index.modifyLast (· + start))⟩

/-- A part of a grid has the slices of the grid between the two places. -/
theorem slices?_slice (hslices : g.slices? = some slices) (start stop : ℕ) :
    (g.slice start stop).slices? = some (slices.extract start stop) := by
  cases hshape : g.shape with
  | nil => simp [slices?, hshape] at hslices
  | cons n inner =>
    simp only [slices?, hshape, Option.some.injEq] at hslices
    subst hslices
    have hslice : g.slice start stop = ⟨inner.reverse ++ [min stop n - start],
        fun index => g.entry (index.modifyLast (· + start))⟩ := by
      rw [slice, hshape]
    have hpart : (g.slice start stop).shape = (min stop n - start) :: inner := by
      rw [hslice, shape, List.reverse_concat, List.reverse_reverse]
    simp only [slices?, hpart, Option.some.injEq, List.extract_eq_take_drop]
    refine List.ext_getElem ?_ fun i hi hi' => ?_
    · simp only [List.length_map, List.length_range, List.length_take, List.length_drop]
      omega
    · simp only [List.getElem_map, List.getElem_range, List.getElem_take, List.getElem_drop,
        hslice, List.modifyLast_concat, Nat.add_comm start]

end Grid

/-- The part of a sequence between two places; an operand of another kind stays as it is. -/
def Operand.slice (v : Operand) (start stop : ℕ) : Operand :=
  match v with
  | .text s => .text (String.ofList (s.toList.extract start stop))
  | .bytes data => .bytes (data.extract start stop)
  | .group brackets items => .group brackets (items.extract start stop)
  | .grid g => .grid (g.slice start stop)
  | v => v

/-- A part of a sequence has the elements of the sequence between the two places. -/
theorem Operand.elements_slice {v : Operand} {items : List Operand} (hv : v.elements = .ok items)
    (start stop : ℕ) : (v.slice start stop).elements = .ok (items.extract start stop) := by
  cases v with
  | text s =>
    cases hv
    simp [slice, elements, elements?, List.extract_eq_take_drop, List.map_take, List.map_drop]
  | bytes data =>
    cases hv
    simp [slice, elements, elements?, List.extract_eq_take_drop, List.map_take, List.map_drop]
  | group brackets members =>
    cases hv
    rfl
  | grid g =>
    cases hslices : g.slices? with
    | none => simp [elements, elements?, hslices] at hv
    | some slices =>
      simp only [elements, elements?, hslices, Option.map_some, Except.ok.injEq] at hv
      subst hv
      simp [slice, elements, elements?, Grid.slices?_slice hslices, List.extract_eq_take_drop,
        List.map_take, List.map_drop]
  | _ => cases hv

end TowerFold
