import TowerFold.Operand.Sequence
import TowerFold.Proofs.Packed.Broadcast

/-!
# Grids that are kept

A grid that is kept as an operand is computed once, and its entries are looked up where they stand
row by row. They are the entries that the grid had, so the slices of the kept grid are the slices
that are kept of it.
-/

namespace TowerFold

namespace Grid

variable {α : Type} {axes index : List Nat} {g : Grid α}

/-- Where lists of one length are put one after the other, a place in one of them is found behind
all that come before. -/
theorem getElem?_flatMap_of_length {β γ : Type} {f : β → List γ} {n : Nat}
    (hf : ∀ b, (f b).length = n) {items : List β} {p : Nat} {b : β} (hp : items[p]? = some b)
    {j : Nat} (hj : j < n) : (items.flatMap f)[j + n * p]? = (f b)[j]? := by
  induction items generalizing p with
  | nil => simp at hp
  | cons item items ih =>
    rw [List.flatMap_cons]
    cases p with
    | zero =>
      obtain rfl : item = b := by simpa using hp
      rw [Nat.mul_zero, Nat.add_zero, List.getElem?_append_left (by rw [hf]; exact hj)]
    | succ p =>
      have hplace : j + n * (p + 1) = n + (j + n * p) := by
        rw [Nat.mul_succ]
        omega
      have hrest : items[p]? = some b := by simpa using hp
      rw [hplace, List.getElem?_append_right (by rw [hf]; omega), hf, Nat.add_sub_cancel_left,
        ih hrest]

/-- Every index stands in the list of all indices at its position. -/
theorem getElem?_indices_position (hindex : index ∈ indices axes) :
    (indices axes)[position axes index]? = some index := by
  induction axes generalizing index with
  | nil =>
    obtain rfl := List.mem_singleton.mp hindex
    rfl
  | cons n axes ih =>
    obtain ⟨rest, hrest, hcons⟩ := List.mem_flatMap.mp hindex
    obtain ⟨j, hj, rfl⟩ := List.mem_map.mp hcons
    have hlt : j < n := List.mem_range.mp hj
    rw [indices, position, getElem?_flatMap_of_length (by simp) (ih hrest) hlt]
    simp [hlt]

/-- Row by row there are as many entries as the sizes of the axes say. -/
theorem length_items (g : Grid α) : g.items.length = g.count := by
  have hindices (axes : List Nat) : (indices axes).length = axes.prod := by
    induction axes with
    | nil => rfl
    | cons n axes ih => simp [indices, List.map_const', ih, Nat.mul_comm]
  rw [items, List.length_map, hindices, count, List.prod_eq_foldl]

/-- In a grid whose entries are given row by row, an entry is looked up at its position. -/
theorem entry_ofItems [Inhabited α] {axes' : List Nat} (hindex : index ∈ indices g.axes)
    {index' : List Nat} (hposition : position axes' index' = position g.axes index) :
    (ofItems axes' g.items).entry index' = g.entry index := by
  have hplace : g.items[position g.axes index]? = some (g.entry index) := by
    rw [items, List.getElem?_map, getElem?_indices_position hindex, Option.map_some]
  simp only [ofItems, hposition, Array.getD_eq_getD_getElem?, List.getElem?_toArray, hplace,
    Option.getD_some]

/-- A grid that is computed once keeps its entries. -/
theorem entry_settled [Inhabited α] (hindex : index ∈ indices g.axes) :
    g.settled.entry index = g.entry index :=
  entry_ofItems hindex rfl

/-- An index within a slice, with the place of the slice behind it, is an index of the grid. -/
theorem concat_mem_indices {n i : Nat} (hindex : index ∈ indices axes) (hi : i < n) :
    index ++ [i] ∈ indices (axes ++ [n]) := by
  induction axes generalizing index with
  | nil =>
    obtain rfl := List.mem_singleton.mp hindex
    simpa [indices] using hi
  | cons m axes ih =>
    obtain ⟨rest, hrest, hcons⟩ := List.mem_flatMap.mp hindex
    obtain ⟨j, hj, rfl⟩ := List.mem_map.mp hcons
    rw [List.cons_append, List.cons_append, indices]
    exact List.mem_flatMap.mpr ⟨rest ++ [i], ih hrest, List.mem_map.mpr ⟨j, hj, rfl⟩⟩

end Grid

namespace Operand

open Grid (indices)

variable {g h : Grid UInt64} {axes : List Nat} {n : Nat}

/-- Grids of the same axes and entries are kept as the same operand. -/
theorem ofGrid_congr (haxes : g.axes = h.axes)
    (hentry : ∀ index ∈ indices h.axes, g.entry index = h.entry index) :
    ofGrid g = ofGrid h := by
  have hitems : g.items = h.items := by
    rw [Grid.items, Grid.items, haxes]
    exact List.map_congr_left hentry
  unfold ofGrid
  rw [haxes, Grid.settled, Grid.settled, haxes, hitems]
  split
  case isTrue hempty =>
    have hsingle : [] ∈ indices h.axes := by
      rw [List.isEmpty_iff.mp hempty]
      exact List.mem_singleton_self _
    rw [hentry [] hsingle]
  case isFalse => rfl

/-- The elements of a kept grid are its slices along the outermost axis, each one kept. -/
theorem elements_ofGrid (haxes : g.axes = axes ++ [n]) :
    (ofGrid g).elements =
      .ok ((List.range n).map fun i => ofGrid ⟨axes, fun index => g.entry (index ++ [i])⟩) := by
  have hkept : ofGrid g = .grid g.settled := by
    rw [ofGrid, if_neg (by simp [haxes])]
  have hshape : g.settled.shape = n :: axes.reverse := by
    have hsettled : g.settled.axes = g.axes := rfl
    rw [Grid.shape, hsettled, haxes, List.reverse_concat]
  simp only [hkept, elements, elements?, Grid.slices?, hshape, List.reverse_reverse,
    Option.map_some, List.map_map]
  refine congrArg Except.ok (List.map_congr_left fun i hi => ?_)
  refine ofGrid_congr rfl fun index hindex => Grid.entry_settled ?_
  rw [haxes]
  exact Grid.concat_mem_indices hindex (List.mem_range.mp hi)

/-- The elements of a kept grid with a single axis are its entries, as words. -/
theorem elements_ofGrid_line (n : Nat) (entry : List Nat → UInt64) :
    (ofGrid ⟨[n], entry⟩).elements =
      .ok (((List.range n).map fun j => entry [j]).map .word) := by
  have haxes : ([n] : List Nat) = [] ++ [n] := rfl
  rw [elements_ofGrid haxes, List.map_map]
  rfl

end Operand

end TowerFold
