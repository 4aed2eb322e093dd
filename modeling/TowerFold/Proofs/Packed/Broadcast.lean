import Mathlib.Data.List.GetD
import Mathlib.Tactic.SplitIfs
import TowerFold.Packed.Grid

/-!
# Broadcasting

Which axes fit each other, and which entry of a grid stands at an index of the stretched one,
both said axis by axis. A missing axis counts as one of size one, so that lists of axes and
indices of different lengths are compared without cutting them.
-/

namespace TowerFold.Grid

variable {as bs axes index i : List Nat} {a b : Nat}

/-- The axes of two grids fit each other: sizes differ only where one of them is one. -/
def Fits (as bs : List Nat) : Prop :=
  ∀ t, as.getD t 1 = bs.getD t 1 ∨ as.getD t 1 = 1 ∨ bs.getD t 1 = 1

/-- The axes after stretching: as many as the longer list has, and in place of a size of one
the size of the other grid. -/
def stretched (as bs : List Nat) : List Nat :=
  (List.range (max as.length bs.length)).map fun t =>
    if as.getD t 1 = 1 then bs.getD t 1 else as.getD t 1

/-- An index of a grid stands for an index of the stretched grid: the same place on every axis
whose size is not one, and the only place on the others. -/
structure StandsFor (axes i index : List Nat) : Prop where
  mem : i ∈ indices axes
  getD_eq (t : Nat) : i.getD t 0 = if axes.getD t 1 = 1 then 0 else index.getD t 0

/-- Axes fit each other if the innermost ones do and the rest does. -/
theorem fits_cons :
    Fits (a :: as) (b :: bs) ↔ (a = b ∨ a = 1 ∨ b = 1) ∧ Fits as bs := by
  constructor
  · intro h
    exact ⟨h 0, fun t => h (t + 1)⟩
  · rintro ⟨hinner, houter⟩ t
    cases t with
    | zero => exact hinner
    | succ t => exact houter t

theorem fits_refl (axes : List Nat) : Fits axes axes := fun _ => .inl rfl

theorem length_stretched : (stretched as bs).length = max as.length bs.length := by
  rw [stretched, List.length_map, List.length_range]

/-- The stretched size of an axis, also of a missing one. -/
theorem getD_stretched (t : Nat) :
    (stretched as bs).getD t 1 = if as.getD t 1 = 1 then bs.getD t 1 else as.getD t 1 := by
  by_cases ht : t < max as.length bs.length
  · rw [List.getD_eq_getElem _ _ (length_stretched ▸ ht)]
    simp only [stretched, List.getElem_map, List.getElem_range]
  · have has : as.length ≤ t := by omega
    have hbs : bs.length ≤ t := by omega
    rw [List.getD_eq_default _ _ (by rw [length_stretched]; omega),
      List.getD_eq_default _ _ has, List.getD_eq_default _ _ hbs, if_pos rfl]

theorem stretched_cons :
    stretched (a :: as) (b :: bs) = (if a = 1 then b else a) :: stretched as bs := by
  simp only [stretched, List.length_cons, Nat.add_max_add_right, List.range_succ_eq_map,
    List.map_cons, List.map_map]
  rfl

/-- Lists of axes of one length are equal if all sizes are. -/
theorem axes_ext (hlength : as.length = bs.length) (h : ∀ t, as.getD t 1 = bs.getD t 1) :
    as = bs := by
  refine List.ext_getElem hlength fun t has hbs => ?_
  rw [← List.getD_eq_getElem _ 1 has, ← List.getD_eq_getElem _ 1 hbs]
  exact h t

theorem stretched_comm (h : Fits as bs) : stretched as bs = stretched bs as := by
  refine axes_ext (by rw [length_stretched, length_stretched, Nat.max_comm]) fun t => ?_
  rw [getD_stretched, getD_stretched]
  rcases h t with heq | hone | hone
  · rw [heq]
  · split_ifs with hother
    · rw [hone, hother]
    · rfl
  · split_ifs with hother
    · rw [hone, hother]
    · rfl

theorem stretched_self (axes : List Nat) : stretched axes axes = axes := by
  refine axes_ext (by rw [length_stretched, Nat.max_self]) fun t => ?_
  rw [getD_stretched, ite_self]

theorem stretched_nil_left : stretched [] bs = bs := by
  refine axes_ext (by rw [length_stretched, List.length_nil, Nat.zero_max]) fun t => ?_
  rw [getD_stretched]
  rfl

/-- Axes that fit each other are stretched. -/
theorem broadcastAxes?_of_fits (h : Fits as bs) :
    broadcastAxes? as bs = some (stretched as bs) := by
  induction as generalizing bs with
  | nil => rw [broadcastAxes?, stretched_nil_left]
  | cons a as ih =>
    cases bs with
    | nil => rw [broadcastAxes?, stretched_comm h, stretched_nil_left]; exact List.cons_ne_nil _ _
    | cons b bs =>
      obtain ⟨hinner, houter⟩ := fits_cons.mp h
      rw [broadcastAxes?, ih houter, stretched_cons]
      simp only [Option.bind_eq_bind, Option.bind_some, Option.pure_def]
      rcases hinner with rfl | rfl | rfl
      · rw [if_pos (.inl rfl), ite_self]
      · rw [if_pos rfl, if_pos rfl]
        split_ifs with hone
        · rcases hone with rfl | rfl <;> rfl
        · rfl
      · rw [if_pos (.inr rfl)]
        split_ifs with hone
        · rw [hone]
        · rfl

/-- The indices of a grid are those with a place on every axis. -/
theorem mem_indices :
    index ∈ indices axes ↔
      index.length = axes.length ∧ ∀ t, index.getD t 0 < axes.getD t 1 := by
  induction axes generalizing index with
  | nil => cases index <;> simp [indices]
  | cons n axes ih =>
    cases index with
    | nil => simp [indices]
    | cons j index =>
      have hplaces : (∀ t, (j :: index).getD t 0 < (n :: axes).getD t 1) ↔
          j < n ∧ ∀ t, index.getD t 0 < axes.getD t 1 := by
        constructor
        · intro h
          exact ⟨h 0, fun t => h (t + 1)⟩
        · rintro ⟨hinner, houter⟩ t
          cases t with
          | zero => exact hinner
          | succ t => exact houter t
      rw [hplaces, List.length_cons, List.length_cons, Nat.succ_inj]
      simp only [indices, List.mem_flatMap, List.mem_map, List.mem_range, List.cons.injEq]
      constructor
      · rintro ⟨rest, hrest, place, hplace, rfl, rfl⟩
        obtain ⟨hlength, houter⟩ := ih.mp hrest
        exact ⟨hlength, hplace, houter⟩
      · rintro ⟨hlength, hinner, houter⟩
        exact ⟨index, ih.mpr ⟨hlength, houter⟩, j, hinner, rfl, rfl⟩

theorem length_project : (project axes index).length = min axes.length index.length := by
  induction axes generalizing index with
  | nil => simp [project]
  | cons n axes ih =>
    cases index with
    | nil => simp [project]
    | cons j index => rw [project, List.length_cons, ih, List.length_cons, List.length_cons]; omega

/-- Projecting keeps the place on every axis whose size is not one. -/
theorem getD_project (t : Nat) :
    (project axes index).getD t 0 = if axes.getD t 1 = 1 then 0 else index.getD t 0 := by
  induction axes generalizing index t with
  | nil => simp [project]
  | cons n axes ih =>
    cases index with
    | nil => simp [project]
    | cons j index =>
      cases t with
      | zero => rfl
      | succ t => exact ih t

/-- An index of a grid is projected to itself on the grid's own axes. -/
theorem project_of_mem (hindex : index ∈ indices axes) : project axes index = index := by
  induction axes generalizing index with
  | nil =>
    obtain rfl := List.mem_singleton.mp hindex
    rfl
  | cons n axes ih =>
    obtain ⟨rest, hrest, hcons⟩ := List.mem_flatMap.mp hindex
    obtain ⟨j, hj, rfl⟩ := List.mem_map.mp hcons
    have hlt : j < n := List.mem_range.mp hj
    rw [project, ih hrest]
    split_ifs with hone
    · have hzero : j = 0 := by omega
      rw [hzero]
    · rfl

/-- An index of the stretched grid is stood for by its projection. -/
theorem standsFor_project (h : index ∈ indices (stretched as bs)) :
    StandsFor as (project as index) index where
  mem := by
    obtain ⟨hlength, hplaces⟩ := mem_indices.mp h
    refine mem_indices.mpr ⟨?_, fun t => ?_⟩
    · rw [length_project, hlength, length_stretched]
      omega
    · have hplace := hplaces t
      rw [getD_stretched] at hplace
      rw [getD_project]
      split_ifs at hplace ⊢ with hone
      · omega
      · exact hplace
  getD_eq := getD_project

end TowerFold.Grid
