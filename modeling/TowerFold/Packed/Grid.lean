/-!
# Grids

Rectangular arrays of any number of axes. Two grids can be matched by broadcasting: axes
are paired from the innermost one, and a missing axis or one of size one is stretched to
the other's size.

Axes and indices are listed from the innermost outwards, so that matching axes stand at
the same place in both lists.
-/

namespace TowerFold

/-- A rectangular array: the sizes of its axes and the entry at every index, both from
the innermost axis outwards. -/
structure Grid (α : Type) where
  /-- The sizes of the axes. -/
  axes : List Nat
  /-- The entry at an index. -/
  entry : List Nat → α

namespace Grid

variable {α : Type}

/-- A grid without axes, which has a single entry. -/
def single (x : α) : Grid α := ⟨[], fun _ => x⟩

/-- The sizes of the axes from the outermost inwards. -/
def shape (g : Grid α) : List Nat := g.axes.reverse

/-- The number of entries. -/
def count (g : Grid α) : Nat := g.axes.foldl (· * ·) 1

/-- The position of an index in a row by row list of all entries. -/
def position : (axes index : List Nat) → Nat
  | n :: axes, j :: index => j + n * position axes index
  | _, _ => 0

/-- All indices, row by row. -/
def indices : (axes : List Nat) → List (List Nat)
  | [] => [[]]
  | n :: axes => (indices axes).flatMap fun index => (List.range n).map (· :: index)

/-- The entries row by row. -/
def items (g : Grid α) : List α := (indices g.axes).map g.entry

/-- The grid with the given entries row by row; those that are missing are default
ones. -/
def ofItems [Inhabited α] (axes : List Nat) (items : List α) : Grid α :=
  let items := items.toArray
  ⟨axes, fun index => items.getD (position axes index) default⟩

/-- A grid whose entries have been computed once and for all. -/
def settled [Inhabited α] (g : Grid α) : Grid α := ofItems g.axes g.items

/-- The slices of a grid along its outermost axis, if it has one. -/
def slices? (g : Grid α) : Option (List (Grid α)) :=
  match g.shape with
  | [] => none
  | n :: inner =>
    some ((List.range n).map fun i => ⟨inner.reverse, fun index => g.entry (index ++ [i])⟩)

/-- The axes that two grids share after stretching, if they fit each other. -/
def broadcastAxes? : List Nat → List Nat → Option (List Nat)
  | [], bs => some bs
  | as, [] => some as
  | a :: as, b :: bs => do
    let rest ← broadcastAxes? as bs
    if a = b ∨ b = 1 then return a :: rest
    else if a = 1 then return b :: rest
    else none

/-- The index into a grid of the given axes that an index into a stretched grid stands
for: additional axes are dropped, and on an axis of size one only zero is left. -/
def project : (axes index : List Nat) → List Nat
  | n :: axes, j :: index => (if n = 1 then 0 else j) :: project axes index
  | _, _ => []

end Grid

end TowerFold
