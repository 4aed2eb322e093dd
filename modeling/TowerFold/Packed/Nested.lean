import TowerFold.Operand.Coercion
import TowerFold.Packed.Kernel

/-!
# Nested lists of integers

Grids written as nested groups, and read from them. A group may also hold words and
grids, which are nested as deeply as they have axes.
-/

namespace TowerFold.Grid

mutual

/-- The axes of nested groups, from the outermost inwards; all items of a group have to
agree in theirs. -/
def nestedShape : Operand → Except Fault (List Nat)
  | .grid g => .ok g.shape
  | .group _ items => do
    match ← itemShapes items with
    | [] => return [0]
    | first :: rest =>
      if rest.all (· == first) then return items.length :: first
      else .error .ragged
  | _ => .ok []

/-- The axes of every item. -/
def itemShapes : List Operand → Except Fault (List (List Nat))
  | [] => .ok []
  | v :: rest => do
    let first ← nestedShape v
    let others ← itemShapes rest
    return first :: others

end

/-- The machine word that an operand fits which stands for an integer. -/
def toWord (v : Operand) : Except Fault UInt64 := do
  let n ← v.toInteger
  if 0 ≤ n ∧ n < UInt64.size then return UInt64.ofNat n.toNat else throw (.wordOverflow n)

mutual

/-- The words of nested groups, row by row. -/
def nestedWords : Operand → Except Fault (List UInt64)
  | .grid g => .ok g.items
  | .group _ items => itemWords items
  | v => do return [← toWord v]

/-- The words of several items, one after the other. -/
def itemWords : List Operand → Except Fault (List UInt64)
  | [] => .ok []
  | v :: rest => do
    let first ← nestedWords v
    let others ← itemWords rest
    return first ++ others

end

/-- The largest number of axes of a grid. -/
def axisLimit : Nat := 64

/-- The axes of a grid that nested groups write, of which there are not too many. -/
def shapeOf (v : Operand) : Except Fault (List Nat) := do
  let shape ← nestedShape v
  if axisLimit < shape.length then throw .tooManyAxes
  return shape

/-- The grid that nested groups of integers write. Its shape is settled before the
integers are looked at. -/
def ofOperand (v : Operand) : Except Fault (Grid UInt64) := do
  let axes := (← shapeOf v).reverse
  return ofItems axes (← nestedWords v)

/-- The nested lists of a grid below an index of its outer axes, where `outer` lists
the axes that remain from the outermost inwards. -/
def nestedFrom (g : Grid UInt64) (index : List Nat) : (outer : List Nat) → Operand
  | [] => .int (g.entry index).toNat
  | n :: outer => .group .square ((List.range n).map fun j => g.nestedFrom (j :: index) outer)

/-- A grid as nested lists of integers. -/
def toNested (g : Grid UInt64) : Operand := g.nestedFrom [] g.shape

end TowerFold.Grid
