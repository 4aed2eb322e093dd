import TowerFold.Fault
import TowerFold.Packed.Element
import TowerFold.Packed.Grid

/-!
# Arithmetic on grids of machine words

Grids combine entry by entry after broadcasting. Complex numbers are spread over two
grids, and elements of degree four lie in four words along the innermost axis.
-/

namespace TowerFold.Grid

variable {α β γ : Type}

/-- Two grids combined entry by entry after broadcasting. -/
def zipWith (f : α → β → γ) (x : Grid α) (y : Grid β) : Except Fault (Grid γ) :=
  match broadcastAxes? x.axes y.axes with
  | some axes =>
    .ok ⟨axes, fun index => f (x.entry (project x.axes index)) (y.entry (project y.axes index))⟩
  | none => .error (.shapeMismatch x.shape y.shape)

/-- The reduced sums of the entries. -/
def add (x y : Grid UInt64) : Except Fault (Grid UInt64) := zipWith Word.add x y

/-- The reduced differences of the entries. -/
def sub (x y : Grid UInt64) : Except Fault (Grid UInt64) := zipWith Word.sub x y

/-- The reduced products of the entries. -/
def mul (x y : Grid UInt64) : Except Fault (Grid UInt64) := zipWith Word.mul x y

/-- Products of complex numbers whose coordinates are spread over two grids each. -/
def complexMul (a₀ a₁ b₀ b₁ : Grid UInt64) :
    Except Fault (Grid UInt64 × Grid UInt64) := do
  let re ← sub (← mul a₀ b₀) (← mul a₁ b₁)
  let im ← add (← mul a₀ b₁) (← mul a₁ b₀)
  return (re, im)

/-- The packed elements along the innermost axis, which holds at least four words; the
words after the fourth are not looked at. -/
def packed (g : Grid UInt64) : Except Fault (Grid Packed) :=
  match g.axes with
  | [] => .error .shortAxis
  | n :: axes =>
    if n < 4 then .error .shortAxis
    else .ok ⟨axes, fun index => ⟨g.entry (0 :: index), g.entry (1 :: index),
      g.entry (2 :: index), g.entry (3 :: index)⟩⟩

/-- The words of packed elements along a new innermost axis. -/
def unpacked (g : Grid Packed) : Grid UInt64 where
  axes := 4 :: g.axes
  entry
    | j :: index => (g.entry index).word j
    | [] => 0

/-- Products of packed elements, which lie along the innermost axes. -/
def packedMul (x y : Grid UInt64) : Except Fault (Grid UInt64) := do
  let x ← x.packed
  let y ← y.packed
  return (← zipWith Packed.mul x y).unpacked

/-- A list of packed elements as a grid with an element in every row. -/
def ofRows (rows : List Packed) : Grid UInt64 :=
  let rows := rows.toArray
  unpacked ⟨[rows.size], fun index => rows.getD (index.headD 0) ⟨0, 0, 0, 0⟩⟩

end TowerFold.Grid
