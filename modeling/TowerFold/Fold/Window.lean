import TowerFold.Fold.Halves

/-!
# Folding a window

The same tree as the fold by halves, addressed by indices into two shared sequences
that are never cut. A window says which values and which factors remain.

The recursion itself is bounded by the window alone. A window that is asked for from
outside may have more levels than factors, and is refused when these are too many.
-/

namespace TowerFold

/-- The values from `start` on, `size` of them, under the factors from `level` on. -/
structure Window where
  /-- The index of the first value. -/
  start : Int
  /-- How many values there are. -/
  size : Int
  /-- The index of the first factor. -/
  level : Int
  deriving DecidableEq

namespace Window

/-- The first half of a window, one level down. -/
def left (w : Window) : Window := ⟨w.start, w.size / 2, w.level + 1⟩

/-- The second half of a window, one level down. -/
def right (w : Window) : Window := ⟨w.start + w.size / 2, w.size / 2, w.level + 1⟩

/-- The number of levels of a window over `count` factors. -/
def depth (w : Window) (count : Nat) : Nat := (count - w.level).toNat

/-- The number of values that a window over `count` factors has to hold. -/
def expectedSize (w : Window) (count : Nat) : Nat :=
  leafCount (w.depth count)

end Window

/-- The fold of a window, whose size is checked against its level at every step. -/
def foldWindow (e : Embedding) (values : Operand) (factors : List Operand) (w : Window) :
    Except Fault Operand :=
  if (factors.length : Int) < w.level then .error .levelTooDeep
  else if _hsize : w.size ≠ w.expectedSize factors.length then
    .error (Fault.levelSize w.level w.size (w.expectedSize factors.length)).stated
  else if _hone : w.size = 1 then do
    e.apply (← values.itemFrom w.start)
  else do
    let left ← foldWindow e values factors w.left
    let right ← foldWindow e values factors w.right
    join left right (← Operand.itemAt factors w.level (.noFactor w.level))
termination_by w.depth factors.length
decreasing_by
  all_goals
    have hdepth : w.depth factors.length ≠ 0 := by
      intro hzero
      simp [Window.expectedSize, hzero] at _hsize
      exact _hone _hsize
    simp only [Window.depth, Window.left, Window.right] at hdepth ⊢
    omega

/-- The largest number of levels that are folded inside each other. -/
def nestingLimit : Nat := 990

/-- The levels of a window over `count` factors have to be few enough: for its size to be
computed and, where it has that size, for its fold to be nested. -/
def Window.checkDepth (w : Window) (count : Nat) : Except Fault Unit := do
  checkExponent (w.depth count)
  if nestingLimit < w.depth count ∧ w.size = w.expectedSize count then
    throw .nestedTooDeep

/-- The fold of a window into any operands, of which the factors have to be a sequence. -/
def foldWithin (e : Embedding) (values factors : Operand) (w : Window) :
    Except Fault Operand := do
  let fs ← factors.elements
  w.checkDepth fs.length
  foldWindow e values fs w

end TowerFold
