import TowerFold.Embedding
import TowerFold.Fold.Sizes
import TowerFold.Operand.Arithmetic

/-!
# The fold

Values are folded by halves: the first factor joins the folds of the two halves, the
last one joins neighbouring leaves. So the values `a, b, c, d` under the factors `x, y`
fold to `(a + b·y) + (c + d·y)·x`.

The left half is folded before the right one, so the first step that fails in this
order decides the fault.
-/

namespace TowerFold

/-- Two neighbouring results joined by a factor: `left + right · factor`. -/
def join (left right factor : Operand) : Except Fault Operand := do
  left.add (← right.mul factor)

/-- The fold by halves. With no factors left, the single value is embedded. -/
def foldHalves (e : Embedding) : (factors values : List Operand) → Except Fault Operand
  | [], value :: _ => e.apply value
  | [], [] => .error (.indexOutOfRange (.group .square []))
  | factor :: factors, values => do
    let half := leafCount factors.length
    let left ← foldHalves e factors (values.take half)
    let right ← foldHalves e factors (values.drop half)
    join left right factor

/-- The fold of a list of values, whose sizes are checked first. -/
def foldList (e : Embedding) (values factors : List Operand) : Except Fault Operand := do
  checkSizes values.length factors.length
  foldHalves e factors values

/-- The fold of any operands: they have to be sequences of matching sizes. -/
def fold (e : Embedding) (values factors : Operand) : Except Fault Operand := do
  let (vs, fs) ← sized values factors
  foldHalves e fs vs

end TowerFold
