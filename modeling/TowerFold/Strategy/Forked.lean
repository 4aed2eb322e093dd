import TowerFold.Fold.Halves

/-!
# Forked folds

The values are cut into equal blocks, each block is folded on its own by the lower
factors, and the results are joined by the top factors, the innermost of them first.
-/

namespace TowerFold

/-- The first `count` blocks of `size` items each. -/
def blocks {α : Type} (size : Nat) : (count : Nat) → List α → List (List α)
  | 0, _ => []
  | count + 1, items => items.take size :: blocks size count (items.drop size)

/-- Neighbouring results of a layer joined by one factor, from left to right. -/
def joinLayer (factor : Operand) : List Operand → Except Fault (List Operand)
  | left :: right :: rest => do
    let first ← join left right factor
    let others ← joinLayer factor rest
    return first :: others
  | _ => .ok []

/-- The fold with the top `depth` levels forked: the block that fails first decides the
fault, and a join is reached only when every block has been folded. -/
def foldForked (e : Embedding) (depth : Nat) (values factors : List Operand) :
    Except Fault Operand := do
  let parts := blocks (values.length / leafCount depth) (leafCount depth) values
  let layer ← parts.mapM fun block => foldList e block (factors.drop depth)
  let top ← (factors.take depth).reverse.foldlM (fun layer factor => joinLayer factor layer) layer
  match top with
  | result :: _ => return result
  | [] => throw (.indexOutOfRange (.group .square []))

end TowerFold
