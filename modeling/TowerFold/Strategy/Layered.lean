import TowerFold.Packed.Conversion

/-!
# Layered folds

The fold from the leaves up on packed elements: every round joins neighbours of a whole
layer by the innermost factor that is left.
-/

namespace TowerFold

/-- Neighbours of a layer joined by one factor. -/
def joinPacked (factor : Packed) : List Packed → List Packed
  | left :: right :: rest => left.add (right.mul factor) :: joinPacked factor rest
  | _ => []

/-- The fold by packed layers, last factor first. -/
def foldLayered (values factors : List Operand) : Except Fault Operand := do
  let layer ← packValues values
  let factors ← packValues factors
  match factors.reverse.foldl (fun layer factor => joinPacked factor layer) layer with
  | result :: _ => return .qm31 result.toQM31
  | [] => throw .shortAxis

end TowerFold
