import TowerFold.Operand.Coercion

/-!
# Embeddings of leaves

A fold first puts every single value into the domain in which it computes. Besides the
three fields, that domain may be the exact integers, or nothing may be changed.
-/

namespace TowerFold

/-- Where the values of a fold are put. -/
inductive Embedding
  /-- Values stay what they are. -/
  | identity
  /-- Values become exact integers. -/
  | integer
  /-- Values become base-field elements. -/
  | m31
  /-- Values become complex elements. -/
  | cm31
  /-- Values become elements of degree four. -/
  | qm31
  deriving DecidableEq

/-- A single value embedded. What a class accepts as an irregular element becomes that. -/
def Embedding.apply : Embedding → Operand → Except Fault Operand
  | .identity, v => .ok v
  | .integer, v => do return .int (← v.toInteger)
  | .m31, v => orIrregular do return .m31 (← M31.ofOperand v)
  | .cm31, v => orIrregular do return .cm31 (← CM31.ofOperand v)
  | .qm31, v => orIrregular do return .qm31 (← QM31.ofOperand v)

end TowerFold
