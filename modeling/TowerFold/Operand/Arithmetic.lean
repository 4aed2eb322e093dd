import TowerFold.Operand.RawArithmetic

/-!
# Arithmetic between kinds

The operators between any operands. Between elements of the fields, and whatever these accept as
their own, they are the arithmetic of the fields. Where an irregular element turns up, on one side
or by coercion, the classes go on with what they keep.
-/

namespace TowerFold

/-- The outcome of an operator. -/
def Operator.apply (op : Operator) (x y : Operand) : Except Fault Operand :=
  if x.isIrregular || y.isIrregular then op.raw x y
  else
    match op.regular x y with
    | .error (.irregular _) => op.raw x y
    | outcome => outcome

namespace Operand

/-- The sum of two operands. -/
def add (x y : Operand) : Except Fault Operand := Operator.add.apply x y

/-- The difference of two operands. -/
def sub (x y : Operand) : Except Fault Operand := Operator.sub.apply x y

/-- The product of two operands. -/
def mul (x y : Operand) : Except Fault Operand := Operator.mul.apply x y

/-- The quotient of two operands. -/
def div (x y : Operand) : Except Fault Operand := Operator.div.apply x y

/-- The power of an operand by an operand. -/
def pow (x y : Operand) : Except Fault Operand := Operator.pow.apply x y

/-- The negative of an operand. -/
def neg : Operand → Except Fault Operand
  | .m31 x => .ok (.m31 (-x))
  | .cm31 x => .ok (.cm31 (-x))
  | .qm31 x => .ok (.qm31 (-x))
  | .irregular x => x.element.neg
  | v =>
    match v.toInt? with
    | some n => .ok (.int (-n))
    | none => .error (.noNegative v)

/-- The inverse of an element. -/
def inverse : Operand → Except Fault Operand
  | .m31 x => do return .m31 (← orZeroInverse x.inverse?)
  | .cm31 x => do return .cm31 (← orZeroInverse x.inverse?)
  | .qm31 x => do return .qm31 (← orZeroInverse (QM31.inverse? x))
  | .irregular x => x.element.inverse
  | v => .error (.noInverse v)

end Operand

end TowerFold
