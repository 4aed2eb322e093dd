import TowerFold.Proofs.Field.Extension
import TowerFold.Proofs.Operand.Regular

/-!
# Arithmetic with an element on the left

What an element of a field, or an integer, on the left of a sum, a product or a quotient makes
of the right operand. An element of an extension answers with the coerced operand whatever it is,
also where it is computed by scaling coordinates.
-/

namespace TowerFold

variable {v : Operand} {k : M31}

/-- A complex element times an operand is its product with the coerced operand. -/
theorem CM31.times_eq (x : CM31) (v : Operand) :
    x.times v = do return x * (← CM31.ofOperand v) := by
  cases hv : v.toM31? with
  | none => simp only [CM31.times, hv]
  | some k =>
    simp only [CM31.times, hv, CM31.ofOperand_of_toM31? hv, CM31.scale_eq_mul, ok_bind, pure_eq_ok]

/-- An element of degree four times an operand is its product with the coerced operand. -/
theorem QM31.times_eq (x : QM31) (v : Operand) :
    QM31.times x v = do return x * (← QM31.ofOperand v) := by
  cases hv : v.toM31? with
  | none => simp only [QM31.times, hv]
  | some k =>
    simp only [QM31.times, hv, QM31.ofOperand_of_toM31? hv, QM31.scale_eq_mul, ok_bind, pure_eq_ok]

/-- A missing inverse is a regular fault. -/
theorem orZeroInverse_endsRegularly {α : Type} (x : Option α) : EndsRegularly (orZeroInverse x) := by
  cases x with
  | none => exact .error rfl
  | some a => exact .ok a

namespace Operand

/-- What counts as an integer is no irregular element. -/
theorem isIrregular_of_toInt? {n : ℤ} (hv : v.toInt? = some n) : v.isIrregular = false := by
  cases v with
  | irregular => cases hv
  | _ => rfl

/-- What counts as integers is added as integers. -/
theorem add_of_toInt? {w : Operand} {m n : ℤ} (hv : v.toInt? = some m) (hw : w.toInt? = some n) :
    v.add w = .ok (.int (m + n)) := by
  have hanswer : Operator.plainSum? v w = some (.ok (.int (m + n))) := by
    simp only [Operator.plainSum?, hv, hw]
  have hother : w.isIrregular = false := isIrregular_of_toInt? hw
  cases v with
  | int | bool => exact Operator.apply_of_left rfl hother hanswer (.ok _)
  | _ => cases hv

/-- What counts as integers is multiplied as integers. -/
theorem mul_of_toInt? {w : Operand} {m n : ℤ} (hv : v.toInt? = some m) (hw : w.toInt? = some n) :
    v.mul w = .ok (.int (m * n)) := by
  have hanswer : Operator.plainProduct? v w = some (.ok (.int (m * n))) := by
    simp only [Operator.plainProduct?, hv, hw]
  have hother : w.isIrregular = false := isIrregular_of_toInt? hw
  cases v with
  | int | bool => exact Operator.apply_of_left rfl hother hanswer (.ok _)
  | _ => cases hv

/-- A base-field element adds a scalar. -/
theorem m31_add (x : M31) (hv : v.toM31? = some k) :
    (m31 x).add v = .ok (.m31 (x + k)) := by
  have hanswer : Operator.add.left (m31 x) v = some (.ok (.m31 (x + k))) := by
    simp only [Operator.left, Operator.ownLeft, Operator.addLeft, hv, Option.map_some]
  exact Operator.apply_of_left rfl (isIrregular_of_toM31? hv) hanswer (.ok _)

/-- A base-field element is multiplied by a scalar. -/
theorem m31_mul (x : M31) (hv : v.toM31? = some k) :
    (m31 x).mul v = .ok (.m31 (x * k)) := by
  have hanswer : Operator.mul.left (m31 x) v = some (.ok (.m31 (x * k))) := by
    simp only [Operator.left, Operator.ownLeft, Operator.mulLeft, hv, Option.map_some]
  exact Operator.apply_of_left rfl (isIrregular_of_toM31? hv) hanswer (.ok _)

/-- A base-field element is divided by a scalar. -/
theorem m31_div (x : M31) (hv : v.toM31? = some k) :
    (m31 x).div v = do return .m31 (← orZeroInverse (x.div? k)) := by
  have hanswer : Operator.div.left (m31 x) v =
      some (do return .m31 (← orZeroInverse (x.div? k))) := by
    simp only [Operator.left, Operator.ownLeft, Operator.divLeft, hv, Option.map_some]
  exact Operator.apply_of_left rfl (isIrregular_of_toM31? hv) hanswer
    ((orZeroInverse_endsRegularly _).bind fun _ _ => .ok _)

/-- A complex element adds the coerced operand. -/
theorem cm31_add (x : CM31) (hv : StaysRegular CM31.ofOperand v) :
    (cm31 x).add v = do return .cm31 (x + (← CM31.ofOperand v)) :=
  Operator.apply_of_left rfl hv.isIrregular_eq rfl (hv.endsRegularly.bind fun _ _ => .ok _)

/-- A complex element is multiplied by the coerced operand. -/
theorem cm31_mul (x : CM31) (hv : StaysRegular CM31.ofOperand v) :
    (cm31 x).mul v = do return .cm31 (x * (← CM31.ofOperand v)) := by
  have hanswer : Operator.mul.left (cm31 x) v =
      some (do return .cm31 (x * (← CM31.ofOperand v))) := by
    simp only [Operator.left, Operator.ownLeft, Operator.mulLeft, CM31.times_eq, bind_assoc,
      pure_bind]
  exact Operator.apply_of_left rfl hv.isIrregular_eq hanswer
    (hv.endsRegularly.bind fun _ _ => .ok _)

/-- The product of a complex element and an operand that its field accepts. -/
theorem cm31_mul_of_ok (x : CM31) {y : CM31} (hv : CM31.ofOperand v = .ok y) :
    (cm31 x).mul v = .ok (.cm31 (x * y)) := by
  rw [cm31_mul x (.of_cm31 hv), hv]
  rfl

/-- An element of degree four adds the coerced operand. -/
theorem qm31_add (x : QM31) (hv : StaysRegular QM31.ofOperand v) :
    (qm31 x).add v = do return .qm31 (x + (← QM31.ofOperand v)) :=
  Operator.apply_of_left rfl hv.isIrregular_eq rfl (hv.endsRegularly.bind fun _ _ => .ok _)

/-- The sum of an element of degree four and an operand that its field accepts. -/
theorem qm31_add_of_ok (x : QM31) {y : QM31} (hv : QM31.ofOperand v = .ok y) :
    (qm31 x).add v = .ok (.qm31 (x + y)) := by
  rw [qm31_add x (.of_qm31 hv), hv]
  rfl

/-- An element of degree four is multiplied by the coerced operand. -/
theorem qm31_mul (x : QM31) (hv : StaysRegular QM31.ofOperand v) :
    (qm31 x).mul v = do return .qm31 (x * (← QM31.ofOperand v)) := by
  have hanswer : Operator.mul.left (qm31 x) v =
      some (do return .qm31 (x * (← QM31.ofOperand v))) := by
    simp only [Operator.left, Operator.ownLeft, Operator.mulLeft, QM31.times_eq, bind_assoc,
      pure_bind]
  exact Operator.apply_of_left rfl hv.isIrregular_eq hanswer
    (hv.endsRegularly.bind fun _ _ => .ok _)

/-- The product of an element of degree four and an operand that its field accepts. -/
theorem qm31_mul_of_ok (x : QM31) {y : QM31} (hv : QM31.ofOperand v = .ok y) :
    (qm31 x).mul v = .ok (.qm31 (x * y)) := by
  rw [qm31_mul x (.of_qm31 hv), hv]
  rfl

/-- An element of degree four is divided by another. -/
theorem qm31_div (x y : QM31) :
    (qm31 x).div (.qm31 y) = do return .qm31 (← orZeroInverse (QM31.div? x y)) := by
  have hcoerced : QM31.over x (.qm31 y) = orZeroInverse (QM31.div? x y) := by
    simp only [QM31.over, toM31?, toInt?, Option.map_none, QM31.ofOperand_qm31, ok_bind]
  have hanswer : Operator.div.left (qm31 x) (.qm31 y) =
      some (do return .qm31 (← orZeroInverse (QM31.div? x y))) := by
    simp only [Operator.left, Operator.ownLeft, Operator.divLeft, hcoerced]
  exact Operator.apply_of_left rfl rfl hanswer
    ((orZeroInverse_endsRegularly _).bind fun _ _ => .ok _)

end Operand

end TowerFold
