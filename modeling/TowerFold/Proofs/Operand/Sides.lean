import TowerFold.Proofs.Operand.Elements

/-!
# Arithmetic on both sides of an element

On the right of an element of an extension an operand is coerced, also where a scalar is inverted
in the base field instead. On the left an operand leaves the answer to the element, unless it is a
word or a grid, or an element of the other extension.
-/

namespace TowerFold

variable {v : Operand}

/-- The copy of a base-field element has the copy of its inverse as inverse. -/
theorem QM31.inverse?_ofM31 (k : M31) :
    QM31.inverse? (.ofM31 k) = k.inverse?.map QM31.ofM31 := by
  cases hk : k.inverse? with
  | none =>
    obtain rfl := (M31.inverts_inverse?.eq_none_iff k).mp hk
    exact (QM31.inverts_inverse?.eq_none_iff _).mpr rfl
  | some l =>
    rw [Option.map_some, QM31.inverts_inverse?.eq_some_iff, ← QM31.ofM31_mul,
      (M31.inverts_inverse?.eq_some_iff k l).mp hk]
    rfl

/-- An element of degree four divided by an operand is its quotient by the coerced operand. -/
theorem QM31.over_eq (x : QM31) (v : Operand) :
    QM31.over x v = (do orZeroInverse (QM31.div? x (← QM31.ofOperand v))) := by
  cases hv : v.toM31? with
  | none => simp only [QM31.over, hv]
  | some k =>
    have hover : QM31.over x v = do return QM31.scale x (← orZeroInverse k.inverse?) := by
      simp only [QM31.over, hv]
    rw [hover, QM31.ofOperand_of_toM31? hv, ok_bind, QM31.div?, QM31.inverse?_ofM31]
    cases k.inverse? with
    | none => rfl
    | some l => exact congrArg Except.ok (QM31.scale_eq_mul x l)

namespace Operand

/-- A complex element less the coerced operand. -/
theorem cm31_sub (x : CM31) (hv : StaysRegular CM31.ofOperand v) :
    (cm31 x).sub v = do return .cm31 (x - (← CM31.ofOperand v)) :=
  Operator.apply_of_left rfl hv.isIrregular_eq rfl (hv.endsRegularly.bind fun _ _ => .ok _)

/-- An element of degree four less the coerced operand. -/
theorem qm31_sub (x : QM31) (hv : StaysRegular QM31.ofOperand v) :
    (qm31 x).sub v = do return .qm31 (x - (← QM31.ofOperand v)) :=
  Operator.apply_of_left rfl hv.isIrregular_eq rfl (hv.endsRegularly.bind fun _ _ => .ok _)

/-- An element of degree four divided by the coerced operand. -/
theorem qm31_div_coerced (x : QM31) (hv : StaysRegular QM31.ofOperand v) :
    (qm31 x).div v = do
      return .qm31 (← orZeroInverse (QM31.div? x (← QM31.ofOperand v))) := by
  have hanswer : Operator.div.left (qm31 x) v = some (do
      return .qm31 (← orZeroInverse (QM31.div? x (← QM31.ofOperand v)))) := by
    simp only [Operator.left, Operator.ownLeft, Operator.divLeft, QM31.over_eq, bind_assoc]
  exact Operator.apply_of_left rfl hv.isIrregular_eq hanswer
    (hv.endsRegularly.bind fun _ _ => (orZeroInverse_endsRegularly _).bind fun _ _ => .ok _)

/-- A complex element answers for what stands on the left of it in a sum, unless that is packed
or an element of degree four. -/
theorem add_cm31 (hplain : v.isPacked = false) (hforeign : ∀ y, v ≠ .qm31 y)
    (hv : StaysRegular CM31.ofOperand v) (x : CM31) :
    v.add (.cm31 x) = do return .cm31 (x + (← CM31.ofOperand v)) := by
  have hends : EndsRegularly (do return cm31 (x + (← CM31.ofOperand v))) :=
    hv.endsRegularly.bind fun _ _ => .ok _
  cases v with
  | word | grid => cases hplain
  | irregular => cases hv.isIrregular_eq
  | qm31 y => exact absurd rfl (hforeign y)
  | cm31 y => exact congrArg (fun z => Except.ok (cm31 z)) (add_comm y x)
  | group b items => cases b <;> exact Operator.apply_of_right rfl rfl rfl rfl hends
  | _ => exact Operator.apply_of_right rfl rfl rfl rfl hends

/-- A complex element answers for what stands on the left of it in a product, unless that is packed
or an element of degree four. -/
theorem mul_cm31 (hplain : v.isPacked = false) (hforeign : ∀ y, v ≠ .qm31 y)
    (hv : StaysRegular CM31.ofOperand v) (x : CM31) :
    v.mul (.cm31 x) = do return .cm31 (x * (← CM31.ofOperand v)) := by
  have hends : EndsRegularly (do return cm31 (x * (← CM31.ofOperand v))) :=
    hv.endsRegularly.bind fun _ _ => .ok _
  have hanswer : Operator.mul.right v (.cm31 x) =
      some (do return .cm31 (x * (← CM31.ofOperand v))) := by
    simp only [Operator.right, Operator.ownRight, Operator.mulRight, CM31.times_eq, bind_assoc,
      pure_bind]
  cases v with
  | word | grid => cases hplain
  | irregular => cases hv.isIrregular_eq
  | qm31 y => exact absurd rfl (hforeign y)
  | cm31 y => rw [elementClass_cm31.mul, mul_comm]; rfl
  | _ => exact Operator.apply_of_right rfl rfl rfl hanswer hends

/-- An element of degree four answers for what stands on the left of it in a sum, unless that is
packed or a complex element. -/
theorem add_qm31 (hplain : v.isPacked = false) (hforeign : ∀ y, v ≠ .cm31 y)
    (hv : StaysRegular QM31.ofOperand v) (x : QM31) :
    v.add (.qm31 x) = do return .qm31 (x + (← QM31.ofOperand v)) := by
  have hends : EndsRegularly (do return qm31 (x + (← QM31.ofOperand v))) :=
    hv.endsRegularly.bind fun _ _ => .ok _
  cases v with
  | word | grid => cases hplain
  | irregular => cases hv.isIrregular_eq
  | cm31 y => exact absurd rfl (hforeign y)
  | qm31 y => exact congrArg (fun z => Except.ok (qm31 z)) (add_comm y x)
  | group b items => cases b <;> exact Operator.apply_of_right rfl rfl rfl rfl hends
  | _ => exact Operator.apply_of_right rfl rfl rfl rfl hends

/-- An element of degree four answers for what stands on the left of it in a difference, unless
that is packed or a complex element. -/
theorem sub_qm31 (hplain : v.isPacked = false) (hforeign : ∀ y, v ≠ .cm31 y)
    (hv : StaysRegular QM31.ofOperand v) (x : QM31) :
    v.sub (.qm31 x) = do return .qm31 (-x + (← QM31.ofOperand v)) := by
  have hends : EndsRegularly (do return qm31 (-x + (← QM31.ofOperand v))) :=
    hv.endsRegularly.bind fun _ _ => .ok _
  cases v with
  | word | grid => cases hplain
  | irregular => cases hv.isIrregular_eq
  | cm31 y => exact absurd rfl (hforeign y)
  | qm31 y => exact congrArg (fun z => Except.ok (qm31 z)) (neg_add_eq_sub x y).symm
  | _ => exact Operator.apply_of_right rfl rfl rfl rfl hends

/-- An element of degree four answers for what stands on the left of it in a product, unless that
is packed or a complex element. -/
theorem mul_qm31 (hplain : v.isPacked = false) (hforeign : ∀ y, v ≠ .cm31 y)
    (hv : StaysRegular QM31.ofOperand v) (x : QM31) :
    v.mul (.qm31 x) = do return .qm31 (x * (← QM31.ofOperand v)) := by
  have hends : EndsRegularly (do return qm31 (x * (← QM31.ofOperand v))) :=
    hv.endsRegularly.bind fun _ _ => .ok _
  have hanswer : Operator.mul.right v (.qm31 x) =
      some (do return .qm31 (x * (← QM31.ofOperand v))) := by
    simp only [Operator.right, Operator.ownRight, Operator.mulRight, QM31.times_eq, bind_assoc,
      pure_bind]
  cases v with
  | word | grid => cases hplain
  | irregular => cases hv.isIrregular_eq
  | cm31 y => exact absurd rfl (hforeign y)
  | qm31 y => rw [elementClass_qm31.mul, mul_comm]; rfl
  | _ => exact Operator.apply_of_right rfl rfl rfl hanswer hends

end Operand

end TowerFold
