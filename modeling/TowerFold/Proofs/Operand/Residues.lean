import TowerFold.Proofs.Field.Inverse
import TowerFold.Proofs.Operand.Regular

/-!
# Steps on residues

The classes compute coordinate by coordinate, and take a remainder in every step. On residues every
step is one of the base field, so the steps of an operation make up that operation of the field.
-/

namespace TowerFold

/-! ## Steps of the base class -/

namespace Representative

/-- An operator between integers leaves the residue of its result. -/
theorem combine_residue {op : Operator} {x y z : M31} {n : ℤ}
    (hop : op.regular (.int x.val) (.int y.val) = .ok (.int n)) (hn : M31.ofInt n = z) :
    combine op (.residue x) (.residue y) = .ok (.residue z) := by
  have hcombined : op.regular (.ofRepresentative (.residue x)) (.ofRepresentative (.residue y)) =
      .ok (.int n) := hop
  rw [combine, hcombined, ok_bind, ← hn]
  rfl

theorem combine_add (x y : M31) :
    combine .add (.residue x) (.residue y) = .ok (.residue (x + y)) :=
  combine_residue rfl <| M31.toZMod_injective <| by
    rw [M31.toZMod_ofInt, M31.toZMod_add]
    push_cast
    rfl

theorem combine_sub (x y : M31) :
    combine .sub (.residue x) (.residue y) = .ok (.residue (x - y)) :=
  combine_residue rfl <| M31.toZMod_injective <| by
    rw [M31.toZMod_ofInt, M31.toZMod_sub]
    push_cast
    rfl

theorem combine_mul (x y : M31) :
    combine .mul (.residue x) (.residue y) = .ok (.residue (x * y)) :=
  combine_residue rfl <| M31.toZMod_injective <| by
    rw [M31.toZMod_ofInt, M31.toZMod_mul]
    push_cast
    rfl

/-- A residue is true unless it is zero. -/
theorem truth_residue (x : M31) : (residue x).truth = .ok (decide (x ≠ 0)) := by
  have hzero : (x.val : ℤ) ≠ 0 ↔ x ≠ 0 := by
    rw [Ne, Int.natCast_eq_zero, Ne, M31.ext_iff, M31.val_zero]
  exact congrArg Except.ok (decide_eq_decide.mpr hzero)

theorem neg_residue (x : M31) : (residue x).neg = .ok (.residue (-x)) := by
  rw [neg, truth_residue, ok_bind]
  by_cases hx : x = 0
  · subst hx
    rfl
  · have hneg : M31.ofInt (modulus - x.val) = -x := M31.toZMod_injective <| by
      rw [M31.toZMod_ofInt, M31.toZMod_neg]
      push_cast
      rw [ZMod.natCast_self, zero_sub]
      rfl
    rw [← hneg, decide_eq_true hx]
    rfl

theorem inverse_residue (x : M31) :
    (residue x).inverse = do return .residue (← orZeroInverse x.inverse?) := by
  have hzero : (residue x).isZero = .ok (decide (x = 0)) := by
    simp [isZero, truth_residue]
  rw [inverse, hzero, ok_bind]
  by_cases hx : x = 0
  · subst hx
    rfl
  · obtain ⟨y, hy, -⟩ := M31.inverts_inverse?.exists_eq_some hx
    have hpower : Operator.basePower x (-1) = .ok y := by
      have hone : x.power? (-1) = x.inverse?.map fun z => TowerFold.power z 1 := rfl
      rw [Operator.basePower, hone, hy, Option.map_some, power_eq_pow, pow_one]
    rw [decide_eq_false hx, hy]
    simp only [power, Operand.toInt?, hpower]
    rfl

end Representative

/-! ## Steps of the complex class -/

namespace ComplexCoords

open Representative

theorem combine_add_residues (x y : CM31) :
    combine .add x.residues y.residues = .ok (x + y).residues := by
  simp only [combine, zipWithM, CM31.residues, combine_add, ok_bind, pure_eq_ok]
  rfl

theorem combine_sub_residues (x y : CM31) :
    combine .sub x.residues y.residues = .ok (x - y).residues := by
  simp only [combine, zipWithM, CM31.residues, combine_sub, ok_bind, pure_eq_ok]
  rfl

theorem mul_residues (x y : CM31) : mul x.residues y.residues = .ok (x * y).residues := by
  simp only [mul, CM31.residues, combine_add, combine_sub, combine_mul, ok_bind,
    Quadratic.re_mul, Quadratic.im_mul, neg_one_mul, ← sub_eq_add_neg]
  rfl

theorem scale_residues (x : CM31) (k : M31) :
    scale x.residues (.residue k) = .ok (x.scale k).residues := by
  simp only [scale, mapM, CM31.residues, combine_mul, ok_bind, pure_eq_ok]
  rfl

theorem neg_residues (x : CM31) : neg x.residues = .ok (-x).residues := by
  simp only [neg, mapM, CM31.residues, neg_residue, ok_bind, pure_eq_ok]
  rfl

theorem inverse_residues (x : CM31) :
    inverse x.residues = do return (← orZeroInverse x.inverse?).residues := by
  have hnorm : x.re * x.re + x.im * x.im = x.norm := by
    rw [Quadratic.norm, neg_one_mul, sub_neg_eq_add]
  simp only [inverse, CM31.residues, combine_add, combine_mul, neg_residue, inverse_residue, ok_bind,
    hnorm, CM31.inverse?, Quadratic.inverseBy?]
  cases M31.inverse? x.norm with
  | none => rfl
  | some n =>
    simp only [orZeroInverse, Option.map_some, ok_bind, pure_eq_ok, combine_mul]
    rfl

end ComplexCoords

/-! ## Steps of the class of degree four -/

namespace QuarticCoords

theorem halves_residues (x : QM31) : halves (QM31.residues x) = .ok (QM31.residues x) := rfl

theorem combine_add_residues (x y : QM31) :
    combine .add (QM31.residues x) (QM31.residues y) = .ok (QM31.residues (x + y)) := by
  simp only [combine, ComplexCoords.zipWithM, QM31.residues, CM31.residues,
    Representative.combine_add, ok_bind, pure_eq_ok]
  rfl

theorem combine_sub_residues (x y : QM31) :
    combine .sub (QM31.residues x) (QM31.residues y) = .ok (QM31.residues (x - y)) := by
  simp only [combine, ComplexCoords.zipWithM, QM31.residues, CM31.residues,
    Representative.combine_sub, ok_bind, pure_eq_ok]
  rfl

theorem mulHalves_residues (x y : QM31) :
    mulHalves (QM31.residues x) (QM31.residues y) = .ok (QM31.residues (x * y)) := by
  have hnonResidue : nonResidue = CM31.residues TowerFold.nonResidue := rfl
  simp only [mulHalves, QM31.residues, hnonResidue, ComplexCoords.mul_residues,
    ComplexCoords.combine_add_residues, ok_bind, Quadratic.re_mul, Quadratic.im_mul]
  rw [mul_comm TowerFold.nonResidue]
  rfl

theorem mul_residues (x y : QM31) :
    mul (QM31.residues x) (QM31.residues y) = .ok (QM31.residues (x * y)) := by
  rw [mul, halves_residues, halves_residues, ok_bind, ok_bind, mulHalves_residues]

theorem scale_residues (x : QM31) (k : M31) :
    scale (QM31.residues x) (.residue k) = .ok (QM31.residues (QM31.scale x k)) := by
  simp only [scale, mapM, ComplexCoords.mapM, QM31.residues, CM31.residues,
    Representative.combine_mul, ok_bind, pure_eq_ok]
  rfl

theorem neg_residues (x : QM31) : neg (QM31.residues x) = .ok (QM31.residues (-x)) := by
  simp only [neg, mapM, ComplexCoords.mapM, QM31.residues, CM31.residues,
    Representative.neg_residue, ok_bind, pure_eq_ok]
  rfl

theorem inverse_residues (x : QM31) :
    inverse (QM31.residues x) = do return QM31.residues (← orZeroInverse (QM31.inverse? x)) := by
  have hnonResidue : nonResidue = CM31.residues TowerFold.nonResidue := rfl
  have hnorm : x.re * x.re - x.im * x.im * TowerFold.nonResidue = x.norm := by
    rw [Quadratic.norm, mul_comm TowerFold.nonResidue]
  rw [inverse, halves_residues, ok_bind]
  simp only [QM31.residues, hnonResidue, ComplexCoords.mul_residues,
    ComplexCoords.combine_sub_residues, ComplexCoords.inverse_residues,
    ComplexCoords.neg_residues, ok_bind, hnorm, QM31.inverse?, Quadratic.inverseBy?]
  cases CM31.inverse? x.norm with
  | none => rfl
  | some n =>
    simp only [orZeroInverse, Option.map_some, ok_bind, pure_eq_ok, ComplexCoords.mul_residues]
    rfl

/-- The loop of squares goes as it does in the field. -/
theorem powerFrom_residues (acc base : QM31) (n : ℕ) :
    powerFrom (QM31.residues acc) (QM31.residues base) n =
      .ok (QM31.residues (TowerFold.powerFrom acc base n)) := by
  fun_induction TowerFold.powerFrom acc base n with
  | case1 acc base =>
    rw [powerFrom]
    rfl
  | case2 acc base n hn ih =>
    rw [powerFrom, if_neg hn]
    split_ifs with hodd
    · simp only [hodd, dite_true, mul_residues, ok_bind] at ih ⊢
      exact ih
    · simp only [hodd, dite_false, mul_residues, ok_bind] at ih ⊢
      exact ih

end QuarticCoords

end TowerFold
