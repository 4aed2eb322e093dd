import TowerFold.Embedding
import TowerFold.Proofs.Field.Order
import TowerFold.Proofs.Operand.Elements

/-!
# Powers of operands

The power of an element with a natural exponent is the product of as many copies of it, in the base
class as well as in the class of degree four, so the laws of exponents hold in both. In the class of
degree four the exponent `modulus ^ 4 - 1` takes every element but zero to one, and
`modulus ^ 4 - 2` takes it to its inverse.

With a negative exponent the base class inverts. The class of degree four does not: it answers with
one, which is the inverse of the power only where the power itself is one.
-/

namespace TowerFold

/-- A base-field element is embedded in the class of degree four as its copy. -/
theorem Embedding.qm31_apply_m31 (a : M31) :
    Embedding.qm31.apply (.m31 a) = .ok (.qm31 (.ofM31 a)) := rfl

namespace Operand

/-- A base-field element has the powers of its field. -/
theorem m31_pow (x : M31) (n : ℕ) : (m31 x).pow (.int n) = .ok (.m31 (x ^ n)) := by
  rw [← power_eq_pow]
  rfl

/-- With a negative exponent a base-field element has the powers of its inverse. -/
theorem m31_pow_neg {x y : M31} (hxy : x * y = 1) (n : ℕ) :
    (m31 x).pow (.int (-(n + 1))) = .ok (.m31 (y ^ (n + 1))) := by
  have hpower : x.power? (Int.negSucc n) = some (y ^ (n + 1)) := by
    rw [M31.power?, (M31.inverts_inverse?.eq_some_iff x y).mpr hxy, Option.map_some, power_eq_pow]
  have hanswer : Operator.pow.left (m31 x) (.int (Int.negSucc n)) =
      some (.ok (.m31 (y ^ (n + 1)))) := by
    simp only [Operator.left, Operator.ownLeft, Operator.powLeft, toInt?, Operator.basePower,
      hpower, ok_bind, pure_eq_ok]
  rw [← Int.negSucc_eq]
  exact Operator.apply_of_left rfl rfl hanswer (.ok _)

/-- Zero has no powers with negative exponents. -/
theorem m31_zero_pow_neg (n : ℕ) :
    (m31 0).pow (.int (-(n + 1))) = .error .zeroToNegativePower := by
  rw [← Int.negSucc_eq]
  rfl

/-- An element of degree four has the powers of its field, where negative exponents count as
zero. -/
theorem qm31_pow (x : QM31) (n : ℤ) : (qm31 x).pow (.int n) = .ok (.qm31 (x ^ n.toNat)) := by
  rw [← power_eq_pow]
  rfl

end Operand

/-- The powers that the operands have that `put` makes: with a natural exponent they are products
of as many copies, starting from one, and they obey the laws of exponents. -/
structure PowerLaws {F : Type} [One F] (put : F → Operand) : Prop where
  exists_pow (x : F) (n : ℕ) : ∃ y, (put x).pow (.int n) = .ok (put y) ∧
    (List.replicate n (put x)).foldlM Operand.mul (put 1) = .ok (put y)
  pow_add (x : F) (m n : ℕ) : (put x).pow (.int (m + n)) =
    do (← (put x).pow (.int m)).mul (← (put x).pow (.int n))
  pow_mul (x : F) (m n : ℕ) : (put x).pow (.int (m * n)) =
    do (← (put x).pow (.int m)).pow (.int n)
  mul_pow (x y : F) (n : ℕ) : (do (← (put x).mul (put y)).pow (.int n)) =
    do (← (put x).pow (.int n)).mul (← (put y).pow (.int n))

namespace ElementClass

variable {F : Type} [CommRing F] [DecidableEq F] {put : F → Operand} {inverse? : F → Option F}

/-- Copies of an element multiplied one after the other make a power of it. -/
theorem foldlM_mul_replicate (h : ElementClass put inverse?) (acc x : F) (n : ℕ) :
    (List.replicate n (put x)).foldlM Operand.mul (put acc) = .ok (put (acc * x ^ n)) := by
  induction n generalizing acc with
  | zero => rw [pow_zero, mul_one]; rfl
  | succ n ih =>
    rw [List.replicate_succ, List.foldlM_cons, h.mul, ok_bind, ih, mul_assoc, ← pow_succ']

/-- A class whose powers are those of its field inherits the laws of exponents. -/
theorem powerLaws (h : ElementClass put inverse?)
    (hpow : ∀ x (n : ℕ), (put x).pow (.int n) = .ok (put (x ^ n))) : PowerLaws put where
  exists_pow x n := ⟨x ^ n, hpow x n, by rw [h.foldlM_mul_replicate, one_mul]⟩
  pow_add x m n := by
    rw [← Nat.cast_add, hpow, hpow, hpow, ok_bind, ok_bind, h.mul, ← pow_add]
  pow_mul x m n := by rw [← Nat.cast_mul, hpow, hpow, ok_bind, hpow, ← pow_mul]
  mul_pow x y n := by rw [h.mul, ok_bind, hpow, hpow, hpow, ok_bind, ok_bind, h.mul, mul_pow]

end ElementClass

/-- The powers of the class of degree four with natural exponents are products, and on the copies
of base-field elements they are those of the base class, which are powers modulo `modulus`. -/
theorem quartic_powers_are_products :
    PowerLaws Operand.qm31 ∧
      (∀ (a : M31) (n : ℕ), (do (← Embedding.qm31.apply (.m31 a)).pow (.int n)) =
        do Embedding.qm31.apply (← (Operand.m31 a).pow (.int n))) ∧
      ∀ (a : M31) (n : ℕ), (Operand.m31 a).pow (.int n) = .ok (.m31 (.ofNat (a.val ^ n))) := by
  refine ⟨elementClass_qm31.powerLaws fun x n => ?_, fun a n => ?_, fun a n => ?_⟩
  · rw [Operand.qm31_pow, Int.toNat_natCast]
  · rw [Embedding.qm31_apply_m31, ok_bind, Operand.qm31_pow, Int.toNat_natCast, Operand.m31_pow,
      ok_bind, Embedding.qm31_apply_m31, QM31.ofM31_pow]
  · rw [Operand.m31_pow, M31.ofNat_eq_cast, Nat.cast_pow, ← M31.ofNat_eq_cast, M31.ofNat_val]

/-- Fermat's theorem for the class of degree four, which has `modulus ^ 4` elements. -/
theorem quartic_powers_by_order :
    (∀ x : QM31, x ≠ 0 →
      (Operand.qm31 x).pow (.int (modulus ^ 4 - 1)) = .ok (.qm31 1) ∧
        ∃ y, (Operand.qm31 x).inverse = .ok (.qm31 y) ∧
          (Operand.qm31 x).pow (.int (modulus ^ 4 - 2)) = .ok (.qm31 y)) ∧
      ∀ x : QM31, (Operand.qm31 x).pow (.int (modulus ^ 4)) = .ok (.qm31 x) := by
  have hone : ((modulus : ℤ) ^ 4 - 1).toNat = modulus ^ 4 - 1 := by decide
  have htwo : ((modulus : ℤ) ^ 4 - 2).toNat = modulus ^ 4 - 2 := by decide
  have horder : ((modulus : ℤ) ^ 4).toNat = modulus ^ 4 := by decide
  refine ⟨fun x hx => ⟨?_, x ^ (modulus ^ 4 - 2), ?_, ?_⟩, fun x => ?_⟩
  · rw [Operand.qm31_pow, hone, QM31.pow_order_sub_one hx]
  · exact (elementClass_qm31.inverse_eq_ok_iff _ _).mpr (QM31.mul_pow_order_sub_two hx)
  · rw [Operand.qm31_pow, htwo]
  · rw [Operand.qm31_pow, horder, QM31.pow_order]

/-- An element with four different coordinates. -/
theorem quartic_powers_by_order_of_four_coordinates :
    (Operand.qm31 (.ofCoords 1 2 3 4)).pow (.int 21267647892944572736998860269687930880) =
        .ok (.qm31 1) ∧
      (Operand.qm31 (.ofCoords 1 2 3 4)).pow (.int 21267647892944572736998860269687930879) =
        (Operand.qm31 (.ofCoords 1 2 3 4)).inverse := by
  have hnonzero : QM31.ofCoords 1 2 3 4 ≠ 0 := by decide
  obtain ⟨hone, y, hinverse, hpower⟩ := quartic_powers_by_order.1 _ hnonzero
  exact ⟨hone, hpower.trans hinverse.symm⟩

namespace Operand

/-- In the base class a negative exponent asks for the inverse of the power. For zero both are
refused, for different reasons. -/
theorem m31_pow_neg_eq_inverse_iff (a : M31) (n : ℕ) :
    (m31 a).pow (.int (-(n + 1))) = (do (← (m31 a).pow (.int (n + 1))).inverse) ↔ a ≠ 0 := by
  rw [← Nat.cast_succ, m31_pow, ok_bind, Nat.cast_succ]
  constructor
  · rintro heq rfl
    rw [m31_zero_pow_neg, zero_pow n.succ_ne_zero,
      (elementClass_m31.inverse_eq_error_iff 0 .zeroInverse).mpr ⟨rfl, rfl⟩] at heq
    cases heq
  · intro ha
    obtain ⟨y, _, hy⟩ := M31.inverts_inverse?.exists_eq_some ha
    rw [m31_pow_neg hy,
      (elementClass_m31.inverse_eq_ok_iff _ _).mpr (pow_mul_pow_eq_one (n + 1) hy)]

/-- In the class of degree four a negative exponent gives one. -/
theorem qm31_pow_neg (x : QM31) (n : ℕ) : (qm31 x).pow (.int (-(n + 1))) = .ok (.qm31 1) := by
  have hnegative : (-(n + 1) : ℤ).toNat = 0 := by omega
  rw [qm31_pow, hnegative, pow_zero]

/-- One is the inverse of a power in the class of degree four only if that power is one. -/
theorem qm31_pow_neg_eq_inverse_iff (x : QM31) (n : ℕ) :
    (qm31 x).pow (.int (-(n + 1))) = (do (← (qm31 x).pow (.int (n + 1))).inverse) ↔
      (qm31 x).pow (.int (n + 1)) = .ok (.qm31 1) := by
  rw [qm31_pow_neg, qm31_pow, ok_bind, eq_comm, elementClass_qm31.inverse_eq_ok_iff, mul_one,
    Except.ok.injEq, qm31.injEq]

/-- One is the copy of a power with a negative exponent only if the power with the opposite
exponent is one. -/
theorem qm31_pow_neg_eq_copy_iff (a : M31) (n : ℕ) :
    (do (← Embedding.qm31.apply (.m31 a)).pow (.int (-(n + 1)))) =
        (do Embedding.qm31.apply (← (m31 a).pow (.int (-(n + 1))))) ↔
      (m31 a).pow (.int (n + 1)) = .ok (.m31 1) := by
  rw [Embedding.qm31_apply_m31, ok_bind, qm31_pow_neg, ← Nat.cast_succ, m31_pow, Nat.cast_succ,
    Except.ok.injEq, m31.injEq]
  by_cases ha : a = 0
  · rw [ha, m31_zero_pow_neg, zero_pow n.succ_ne_zero]
    exact iff_of_false nofun zero_ne_one
  · obtain ⟨y, _, hy⟩ := M31.inverts_inverse?.exists_eq_some ha
    have hcopy : (1 : QM31) = .ofM31 (y ^ (n + 1)) ↔ 1 = y ^ (n + 1) :=
      QM31.ofM31_injective.eq_iff (a := 1)
    rw [m31_pow_neg hy, ok_bind, Embedding.qm31_apply_m31, Except.ok.injEq, qm31.injEq, hcopy,
      eq_comm, eq_one_iff_eq_one_of_mul_eq_one (pow_mul_pow_eq_one (n + 1) hy)]

end Operand

/-- A power with a negative exponent in the base class is the inverse of the power, except that
for zero another fault is stated. In the class of degree four it is one, which is the inverse of
the power, or the copy of the power in the base class, only where the power itself is one. -/
theorem negative_powers_invert_iff (a : M31) (x : QM31) (n : ℕ) :
    ((Operand.m31 a).pow (.int (-(n + 1))) = (do (← (Operand.m31 a).pow (.int (n + 1))).inverse) ↔
        a ≠ 0) ∧
      (Operand.qm31 x).pow (.int (-(n + 1))) = .ok (.qm31 1) ∧
      ((Operand.qm31 x).pow (.int (-(n + 1))) =
          (do (← (Operand.qm31 x).pow (.int (n + 1))).inverse) ↔
        (Operand.qm31 x).pow (.int (n + 1)) = .ok (.qm31 1)) ∧
      ((do (← Embedding.qm31.apply (.m31 a)).pow (.int (-(n + 1)))) =
          (do Embedding.qm31.apply (← (Operand.m31 a).pow (.int (-(n + 1))))) ↔
        (Operand.m31 a).pow (.int (n + 1)) = .ok (.m31 1)) :=
  ⟨Operand.m31_pow_neg_eq_inverse_iff a n, Operand.qm31_pow_neg x n,
    Operand.qm31_pow_neg_eq_inverse_iff x n, Operand.qm31_pow_neg_eq_copy_iff a n⟩

/-- Two in the class of degree four, to the power minus one: one comes out, and not its inverse
`2 ^ 30`, which comes out in the base class. -/
theorem negative_power_of_two :
    (Operand.qm31 2).pow (.int (-1)) = .ok (.qm31 1) ∧
      (do (← (Operand.qm31 2).pow (.int 1)).inverse) = .ok (.qm31 (.ofM31 (.ofNat (2 ^ 30)))) ∧
      (Operand.qm31 2).pow (.int (-1)) ≠ (do (← (Operand.qm31 2).pow (.int 1)).inverse) ∧
      (Operand.m31 2).pow (.int (-1)) = .ok (.m31 (.ofNat (2 ^ 30))) := by
  have hbase : (2 : M31) * .ofNat (2 ^ 30) = 1 := by decide
  have hquartic : (2 : QM31) * .ofM31 (.ofNat (2 ^ 30)) = 1 := by decide
  have hinverse : (do (← (Operand.qm31 2).pow (.int 1)).inverse) =
      .ok (.qm31 (.ofM31 (.ofNat (2 ^ 30)))) := by
    rw [Operand.qm31_pow, ok_bind, Int.toNat_one, pow_one]
    exact (elementClass_qm31.inverse_eq_ok_iff _ _).mpr hquartic
  have hpower : (Operand.m31 2).pow (.int (-1)) = .ok (.m31 (.ofNat (2 ^ 30))) := by
    simpa using Operand.m31_pow_neg hbase 0
  have hone : (Operand.qm31 2).pow (.int (-1)) = .ok (.qm31 1) := Operand.qm31_pow_neg 2 0
  refine ⟨hone, hinverse, fun heq => ?_, hpower⟩
  rw [hone, hinverse, Except.ok.injEq, Operand.qm31.injEq] at heq
  exact absurd heq (by decide)

end TowerFold
