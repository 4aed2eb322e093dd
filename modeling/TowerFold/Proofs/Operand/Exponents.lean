import Mathlib.GroupTheory.OrderOfElement
import TowerFold.Proofs.Operand.Power

/-!
# Exponents of either sign

A base-field element other than zero is a unit, and its powers as an operand are the powers of that
unit. So the laws of exponents hold for exponents of either sign, the exponent `-1` inverts, and by
Fermat's theorem an exponent only counts modulo `modulus - 1`. Zero has no powers with negative
exponents.
-/

namespace TowerFold

/-- An element other than zero is a unit. -/
theorem Inverts.exists_unit {F : Type} [CommRing F] {inverse? : F → Option F}
    (h : Inverts inverse?) {x : F} (hx : x ≠ 0) : ∃ u : Fˣ, ↑u = x := by
  obtain ⟨y, _, hxy⟩ := h.exists_eq_some hx
  exact ⟨.mkOfMulEqOne x y hxy, rfl⟩

/-- Fermat's theorem for units. -/
theorem M31.unit_pow_modulus_sub_one (u : M31ˣ) : u ^ (modulus - 1) = 1 := by
  ext1
  rw [Units.val_pow_eq_pow_val, Units.val_one, M31.pow_modulus_sub_one u.ne_zero]

/-- Powers of a unit agree when their exponents agree modulo `modulus - 1`. -/
theorem M31.unit_zpow_eq_zpow (u : M31ˣ) {m n : ℤ} (hmn : m ≡ n [ZMOD modulus - 1]) :
    u ^ m = u ^ n := by
  have horder : (orderOf u : ℤ) ∣ modulus - 1 :=
    Int.natCast_dvd_natCast.mpr (orderOf_dvd_of_pow_eq_one (unit_pow_modulus_sub_one u))
  exact zpow_eq_zpow_iff_modEq.mpr (hmn.of_dvd horder)

/-- The powers of a unit as an operand, with exponents of either sign, are those of the unit. -/
theorem Operand.m31_unit_pow (u : M31ˣ) (n : ℤ) :
    (m31 u).pow (.int n) = .ok (.m31 ↑(u ^ n)) := by
  cases n with
  | ofNat n =>
    rw [Int.ofNat_eq_natCast, m31_pow, zpow_natCast, Units.val_pow_eq_pow_val]
  | negSucc n =>
    rw [Int.negSucc_eq, m31_pow_neg u.mul_inv n, ← Int.negSucc_eq, zpow_negSucc, ← inv_pow,
      Units.val_pow_eq_pow_val]

/-- The powers of `x` as an operand, with exponents of either sign, all exist and obey the laws of
exponents; the exponent `-1` inverts, and exponents count modulo `modulus - 1`. -/
structure SignedPowerLaws (x : M31) : Prop where
  exists_pow (n : ℤ) : ∃ y, (Operand.m31 x).pow (.int n) = .ok (.m31 y)
  pow_add (m n : ℤ) : (Operand.m31 x).pow (.int (m + n)) =
    do (← (Operand.m31 x).pow (.int m)).mul (← (Operand.m31 x).pow (.int n))
  pow_mul (m n : ℤ) : (Operand.m31 x).pow (.int (m * n)) =
    do (← (Operand.m31 x).pow (.int m)).pow (.int n)
  pow_neg_one : (Operand.m31 x).pow (.int (-1)) = (Operand.m31 x).inverse
  pow_eq_pow {m n : ℤ} (hmn : m ≡ n [ZMOD modulus - 1]) :
    (Operand.m31 x).pow (.int m) = (Operand.m31 x).pow (.int n)

/-- The operand of a unit inherits the laws of exponents. -/
theorem M31.signedPowerLaws (u : M31ˣ) : SignedPowerLaws u where
  exists_pow n := ⟨_, Operand.m31_unit_pow u n⟩
  pow_add m n := by
    rw [Operand.m31_unit_pow, Operand.m31_unit_pow, Operand.m31_unit_pow, ok_bind, ok_bind,
      elementClass_m31.mul, ← Units.val_mul, ← zpow_add]
  pow_mul m n := by
    rw [Operand.m31_unit_pow, Operand.m31_unit_pow, ok_bind, Operand.m31_unit_pow, zpow_mul]
  pow_neg_one := by
    rw [Operand.m31_unit_pow, zpow_neg_one]
    exact ((elementClass_m31.inverse_eq_ok_iff _ _).mpr u.mul_inv).symm
  pow_eq_pow hmn := by
    rw [Operand.m31_unit_pow, Operand.m31_unit_pow, M31.unit_zpow_eq_zpow u hmn]

/-- Every base-field element but zero has powers with exponents of either sign, which obey the laws
of exponents. Zero to the power zero is one, its powers with positive exponents are zero, and a
negative exponent is refused for another reason than the inverse of zero. -/
theorem signed_powers_obey_laws :
    (∀ x : M31, x ≠ 0 → SignedPowerLaws x) ∧
      (Operand.m31 0).pow (.int 0) = .ok (.m31 1) ∧
      (∀ n : ℤ, 0 < n → (Operand.m31 0).pow (.int n) = .ok (.m31 0)) ∧
      (∀ n : ℤ, n < 0 → (Operand.m31 0).pow (.int n) = .error .zeroToNegativePower) ∧
      (Operand.m31 0).inverse = .error .zeroInverse := by
  refine ⟨fun x hx => ?_, ?_, fun n hn => ?_, fun n hn => ?_, ?_⟩
  · obtain ⟨u, rfl⟩ := M31.inverts_inverse?.exists_unit hx
    exact M31.signedPowerLaws u
  · exact (Operand.m31_pow 0 0).trans (by rw [pow_zero])
  · obtain ⟨k, rfl⟩ := Int.eq_succ_of_zero_lt hn
    rw [← Nat.cast_succ, Operand.m31_pow, zero_pow k.succ_ne_zero]
  · obtain ⟨k, rfl⟩ := Int.eq_negSucc_of_lt_zero hn
    rw [Int.negSucc_eq, Operand.m31_zero_pow_neg]
  · exact (elementClass_m31.inverse_eq_error_iff 0 _).mpr ⟨rfl, rfl⟩

/-- The powers of three with an exponent that is negative and long, and with two exponents of
opposite signs that together make `-1`. -/
theorem signed_powers_of_three :
    (3 : M31) ≠ 0 ∧
      (Operand.m31 3).pow (.int (-10 ^ 40)) = (Operand.m31 3).pow (.int 56750858) ∧
      (do (← (Operand.m31 3).pow (.int 5)).mul (← (Operand.m31 3).pow (.int (-6)))) =
        .ok (.m31 (.ofNat 1431655765)) := by
  have hnonzero : (3 : M31) ≠ 0 := by decide
  have hlaws := signed_powers_obey_laws.1 3 hnonzero
  have hinverse : (3 : M31) * .ofNat 1431655765 = 1 := by decide
  refine ⟨hnonzero, hlaws.pow_eq_pow (by decide), ?_⟩
  rw [← hlaws.pow_add]
  exact hlaws.pow_neg_one.trans ((elementClass_m31.inverse_eq_ok_iff _ _).mpr hinverse)

end TowerFold
