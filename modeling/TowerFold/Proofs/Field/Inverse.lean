import Mathlib.NumberTheory.LegendreSymbol.QuadraticReciprocity
import Mathlib.NumberTheory.LucasLehmer
import TowerFold.Proofs.Field.Extension
import TowerFold.Proofs.Field.Power

/-!
# The tower consists of fields

The modulus is a Mersenne prime, so by Fermat's theorem a power inverts the residues other
than zero. A quadratic extension of a field by a root of a non-square is a field again, since
there only zero has norm zero. Both extensions adjoin roots of non-squares: `-1` is none
because the modulus is three modulo four, and `2 + i` is none because its norm, five, is none,
by quadratic reciprocity.
-/

namespace TowerFold

/-- A search for inverses that misses none but that of zero, and finds nothing else. -/
structure Inverts {F : Type} [CommRing F] (inverse? : F → Option F) : Prop where
  eq_none_iff (x : F) : inverse? x = none ↔ x = 0
  eq_some_iff (x y : F) : inverse? x = some y ↔ x * y = 1

namespace Inverts

variable {F : Type} [CommRing F] {inverse? : F → Option F}

/-- What is found for the elements other than zero has to be an inverse; there is only one. -/
theorem of_mul_eq_one [Nontrivial F] (hnone : ∀ x, inverse? x = none ↔ x = 0)
    (hmul : ∀ x y, inverse? x = some y → x * y = 1) : Inverts inverse? where
  eq_none_iff := hnone
  eq_some_iff x y := by
    refine ⟨hmul x y, fun hxy => ?_⟩
    cases hinverse : inverse? x with
    | none =>
      rw [(hnone x).mp hinverse, zero_mul] at hxy
      exact absurd hxy zero_ne_one
    | some z =>
      have hxz := hmul x z hinverse
      have hzy : z = y := left_inv_eq_right_inv (by rw [mul_comm, hxz]) hxy
      rw [hzy]

/-- Every element other than zero has an inverse, which is found. -/
theorem exists_eq_some (h : Inverts inverse?) {x : F} (hx : x ≠ 0) :
    ∃ y, inverse? x = some y ∧ x * y = 1 := by
  obtain ⟨y, hy⟩ := Option.ne_none_iff_exists'.mp (mt (h.eq_none_iff x).mp hx)
  exact ⟨y, hy, (h.eq_some_iff x y).mp hy⟩

/-- Where inverses are found, zero has no divisors. -/
theorem mul_eq_zero (h : Inverts inverse?) {x y : F} (hxy : x * y = 0) : x = 0 ∨ y = 0 := by
  by_cases hx : x = 0
  · exact Or.inl hx
  · right
    obtain ⟨z, _, hz⟩ := h.exists_eq_some hx
    calc
      y = x * z * y := by rw [hz, one_mul]
      _ = x * y * z := by ring
      _ = 0 := by rw [hxy, zero_mul]

/-- An element other than zero can be cancelled. -/
theorem mul_left_cancel (h : Inverts inverse?) {x y z : F} (hx : x ≠ 0) (hxy : x * y = x * z) :
    y = z := by
  have hdiff : x * (y - z) = 0 := by rw [mul_sub, hxy, sub_self]
  exact sub_eq_zero.mp ((h.mul_eq_zero hdiff).resolve_left hx)

end Inverts

namespace Quadratic

variable {F : Type} [CommRing F] {r : F}

/-- The norm of a product is the product of the norms. -/
theorem norm_mul (x y : Quadratic F r) : (x * y).norm = x.norm * y.norm := by
  simp only [norm, re_mul, im_mul]
  ring

/-- Squares have square norms. -/
theorem isSquare_norm {x : Quadratic F r} (hx : IsSquare x) : IsSquare x.norm := by
  obtain ⟨z, rfl⟩ := hx
  exact ⟨z.norm, norm_mul z z⟩

/-- Over a field in which `r` is no square only zero has norm zero: otherwise the quotient of
the two coordinates would be a root of `r`. -/
theorem norm_eq_zero_iff {inverse? : F → Option F} (h : Inverts inverse?) (hr : ¬IsSquare r)
    {x : Quadratic F r} : x.norm = 0 ↔ x = 0 := by
  constructor
  · intro hnorm
    have hsquares : x.re * x.re = r * (x.im * x.im) := sub_eq_zero.mp hnorm
    have him : x.im = 0 := by
      by_contra him
      obtain ⟨z, _, hz⟩ := h.exists_eq_some him
      refine hr ⟨x.re * z, ?_⟩
      calc
        r = r * ((x.im * z) * (x.im * z)) := by rw [hz, one_mul, mul_one]
        _ = r * (x.im * x.im) * (z * z) := by ring
        _ = x.re * x.re * (z * z) := by rw [hsquares]
        _ = x.re * z * (x.re * z) := by ring
    have hre : x.re = 0 := by
      rw [him, mul_zero, mul_zero] at hsquares
      exact or_self_iff.mp (h.mul_eq_zero hsquares)
    exact Quadratic.ext hre him
  · rintro rfl
    simp [norm]

/-- The conjugate over the norm is an inverse. -/
theorem mul_conjugate_eq_one {x : Quadratic F r} {n : F} (hn : x.norm * n = 1) :
    x * ⟨x.re * n, -x.im * n⟩ = 1 := by
  ext
  · rw [re_mul, re_one, ← hn, norm]
    ring
  · rw [im_mul, im_one]
    ring

instance [Nontrivial F] : Nontrivial (Quadratic F r) :=
  ⟨0, 1, fun h => zero_ne_one (congrArg re h)⟩

/-- Inverses in a field give inverses in its extension by a root of a non-square. -/
theorem inverts_inverseBy? [Nontrivial F] {inverse? : F → Option F} (h : Inverts inverse?)
    (hr : ¬IsSquare r) : Inverts (inverseBy? inverse? : Quadratic F r → _) := by
  refine .of_mul_eq_one (fun x => ?_) fun x y hy => ?_
  · rw [inverseBy?, Option.map_eq_none_iff, h.eq_none_iff, norm_eq_zero_iff h hr]
  · obtain ⟨n, hn, rfl⟩ := Option.map_eq_some_iff.mp hy
    exact mul_conjugate_eq_one ((h.eq_some_iff _ _).mp hn)

end Quadratic

/-- The modulus is prime, by the Lucas–Lehmer test. -/
theorem modulus_prime : modulus.Prime :=
  lucas_lehmer_sufficiency 31 (by norm_num) (by norm_num)

instance : Fact modulus.Prime := ⟨modulus_prime⟩

namespace M31

variable {x : M31}

theorem toZMod_eq_zero_iff : toZMod x = 0 ↔ x = 0 := by
  rw [← toZMod_zero, toZMod_injective.eq_iff]

@[simp] theorem toZMod_pow (x : M31) (n : ℕ) : toZMod (x ^ n) = toZMod x ^ n := by
  induction n with
  | zero => simp
  | succ n ih => rw [pow_succ, toZMod_mul, ih, pow_succ]

/-- Fermat's theorem: every residue but zero has order dividing `modulus - 1`. -/
theorem pow_modulus_sub_one (hx : x ≠ 0) : x ^ (modulus - 1) = 1 := by
  refine toZMod_injective ?_
  rw [toZMod_pow, toZMod_one]
  exact ZMod.pow_card_sub_one_eq_one (mt toZMod_eq_zero_iff.mp hx)

instance : Nontrivial M31 := ⟨0, 1, by decide⟩

/-- The base field inverts by a power. -/
theorem inverts_inverse? : Inverts inverse? := by
  refine .of_mul_eq_one (fun x => ?_) fun x y hy => ?_
  · simp [inverse?]
  · by_cases hx : x = 0
    · simp [inverse?, hx] at hy
    · rw [inverse?, if_neg hx, Option.some.injEq, power_eq_pow] at hy
      rw [← hy, ← pow_succ']
      exact pow_modulus_sub_one hx

/-- The class of a square is a square. -/
theorem isSquare_toZMod (hx : IsSquare x) : IsSquare (toZMod x) := by
  obtain ⟨y, rfl⟩ := hx
  exact ⟨toZMod y, toZMod_mul y y⟩

/-- The modulus is three modulo four, so `-1` has no square root. -/
theorem not_isSquare_neg_one : ¬IsSquare (-1 : M31) := by
  intro hsquare
  have hclass := isSquare_toZMod hsquare
  rw [toZMod_neg, toZMod_one, ZMod.exists_sq_eq_neg_one_iff] at hclass
  exact hclass (by decide)

/-- By quadratic reciprocity five has no square root, because modulo five the modulus has
none. -/
theorem not_isSquare_five : ¬IsSquare (ofNat 5) := by
  have hmodulus : ¬IsSquare (modulus : ZMod 5) := by decide
  have : Fact (Nat.Prime 5) := ⟨Nat.prime_five⟩
  intro hsquare
  have hclass := isSquare_toZMod hsquare
  rw [toZMod_ofNat, ← ZMod.exists_sq_eq_prime_iff_of_mod_four_eq_one (by decide) (by decide)]
    at hclass
  exact hmodulus hclass

end M31

/-- The complex extension inverts all but zero. -/
theorem CM31.inverts_inverse? : Inverts CM31.inverse? :=
  Quadratic.inverts_inverseBy? M31.inverts_inverse? M31.not_isSquare_neg_one

/-- The norm of `2 + i` is five, so it has no square root. -/
theorem not_isSquare_nonResidue : ¬IsSquare nonResidue := by
  intro hsquare
  have hnorm : nonResidue.norm = M31.ofNat 5 := by decide
  exact M31.not_isSquare_five (hnorm ▸ Quadratic.isSquare_norm hsquare)

/-- The extension of degree four inverts all but zero. -/
theorem QM31.inverts_inverse? : Inverts QM31.inverse? :=
  Quadratic.inverts_inverseBy? CM31.inverts_inverse? not_isSquare_nonResidue

end TowerFold
