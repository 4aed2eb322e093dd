import Mathlib.FieldTheory.Finite.Basic
import TowerFold.Proofs.Field.Inverse

/-!
# The order of the tower

The base field has as many elements as its modulus says, and a quadratic extension has the square
of the number of elements below it. So the extension of degree four has `modulus ^ 4` elements, and
by Fermat's theorem for finite fields that power of an element is the element itself.
-/

namespace TowerFold

namespace Inverts

variable {F : Type} [CommRing F] {inverse? : F → Option F}

/-- A ring whose elements other than zero have inverses is a field. -/
theorem isField [Nontrivial F] (h : Inverts inverse?) : IsField F where
  exists_pair_ne := exists_pair_ne F
  mul_comm := mul_comm
  mul_inv_cancel hx := by
    obtain ⟨y, _, hy⟩ := h.exists_eq_some hx
    exact ⟨y, hy⟩

/-- Fermat's theorem: in a finite field the power by the number of elements changes nothing. -/
theorem pow_card [Nontrivial F] [Finite F] (h : Inverts inverse?) (x : F) :
    x ^ Nat.card F = x := by
  let := h.isField.toField
  have := Fintype.ofFinite F
  rw [Nat.card_eq_fintype_card]
  exact FiniteField.pow_card x

end Inverts

/-- A residue is a number below the modulus. -/
def M31.equivFin : M31 ≃ Fin modulus where
  toFun x := ⟨x.val, x.val_lt⟩
  invFun i := ⟨i.val, i.isLt⟩
  left_inv _ := rfl
  right_inv _ := rfl

instance : Finite M31 := .of_equiv _ M31.equivFin.symm

/-- There are as many residues as the modulus says. -/
theorem M31.card_eq : Nat.card M31 = modulus := by
  rw [Nat.card_congr equivFin, Nat.card_fin]

namespace Quadratic

variable {F : Type} {r : F}

/-- An element of an extension is the pair of its coordinates. -/
def equivProd : Quadratic F r ≃ F × F where
  toFun x := (x.re, x.im)
  invFun p := ⟨p.1, p.2⟩
  left_inv _ := rfl
  right_inv _ := rfl

instance [Finite F] : Finite (Quadratic F r) := .of_equiv _ equivProd.symm

/-- An extension has the square of the number of elements below it. -/
theorem card_eq_sq : Nat.card (Quadratic F r) = Nat.card F ^ 2 := by
  rw [Nat.card_congr equivProd, Nat.card_prod, sq]

end Quadratic

namespace QM31

/-- The extension of degree four has `modulus ^ 4` elements. -/
theorem card_eq : Nat.card QM31 = modulus ^ 4 := by
  rw [Quadratic.card_eq_sq, Quadratic.card_eq_sq, M31.card_eq, ← pow_mul]

variable (x : QM31)

/-- The power by the number of elements changes nothing. -/
theorem pow_order : x ^ modulus ^ 4 = x := by
  rw [← card_eq]
  exact inverts_inverse?.pow_card x

variable {x}

/-- Every element but zero has order dividing `modulus ^ 4 - 1`. -/
theorem pow_order_sub_one (hx : x ≠ 0) : x ^ (modulus ^ 4 - 1) = 1 := by
  refine inverts_inverse?.mul_left_cancel hx ?_
  have hpos : modulus ^ 4 ≠ 0 := by decide
  rw [mul_pow_sub_one hpos, pow_order, mul_one]

/-- The power by two less than the number of elements is the inverse. -/
theorem mul_pow_order_sub_two (hx : x ≠ 0) : x * x ^ (modulus ^ 4 - 2) = 1 := by
  have hpred : modulus ^ 4 - 2 + 1 = modulus ^ 4 - 1 := by decide
  rw [← pow_succ', hpred, pow_order_sub_one hx]

end QM31

end TowerFold
