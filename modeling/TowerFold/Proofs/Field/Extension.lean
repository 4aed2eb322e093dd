import TowerFold.Field.Tower
import TowerFold.Proofs.Field.Residue

/-!
# The extensions as rings

A quadratic extension of a commutative ring is a commutative ring, and the smaller ring
sits in it. To multiply every coordinate by an element of the base field is to multiply
by that element's copy in the extension.
-/

namespace TowerFold

namespace Quadratic

variable {F : Type} [CommRing F] {r : F}

/-- A quadratic extension of a commutative ring is a commutative ring. -/
instance : CommRing (Quadratic F r) where
  add_assoc x y z := by ext <;> simp [add_assoc]
  zero_add x := by ext <;> simp
  add_zero x := by ext <;> simp
  add_comm x y := by ext <;> simp [add_comm]
  left_distrib x y z := by ext <;> simp <;> ring
  right_distrib x y z := by ext <;> simp <;> ring
  zero_mul x := by ext <;> simp
  mul_zero x := by ext <;> simp
  mul_assoc x y z := by ext <;> simp <;> ring
  one_mul x := by ext <;> simp
  mul_one x := by ext <;> simp
  mul_comm x y := by ext <;> simp <;> ring
  neg_add_cancel x := by ext <;> simp
  sub_eq_add_neg x y := by ext <;> simp [sub_eq_add_neg]
  nsmul := nsmulRec
  zsmul := zsmulRec

/-- The smaller ring sits in the extension by a homomorphism. -/
def embedHom : F →+* Quadratic F r where
  toFun := embed
  map_zero' := rfl
  map_one' := rfl
  map_add' a b := by ext <;> simp
  map_mul' a b := by ext <;> simp

@[simp] theorem embed_add (a b : F) : (embed (a + b) : Quadratic F r) = embed a + embed b :=
  (embedHom (r := r)).map_add a b

@[simp] theorem embed_mul (a b : F) : (embed (a * b) : Quadratic F r) = embed a * embed b :=
  (embedHom (r := r)).map_mul a b

@[simp] theorem embed_zero : (embed 0 : Quadratic F r) = 0 := rfl

@[simp] theorem embed_one : (embed 1 : Quadratic F r) = 1 := rfl

end Quadratic

/-- Multiplying both coordinates by a base-field element is multiplying by its copy. -/
theorem CM31.scale_eq_mul (x : CM31) (k : M31) : x.scale k = x * CM31.ofM31 k := by
  ext <;> simp [CM31.scale, CM31.ofM31]

/-- Multiplying all four coordinates by a base-field element is multiplying by its copy. -/
theorem QM31.scale_eq_mul (x : QM31) (k : M31) : QM31.scale x k = x * QM31.ofM31 k := by
  ext <;> simp [QM31.scale, QM31.ofM31, CM31.scale_eq_mul]

/-- The copies of base-field elements are added as these. -/
theorem QM31.ofM31_add (a b : M31) : QM31.ofM31 (a + b) = .ofM31 a + .ofM31 b := by
  simp [QM31.ofM31, CM31.ofM31]

/-- The copies of base-field elements are multiplied as these. -/
theorem QM31.ofM31_mul (a b : M31) : QM31.ofM31 (a * b) = .ofM31 a * .ofM31 b := by
  simp [QM31.ofM31, CM31.ofM31]

/-- The base field sits in the extension of degree four by a homomorphism. -/
def QM31.ofM31Hom : M31 →+* QM31 := Quadratic.embedHom.comp Quadratic.embedHom

/-- The copies of base-field elements have the copies of their powers as powers. -/
theorem QM31.ofM31_pow (a : M31) (n : ℕ) : QM31.ofM31 (a ^ n) = .ofM31 a ^ n :=
  map_pow QM31.ofM31Hom a n

/-- Different base-field elements have different copies. -/
theorem QM31.ofM31_injective : Function.Injective QM31.ofM31 := by
  intro a b hab
  exact congrArg (fun x : QM31 => x.re.re) hab

end TowerFold
