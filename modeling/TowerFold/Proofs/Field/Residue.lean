import Mathlib.Data.ZMod.Basic
import Mathlib.Tactic.Ring
import TowerFold.Field.Mersenne

/-!
# The base field as a ring

An element of the base field is read as its class in `ZMod modulus`. The reading keeps
sums, differences and products and tells elements apart, so the laws of a commutative
ring hold of the elements themselves.
-/

namespace TowerFold.M31

/-- The class of an element modulo `modulus`. -/
def toZMod (x : M31) : ZMod modulus := (x.val : ZMod modulus)

/-- Elements with the same class are equal, because representatives are reduced. -/
theorem toZMod_injective : Function.Injective toZMod := by
  intro x y hxy
  have hmod : x.val % modulus = y.val % modulus :=
    (ZMod.natCast_eq_natCast_iff' x.val y.val modulus).mp hxy
  ext
  rwa [Nat.mod_eq_of_lt x.val_lt, Nat.mod_eq_of_lt y.val_lt] at hmod

@[simp] theorem toZMod_ofNat (n : ℕ) : toZMod (ofNat n) = (n : ZMod modulus) := by
  simp [toZMod]

@[simp] theorem toZMod_ofInt (n : ℤ) : toZMod (ofInt n) = (n : ZMod modulus) := by
  have hcast : toZMod (ofInt n) = (((ofInt n).val : ℤ) : ZMod modulus) := by
    rw [toZMod, Int.cast_natCast]
  rw [hcast, val_ofInt, ZMod.intCast_mod]

@[simp] theorem toZMod_zero : toZMod 0 = 0 := by simp [toZMod]

@[simp] theorem toZMod_one : toZMod 1 = 1 := by simp [toZMod]

@[simp] theorem toZMod_add (x y : M31) : toZMod (x + y) = toZMod x + toZMod y := by
  simp [toZMod]

@[simp] theorem toZMod_mul (x y : M31) : toZMod (x * y) = toZMod x * toZMod y := by
  simp [toZMod]

@[simp] theorem toZMod_neg (x : M31) : toZMod (-x) = -toZMod x := by
  simp [toZMod, Nat.cast_sub x.val_lt.le]

@[simp] theorem toZMod_sub (x y : M31) : toZMod (x - y) = toZMod x - toZMod y := by
  simp [toZMod, Nat.cast_sub y.val_lt.le, sub_eq_add_neg]

/-- The base field is a commutative ring; numerals of either sign stand for residues. -/
instance : CommRing M31 where
  add_assoc x y z := toZMod_injective (by simp only [toZMod_add]; ring)
  zero_add x := toZMod_injective (by simp)
  add_zero x := toZMod_injective (by simp)
  add_comm x y := toZMod_injective (by simp only [toZMod_add]; ring)
  left_distrib x y z := toZMod_injective (by simp only [toZMod_add, toZMod_mul]; ring)
  right_distrib x y z := toZMod_injective (by simp only [toZMod_add, toZMod_mul]; ring)
  zero_mul x := toZMod_injective (by simp)
  mul_zero x := toZMod_injective (by simp)
  mul_assoc x y z := toZMod_injective (by simp only [toZMod_mul]; ring)
  one_mul x := toZMod_injective (by simp)
  mul_one x := toZMod_injective (by simp)
  mul_comm x y := toZMod_injective (by simp only [toZMod_mul]; ring)
  neg_add_cancel x := toZMod_injective (by simp)
  sub_eq_add_neg x y := toZMod_injective (by simp only [toZMod_add, toZMod_sub, toZMod_neg]; ring)
  nsmul := nsmulRec
  zsmul := zsmulRec
  natCast := ofNat
  natCast_zero := rfl
  natCast_succ n := toZMod_injective
    (show toZMod (ofNat (n + 1)) = toZMod (ofNat n + 1) by simp)
  intCast := ofInt
  intCast_ofNat n := toZMod_injective
    (show toZMod (ofInt n) = toZMod (ofNat n) by simp)
  intCast_negSucc n := toZMod_injective
    (show toZMod (ofInt (Int.negSucc n)) = toZMod (-ofNat (n + 1)) by simp [Int.negSucc_eq])

/-- The residue of a natural number is its numeral in the base field. -/
theorem ofNat_eq_cast (n : ℕ) : ofNat n = (n : M31) := rfl

/-- An element is the residue of its representative. -/
@[simp] theorem ofNat_val (x : M31) : ofNat x.val = x := by
  ext
  rw [val_ofNat, Nat.mod_eq_of_lt x.val_lt]

end TowerFold.M31
