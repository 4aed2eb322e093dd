import TowerFold.Field.Power

/-!
# The base field

Residues modulo the Mersenne prime `2³¹ − 1`. An element carries the bound on its
representative, so two elements are equal exactly when their representatives are.
-/

namespace TowerFold

/-- The Mersenne prime `2³¹ − 1`, the characteristic of every field of the tower. -/
def modulus : Nat := 2147483647

theorem modulus_pos : 0 < modulus := by decide

/-- A residue modulo `modulus`, held by its representative below `modulus`. -/
@[ext]
structure M31 where
  /-- The representative. -/
  val : Nat
  /-- The representative is reduced. -/
  val_lt : val < modulus
  deriving DecidableEq

namespace M31

/-- The residue of a natural number. -/
def ofNat (n : Nat) : M31 := ⟨n % modulus, Nat.mod_lt n modulus_pos⟩

/-- The residue of an integer of either sign. -/
def ofInt (n : Int) : M31 :=
  ⟨(n % (modulus : Int)).toNat, by
    have hpos : (0 : Int) < (modulus : Int) := by decide
    have hlow := Int.emod_nonneg n (Int.ne_of_gt hpos)
    have hhigh := Int.emod_lt_of_pos n hpos
    omega⟩

instance : Zero M31 := ⟨ofNat 0⟩
instance : One M31 := ⟨ofNat 1⟩
instance : Add M31 := ⟨fun x y => ofNat (x.val + y.val)⟩
instance : Neg M31 := ⟨fun x => ofNat (modulus - x.val)⟩
instance : Sub M31 := ⟨fun x y => ofNat (x.val + (modulus - y.val))⟩
instance : Mul M31 := ⟨fun x y => ofNat (x.val * y.val)⟩
instance : Inhabited M31 := ⟨0⟩

/-- The inverse of a nonzero residue, by Fermat's theorem the power `modulus − 2`.
Zero has none. -/
def inverse? (x : M31) : Option M31 :=
  if x = 0 then none else some (power x (modulus - 2))

/-- The power with an integer exponent: a negative exponent asks for the inverse of
the base, so only zero to a negative power has no answer. -/
def power? (x : M31) : Int → Option M31
  | .ofNat n => some (power x n)
  | .negSucc n => x.inverse?.map fun y => power y (n + 1)

/-- The quotient by a nonzero residue. -/
def div? (x y : M31) : Option M31 :=
  y.inverse?.map (x * ·)

@[simp] theorem val_ofNat (n : Nat) : (ofNat n).val = n % modulus := rfl
@[simp] theorem val_zero : (0 : M31).val = 0 := rfl
@[simp] theorem val_one : (1 : M31).val = 1 := rfl
@[simp] theorem val_add (x y : M31) : (x + y).val = (x.val + y.val) % modulus := rfl
@[simp] theorem val_mul (x y : M31) : (x * y).val = (x.val * y.val) % modulus := rfl
@[simp] theorem val_neg (x : M31) : (-x).val = (modulus - x.val) % modulus := rfl
@[simp] theorem val_sub (x y : M31) :
    (x - y).val = (x.val + (modulus - y.val)) % modulus := rfl

/-- An integer and its residue agree modulo `modulus`. -/
@[simp] theorem val_ofInt (n : Int) : ((ofInt n).val : Int) = n % (modulus : Int) := by
  have hpos : (0 : Int) < (modulus : Int) := by decide
  exact Int.toNat_of_nonneg (Int.emod_nonneg n (Int.ne_of_gt hpos))

end M31

end TowerFold
