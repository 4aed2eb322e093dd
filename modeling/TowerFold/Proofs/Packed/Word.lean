import TowerFold.Packed.Word
import TowerFold.Proofs.Field.Residue

/-!
# Word arithmetic without wrapping

Each operation on machine words is repeated in a form that has no result where a sum, a
difference or a product inside it wraps. On words that hold residues the repeated form
always has a result, and it is the one of the base field. For products it is enough that the
words are below `2 ^ 32`.
-/

namespace TowerFold.Word

/-- The word that holds a residue. -/
def ofM31 (x : M31) : UInt64 := UInt64.ofNat x.val

/-- The residue of a word. -/
def residue (x : UInt64) : M31 := .ofNat x.toNat

/-- The reduced sum, unless the sum wraps. -/
def add? (x y : UInt64) : Option UInt64 :=
  if (x + y).toNat = x.toNat + y.toNat then some (add x y) else none

/-- The reduced difference, unless the sum with the modulus or the difference wraps. -/
def sub? (x y : UInt64) : Option UInt64 :=
  if (x + modulus64).toNat = x.toNat + modulus64.toNat ∧
      ((x + modulus64 - y).toNat : ℤ) = (x + modulus64).toNat - y.toNat then some (sub x y)
  else none

/-- The reduced product, unless the product wraps. -/
def mul? (x y : UInt64) : Option UInt64 :=
  if (x * y).toNat = x.toNat * y.toNat then some (mul x y) else none

/-- The complex product by coordinates, unless an operation wraps. -/
def complexMul? (a₀ a₁ b₀ b₁ : UInt64) : Option (UInt64 × UInt64) := do
  let re ← sub? (← mul? a₀ b₀) (← mul? a₁ b₁)
  let im ← add? (← mul? a₀ b₁) (← mul? a₁ b₀)
  return (re, im)

variable {x y z : UInt64}

/-- A sum that does not wrap is the exact one before it is reduced. -/
theorem add?_eq_some_iff :
    add? x y = some z ↔ (x + y).toNat = x.toNat + y.toNat ∧ add x y = z := by
  rw [add?, Option.ite_none_right_eq_some, Option.some.injEq]

/-- A difference that does not wrap is the exact one before it is reduced. -/
theorem sub?_eq_some_iff :
    sub? x y = some z ↔
      ((x + modulus64).toNat = x.toNat + modulus64.toNat ∧
        ((x + modulus64 - y).toNat : ℤ) = (x + modulus64).toNat - y.toNat) ∧ sub x y = z := by
  rw [sub?, Option.ite_none_right_eq_some, Option.some.injEq]

/-- A product that does not wrap is the exact one before it is reduced. -/
theorem mul?_eq_some_iff :
    mul? x y = some z ↔ (x * y).toNat = x.toNat * y.toNat ∧ mul x y = z := by
  rw [mul?, Option.ite_none_right_eq_some, Option.some.injEq]

/-- A complex product wraps exactly where one of its operations does. -/
theorem complexMul?_eq_some_iff {a₀ a₁ b₀ b₁ : UInt64} {product : UInt64 × UInt64} :
    complexMul? a₀ a₁ b₀ b₁ = some product ↔
      ∃ p₀, mul? a₀ b₀ = some p₀ ∧ ∃ p₁, mul? a₁ b₁ = some p₁ ∧ ∃ re, sub? p₀ p₁ = some re ∧
        ∃ q₀, mul? a₀ b₁ = some q₀ ∧ ∃ q₁, mul? a₁ b₀ = some q₁ ∧ ∃ im, add? q₀ q₁ = some im ∧
          (re, im) = product := by
  simp only [complexMul?, Option.bind_eq_bind, Option.bind_eq_some_iff, Option.pure_def,
    Option.some.injEq]

/-- A complex product that does not wrap is the complex product. -/
theorem complexMul_of_complexMul? {a₀ a₁ b₀ b₁ : UInt64} {product : UInt64 × UInt64}
    (h : complexMul? a₀ a₁ b₀ b₁ = some product) : complexMul a₀ a₁ b₀ b₁ = product := by
  obtain ⟨p₀, hp₀, p₁, hp₁, re, hre, q₀, hq₀, q₁, hq₁, im, him, rfl⟩ :=
    complexMul?_eq_some_iff.mp h
  rw [complexMul, (mul?_eq_some_iff.mp hp₀).2, (mul?_eq_some_iff.mp hp₁).2,
    (mul?_eq_some_iff.mp hq₀).2, (mul?_eq_some_iff.mp hq₁).2, (sub?_eq_some_iff.mp hre).2,
    (add?_eq_some_iff.mp him).2]

/-- The modulus in a word is the modulus. -/
theorem toNat_modulus64 : modulus64.toNat = modulus := rfl

/-- A word that holds a residue has its value. -/
@[simp] theorem toNat_ofM31 (k : M31) : (ofM31 k).toNat = k.val := by
  have hk := k.val_lt
  rw [ofM31, UInt64.toNat_ofNat']
  exact Nat.mod_eq_of_lt (by unfold modulus at hk; omega)

/-- Words that hold residues are below `2 ^ 32`. -/
theorem toNat_ofM31_lt (k : M31) : (ofM31 k).toNat < 2 ^ 32 := by
  rw [toNat_ofM31]
  exact k.val_lt.trans (by decide)

/-- The residue of a word that holds it. -/
@[simp] theorem residue_ofM31 (k : M31) : residue (ofM31 k) = k := by
  rw [residue, toNat_ofM31, M31.ofNat_val]

/-- The word of a residue is found by its value. -/
theorem eq_ofM31_of_toNat {k : M31} (h : x.toNat = k.val) : x = ofM31 k := by
  rw [← UInt64.toNat_inj, h, toNat_ofM31]

/-- Sums of residues do not wrap. -/
theorem add?_ofM31 (k l : M31) : add? (ofM31 k) (ofM31 l) = some (ofM31 (k + l)) := by
  have hk := k.val_lt
  have hl := l.val_lt
  have hexact : (ofM31 k + ofM31 l).toNat = (ofM31 k).toNat + (ofM31 l).toNat := by
    rw [UInt64.toNat_add, toNat_ofM31, toNat_ofM31]
    exact Nat.mod_eq_of_lt (by unfold modulus at hk hl; omega)
  refine add?_eq_some_iff.mpr ⟨hexact, eq_ofM31_of_toNat ?_⟩
  rw [add, UInt64.toNat_mod, hexact, toNat_modulus64, toNat_ofM31, toNat_ofM31, M31.val_add]

/-- Differences of residues do not wrap. -/
theorem sub?_ofM31 (k l : M31) : sub? (ofM31 k) (ofM31 l) = some (ofM31 (k - l)) := by
  have hk := k.val_lt
  have hl := l.val_lt
  have hsum : (ofM31 k + modulus64).toNat = k.val + modulus := by
    rw [UInt64.toNat_add, toNat_ofM31, toNat_modulus64]
    exact Nat.mod_eq_of_lt (by unfold modulus at hk ⊢; omega)
  have hle : ofM31 l ≤ ofM31 k + modulus64 := by
    rw [UInt64.le_iff_toNat_le, hsum, toNat_ofM31]
    omega
  have hdifference : (ofM31 k + modulus64 - ofM31 l).toNat = k.val + (modulus - l.val) := by
    rw [UInt64.toNat_sub_of_le _ _ hle, hsum, toNat_ofM31]
    omega
  have hexact : (ofM31 k + modulus64).toNat = (ofM31 k).toNat + modulus64.toNat ∧
      ((ofM31 k + modulus64 - ofM31 l).toNat : ℤ) =
        (ofM31 k + modulus64).toNat - (ofM31 l).toNat := by
    rw [hdifference, hsum, toNat_ofM31, toNat_ofM31, toNat_modulus64]
    omega
  refine sub?_eq_some_iff.mpr ⟨hexact, eq_ofM31_of_toNat ?_⟩
  rw [sub, UInt64.toNat_mod, hdifference, toNat_modulus64, M31.val_sub]

/-- Products of words below `2 ^ 32` do not wrap. -/
theorem mul?_of_lt (hx : x.toNat < 2 ^ 32) (hy : y.toNat < 2 ^ 32) :
    mul? x y = some (ofM31 (residue x * residue y)) := by
  have hproduct : x.toNat * y.toNat < 2 ^ 32 * 2 ^ 32 := Nat.mul_lt_mul'' hx hy
  have hexact : (x * y).toNat = x.toNat * y.toNat := by
    rw [UInt64.toNat_mul]
    exact Nat.mod_eq_of_lt hproduct
  refine mul?_eq_some_iff.mpr ⟨hexact, eq_ofM31_of_toNat ?_⟩
  rw [mul, UInt64.toNat_mod, hexact, toNat_modulus64, Nat.mul_mod]
  rfl

/-- Complex products of words below `2 ^ 32` do not wrap. -/
theorem complexMul?_of_lt {a₀ a₁ b₀ b₁ : UInt64} (ha₀ : a₀.toNat < 2 ^ 32)
    (ha₁ : a₁.toNat < 2 ^ 32) (hb₀ : b₀.toNat < 2 ^ 32) (hb₁ : b₁.toNat < 2 ^ 32) :
    complexMul? a₀ a₁ b₀ b₁ =
      some (ofM31 (residue a₀ * residue b₀ - residue a₁ * residue b₁),
        ofM31 (residue a₀ * residue b₁ + residue a₁ * residue b₀)) :=
  complexMul?_eq_some_iff.mpr ⟨_, mul?_of_lt ha₀ hb₀, _, mul?_of_lt ha₁ hb₁, _, sub?_ofM31 _ _,
    _, mul?_of_lt ha₀ hb₁, _, mul?_of_lt ha₁ hb₀, _, add?_ofM31 _ _, rfl⟩

end TowerFold.Word
