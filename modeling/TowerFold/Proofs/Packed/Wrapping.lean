import Mathlib.Data.Int.ModEq
import Mathlib.RingTheory.Coprime.Lemmas
import Mathlib.Tactic.NormNum.GCD
import TowerFold.Proofs.Operand.Elements
import TowerFold.Proofs.Packed.Word

/-!
# Where wrapping shows

A word operation keeps an integer modulo `2 ^ 64` before it is reduced. The quotient by `2 ^ 64` is
the number of wraps, and `2 ^ 64` has no factor in common with the modulus, so the residue is right
exactly if the modulus divides this number. Sums and differences wrap at most once, and are exact
only where they do not wrap at all.
-/

namespace TowerFold.Word

/-- A word holds an integer up to multiples of `2 ^ 64`. -/
def IsWrapOf (w : UInt64) (n : ℤ) : Prop := (w.toNat : ℤ) = n % 2 ^ 64

/-- At two words, an operation on words is exact if its result has the residue of what the
operation on integers gives. -/
def IsExactAt (f : UInt64 → UInt64 → UInt64) (g : ℤ → ℤ → ℤ) (x y : UInt64) : Prop :=
  ((f x y).toNat : ℤ) ≡ g x.toNat y.toNat [ZMOD modulus]

instance (f : UInt64 → UInt64 → UInt64) (g : ℤ → ℤ → ℤ) (x y : UInt64) :
    Decidable (IsExactAt f g x y) :=
  inferInstanceAs (Decidable (_ ≡ _ [ZMOD modulus]))

/-- A word holds the element that an operator gives for two elements. -/
def HoldsResult (op : Operand → Operand → Except Fault Operand) (k l : M31) (w : UInt64) : Prop :=
  ∃ z, op (.m31 k) (.m31 l) = .ok (.m31 z) ∧ w.toNat = z.val

variable {x y w : UInt64} {m n : ℤ}

/-- A word holds its own number. -/
theorem isWrapOf_toNat (w : UInt64) : IsWrapOf w w.toNat := by
  have hw := w.toNat_lt
  unfold IsWrapOf
  omega

/-- Kept modulo `2 ^ 64`, an integer has the residue that it had exactly if the modulus divides the
number of its wraps. -/
theorem emod_modEq_iff (n : ℤ) :
    n % 2 ^ 64 ≡ n [ZMOD modulus] ↔ (modulus : ℤ) ∣ n / 2 ^ 64 := by
  have hcoprime : IsCoprime (modulus : ℤ) (2 ^ 64) := by
    rw [Int.isCoprime_iff_gcd_eq_one]
    decide
  have hwraps : n - n % 2 ^ 64 = 2 ^ 64 * (n / 2 ^ 64) := by omega
  rw [Int.modEq_iff_dvd, hwraps]
  exact ⟨hcoprime.dvd_of_dvd_mul_left, fun hdvd => hdvd.mul_left _⟩

/-- Where an integer wraps at most once, in either direction, the modulus divides the number of
wraps only if there are none. -/
theorem dvd_wraps_iff (hlow : -2 ^ 64 ≤ n) (hhigh : n < 2 ^ 65) :
    (modulus : ℤ) ∣ n / 2 ^ 64 ↔ 0 ≤ n ∧ n < 2 ^ 64 := by
  unfold modulus
  omega

namespace IsWrapOf

/-- Sums of words hold the sums of the integers. -/
theorem add (hx : IsWrapOf x m) (hy : IsWrapOf y n) : IsWrapOf (x + y) (m + n) := by
  unfold IsWrapOf at *
  rw [UInt64.toNat_add]
  omega

/-- Differences of words hold the differences of the integers. -/
theorem sub (hx : IsWrapOf x m) (hy : IsWrapOf y n) : IsWrapOf (x - y) (m - n) := by
  unfold IsWrapOf at *
  rw [UInt64.toNat_sub]
  omega

/-- Products of words hold the products of the integers. -/
theorem mul (hx : IsWrapOf x m) (hy : IsWrapOf y n) : IsWrapOf (x * y) (m * n) := by
  unfold IsWrapOf at *
  rw [UInt64.toNat_mul, Int.mul_emod, ← hx, ← hy]
  push_cast
  rfl

/-- A word is reduced to the residue of the integer that it holds exactly if the modulus divides
the number of wraps. -/
theorem reduced_modEq_iff (hw : IsWrapOf w n) :
    ((w % modulus64).toNat : ℤ) ≡ n [ZMOD modulus] ↔ (modulus : ℤ) ∣ n / 2 ^ 64 := by
  have hreduced : ((w % modulus64).toNat : ℤ) ≡ n % 2 ^ 64 [ZMOD modulus] := by
    unfold IsWrapOf at hw
    rw [UInt64.toNat_mod, toNat_modulus64, Int.natCast_emod, hw]
    exact Int.mod_modEq _ _
  rw [← emod_modEq_iff]
  exact ⟨hreduced.symm.trans, hreduced.trans⟩

end IsWrapOf

/-- Whatever a word holds, it is reduced below the modulus. -/
theorem toNat_reduced_lt (w : UInt64) : (w % modulus64).toNat < modulus := by
  rw [UInt64.toNat_mod, toNat_modulus64]
  exact Nat.mod_lt _ modulus_pos

/-- A reduced sum is exact exactly where the sum does not wrap. -/
theorem isExactAt_add_iff : IsExactAt add (· + ·) x y ↔ x.toNat + y.toNat < 2 ^ 64 := by
  have hx := x.toNat_lt
  have hy := y.toNat_lt
  have hsum := (isWrapOf_toNat x).add (isWrapOf_toNat y)
  rw [IsExactAt, add, hsum.reduced_modEq_iff, dvd_wraps_iff (by omega) (by omega)]
  omega

/-- A reduced difference is exact exactly where nothing is left of wrapping after the modulus has
been added and the second word taken away. -/
theorem isExactAt_sub_iff :
    IsExactAt sub (· - ·) x y ↔
      (0 : ℤ) ≤ x.toNat + modulus - y.toNat ∧ (x.toNat + modulus - y.toNat : ℤ) < 2 ^ 64 := by
  have hx := x.toNat_lt
  have hy := y.toNat_lt
  have hdifference : IsWrapOf (x + modulus64 - y) (x.toNat + modulus - y.toNat) :=
    ((isWrapOf_toNat x).add (isWrapOf_toNat modulus64)).sub (isWrapOf_toNat y)
  -- The difference is claimed without the modulus that is added to stay above zero.
  have hadded : (x.toNat + modulus - y.toNat : ℤ) ≡ x.toNat - y.toNat [ZMOD modulus] := by
    rw [Int.modEq_iff_dvd]
    exact ⟨-1, by ring⟩
  have hexact : IsExactAt sub (· - ·) x y ↔
      ((sub x y).toNat : ℤ) ≡ x.toNat + modulus - y.toNat [ZMOD modulus] :=
    ⟨fun h => h.trans hadded.symm, fun h => h.trans hadded⟩
  rw [hexact, sub, hdifference.reduced_modEq_iff]
  refine dvd_wraps_iff ?_ ?_
  · unfold modulus
    omega
  · unfold modulus
    omega

/-- A reduced product is exact exactly where the modulus divides the upper word of the product. -/
theorem isExactAt_mul_iff :
    IsExactAt mul (· * ·) x y ↔ modulus ∣ x.toNat * y.toNat / 2 ^ 64 := by
  have hproduct := (isWrapOf_toNat x).mul (isWrapOf_toNat y)
  rw [IsExactAt, mul, hproduct.reduced_modEq_iff]
  norm_cast

/-- Sums of words below `2 ^ 32` are exact. -/
theorem isExactAt_add_of_lt (hx : x.toNat < 2 ^ 32) (hy : y.toNat < 2 ^ 32) :
    IsExactAt add (· + ·) x y :=
  isExactAt_add_iff.mpr (by omega)

/-- Products of words below `2 ^ 32` are exact. -/
theorem isExactAt_mul_of_lt (hx : x.toNat < 2 ^ 32) (hy : y.toNat < 2 ^ 32) :
    IsExactAt mul (· * ·) x y := by
  have hproduct : x.toNat * y.toNat < 2 ^ 64 :=
    (Nat.mul_lt_mul'' hx hy).trans_eq (by norm_num)
  rw [isExactAt_mul_iff, Nat.div_eq_of_lt hproduct]
  exact dvd_zero _

/-- Differences of words below `2 ^ 32` are exact as far as the added modulus reaches. -/
theorem isExactAt_sub_iff_of_lt (hx : x.toNat < 2 ^ 32) :
    IsExactAt sub (· - ·) x y ↔ y.toNat ≤ x.toNat + modulus := by
  rw [isExactAt_sub_iff]
  unfold modulus
  omega

/-- From zero, the largest word below `2 ^ 32` is farther than the added modulus reaches. -/
theorem difference_of_short_words_wraps :
    (0 : UInt64).toNat < 2 ^ 32 ∧ (4294967295 : UInt64).toNat < 2 ^ 32 ∧
      (sub 0 4294967295).toNat = 3 ∧ ¬IsExactAt sub (· - ·) 0 4294967295 := by
  decide

/-- The words of two elements are added as the elements are. -/
theorem add_ofM31 (k l : M31) : add (ofM31 k) (ofM31 l) = ofM31 (k + l) :=
  (add?_eq_some_iff.mp (add?_ofM31 k l)).2

/-- The words of two elements are subtracted as the elements are. -/
theorem sub_ofM31 (k l : M31) : sub (ofM31 k) (ofM31 l) = ofM31 (k - l) :=
  (sub?_eq_some_iff.mp (sub?_ofM31 k l)).2

/-- The words of two elements are multiplied as the elements are. -/
theorem mul_ofM31 (k l : M31) : mul (ofM31 k) (ofM31 l) = ofM31 (k * l) := by
  have hproduct := mul?_of_lt (toNat_ofM31_lt k) (toNat_ofM31_lt l)
  rw [residue_ofM31, residue_ofM31] at hproduct
  exact (mul?_eq_some_iff.mp hproduct).2

/-- The word of an element holds it. -/
theorem holdsResult_ofM31 {op : Operand → Operand → Except Fault Operand} {k l z : M31}
    (hop : op (.m31 k) (.m31 l) = .ok (.m31 z)) : HoldsResult op k l (ofM31 z) :=
  ⟨z, hop, toNat_ofM31 z⟩

/-- Results of word operations are reduced, and they are exact exactly where the modulus divides
the number of wraps: sums and differences where they do not wrap, products where it divides their
upper word. Words below `2 ^ 32` have exact sums and products, and exact differences as far as the
added modulus reaches. Words that hold elements have those of their results. -/
theorem reduced_words_exact_iff (x y : UInt64) :
    ((add x y).toNat < modulus ∧ (sub x y).toNat < modulus ∧ (mul x y).toNat < modulus) ∧
    (IsExactAt add (· + ·) x y ↔ x.toNat + y.toNat < 2 ^ 64) ∧
    (IsExactAt sub (· - ·) x y ↔
      (0 : ℤ) ≤ x.toNat + modulus - y.toNat ∧ (x.toNat + modulus - y.toNat : ℤ) < 2 ^ 64) ∧
    (IsExactAt mul (· * ·) x y ↔ modulus ∣ x.toNat * y.toNat / 2 ^ 64) ∧
    (x.toNat < 2 ^ 32 → y.toNat < 2 ^ 32 →
      IsExactAt add (· + ·) x y ∧ IsExactAt mul (· * ·) x y ∧
        (IsExactAt sub (· - ·) x y ↔ y.toNat ≤ x.toNat + modulus)) ∧
    ∀ k l : M31, x.toNat = k.val → y.toNat = l.val →
      HoldsResult Operand.add k l (add x y) ∧ HoldsResult Operand.sub k l (sub x y) ∧
        HoldsResult Operand.mul k l (mul x y) := by
  refine ⟨⟨toNat_reduced_lt _, toNat_reduced_lt _, toNat_reduced_lt _⟩, isExactAt_add_iff,
    isExactAt_sub_iff, isExactAt_mul_iff, ?_, ?_⟩
  · intro hx hy
    exact ⟨isExactAt_add_of_lt hx hy, isExactAt_mul_of_lt hx hy, isExactAt_sub_iff_of_lt hx⟩
  · intro k l hx hy
    rw [eq_ofM31_of_toNat hx, eq_ofM31_of_toNat hy, add_ofM31, sub_ofM31, mul_ofM31]
    exact ⟨holdsResult_ofM31 (elementClass_m31.add k l),
      holdsResult_ofM31 (elementClass_m31.sub k l), holdsResult_ofM31 (elementClass_m31.mul k l)⟩

/-- The two largest reduced words, of which the larger one is taken from the smaller one. -/
theorem reduced_words_exact_iff_at_largest :
    IsExactAt add (· + ·) 2147483645 2147483646 ∧ IsExactAt mul (· * ·) 2147483645 2147483646 ∧
      IsExactAt sub (· - ·) 2147483645 2147483646 ∧
      HoldsResult Operand.add ⟨2147483645, by decide⟩ ⟨2147483646, by decide⟩
        (add 2147483645 2147483646) ∧
      HoldsResult Operand.sub ⟨2147483645, by decide⟩ ⟨2147483646, by decide⟩
        (sub 2147483645 2147483646) ∧
      HoldsResult Operand.mul ⟨2147483645, by decide⟩ ⟨2147483646, by decide⟩
        (mul 2147483645 2147483646) := by
  obtain ⟨_, _, _, _, hshort, hreduced⟩ := reduced_words_exact_iff 2147483645 2147483646
  obtain ⟨hadd, hmul, hsub⟩ := hshort (by decide) (by decide)
  exact ⟨hadd, hmul, hsub.mpr (by decide), hreduced _ _ rfl rfl⟩

end TowerFold.Word
