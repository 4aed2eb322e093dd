import Mathlib.Algebra.Order.Ring.Int
import Mathlib.Data.Int.Bitwise
import Mathlib.Tactic.Positivity
import TowerFold.PowerOfTwo

/-!
# Powers of two and their exponents

The test by shared binary digits finds exactly the powers of two among the integers of either
sign, and the position of the only digit is the exponent. No other integer has a logarithm.
-/

namespace TowerFold

/-- The number of values under `k` factors as a power. -/
theorem leafCount_eq_two_pow (k : ℕ) : leafCount k = 2 ^ k := by
  simp [leafCount, Nat.shiftLeft_eq]

/-- A power of two as an integer is the same power as a natural number. -/
theorem toNat_two_pow (k : ℕ) : ((2 : ℤ) ^ k).toNat = 2 ^ k :=
  Int.toNat_pow_of_nonneg (by decide) k

/-- The digit test finds exactly the powers of two among the integers of either sign. -/
theorem isPowerOfTwo_iff (n : ℤ) : isPowerOfTwo n = true ↔ ∃ k : ℕ, n = 2 ^ k := by
  have hdigits := @Nat.ne_zero_and_sub_one_eq_zero_iff_isPowerOfTwo n.toNat
  simp only [isPowerOfTwo, Bool.and_eq_true, decide_eq_true_eq, beq_iff_eq]
  constructor
  · rintro ⟨hpos, hand⟩
    obtain ⟨k, hk⟩ := hdigits.mp ⟨by omega, hand⟩
    refine ⟨k, ?_⟩
    rw [← Int.toNat_of_nonneg hpos.le, hk]
    simp
  · rintro ⟨k, rfl⟩
    exact ⟨by positivity, (hdigits.mpr ⟨k, toNat_two_pow k⟩).2⟩

/-- An integer passes the digit test if it is positive and its two's complement shares no digit with
that of its predecessor. -/
theorem isPowerOfTwo_iff_land (n : ℤ) :
    isPowerOfTwo n = true ↔ 0 < n ∧ Int.land n (n - 1) = 0 := by
  simp only [isPowerOfTwo, Bool.and_eq_true, decide_eq_true_eq, beq_iff_eq]
  refine and_congr_right fun hpos => ?_
  obtain ⟨m, rfl⟩ := Int.eq_ofNat_of_zero_le hpos.le
  have hpred : (m : ℤ) - 1 = (m - 1 : ℕ) := by omega
  rw [hpred, Int.toNat_natCast]
  exact Int.natCast_eq_zero.symm

/-- The digit test finds exactly the powers of two among the numbers of values. -/
theorem isPowerOfTwo_natCast_iff (count : ℕ) :
    isPowerOfTwo count = true ↔ ∃ k : ℕ, count = 2 ^ k := by
  rw [isPowerOfTwo_iff]
  norm_cast

/-- A power of two has its exponent as logarithm. -/
theorem exactLog2_two_pow (k : ℕ) : exactLog2 (2 ^ k) = .ok k := by
  rw [exactLog2, if_pos ((isPowerOfTwo_iff _).mpr ⟨k, rfl⟩), toNat_two_pow, Nat.log2_two_pow]

/-- An integer that is no power of two has no logarithm. -/
theorem exactLog2_of_not_power {n : ℤ} (hn : ∀ k : ℕ, n ≠ 2 ^ k) :
    exactLog2 n = .error .noLogarithm := by
  rw [exactLog2, if_neg]
  rw [isPowerOfTwo_iff]
  rintro ⟨k, hk⟩
  exact hn k hk

/-- An integer has a logarithm exactly if it is the power of two with this exponent. -/
theorem exactLog2_eq_ok_iff {n : ℤ} {k : ℕ} : exactLog2 n = .ok k ↔ n = 2 ^ k := by
  constructor
  · intro hlog
    by_cases hn : ∃ j : ℕ, n = 2 ^ j
    · obtain ⟨j, rfl⟩ := hn
      rw [exactLog2_two_pow] at hlog
      cases hlog
      rfl
    · rw [exactLog2_of_not_power (not_exists.mp hn)] at hlog
      cases hlog
  · rintro rfl
    exact exactLog2_two_pow k

/-- Without a logarithm there is one fault, and the integer is no power of two. -/
theorem exactLog2_eq_error_iff {n : ℤ} {fault : Fault} :
    exactLog2 n = .error fault ↔ fault = .noLogarithm ∧ ∀ k : ℕ, n ≠ 2 ^ k := by
  constructor
  · intro hlog
    have hn (k : ℕ) : n ≠ 2 ^ k := by
      rintro rfl
      rw [exactLog2_two_pow] at hlog
      cases hlog
    rw [exactLog2_of_not_power hn] at hlog
    cases hlog
    exact ⟨rfl, hn⟩
  · rintro ⟨rfl, hn⟩
    exact exactLog2_of_not_power hn

/-- Among the integers of either sign, the positive ones that share no binary digit with their
predecessor are the powers of two. Each of them has its exponent as logarithm, and all others,
zero and the negative ones among them, have none. -/
theorem logarithms_of_powers_only (n : ℤ) :
    (isPowerOfTwo n = true ↔ 0 < n ∧ Int.land n (n - 1) = 0) ∧
    (isPowerOfTwo n = true ↔ ∃ k : ℕ, n = 2 ^ k) ∧
    (∀ k : ℕ, exactLog2 n = .ok k ↔ n = 2 ^ k) ∧
    ∀ fault, exactLog2 n = .error fault ↔ fault = .noLogarithm ∧ ∀ k : ℕ, n ≠ 2 ^ k :=
  ⟨isPowerOfTwo_iff_land n, isPowerOfTwo_iff n, fun _ => exactLog2_eq_ok_iff,
    fun _ => exactLog2_eq_error_iff⟩

end TowerFold
