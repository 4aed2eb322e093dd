import Mathlib.Algebra.Group.Basic
import TowerFold.Field.Power

/-!
# Powers by squaring are powers

One squaring per binary digit computes the power of any monoid.
-/

namespace TowerFold

variable {M : Type} [Monoid M]

/-- The loop multiplies its accumulator by a power. Halving the exponent and squaring the
base leave that power alone, up to one factor for an odd exponent. -/
theorem powerFrom_eq_mul_pow (acc base : M) (n : ℕ) : powerFrom acc base n = acc * base ^ n := by
  fun_induction powerFrom acc base n with
  | case1 acc base => rw [pow_zero, mul_one]
  | case2 acc base n hn ih =>
    rw [dite_eq_ite] at ih
    rw [ih, ← sq, ← pow_mul]
    by_cases hodd : n % 2 = 1
    · have hn' : 2 * (n / 2) + 1 = n := by omega
      rw [if_pos hodd, mul_assoc, ← pow_succ', hn']
    · have hn' : 2 * (n / 2) = n := by omega
      rw [if_neg hodd, hn']

/-- Squaring computes powers. -/
theorem power_eq_pow (base : M) (n : ℕ) : power base n = base ^ n := by
  rw [power, powerFrom_eq_mul_pow, one_mul]

end TowerFold
