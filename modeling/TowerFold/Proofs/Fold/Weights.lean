import Mathlib.Algebra.BigOperators.Fin
import Mathlib.Algebra.BigOperators.Ring.Finset
import Mathlib.Tactic.Ring

/-!
# Sums weighted by binary digits

In a commutative ring, every value is weighted by the factors that the binary digits of
its index select: the highest digit the first factor, the lowest the last one. Such a sum
splits at the highest digit into the sums over the two halves of the values, which is the
step of a fold by halves.
-/

namespace TowerFold

variable {R : Type} [CommRing R]

/-- The product of the factors `j` for which digit `k - 1 - j` of the index is one, where
`k` is the number of factors. -/
def bitWeight (factors : List R) (index : ℕ) : R :=
  ∏ j : Fin factors.length, if index.testBit (factors.length - 1 - j) then factors[j] else 1

/-- The sum of the values, each weighted by the digits of its own index. -/
def bitWeightedSum (values factors : List R) : R :=
  ∑ i : Fin values.length, values[i] * bitWeight factors i

/-- The same sum with the indices counted from `start`. -/
def bitWeightedSumFrom (start : ℕ) (values factors : List R) : R :=
  ∑ i : Fin values.length, values[i] * bitWeight factors (start + i)

@[simp] theorem bitWeight_nil (index : ℕ) : bitWeight ([] : List R) index = 1 := by
  simp [bitWeight]

/-- The first factor is selected by the highest digit that counts. -/
theorem bitWeight_cons (factor : R) (factors : List R) (index : ℕ) :
    bitWeight (factor :: factors) index =
      (if index.testBit factors.length then factor else 1) * bitWeight factors index := by
  have hdigit (j : Fin factors.length) :
      factors.length - (j + 1) = factors.length - 1 - (j : ℕ) := by omega
  refine (Fin.prod_univ_succ (n := factors.length) _).trans ?_
  simp [bitWeight, hdigit]

/-- Digits above those that select a factor do not count. -/
theorem bitWeight_two_pow_add (factors : List R) (index : ℕ) :
    bitWeight factors (2 ^ factors.length + index) = bitWeight factors index := by
  refine Finset.prod_congr rfl fun j _ => ?_
  rw [Nat.testBit_two_pow_add_gt (by omega)]

@[simp] theorem bitWeightedSumFrom_nil (start : ℕ) (factors : List R) :
    bitWeightedSumFrom start [] factors = 0 := by
  simp [bitWeightedSumFrom]

/-- The first value carries the weight of the first index. -/
theorem bitWeightedSumFrom_cons (start : ℕ) (value : R) (values factors : List R) :
    bitWeightedSumFrom start (value :: values) factors =
      value * bitWeight factors start + bitWeightedSumFrom (start + 1) values factors := by
  refine (Fin.sum_univ_succ (n := values.length) _).trans ?_
  simp [bitWeightedSumFrom, Nat.add_comm, Nat.add_left_comm]

theorem bitWeightedSumFrom_zero (values factors : List R) :
    bitWeightedSumFrom 0 values factors = bitWeightedSum values factors := by
  simp [bitWeightedSumFrom, bitWeightedSum]

/-- The values of a second list go on where the first list ends. -/
theorem bitWeightedSumFrom_append (start : ℕ) (left right factors : List R) :
    bitWeightedSumFrom start (left ++ right) factors =
      bitWeightedSumFrom start left factors +
        bitWeightedSumFrom (start + left.length) right factors := by
  induction left generalizing start with
  | nil => simp
  | cons value left ih =>
    have hstart : start + (value :: left).length = start + 1 + left.length := by
      rw [List.length_cons]
      omega
    rw [List.cons_append, bitWeightedSumFrom_cons, bitWeightedSumFrom_cons, ih, hstart]
    exact (add_assoc _ _ _).symm

/-- A sum splits at the highest digit: the first factor multiplies the second half. -/
theorem bitWeightedSum_append (left right factors : List R) (factor : R)
    (hleft : left.length = 2 ^ factors.length) (hright : right.length = 2 ^ factors.length) :
    bitWeightedSum (left ++ right) (factor :: factors) =
      bitWeightedSum left factors + bitWeightedSum right factors * factor := by
  rw [← bitWeightedSumFrom_zero, bitWeightedSumFrom_append, Nat.zero_add, hleft]
  congr 1
  · refine Finset.sum_congr rfl fun i _ => ?_
    have hi : 0 + (i : ℕ) < 2 ^ factors.length := by omega
    rw [bitWeight_cons, Nat.testBit_lt_two_pow hi]
    simp
  · rw [bitWeightedSumFrom, bitWeightedSum, Finset.sum_mul]
    refine Finset.sum_congr rfl fun i _ => ?_
    have hi : (i : ℕ) < 2 ^ factors.length := by omega
    rw [bitWeight_cons, Nat.testBit_two_pow_add_eq, Nat.testBit_lt_two_pow hi,
      bitWeight_two_pow_add]
    simp only [Bool.not_false, if_true]
    ring

end TowerFold
