import TowerFold.Proofs.Fold.Weights

/-!
# Layers of neighbours

In a commutative ring, a layer whose neighbours are joined by the last factor has the same
weighted sum under the factors that are left. A layer shrinks by half each time, so a fold
from the leaves up ends in the weighted sum itself.
-/

namespace TowerFold

variable {R : Type} [CommRing R]

/-- Neighbours of a layer joined by one factor. -/
def joinPairs (factor : R) : List R → List R
  | left :: right :: rest => (left + right * factor) :: joinPairs factor rest
  | _ => []

/-- Half as many pairs as members. -/
theorem length_joinPairs (factor : R) {layer : List R} {m : ℕ} (hlayer : layer.length = 2 * m) :
    (joinPairs factor layer).length = m := by
  induction m generalizing layer with
  | zero =>
    obtain rfl := List.length_eq_zero_iff.mp hlayer
    rfl
  | succ m ih =>
    match layer, hlayer with
    | left :: right :: rest, hlayer =>
      have hrest : rest.length = 2 * m := by
        simp only [List.length_cons] at hlayer
        omega
      rw [joinPairs, List.length_cons, ih hrest]

/-- The last factor is selected by the lowest digit, the others by the digits above it. -/
theorem bitWeight_concat (factors : List R) (factor : R) (index : ℕ) :
    bitWeight (factors ++ [factor]) index =
      bitWeight factors (index / 2) * if index.testBit 0 then factor else 1 := by
  induction factors with
  | nil => simp [bitWeight_cons]
  | cons top factors ih =>
    have hdigit : index.testBit (factors ++ [factor]).length =
        (index / 2).testBit factors.length := by
      rw [List.length_append, List.length_singleton, Nat.testBit_succ]
    rw [List.cons_append, bitWeight_cons, bitWeight_cons, ih, hdigit, mul_assoc]

/-- A layer joined by the last factor keeps its weighted sum. -/
theorem bitWeightedSumFrom_joinPairs (start : ℕ) (factors : List R) (factor : R) {layer : List R}
    {m : ℕ} (hlayer : layer.length = 2 * m) :
    bitWeightedSumFrom start (joinPairs factor layer) factors =
      bitWeightedSumFrom (2 * start) layer (factors ++ [factor]) := by
  induction m generalizing start layer with
  | zero =>
    obtain rfl := List.length_eq_zero_iff.mp hlayer
    simp [joinPairs]
  | succ m ih =>
    match layer, hlayer with
    | left :: right :: rest, hlayer =>
      have hrest : rest.length = 2 * m := by
        simp only [List.length_cons] at hlayer
        omega
      have heven : 2 * start / 2 = start ∧ (2 * start).testBit 0 = false := by
        rw [Nat.testBit_zero, decide_eq_false_iff_not]
        omega
      have hodd : (2 * start + 1) / 2 = start ∧ (2 * start + 1).testBit 0 = true := by
        rw [Nat.testBit_zero, decide_eq_true_iff]
        omega
      have hnext : 2 * start + 1 + 1 = 2 * (start + 1) := by omega
      rw [joinPairs, bitWeightedSumFrom_cons, bitWeightedSumFrom_cons, bitWeightedSumFrom_cons,
        ih (start + 1) hrest, bitWeight_concat, bitWeight_concat, heven.1, heven.2, hodd.1, hodd.2,
        hnext]
      simp only [Bool.false_eq_true, if_false, if_true]
      ring

/-- A layer with twice as many members as the factors left can weigh keeps its sum. -/
theorem bitWeightedSum_joinPairs (factors : List R) (factor : R) {layer : List R} {m : ℕ}
    (hlayer : layer.length = 2 * m) :
    bitWeightedSum (joinPairs factor layer) factors =
      bitWeightedSum layer (factors ++ [factor]) := by
  rw [← bitWeightedSumFrom_zero, bitWeightedSumFrom_joinPairs 0 factors factor hlayer,
    Nat.mul_zero, bitWeightedSumFrom_zero]

end TowerFold
