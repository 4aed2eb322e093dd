import TowerFold.Fold.Halves
import TowerFold.Proofs.Outcome
import TowerFold.Proofs.PowerOfTwo

/-!
# Matching sizes

The test by shared binary digits finds exactly the powers of two, so the sizes that pass
the checks of a fold are `2 ^ k` values under `k` factors. On sequences a fold is the fold
of their items.
-/

namespace TowerFold

/-- A number of values passes exactly when it is a power of two. -/
theorem checkCount_eq_ok_iff (count : ℕ) :
    checkCount count = .ok () ↔ ∃ k : ℕ, count = 2 ^ k := by
  simp only [checkCount, ← isPowerOfTwo_natCast_iff]
  split <;> simp_all

/-- The sizes that pass are those of `2 ^ k` values and `k` factors. -/
theorem checkSizes_eq_ok_iff (count factors : ℕ) :
    checkSizes count factors = .ok () ↔ count = 2 ^ factors := by
  simp only [checkSizes, check_bind_eq_ok_iff, checkCount_eq_ok_iff, checkFactors]
  constructor
  · rintro ⟨⟨k, rfl⟩, hfactors⟩
    rw [Nat.log2_two_pow] at hfactors
    split at hfactors
    case isTrue hk => rw [hk]
    case isFalse => cases hfactors
  · rintro rfl
    exact ⟨⟨factors, rfl⟩, by rw [Nat.log2_two_pow, if_pos rfl]⟩

/-- What can be measured is a sequence of items. -/
theorem Operand.elements_eq_ok_iff {v : Operand} {items : List Operand} :
    v.elements = .ok items ↔ v.elements? = some items := by
  unfold elements
  cases v.elements? <;> simp

/-- What can be measured can be gone through. -/
theorem Operand.iterated_of_elements {v : Operand} {items : List Operand}
    (hv : v.elements = .ok items) : v.iterated = .ok items := by
  rw [iterated, elements_eq_ok_iff.mp hv]

variable {e : Embedding} {values factors : Operand} {vs fs : List Operand}

/-- The sizes of sequences are the numbers of their items. -/
theorem sized_of_elements (hvalues : values.elements = .ok vs)
    (hfactors : factors.elements = .ok fs) :
    sized values factors = do checkSizes vs.length fs.length; return (vs, fs) := by
  simp only [sized, checkSizes, hvalues, hfactors, ok_bind, bind_assoc]

/-- The fold of sequences is the fold of their items. -/
theorem fold_of_elements (hvalues : values.elements = .ok vs)
    (hfactors : factors.elements = .ok fs) :
    fold e values factors = foldList e vs fs := by
  simp only [fold, foldList, sized_of_elements hvalues hfactors, bind_assoc, pure_bind]

/-- Sizes only match when both operands are sequences. -/
theorem sized_eq_ok_iff :
    sized values factors = .ok (vs, fs) ↔
      values.elements = .ok vs ∧ factors.elements = .ok fs ∧ vs.length = 2 ^ fs.length := by
  constructor
  · intro hsized
    cases hvalues : values.elements with
    | error fault => simp [sized, hvalues] at hsized
    | ok vs' =>
      cases hfactors : factors.elements with
      | error fault =>
        simp only [sized, hvalues, hfactors, ok_bind, error_bind, bind_eq_ok_iff] at hsized
        obtain ⟨_, _, hfault⟩ := hsized
        cases hfault
      | ok fs' =>
        rw [sized_of_elements hvalues hfactors, bind_eq_ok_iff] at hsized
        obtain ⟨_, hsizes, hpair⟩ := hsized
        cases hpair
        exact ⟨rfl, rfl, (checkSizes_eq_ok_iff _ _).mp hsizes⟩
  · rintro ⟨hvalues, hfactors, hsizes⟩
    rw [sized_of_elements hvalues hfactors, (checkSizes_eq_ok_iff _ _).mpr hsizes]
    rfl

/-- With matching sizes nothing is left of the checks. -/
theorem foldList_of_sizes (hsizes : vs.length = 2 ^ fs.length) :
    foldList e vs fs = foldHalves e fs vs := by
  rw [foldList, (checkSizes_eq_ok_iff _ _).mpr hsizes]
  rfl

/-- Each half of the values has the size that is left for it by the first factor. -/
theorem length_halves {k : ℕ} (hsizes : vs.length = 2 ^ (k + 1)) :
    (vs.take (leafCount k)).length = 2 ^ k ∧ (vs.drop (leafCount k)).length = 2 ^ k := by
  rw [pow_succ] at hsizes
  rw [List.length_take, List.length_drop, leafCount_eq_two_pow]
  omega

/-- Without matching sizes the fold of a list fails as the check does. -/
theorem foldList_eq_error (hsizes : vs.length ≠ 2 ^ fs.length) :
    ∃ fault, checkSizes vs.length fs.length = .error fault ∧
      foldList e vs fs = .error fault := by
  cases hcheck : checkSizes vs.length fs.length with
  | error fault => exact ⟨fault, rfl, by rw [foldList, hcheck]; rfl⟩
  | ok _ => exact absurd ((checkSizes_eq_ok_iff _ _).mp hcheck) hsizes

end TowerFold
