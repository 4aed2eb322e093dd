import TowerFold.Proofs.Fold.Sizes
import TowerFold.Strategy.Selection

/-!
# The common entry of strategies

Every strategy checks the sizes first, so an input that the plain fold refuses for its sizes
is refused by every strategy for the same reason. An input that passes goes to the
strategy's own schedule where that supports it, and to the plain fold otherwise.
-/

namespace TowerFold

variable {e : Embedding} {values factors : Operand} {vs fs : List Operand} {fault : Fault}

/-- The plain fold refuses what does not have matching sizes. -/
theorem fold_of_sized_error (hsized : sized values factors = .error fault) :
    fold e values factors = .error fault := by
  rw [fold, hsized]
  rfl

namespace Strategy

/-- Every strategy refuses what does not have matching sizes. -/
theorem fold_of_sized_error (s : Strategy) (hsized : sized values factors = .error fault) :
    s.fold e values factors = .error fault := by
  rw [Strategy.fold, hsized]
  rfl

/-- Without matching sizes a strategy ends as the plain fold does. -/
theorem fold_eq_of_sizes_ne (s : Strategy) (hvalues : values.elements = .ok vs)
    (hfactors : factors.elements = .ok fs) (hsizes : vs.length ≠ 2 ^ fs.length) :
    s.fold e values factors = TowerFold.fold e values factors := by
  obtain ⟨fault, hcheck, _⟩ := foldList_eq_error (e := e) hsizes
  have hsized : sized values factors = .error fault := by
    rw [sized_of_elements hvalues hfactors, hcheck]
    rfl
  rw [s.fold_of_sized_error hsized, TowerFold.fold_of_sized_error hsized]

/-- With matching sizes an input that a strategy supports goes to its schedule. -/
theorem fold_of_supports (s : Strategy) (hvalues : values.elements = .ok vs)
    (hfactors : factors.elements = .ok fs) (hsizes : vs.length = 2 ^ fs.length)
    (hsupports : s.supports e values factors = .ok true) :
    s.fold e values factors = s.schedule e vs fs := by
  rw [Strategy.fold, sized_eq_ok_iff.mpr ⟨hvalues, hfactors, hsizes⟩]
  simp [hsupports]

/-- An input that a strategy does not support is folded as by the plain fold. -/
theorem fold_of_not_supports (s : Strategy) (hvalues : values.elements = .ok vs)
    (hfactors : factors.elements = .ok fs) (hsizes : vs.length = 2 ^ fs.length)
    (hsupports : s.supports e values factors = .ok false) :
    s.fold e values factors = TowerFold.fold e values factors := by
  rw [Strategy.fold, sized_eq_ok_iff.mpr ⟨hvalues, hfactors, hsizes⟩,
    fold_of_elements hvalues hfactors]
  simp [hsupports]

/-- A strategy ends as the plain fold does on every input, sequences or not, when it does not
support matching sizes or its schedule is then the fold by halves. -/
theorem fold_eq_of_schedule_eq (s : Strategy)
    (hschedule : ∀ vs fs, values.elements = .ok vs → factors.elements = .ok fs →
      vs.length = 2 ^ fs.length → s.supports e values factors = .ok false ∨
        s.supports e values factors = .ok true ∧ s.schedule e vs fs = foldHalves e fs vs) :
    s.fold e values factors = TowerFold.fold e values factors := by
  cases hsized : sized values factors with
  | error fault => rw [s.fold_of_sized_error hsized, TowerFold.fold_of_sized_error hsized]
  | ok items =>
    obtain ⟨vs, fs⟩ := items
    obtain ⟨hvalues, hfactors, hsizes⟩ := sized_eq_ok_iff.mp hsized
    rcases hschedule vs fs hvalues hfactors hsizes with hsupports | ⟨hsupports, heq⟩
    · exact s.fold_of_not_supports hvalues hfactors hsizes hsupports
    · rw [s.fold_of_supports hvalues hfactors hsizes hsupports, heq,
        fold_of_elements hvalues hfactors, foldList_of_sizes hsizes]

end Strategy

end TowerFold
