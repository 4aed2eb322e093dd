import TowerFold.Proofs.Strategy.Layered

/-!
# Selected strategies

The sequential strategy ends as the plain fold does on every input, with the same result or the
same fault. So does the layered one wherever no irregular element is among the values and factors,
and then it makes no difference which of them is selected, and from how many values on.

Packed layers take an irregular element of two of the classes for one that they can pack, and write
what its class keeps into words. The plain fold computes with what the class keeps.
-/

namespace TowerFold

/-- None of the items of an operand, if it has any, is an irregular element. -/
def Operand.HoldsRegular (v : Operand) : Prop :=
  ∀ items, v.elements = .ok items → ∀ item ∈ items, item.isIrregular = false

namespace Strategy

/-- The sequential strategy ends as the plain fold does. -/
theorem sequential_fold (e : Embedding) (values factors : Operand) :
    sequential.fold e values factors = TowerFold.fold e values factors := by
  refine fold_eq_of_schedule_eq sequential fun vs fs _ _ hsizes => Or.inr ⟨rfl, ?_⟩
  exact foldList_of_sizes hsizes

/-- The layered strategy ends as the plain fold does. What it does not support goes to the
plain fold, and what it supports cannot fail if it is regular. -/
theorem layered_fold {e : Embedding} {values factors : Operand} (hvalues : values.HoldsRegular)
    (hfactors : factors.HoldsRegular) :
    layered.fold e values factors = TowerFold.fold e values factors := by
  refine fold_eq_of_schedule_eq layered fun vs fs hvs hfs hsizes => ?_
  rw [supports_layered e hvs hfs]
  by_cases hpackable : (decide (e = .qm31) && vs.all looksPackable && fs.all looksPackable) = true
  · right
    simp only [Bool.and_eq_true, decide_eq_true_eq, List.all_eq_true] at hpackable
    obtain ⟨⟨rfl, hlooksvs⟩, hlooksfs⟩ := hpackable
    obtain ⟨x, hlayered, hhalves⟩ := foldLayered?_eq_foldHalves
      (fun v hv => isPackable_of_looksPackable (hlooksvs v hv) (hvalues vs hvs v hv))
      (fun f hf => isPackable_of_looksPackable (hlooksfs f hf) (hfactors fs hfs f hf)) hsizes
    refine ⟨by simpa using ⟨hlooksvs, hlooksfs⟩, ?_⟩
    rw [schedule, foldLayered_of_foldLayered? hlayered, hhalves]
  · left
    rw [Bool.not_eq_true] at hpackable
    rw [hpackable]

/-- Outside of the field of degree four the layered strategy goes to the plain fold. -/
theorem layered_fold_of_ne {e : Embedding} (he : e ≠ .qm31) (values factors : Operand) :
    layered.fold e values factors = TowerFold.fold e values factors := by
  refine fold_eq_of_schedule_eq layered fun vs fs hvs hfs _ => .inl ?_
  rw [supports_layered e hvs hfs, decide_eq_false he, Bool.false_and, Bool.false_and]

/-- Between sequences a strategy is always selected, and it is one of two. -/
theorem select_of_elements (e : Embedding) {values factors : Operand} {vs fs : List Operand}
    (hvalues : values.elements = .ok vs) (hfactors : factors.elements = .ok fs)
    (threshold : ℤ) :
    select e values factors threshold = .ok sequential ∨
      select e values factors threshold = .ok layered := by
  simp only [select, hvalues, ok_bind, supports_layered e hvalues hfactors]
  by_cases hlarge : threshold ≤ vs.length
  · cases decide (e = .qm31) && vs.all looksPackable && fs.all looksPackable with
    | true => simp [hlarge]
    | false => simp [hlarge]
  · simp [hlarge]

/-- Values that are no sequence are refused by the selection as by the plain fold. -/
theorem select_of_elements_error (e : Embedding) {values : Operand} (factors : Operand)
    {fault : Fault} (hvalues : values.elements = .error fault) (threshold : ℤ) :
    select e values factors threshold = .error fault := by
  rw [select, hvalues]
  rfl

/-- Where the layered strategy ends as the plain fold does, so does the strategy that is selected
for sequences. -/
theorem select_bind_fold {e : Embedding} {values factors : Operand} {fs : List Operand}
    (hlayered : layered.fold e values factors = TowerFold.fold e values factors)
    (hfactors : factors.elements = .ok fs) (threshold : ℤ) :
    (do
      let s ← select e values factors threshold
      s.fold e values factors) = TowerFold.fold e values factors := by
  cases hvalues : values.elements with
  | error fault =>
    have hsized : sized values factors = .error fault := by
      rw [sized, hvalues]
      rfl
    rw [select_of_elements_error e factors hvalues threshold, error_bind,
      TowerFold.fold_of_sized_error hsized]
  | ok vs =>
    rcases select_of_elements e hvalues hfactors threshold with hselect | hselect
    · rw [hselect, ok_bind, sequential_fold]
    · rw [hselect, ok_bind, hlayered]

end Strategy

/-- The accelerated fold by a strategy that ends as the plain fold does ends so too. -/
theorem foldAccelerated_some {e : Embedding} {values factors : Operand} {s : Strategy}
    (hfold : s.fold e values factors = fold e values factors) :
    foldAccelerated e values factors (some s) = fold e values factors := by
  cases hsized : sized values factors with
  | error fault =>
    rw [foldAccelerated, hsized, fold_of_sized_error hsized]
    rfl
  | ok items =>
    rw [foldAccelerated, hsized]
    exact hfold

/-- Where the layered strategy ends as the plain fold does, so does the accelerated fold by the
strategy that is selected. Its sizes are checked before the selection looks at the factors. -/
theorem foldAccelerated_none {e : Embedding} {values factors : Operand}
    (hlayered : Strategy.layered.fold e values factors = fold e values factors) :
    foldAccelerated e values factors = fold e values factors := by
  cases hsized : sized values factors with
  | error fault =>
    rw [foldAccelerated, hsized, fold_of_sized_error hsized]
    rfl
  | ok items =>
    obtain ⟨vs, fs⟩ := items
    obtain ⟨_, hfactors, _⟩ := sized_eq_ok_iff.mp hsized
    rw [foldAccelerated, hsized]
    exact Strategy.select_bind_fold hlayered hfactors accelerationThreshold

/-- A fold that is accelerated by the sequential strategy ends as the plain fold does for any
operands. One that is accelerated by itself or by the layered strategy ends so too, unless values
or factors among which there are irregular elements are folded over the field of degree four, and
for sequences so does then the strategy that is selected from any threshold on. -/
theorem accelerated_fold_agrees (e : Embedding) (values factors : Operand) :
    foldAccelerated e values factors (some .sequential) = fold e values factors ∧
      (e ≠ .qm31 ∨ values.HoldsRegular ∧ factors.HoldsRegular →
        foldAccelerated e values factors = fold e values factors ∧
        foldAccelerated e values factors (some .layered) = fold e values factors ∧
        ∀ vs fs, values.elements = .ok vs → factors.elements = .ok fs → ∀ threshold : ℤ,
          (do
            let s ← Strategy.select e values factors threshold
            s.fold e values factors) = fold e values factors) := by
  refine ⟨foldAccelerated_some (Strategy.sequential_fold e values factors), fun hregular => ?_⟩
  have hlayered : Strategy.layered.fold e values factors = fold e values factors := by
    obtain he | ⟨hvalues, hfactors⟩ := hregular
    · exact Strategy.layered_fold_of_ne he values factors
    · exact Strategy.layered_fold hvalues hfactors
  exact ⟨foldAccelerated_none hlayered, foldAccelerated_some hlayered,
    fun vs fs _ hfactors threshold => Strategy.select_bind_fold hlayered hfactors threshold⟩

/-- Three values that can be packed, under one factor: selected from one value on or from two
hundred on, the strategy refuses their number as the plain fold does. -/
theorem accelerated_fold_agrees_on_three_values :
    (do
      let s ← Strategy.select .qm31 (.group .square [.m31 1, .m31 2, .m31 3])
        (.group .round [.m31 4]) 1
      s.fold .qm31 (.group .square [.m31 1, .m31 2, .m31 3]) (.group .round [.m31 4])) =
        .error (.countNotPowerOfTwo 3) ∧
      (do
        let s ← Strategy.select .qm31 (.group .square [.m31 1, .m31 2, .m31 3])
          (.group .round [.m31 4]) 200
        s.fold .qm31 (.group .square [.m31 1, .m31 2, .m31 3]) (.group .round [.m31 4])) =
          .error (.countNotPowerOfTwo 3) := by
  have hvalues : (Operand.group .square [.m31 1, .m31 2, .m31 3]).elements =
      .ok [.m31 1, .m31 2, .m31 3] := rfl
  have hfactors : (Operand.group .round [.m31 4]).elements = .ok [.m31 4] := rfl
  have hregular : (Operand.group .square [.m31 1, .m31 2, .m31 3]).HoldsRegular ∧
      (Operand.group .round [.m31 4]).HoldsRegular := by
    refine ⟨fun items hitems => ?_, fun items hitems => ?_⟩
    · cases hvalues.symm.trans hitems
      simp [Operand.isIrregular]
    · cases hfactors.symm.trans hitems
      simp [Operand.isIrregular]
  obtain ⟨_, _, hselected⟩ := (accelerated_fold_agrees .qm31
    (.group .square [.m31 1, .m31 2, .m31 3]) (.group .round [.m31 4])).2 (.inr hregular)
  have hfold : fold .qm31 (.group .square [.m31 1, .m31 2, .m31 3]) (.group .round [.m31 4]) =
      .error (.countNotPowerOfTwo 3) := rfl
  exact ⟨(hselected _ _ hvalues hfactors 1).trans hfold,
    (hselected _ _ hvalues hfactors 200).trans hfold⟩

/-- The base class accepts a text that takes the modulus. The plain fold of it is refused, since the
text that is kept takes no modulus again, while packed layers read the number that it writes. -/
theorem accelerated_fold_of_filled_text :
    ∃ x, Embedding.m31.apply (.text "%d") = .ok (.irregular x) ∧
      fold .qm31 (.group .square [.irregular x]) (.group .square []) =
        .error (.misfilled .characters .unused) ∧
      foldAccelerated .qm31 (.group .square [.irregular x]) (.group .square []) (some .layered) =
        .ok (.qm31 0) :=
  ⟨_, rfl, rfl, rfl⟩

end TowerFold
