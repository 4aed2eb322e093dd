import TowerFold.Proofs.Fold.ClosedForm
import TowerFold.Proofs.Fold.Promotion
import TowerFold.Proofs.Operand.Elements

/-!
# Folds are multilinear

A weighted sum is linear in its values. In each single factor it is affine: with the others fixed,
its value at any factor lies on the line through its values at zero and one. So the fold takes sums
and multiples of lists of values to those of its results, and in every factor it is a constant plus
a linear part.
-/

namespace TowerFold

section Sums

variable {R : Type} [CommRing R]

/-- A sum of values, weighted, is the sum of both weighted. -/
theorem bitWeightedSumFrom_zipWith_add (start : ℕ) (factors : List R) {xs ys : List R}
    (hlength : xs.length = ys.length) :
    bitWeightedSumFrom start (List.zipWith (· + ·) xs ys) factors =
      bitWeightedSumFrom start xs factors + bitWeightedSumFrom start ys factors := by
  induction xs generalizing start ys with
  | nil =>
    obtain rfl := List.length_eq_zero_iff.mp hlength.symm
    simp
  | cons x xs ih =>
    cases ys with
    | nil => simp at hlength
    | cons y ys =>
      have hrest : xs.length = ys.length := Nat.succ.inj hlength
      rw [List.zipWith_cons_cons, bitWeightedSumFrom_cons, bitWeightedSumFrom_cons,
        bitWeightedSumFrom_cons, ih (start + 1) hrest]
      ring

/-- Weighted sums are additive in their values. -/
theorem bitWeightedSum_zipWith_add (factors : List R) {xs ys : List R}
    (hlength : xs.length = ys.length) :
    bitWeightedSum (List.zipWith (· + ·) xs ys) factors =
      bitWeightedSum xs factors + bitWeightedSum ys factors := by
  simpa only [bitWeightedSumFrom_zero] using bitWeightedSumFrom_zipWith_add 0 factors hlength

/-- Values multiplied by `c`, weighted, are `c` times the weighted values. -/
theorem bitWeightedSumFrom_map_mul (start : ℕ) (factors : List R) (c : R) (xs : List R) :
    bitWeightedSumFrom start (xs.map (c * ·)) factors = c * bitWeightedSumFrom start xs factors := by
  induction xs generalizing start with
  | nil => simp
  | cons x xs ih =>
    rw [List.map_cons, bitWeightedSumFrom_cons, bitWeightedSumFrom_cons, ih]
    ring

/-- Weighted sums are homogeneous in their values. -/
theorem bitWeightedSum_map_mul (factors : List R) (c : R) (xs : List R) :
    bitWeightedSum (xs.map (c * ·)) factors = c * bitWeightedSum xs factors := by
  simpa only [bitWeightedSumFrom_zero] using bitWeightedSumFrom_map_mul 0 factors c xs

/-- A weight at any factor lies on the line through those at zero and one. -/
theorem bitWeight_set (factors : List R) (j : ℕ) (z : R) (index : ℕ) :
    bitWeight (factors.set j z) index =
      (1 - z) * bitWeight (factors.set j 0) index + z * bitWeight (factors.set j 1) index := by
  induction factors generalizing j with
  | nil => simp
  | cons factor factors ih =>
    cases j with
    | zero =>
      simp only [List.set_cons_zero, bitWeight_cons]
      split <;> ring
    | succ j =>
      simp only [List.set_cons_succ, bitWeight_cons, List.length_set]
      rw [ih j]
      ring

/-- A weighted sum at any factor lies on the line through those at zero and one. -/
theorem bitWeightedSum_set (values factors : List R) (j : ℕ) (z : R) :
    bitWeightedSum values (factors.set j z) =
      (1 - z) * bitWeightedSum values (factors.set j 0) +
        z * bitWeightedSum values (factors.set j 1) := by
  simp only [bitWeightedSum, Finset.mul_sum, ← Finset.sum_add_distrib]
  refine Finset.sum_congr rfl fun i _ => ?_
  rw [bitWeight_set factors j z]
  ring

/-- Weighted sums at two factors add up to those at their sum and at zero. -/
theorem bitWeightedSum_set_add (values factors : List R) (j : ℕ) (a a' : R) :
    bitWeightedSum values (factors.set j a) + bitWeightedSum values (factors.set j a') =
      bitWeightedSum values (factors.set j (a + a')) + bitWeightedSum values (factors.set j 0) := by
  rw [bitWeightedSum_set values factors j a, bitWeightedSum_set values factors j a',
    bitWeightedSum_set values factors j (a + a')]
  ring

/-- A weighted sum at `c` times a factor is `c` times that at the factor, and the rest of the sum at
zero. -/
theorem bitWeightedSum_set_mul (values factors : List R) (j : ℕ) (c a : R) :
    bitWeightedSum values (factors.set j (c * a)) =
      c * bitWeightedSum values (factors.set j a) +
        (1 - c) * bitWeightedSum values (factors.set j 0) := by
  rw [bitWeightedSum_set values factors j a, bitWeightedSum_set values factors j (c * a)]
  ring

end Sums

/-- Lists that are related item by item stay so when related items are put at one place. -/
theorem forall₂_set {α β : Type} {related : α → β → Prop} {items : List α} {others : List β}
    (h : List.Forall₂ related items others) (j : ℕ) {a : α} {b : β} (hab : related a b) :
    List.Forall₂ related (items.set j a) (others.set j b) := by
  induction h generalizing j with
  | nil => exact .nil
  | cons hfirst hrest ih =>
    cases j with
    | zero => exact .cons hab hrest
    | succ j => exact .cons hfirst (ih j)

variable {values others factors : List Operand} {xs xs' ys : List QM31}

/-- An operand of a promoted kind stands for the element as which it is embedded. -/
theorem Promotes.denotes {v : Operand} {x : QM31} (hv : Promotes v x) :
    RingEmbedding.qm31.Denotes v x := by
  refine ⟨?_, by rw [RingEmbedding.toEmbedding, Embedding.apply, hv.ofOperand_eq]; rfl⟩
  cases hv with
  | scalar hscalar _ =>
    cases hscalar with
    | int n => exact .int _ n
    | bool b => exact .bool _ b
    | m31 x => exact .baseInQuartic x
  | quartic x => exact .quartic x

/-- The fold of operands of promoted kinds is the weighted sum of what they stand for. -/
theorem fold_of_promotes (b b' : Brackets) (hvalues : List.Forall₂ Promotes values xs)
    (hfactors : List.Forall₂ Promotes factors ys) (hsizes : values.length = 2 ^ factors.length) :
    fold .qm31 (.group b values) (.group b' factors) = .ok (.qm31 (bitWeightedSum xs ys)) :=
  fold_eq_put_bitWeightedSum (e := .qm31) b b' (hvalues.imp fun _ _ => Promotes.denotes)
    (hfactors.imp fun _ _ => Promotes.denotes) hsizes

/-- The sums of the members of two lists stand for the sums of what these stand for. -/
theorem exists_mapM_add (hvalues : List.Forall₂ Promotes values xs)
    (hothers : List.Forall₂ Promotes others xs') :
    ∃ sums, (values.zip others).mapM (fun pair => pair.1.add pair.2) = .ok sums ∧
      List.Forall₂ Promotes sums (List.zipWith (· + ·) xs xs') := by
  induction hvalues generalizing others xs' with
  | nil => exact ⟨[], rfl, .nil⟩
  | cons hv _ ih =>
    cases hothers with
    | nil => exact ⟨[], rfl, .nil⟩
    | cons hw hrest =>
      obtain ⟨sum, hsum, hpromotes⟩ := hv.add hw
      obtain ⟨sums, hsums, hall⟩ := ih hrest
      refine ⟨sum :: sums, ?_, .cons hpromotes hall⟩
      rw [List.zip_cons_cons, List.mapM_cons, hsum, ok_bind, hsums]
      rfl

/-- The multiples of the members of a list stand for the multiples of what these stand for. -/
theorem exists_mapM_mul (c : QM31) (hvalues : List.Forall₂ Promotes values xs) :
    ∃ multiples, values.mapM (Operand.qm31 c).mul = .ok multiples ∧
      List.Forall₂ Promotes multiples (xs.map (c * ·)) := by
  induction hvalues with
  | nil => exact ⟨[], rfl, .nil⟩
  | cons hv _ ih =>
    obtain ⟨product, hproduct, hpromotes⟩ := (Promotes.quartic c).mul hv
    obtain ⟨multiples, hmultiples, hall⟩ := ih
    refine ⟨product :: multiples, ?_, .cons hpromotes hall⟩
    rw [List.mapM_cons, hproduct, ok_bind, hmultiples]
    rfl

/-- The integer one less an element of degree four. -/
theorem Operand.one_sub_qm31 (c : QM31) :
    (Operand.int 1).sub (.qm31 c) = .ok (.qm31 (1 - c)) := by
  have hanswer : (Operand.int 1).sub (.qm31 c) = .ok (.qm31 (-c + 1)) := rfl
  rw [hanswer, neg_add_eq_sub]

/-- Two computations both give an element of degree four, and the same one. -/
def SameElement (first second : Except Fault Operand) : Prop :=
  ∃ z : QM31, first = .ok (.qm31 z) ∧ second = .ok (.qm31 z)

/-- The fold of two lists into the field of degree four, with another factor at place `j`. -/
def foldReplaced (b b' : Brackets) (values factors : List Operand) (j : ℕ) (factor : Operand) :
    Except Fault Operand :=
  fold .qm31 (.group b values) (.group b' (factors.set j factor))

/-- The fold with another factor is the weighted sum with another factor. -/
theorem foldReplaced_of_promotes (b b' : Brackets) (hvalues : List.Forall₂ Promotes values xs)
    (hfactors : List.Forall₂ Promotes factors ys) (hsizes : values.length = 2 ^ factors.length)
    (j : ℕ) (z : QM31) :
    foldReplaced b b' values factors j (.qm31 z) = .ok (.qm31 (bitWeightedSum xs (ys.set j z))) :=
  fold_of_promotes b b' hvalues (forall₂_set hfactors j (.quartic z))
    (by rw [List.length_set, hsizes])

/-- The fold into the field of degree four takes sums of values to sums and multiples of values to
multiples. In the factor at any place it is affine, with its value for the factor zero as the
constant. -/
theorem fold_is_multilinear (b b' : Brackets) {k : ℕ} (hvalues : ∀ v ∈ values, v.IsPromotable)
    (hothers : ∀ v ∈ others, v.IsPromotable) (hfactors : ∀ f ∈ factors, f.IsPromotable)
    (hsize : values.length = 2 ^ k) (hsize' : others.length = 2 ^ k)
    (hcount : factors.length = k) :
    SameElement
        (do
          let sums ← (values.zip others).mapM fun pair => pair.1.add pair.2
          fold .qm31 (.group b sums) (.group b' factors))
        (do
          (← fold .qm31 (.group b values) (.group b' factors)).add
            (← fold .qm31 (.group b others) (.group b' factors))) ∧
      (∀ c : QM31, SameElement
        (do
          let multiples ← values.mapM (Operand.qm31 c).mul
          fold .qm31 (.group b multiples) (.group b' factors))
        (do (Operand.qm31 c).mul (← fold .qm31 (.group b values) (.group b' factors)))) ∧
      ∀ (j : ℕ) (a a' c : QM31),
        SameElement
            (do
              (← foldReplaced b b' values factors j (.qm31 a)).add
                (← foldReplaced b b' values factors j (.qm31 a')))
            (do
              let sum ← (Operand.qm31 a).add (.qm31 a')
              (← foldReplaced b b' values factors j sum).add
                (← foldReplaced b b' values factors j (.qm31 0))) ∧
          SameElement
            (do
              let product ← (Operand.qm31 c).mul (.qm31 a)
              foldReplaced b b' values factors j product)
            (do
              let scaled ← (Operand.qm31 c).mul (← foldReplaced b b' values factors j (.qm31 a))
              let rest ← (Operand.int 1).sub (.qm31 c)
              scaled.add (← rest.mul (← foldReplaced b b' values factors j (.qm31 0)))) := by
  obtain ⟨xs, hxs⟩ := exists_forall₂ fun v hv => (hvalues v hv).exists_promotes
  obtain ⟨xs', hxs'⟩ := exists_forall₂ fun v hv => (hothers v hv).exists_promotes
  obtain ⟨ys, hys⟩ := exists_forall₂ fun f hf => (hfactors f hf).exists_promotes
  have hsizes : values.length = 2 ^ factors.length := by rw [hsize, hcount]
  have hsizes' : others.length = 2 ^ factors.length := by rw [hsize', hcount]
  have hlength : xs.length = xs'.length := by
    rw [← hxs.length_eq, ← hxs'.length_eq, hsize, hsize']
  refine ⟨?_, fun c => ?_, fun j a a' c => ⟨?_, ?_⟩⟩
  · obtain ⟨sums, hsums, hpromotes⟩ := exists_mapM_add hxs hxs'
    have hcounted : sums.length = 2 ^ factors.length := by
      rw [hpromotes.length_eq, List.length_zipWith, ← hlength, min_self, ← hxs.length_eq, hsizes]
    refine ⟨bitWeightedSum (List.zipWith (· + ·) xs xs') ys, ?_, ?_⟩
    · rw [hsums, ok_bind, fold_of_promotes b b' hpromotes hys hcounted]
    · simp only [fold_of_promotes b b' hxs hys hsizes, fold_of_promotes b b' hxs' hys hsizes',
        ok_bind, elementClass_qm31.add, bitWeightedSum_zipWith_add ys hlength]
  · obtain ⟨multiples, hmultiples, hpromotes⟩ := exists_mapM_mul c hxs
    have hcounted : multiples.length = 2 ^ factors.length := by
      rw [hpromotes.length_eq, List.length_map, ← hxs.length_eq, hsizes]
    refine ⟨bitWeightedSum (xs.map (c * ·)) ys, ?_, ?_⟩
    · rw [hmultiples, ok_bind, fold_of_promotes b b' hpromotes hys hcounted]
    · simp only [fold_of_promotes b b' hxs hys hsizes, ok_bind, elementClass_qm31.mul,
        bitWeightedSum_map_mul]
  · have hreplaced := foldReplaced_of_promotes b b' hxs hys hsizes j
    simp only [hreplaced, ok_bind, elementClass_qm31.add]
    exact ⟨_, rfl, by rw [← bitWeightedSum_set_add]⟩
  · have hreplaced := foldReplaced_of_promotes b b' hxs hys hsizes j
    simp only [hreplaced, ok_bind, elementClass_qm31.add, elementClass_qm31.mul,
      Operand.one_sub_qm31]
    exact ⟨_, rfl, by rw [bitWeightedSum_set_mul]⟩

/-- Two values and two others under one factor, and the first pair under other factors. -/
theorem fold_is_multilinear_on_pairs :
    SameElement
        (fold .qm31 (.group .square [.m31 1, .qm31 (.ofCoords 5 0 0 3)])
          (.group .round [.qm31 (.ofCoords 0 1 0 0)]))
        (do
          (← fold .qm31 (.group .square [.m31 3, .m31 5])
              (.group .round [.qm31 (.ofCoords 0 1 0 0)])).add
            (← fold .qm31 (.group .square [.m31 (-2), .qm31 (.ofCoords 0 0 0 3)])
              (.group .round [.qm31 (.ofCoords 0 1 0 0)]))) ∧
      ∀ c : QM31,
        SameElement
          (do
            let product ← (Operand.qm31 c).mul (.qm31 2)
            fold .qm31 (.group .square [.m31 3, .m31 5]) (.group .round [product]))
          (do
            let scaled ← (Operand.qm31 c).mul (.qm31 13)
            let rest ← (Operand.int 1).sub (.qm31 c)
            scaled.add (← rest.mul (.qm31 3))) := by
  have hvalues : ∀ v ∈ [Operand.m31 3, .m31 5], v.IsPromotable := by
    simp only [List.forall_mem_cons]
    exact ⟨.inl (.m31 _), .inl (.m31 _), List.forall_mem_nil _⟩
  have hothers : ∀ v ∈ [Operand.m31 (-2), .qm31 (.ofCoords 0 0 0 3)], v.IsPromotable := by
    simp only [List.forall_mem_cons]
    exact ⟨.inl (.m31 _), .inr ⟨_, rfl⟩, List.forall_mem_nil _⟩
  have hfactors : ∀ f ∈ [Operand.qm31 (.ofCoords 0 1 0 0)], f.IsPromotable :=
    List.forall_mem_singleton.mpr (.inr ⟨_, rfl⟩)
  obtain ⟨hsum, _, haffine⟩ :=
    fold_is_multilinear (k := 1) .square .round hvalues hothers hfactors rfl rfl rfl
  have htwo : foldReplaced .square .round [.m31 3, .m31 5] [.qm31 (.ofCoords 0 1 0 0)] 0
      (.qm31 2) = .ok (.qm31 13) := rfl
  have hzero : foldReplaced .square .round [.m31 3, .m31 5] [.qm31 (.ofCoords 0 1 0 0)] 0
      (.qm31 0) = .ok (.qm31 3) := rfl
  refine ⟨hsum, fun c => ?_⟩
  have hscaled := (haffine 0 2 0 c).2
  simp only [htwo, hzero, ok_bind] at hscaled
  exact hscaled

end TowerFold
