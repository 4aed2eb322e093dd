import TowerFold.Fold.ClosedForm
import TowerFold.Proofs.Fold.Halves
import TowerFold.Proofs.RingEmbedding

/-!
# The fold is its closed form

In a ring, both the fold by halves and the closed form compute the sum of the values
weighted by the factors that the binary digits of their indices select. The fold needs
matching sizes for that, the closed form does not.
-/

namespace TowerFold

variable {e : RingEmbedding} {values factors : List Operand} {xs ys : List e.Carrier}

/-- Two results in the ring are joined in the ring. -/
theorem join_put (x y : e.Carrier) {z : e.Carrier} {factor : Operand}
    (hfactor : e.Denotes factor z) :
    join (e.put x) (e.put y) factor = .ok (e.put (x + y * z)) := by
  rw [join, RingEmbedding.put_mul y hfactor, ok_bind, RingEmbedding.put_add]

/-- The fold by halves is the weighted sum. -/
theorem foldHalves_eq_put_bitWeightedSum (hvalues : List.Forall₂ e.Denotes values xs)
    (hfactors : List.Forall₂ e.Denotes factors ys) (hsizes : values.length = 2 ^ factors.length) :
    foldHalves e.toEmbedding factors values = .ok (e.put (bitWeightedSum xs ys)) := by
  have hjoin {left right factor : Operand} {x y z : e.Carrier} (hleft : left = e.put x)
      (hright : right = e.put y) (hfactor : e.Denotes factor z) :
      ∃ r, join left right factor = .ok r ∧ r = e.put (x + y * z) := by
    rw [hleft, hright]
    exact ⟨_, join_put x y hfactor, rfl⟩
  have hembedded : List.Forall₂ (fun v x => ∃ r, e.toEmbedding.apply v = .ok r ∧ r = e.put x)
      values xs := hvalues.imp fun _ _ hv => ⟨_, hv.apply_eq, rfl⟩
  obtain ⟨r, hr, rfl⟩ := foldHalves_of_join hjoin hembedded hfactors hsizes
  exact hr

/-- The fold of lists of matching sizes is the weighted sum. -/
theorem fold_eq_put_bitWeightedSum (b b' : Brackets) (hvalues : List.Forall₂ e.Denotes values xs)
    (hfactors : List.Forall₂ e.Denotes factors ys) (hsizes : values.length = 2 ^ factors.length) :
    fold e.toEmbedding (.group b values) (.group b' factors) =
      .ok (e.put (bitWeightedSum xs ys)) := by
  rw [fold_of_elements rfl rfl, foldList_of_sizes hsizes,
    foldHalves_eq_put_bitWeightedSum hvalues hfactors hsizes]

/-- A weight is multiplied by the factors that the digits of the index select. -/
theorem weightFrom_put (index : ℕ) (weight : e.Carrier)
    (hfactors : List.Forall₂ e.Denotes factors ys) :
    weightFrom index (e.put weight) factors = .ok (e.put (weight * bitWeight ys index)) := by
  induction hfactors generalizing weight with
  | nil => simp [weightFrom]
  | @cons f y fs ys hf hfs ih =>
    rw [weightFrom, bitWeight_cons, ← hfs.length_eq]
    by_cases hdigit : index.testBit fs.length
    · simp only [hdigit, if_true, RingEmbedding.put_mul weight hf, ok_bind, ih, mul_assoc]
    · simp only [hdigit, Bool.false_eq_true, if_false, ok_bind, ih, one_mul]

/-- A partial sum goes on with the weighted values that are left. -/
theorem weightedSumFrom_put (index : ℕ) (sum : e.Carrier)
    (hvalues : List.Forall₂ e.Denotes values xs) (hfactors : List.Forall₂ e.Denotes factors ys) :
    weightedSumFrom e.toEmbedding factors index (e.put sum) values =
      .ok (e.put (sum + bitWeightedSumFrom index xs ys)) := by
  induction hvalues generalizing index sum with
  | nil => simp [weightedSumFrom]
  | @cons v x vs xs hv hvs ih =>
    simp only [weightedSumFrom, e.apply_one, ok_bind, weightFrom_put index 1 hfactors, one_mul,
      RingEmbedding.put_mul _ hv, RingEmbedding.put_add, ih]
    rw [bitWeightedSumFrom_cons, add_assoc, mul_comm x]

/-- The closed form of sequences of any lengths is the weighted sum. -/
theorem closedForm_eq_put_bitWeightedSum (b b' : Brackets)
    (hvalues : List.Forall₂ e.Denotes values xs) (hfactors : List.Forall₂ e.Denotes factors ys) :
    closedForm e.toEmbedding (.group b values) (.group b' factors) =
      .ok (e.put (bitWeightedSum xs ys)) := by
  have hsum := weightedSumFrom_put 0 0 hvalues hfactors
  rw [zero_add, bitWeightedSumFrom_zero] at hsum
  simp only [closedForm, Operand.elements, Operand.iterated, Operand.elements?, e.apply_zero,
    ok_bind, hsum]

/-- For admitted values and factors the closed form succeeds and is the weighted sum of what
they are embedded as, and where the sizes match the fold succeeds with the same element. -/
theorem closedForm_and_fold_eq_bitWeightedSum (e : RingEmbedding) (b b' : Brackets)
    {values factors : List Operand} (hvalues : ∀ v ∈ values, e.Admits v)
    (hfactors : ∀ f ∈ factors, e.Admits f) :
    ∃ xs ys : List e.Carrier,
      values.mapM e.toEmbedding.apply = .ok (xs.map e.put) ∧
      factors.mapM e.toEmbedding.apply = .ok (ys.map e.put) ∧
      closedForm e.toEmbedding (.group b values) (.group b' factors) =
        .ok (e.put (bitWeightedSum xs ys)) ∧
      (values = [] → closedForm e.toEmbedding (.group b values) (.group b' factors) =
        e.toEmbedding.apply (.int 0)) ∧
      (values.length = 2 ^ factors.length →
        fold e.toEmbedding (.group b values) (.group b' factors) =
          .ok (e.put (bitWeightedSum xs ys))) := by
  obtain ⟨xs, hxs⟩ := RingEmbedding.exists_forall₂_denotes hvalues
  obtain ⟨ys, hys⟩ := RingEmbedding.exists_forall₂_denotes hfactors
  refine ⟨xs, ys, RingEmbedding.mapM_apply_of_forall₂_denotes hxs,
    RingEmbedding.mapM_apply_of_forall₂_denotes hys,
    closedForm_eq_put_bitWeightedSum b b' hxs hys, ?_, ?_⟩
  · rintro rfl
    obtain rfl := List.forall₂_nil_left_iff.mp hxs
    rw [closedForm_eq_put_bitWeightedSum b b' hxs hys, e.apply_zero]
    simp [bitWeightedSum]
  · intro hsizes
    rw [fold_of_elements rfl rfl, foldList_of_sizes hsizes]
    exact foldHalves_eq_put_bitWeightedSum hxs hys hsizes

/-- Two values of different kinds under one factor that is a list. -/
theorem closedForm_and_fold_eq_bitWeightedSum_mixed :
    ∃ xs ys : List QM31,
      [.int (-5), .group .round [.int 1, .bool true, .m31 7, .int 4294967296]].mapM
        Embedding.qm31.apply = .ok (xs.map Operand.qm31) ∧
      [.group .square [.int 2, .int (-3), .bool false, .m31 4]].mapM
        Embedding.qm31.apply = .ok (ys.map Operand.qm31) ∧
      fold .qm31
        (.group .square [.int (-5), .group .round [.int 1, .bool true, .m31 7, .int 4294967296]])
        (.group .round [.group .square [.int 2, .int (-3), .bool false, .m31 4]]) =
          .ok (.qm31 (bitWeightedSum xs ys)) := by
  have hvalues : ∀ v ∈ [Operand.int (-5),
      .group .round [.int 1, .bool true, .m31 7, .int 4294967296]], RingEmbedding.qm31.Admits v :=
    List.forall_mem_cons.mpr ⟨.int _ _, List.forall_mem_singleton.mpr
      (.quadruple _ (.int _) (.bool _) (.m31 _) (.int _))⟩
  have hfactors : ∀ f ∈ [Operand.group .square [.int 2, .int (-3), .bool false, .m31 4]],
      RingEmbedding.qm31.Admits f :=
    List.forall_mem_singleton.mpr (.quadruple _ (.int _) (.int _) (.bool _) (.m31 _))
  obtain ⟨xs, ys, hxs, hys, _, _, hfold⟩ :=
    closedForm_and_fold_eq_bitWeightedSum .qm31 .square .round hvalues hfactors
  exact ⟨xs, ys, hxs, hys, hfold rfl⟩

end TowerFold
