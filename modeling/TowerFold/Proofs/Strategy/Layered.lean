import TowerFold.Proofs.Fold.ClosedForm
import TowerFold.Proofs.Fold.Layers
import TowerFold.Proofs.Packed.Conversion
import TowerFold.Proofs.Strategy.Dispatch

/-!
# The layered strategy

The fold by packed layers is repeated on word operations that have no result where
something wraps. On elements of degree four it always has a result, so no operation of
any round wraps, and the result is that of the fold by halves: joining a layer by its last
factor keeps the weighted sum of the layer.
-/

namespace TowerFold

/-- Neighbours of a packed layer joined by one factor, unless an operation on words
wraps. -/
def joinPacked? (factor : Packed) : List Packed → Option (List Packed)
  | left :: right :: rest => do
    let first ← left.add? (← right.mul? factor)
    let others ← joinPacked? factor rest
    return first :: others
  | _ => some []

/-- A packed layer after rounds with several factors, unless an operation on words wraps in
one of the rounds. -/
def joinRounds? (factors layer : List Packed) : Option (List Packed) :=
  factors.foldlM (fun layer factor => joinPacked? factor layer) layer

/-- The fold by packed layers, without a result where an operation on words wraps in one of
the rounds. -/
def foldLayered? (values factors : List Operand) : Except Fault (Option Operand) := do
  let layer ← packValues values
  let factors ← packValues factors
  match joinRounds? factors.reverse layer with
  | some (result :: _) => return some (.qm31 result.toQM31)
  | some [] => throw .shortAxis
  | none => return none

/-- A join of a layer in which nothing wraps is the join. -/
theorem joinPacked_of_joinPacked? {factor : Packed} {layer result : List Packed}
    (h : joinPacked? factor layer = some result) : joinPacked factor layer = result := by
  induction layer using List.twoStepInduction generalizing result with
  | nil =>
    cases h
    rfl
  | singleton x =>
    cases h
    rfl
  | cons_cons left right rest ih =>
    simp only [joinPacked?, Option.bind_eq_bind, Option.bind_eq_some_iff, Option.pure_def,
      Option.some.injEq] at h
    obtain ⟨product, hproduct, first, hfirst, others, hothers, rfl⟩ := h
    rw [joinPacked, Packed.mul_of_mul? hproduct, Packed.add_of_add? hfirst, ih hothers]

/-- Rounds in which nothing wraps are the rounds. -/
theorem foldl_joinPacked_of_joinRounds? {factors layer result : List Packed}
    (h : joinRounds? factors layer = some result) :
    factors.foldl (fun layer factor => joinPacked factor layer) layer = result := by
  induction factors generalizing layer with
  | nil => exact Option.some.inj h
  | cons factor factors ih =>
    rw [joinRounds?, List.foldlM_cons, Option.bind_eq_bind, Option.bind_eq_some_iff] at h
    obtain ⟨next, hnext, hrest⟩ := h
    rw [List.foldl_cons, joinPacked_of_joinPacked? hnext]
    exact ih hrest

variable {values factors : List Operand}

/-- A fold by packed layers in which nothing wraps is the fold by packed layers. -/
theorem foldLayered_of_foldLayered? {result : Operand}
    (h : foldLayered? values factors = .ok (some result)) :
    foldLayered values factors = .ok result := by
  simp only [foldLayered?, bind_eq_ok_iff] at h
  obtain ⟨layer, hlayer, fs, hfs, hrounds⟩ := h
  simp only [foldLayered, hlayer, hfs, ok_bind]
  cases hlast : joinRounds? fs.reverse layer with
  | none =>
    rw [hlast] at hrounds
    cases hrounds
  | some last =>
    rw [hlast] at hrounds
    rw [foldl_joinPacked_of_joinRounds? hlast]
    cases last with
    | nil => cases hrounds
    | cons first others =>
      cases hrounds
      rfl

/-- A packed layer is joined as the elements in it are, and nothing wraps. -/
theorem joinPacked?_ofQM31 (factor : QM31) (layer : List QM31) :
    joinPacked? (.ofQM31 factor) (layer.map Packed.ofQM31) =
      some ((joinPairs factor layer).map Packed.ofQM31) := by
  induction layer using List.twoStepInduction with
  | nil => rfl
  | singleton x => rfl
  | cons_cons left right rest ih =>
    simp only [List.map_cons, joinPacked?, Option.bind_eq_bind, Option.bind_eq_some_iff,
      Option.pure_def, Option.some.injEq]
    exact ⟨_, Packed.mul?_ofQM31 right factor, _, Packed.add?_ofQM31 _ _, _, ih, rfl⟩

/-- Rounds with all factors, the last one first, leave the weighted sum, and nothing wraps.
Every round keeps the weighted sum of its layer under the factors that are left. -/
theorem joinRounds?_ofQM31 (ys : List QM31) {xs : List QM31} (hsizes : xs.length = 2 ^ ys.length) :
    joinRounds? (ys.map Packed.ofQM31).reverse (xs.map Packed.ofQM31) =
      some [.ofQM31 (bitWeightedSum xs ys)] := by
  induction ys using List.reverseRecOn generalizing xs with
  | nil =>
    obtain ⟨x, rfl⟩ := List.length_eq_one_iff.mp hsizes
    simp [joinRounds?, bitWeightedSum]
  | append_singleton ys y ih =>
    have hlayer : xs.length = 2 * 2 ^ ys.length := by
      rw [hsizes, List.length_append, List.length_singleton, pow_succ, Nat.mul_comm]
    have hnext := ih (length_joinPairs y hlayer)
    rw [bitWeightedSum_joinPairs ys y hlayer] at hnext
    rw [List.map_append, List.map_singleton, List.reverse_append, List.reverse_singleton,
      List.singleton_append, joinRounds?, List.foldlM_cons, joinPacked?_ofQM31]
    exact hnext

/-- On operands that stand for elements of degree four the fold by packed layers is their
weighted sum, and nothing wraps. -/
theorem foldLayered?_eq_bitWeightedSum {xs ys : List QM31}
    (hvalues : List.Forall₂ RingEmbedding.qm31.Denotes values xs)
    (hfactors : List.Forall₂ RingEmbedding.qm31.Denotes factors ys)
    (hsizes : values.length = 2 ^ factors.length) :
    foldLayered? values factors = .ok (some (.qm31 (bitWeightedSum xs ys))) := by
  have hxs : values.length = xs.length := hvalues.length_eq
  have hys : factors.length = ys.length := hfactors.length_eq
  have hlengths : xs.length = 2 ^ ys.length := by rw [← hxs, ← hys, hsizes]
  simp only [foldLayered?, packValues_of_denotes hvalues, packValues_of_denotes hfactors, ok_bind,
    joinRounds?_ofQM31 ys hlengths, Packed.toQM31_ofQM31, pure_eq_ok]

namespace Strategy

/-- What can be packed as it is stands for an element of degree four. -/
theorem admits_of_isPackable {v : Operand} (hv : isPackable v = true) :
    RingEmbedding.qm31.Admits v := by
  cases v with
  | m31 x => exact .baseInQuartic x
  | qm31 x => exact .quartic x
  | _ => cases hv

/-- Packed layers fold what can be packed as it is to the element that the fold by halves
gives, and nothing wraps. -/
theorem foldLayered?_eq_foldHalves (hvalues : ∀ v ∈ values, isPackable v = true)
    (hfactors : ∀ f ∈ factors, isPackable f = true) (hsizes : values.length = 2 ^ factors.length) :
    ∃ x, foldLayered? values factors = .ok (some (.qm31 x)) ∧
      foldHalves .qm31 factors values = .ok (.qm31 x) := by
  obtain ⟨xs, hxs⟩ := RingEmbedding.exists_forall₂_denotes fun v hv =>
    admits_of_isPackable (hvalues v hv)
  obtain ⟨ys, hys⟩ := RingEmbedding.exists_forall₂_denotes fun f hf =>
    admits_of_isPackable (hfactors f hf)
  exact ⟨_, foldLayered?_eq_bitWeightedSum hxs hys hsizes,
    foldHalves_eq_put_bitWeightedSum hxs hys hsizes⟩

/-- What can be packed as it is looks so. -/
theorem looksPackable_of_isPackable {v : Operand} (hv : isPackable v = true) :
    looksPackable v = true := by
  cases v with
  | m31 | qm31 => rfl
  | _ => cases hv

/-- What looks as if it can be packed can be, unless it is an irregular element. -/
theorem isPackable_of_looksPackable {v : Operand} (hv : looksPackable v = true)
    (hregular : v.isIrregular = false) : isPackable v = true := by
  cases v with
  | m31 | qm31 => rfl
  | irregular => cases hregular
  | _ => cases hv

/-- Packed layers support embeddings into the field of degree four of what looks as if it can be
packed. -/
theorem supports_layered (e : Embedding) {vs fs : List Operand} {values factors : Operand}
    (hvalues : values.elements = .ok vs) (hfactors : factors.elements = .ok fs) :
    layered.supports e values factors =
      .ok (decide (e = .qm31) && vs.all looksPackable && fs.all looksPackable) := by
  by_cases he : e = .qm31
  · cases hall : vs.all looksPackable <;>
      simp [supports, allPackable, he, Operand.iterated_of_elements hvalues,
        Operand.iterated_of_elements hfactors, hall]
  · simp [supports, he]

end Strategy

/-- On base-field elements and elements of degree four in any mixture the layered strategy
takes its own schedule, gives the element that the plain fold gives, and no sum, difference
or product of words wraps in any of its rounds. -/
theorem layered_fold_agrees (b b' : Brackets) {values factors : List Operand}
    (hvalues : ∀ v ∈ values, Strategy.isPackable v = true)
    (hfactors : ∀ f ∈ factors, Strategy.isPackable f = true)
    (hsizes : values.length = 2 ^ factors.length) :
    Strategy.layered.supports .qm31 (.group b values) (.group b' factors) = .ok true ∧
      Strategy.layered.fold .qm31 (.group b values) (.group b' factors) =
        foldLayered values factors ∧
      ∃ x, foldLayered? values factors = .ok (some (.qm31 x)) ∧
        foldLayered values factors = .ok (.qm31 x) ∧
        fold .qm31 (.group b values) (.group b' factors) = .ok (.qm31 x) := by
  have hvs : (Operand.group b values).elements = .ok values := rfl
  have hfs : (Operand.group b' factors).elements = .ok factors := rfl
  have hsupports : Strategy.layered.supports .qm31 (.group b values) (.group b' factors) =
      .ok true := by
    rw [Strategy.supports_layered .qm31 hvs hfs,
      List.all_eq_true.mpr fun v hv => Strategy.looksPackable_of_isPackable (hvalues v hv),
      List.all_eq_true.mpr fun f hf => Strategy.looksPackable_of_isPackable (hfactors f hf)]
    rfl
  obtain ⟨x, hlayered, hhalves⟩ := Strategy.foldLayered?_eq_foldHalves hvalues hfactors hsizes
  refine ⟨hsupports, Strategy.fold_of_supports _ hvs hfs hsizes hsupports, x, hlayered,
    foldLayered_of_foldLayered? hlayered, ?_⟩
  rw [fold_of_elements hvs hfs, foldList_of_sizes hsizes, hhalves]

/-- Four values of both kinds, with the largest residue in all places, under two factors. -/
theorem layered_fold_agrees_on_largest :
    ∃ x, Strategy.layered.fold .qm31
        (.group .square [.m31 (-1), .qm31 (.ofCoords (-1) (-1) (-1) (-1)), .m31 0,
          .qm31 (.ofCoords 0 (-1) 1 (-1))])
        (.group .round [.qm31 (.ofCoords (-1) (-1) (-1) (-1)), .m31 (-1)]) = .ok (.qm31 x) ∧
      fold .qm31
        (.group .square [.m31 (-1), .qm31 (.ofCoords (-1) (-1) (-1) (-1)), .m31 0,
          .qm31 (.ofCoords 0 (-1) 1 (-1))])
        (.group .round [.qm31 (.ofCoords (-1) (-1) (-1) (-1)), .m31 (-1)]) = .ok (.qm31 x) := by
  have hvalues : ∀ v ∈ [Operand.m31 (-1), .qm31 (.ofCoords (-1) (-1) (-1) (-1)), .m31 0,
      .qm31 (.ofCoords 0 (-1) 1 (-1))], Strategy.isPackable v = true := by
    simp [Strategy.isPackable]
  have hfactors : ∀ f ∈ [Operand.qm31 (.ofCoords (-1) (-1) (-1) (-1)), .m31 (-1)],
      Strategy.isPackable f = true := by
    simp [Strategy.isPackable]
  obtain ⟨_, hlayered, x, _, hresult, hfold⟩ :=
    layered_fold_agrees .square .round hvalues hfactors rfl
  exact ⟨x, hlayered.trans hresult, hfold⟩

end TowerFold
