import Mathlib.Data.Fin.VecNotation
import TowerFold.Proofs.Fold.Forked
import TowerFold.Proofs.Operand.Slice

/-!
# Folding in two rounds

A fold may be cut at any level. Each block of values below the cut is folded on its own by the
factors below it, and the list of the results, which are not embedded again, by the factors above.
This holds for operators that may fail and for results of any kind, because the joins above the
cut are the same: they only happen after all blocks are folded instead of between them.
-/

namespace TowerFold

/-- The blocks of a list are its parts between the multiples of their size. -/
theorem blocks_eq_map_extract {α : Type} (size count : ℕ) (items : List α) :
    blocks size count items =
      (List.range count).map fun c => items.extract (c * size) ((c + 1) * size) := by
  induction count generalizing items with
  | zero => rfl
  | succ count ih =>
    rw [blocks, ih, List.range_succ_eq_map, List.map_cons, List.map_map]
    congr 1
    · simp [List.extract_eq_take_drop]
    · refine List.map_congr_left fun c _ => ?_
      have hstart : size + c * size = (c + 1) * size := by rw [Nat.succ_mul, Nat.add_comm]
      have hcount : (c + 1) * size - c * size = (c + 1 + 1) * size - (c + 1) * size := by
        simp [Nat.succ_mul]
      simp only [Function.comp_apply, List.extract_eq_take_drop, List.drop_drop, hstart, hcount]

variable {e : Embedding} {lower values : List Operand}

/-- Blocks have the results that their folds have one by one. -/
theorem foldBlocks_eq_ok_iff {count : ℕ} {results : Fin count → Operand} :
    foldBlocks e lower count values = .ok (List.ofFn results) ↔
      ∀ c : Fin count, foldList e
        (values.extract ((c : ℕ) * 2 ^ lower.length) (((c : ℕ) + 1) * 2 ^ lower.length)) lower =
          .ok (results c) := by
  rw [foldBlocks, mapM_eq_ok_iff, blocks_eq_map_extract, List.map_map, List.map_ofFn]
  constructor
  · intro h c
    have hc := congrArg (fun outcomes => outcomes[(c : ℕ)]?) h
    simpa using hc
  · intro h
    refine List.ext_getElem (by simp) fun c hc _ => ?_
    have hlt : c < count := by simpa using hc
    simpa using h ⟨c, hlt⟩

/-- Blocks of one value that is not embedded are the values themselves. -/
theorem foldBlocks_identity (values : List Operand) :
    foldBlocks .identity [] values.length values = .ok values := by
  induction values with
  | nil => rfl
  | cons v values ih =>
    have hblocks : blocks (2 ^ 0) (values.length + 1) (v :: values) =
        [v] :: blocks (2 ^ 0) values.length values := rfl
    have hfirst : foldList .identity [v] [] = .ok v := foldList_of_sizes rfl
    rw [foldBlocks, List.length_nil] at ih ⊢
    rw [List.length_cons, hblocks, List.mapM_cons, hfirst, ok_bind, ih, ok_bind, pure_eq_ok]

/-- Layers joined by the factors above are folded by them. -/
theorem joinLayers_sameResults (top : List Operand) {layer : List Operand}
    (hlayer : layer.length = 2 ^ top.length) :
    SameResults (joinLayers top layer) (do return [← foldHalves .identity top layer]) := by
  have hjoined := joinBlocks_sameResults (e := .identity) top [] hlayer
  rwa [joinBlocks, ← hlayer, foldBlocks_identity, ok_bind, List.append_nil] at hjoined

/-- The fold by all factors is that of the blocks by the lower factors, followed by that of their
results by the factors above. -/
theorem foldHalves_append_sameResults (top lower : List Operand) {values : List Operand}
    (hvalues : values.length = 2 ^ (top.length + lower.length)) :
    SameResults (foldHalves e (top ++ lower) values)
      (foldBlocks e lower (2 ^ top.length) values >>= foldHalves .identity top) := by
  have hjoined : SameResults (joinBlocks e top lower values)
      (foldBlocks e lower (2 ^ top.length) values >>= fun results => do
        return [← foldHalves .identity top results]) :=
    SameResults.bind (.refl _) fun results hresults =>
      joinLayers_sameResults top (length_foldBlocks hresults)
  intro r
  have hone := (joinBlocks_sameResults (e := e) top lower hvalues [r]).symm.trans (hjoined [r])
  rw [← bind_assoc] at hone
  simpa [bind_eq_ok_iff] using hone

/-- The results of the blocks, one by one, are what the factors above fold to the result. -/
theorem foldHalves_append_eq_ok_iff (top lower : List Operand) {values : List Operand}
    (hvalues : values.length = 2 ^ (top.length + lower.length)) (r : Operand) :
    foldHalves e (top ++ lower) values = .ok r ↔
      ∃ results : Fin (2 ^ top.length) → Operand,
        (∀ c : Fin (2 ^ top.length), foldList e
          (values.extract ((c : ℕ) * 2 ^ lower.length) (((c : ℕ) + 1) * 2 ^ lower.length)) lower =
            .ok (results c)) ∧
        foldHalves .identity top (List.ofFn results) = .ok r := by
  rw [foldHalves_append_sameResults top lower hvalues r, bind_eq_ok_iff]
  simp only [← foldBlocks_eq_ok_iff]
  constructor
  · rintro ⟨results, hresults, hr⟩
    have hlength := length_foldBlocks hresults
    obtain ⟨results, rfl⟩ : ∃ f : Fin (2 ^ top.length) → Operand, results = List.ofFn f :=
      hlength ▸ ⟨fun c => results[c], List.ofFn_getElem.symm⟩
    exact ⟨results, hresults, hr⟩
  · rintro ⟨results, hresults, hr⟩
    exact ⟨_, hresults, hr⟩

variable {factors : Operand} {vs fs : List Operand} {k d : ℕ}

/-- The fold of parts of two sequences is that of the parts of their elements. -/
theorem fold_slice {values : Operand} (hvalues : values.elements = .ok vs)
    (hfactors : factors.elements = .ok fs) (start stop level last : ℕ) :
    fold e (values.slice start stop) (factors.slice level last) =
      foldList e (vs.extract start stop) (fs.extract level last) :=
  fold_of_elements (Operand.elements_slice hvalues start stop)
    (Operand.elements_slice hfactors level last)

/-- A fold has the result of two rounds: each of the `2 ^ d` blocks of values under the factors from
the `d`-th one on, then the list of what the blocks give under the first `d` factors, with nothing
embedded. It succeeds exactly when both rounds do. -/
theorem two_round_fold_agrees (e : Embedding) {values factors : Operand}
    (hvalues : values.elements = .ok vs) (hfactors : factors.elements = .ok fs)
    (hsize : vs.length = 2 ^ k) (hcount : fs.length = k) (hd : d ≤ k) (r : Operand) :
    fold e values factors = .ok r ↔
      ∃ results : Fin (2 ^ d) → Operand,
        (∀ c : Fin (2 ^ d),
          fold e (values.slice ((c : ℕ) * 2 ^ (k - d)) (((c : ℕ) + 1) * 2 ^ (k - d)))
            (factors.slice d k) = .ok (results c)) ∧
        fold .identity (.group .square (List.ofFn results)) (factors.slice 0 d) = .ok r := by
  -- The factors above the cut and those below it.
  obtain ⟨top, lower, rfl, rfl⟩ : ∃ top lower, fs = top ++ lower ∧ d = top.length :=
    ⟨fs.take d, fs.drop d, (List.take_append_drop d fs).symm, by simp [hcount, hd]⟩
  obtain rfl : k = top.length + lower.length := by rw [← hcount, List.length_append]
  have hupper : (top ++ lower).extract 0 top.length = top := by
    simp [List.extract_eq_take_drop]
  have hbelow : (top ++ lower).extract top.length (top.length + lower.length) = lower := by
    simp [List.extract_eq_take_drop]
  have houter (results : Fin (2 ^ top.length) → Operand) :
      fold .identity (.group .square (List.ofFn results)) (factors.slice 0 top.length) =
        foldHalves .identity top (List.ofFn results) := by
    rw [fold_of_elements rfl (Operand.elements_slice hfactors _ _), hupper,
      foldList_of_sizes List.length_ofFn]
  simp only [fold_slice hvalues hfactors, hbelow, houter, Nat.add_sub_cancel_left]
  rw [fold_of_elements hvalues hfactors, foldList_of_sizes (hsize.trans (by rw [hcount])),
    foldHalves_append_eq_ok_iff top lower hsize]

/-- Four letters in two rounds: each pair by the second count, then the two texts by the first. -/
theorem two_round_fold_agrees_on_letters :
    (Operand.text "abcd").elements =
        .ok [.text "a", .text "b", .text "c", .text "d"] ∧
      (Operand.group .round [.int 2, .int 3]).elements = .ok [.int 2, .int 3] ∧
      fold .identity (.text "ab") (.group .round [.int 3]) = .ok (.text "abbb") ∧
      fold .identity (.text "cd") (.group .round [.int 3]) = .ok (.text "cddd") ∧
      fold .identity (.text "abcd") (.group .round [.int 2, .int 3]) =
        .ok (.text "abbbcdddcddd") := by
  have hvalues : (Operand.text "abcd").elements =
      .ok [.text "a", .text "b", .text "c", .text "d"] := rfl
  have hfactors : (Operand.group .round [.int 2, .int 3]).elements = .ok [.int 2, .int 3] := rfl
  have hfirst : fold .identity (.text "ab") (.group .round [.int 3]) = .ok (.text "abbb") := rfl
  have hsecond : fold .identity (.text "cd") (.group .round [.int 3]) = .ok (.text "cddd") := rfl
  refine ⟨hvalues, hfactors, hfirst, hsecond, ?_⟩
  exact (two_round_fold_agrees (k := 2) (d := 1) .identity hvalues hfactors rfl rfl (by decide)
    _).mpr ⟨![.text "abbb", .text "cddd"], Fin.forall_fin_two.mpr ⟨hfirst, hsecond⟩, rfl⟩

end TowerFold
