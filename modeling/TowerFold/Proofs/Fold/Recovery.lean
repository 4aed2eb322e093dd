import TowerFold.Proofs.Fold.Multilinear
import TowerFold.Proofs.Operand.Field
import TowerFold.Strategy.Basic

/-!
# What results say about inputs

The first factor multiplies the fold of the second half of the values. Where that is not zero,
every element is the result for exactly one first factor, a quotient by it. And the results for
factors that are zero or one determine all values: at the highest digit, zero leaves the fold of
the first half, and one adds the fold of the second half to it.
-/

namespace TowerFold

/-- A list of twice as many members as another power of two has two halves. -/
theorem exists_halves {α : Type} {k : ℕ} {items : List α} (hsize : items.length = 2 ^ (k + 1)) :
    ∃ left right, items = left ++ right ∧ left.length = 2 ^ k ∧ right.length = 2 ^ k := by
  have hdouble : 2 ^ (k + 1) = 2 ^ k + 2 ^ k := by omega
  refine ⟨items.take (2 ^ k), items.drop (2 ^ k), (List.take_append_drop _ _).symm, ?_, ?_⟩
  · rw [List.length_take]
    omega
  · rw [List.length_drop]
    omega

variable {values others tail : List Operand} {k : ℕ}

/-- The fold of two halves is that of the first half and the first factor times that of the
second half. -/
theorem fold_append_of_promotes (b b' : Brackets) {left right : List Operand}
    {xs xs' ys : List QM31} (hleft : List.Forall₂ Promotes left xs)
    (hright : List.Forall₂ Promotes right xs') (htail : List.Forall₂ Promotes tail ys)
    (hsize : left.length = 2 ^ tail.length) (hsize' : right.length = 2 ^ tail.length) (a : QM31) :
    fold .qm31 (.group b (left ++ right)) (.group b' (.qm31 a :: tail)) =
      .ok (.qm31 (bitWeightedSum xs ys + bitWeightedSum xs' ys * a)) := by
  have hsizes : (left ++ right).length = 2 ^ (Operand.qm31 a :: tail).length := by
    rw [List.length_append, List.length_cons, hsize, hsize']
    omega
  rw [fold_of_promotes b b' (List.rel_append hleft hright) (.cons (.quartic a) htail) hsizes,
    bitWeightedSum_append _ _ _ _ (by rw [← hleft.length_eq, hsize, htail.length_eq])
      (by rw [← hright.length_eq, hsize', htail.length_eq])]

/-- Where the fold of the second half is not zero, every element is the result for exactly one
first factor: what it has over the fold of the first half, divided by that of the second half. Where
it is zero, the result is the fold of the first half for every first factor. -/
theorem one_first_factor_reaches_target (b b' : Brackets) (hvalues : ∀ v ∈ values, v.IsPromotable)
    (htail : ∀ f ∈ tail, f.IsPromotable) (hsize : values.length = 2 ^ (k + 1))
    (hcount : tail.length = k) :
    ∃ left right : QM31,
      fold .qm31 (.group b (values.take (2 ^ k))) (.group b' tail) = .ok (.qm31 left) ∧
      fold .qm31 (.group b (values.drop (2 ^ k))) (.group b' tail) = .ok (.qm31 right) ∧
      (right ≠ 0 → ∀ target : QM31, ∃ a : QM31,
        (do (← (Operand.qm31 target).sub (.qm31 left)).div (.qm31 right)) = .ok (.qm31 a) ∧
        ∀ a' : QM31, ∃ result : QM31,
          fold .qm31 (.group b values) (.group b' (.qm31 a' :: tail)) = .ok (.qm31 result) ∧
          (result = target ↔ a' = a)) ∧
      (right = 0 → ∀ a' : QM31,
        fold .qm31 (.group b values) (.group b' (.qm31 a' :: tail)) = .ok (.qm31 left)) := by
  subst hcount
  obtain ⟨first, second, rfl, hfirst, hsecond⟩ := exists_halves hsize
  rw [List.take_left' hfirst, List.drop_left' hfirst]
  rw [List.forall_mem_append] at hvalues
  obtain ⟨xs, hxs⟩ := exists_forall₂ fun v hv => (hvalues.1 v hv).exists_promotes
  obtain ⟨xs', hxs'⟩ := exists_forall₂ fun v hv => (hvalues.2 v hv).exists_promotes
  obtain ⟨ys, hys⟩ := exists_forall₂ fun f hf => (htail f hf).exists_promotes
  have hwhole := fold_append_of_promotes b b' hxs hxs' hys hfirst hsecond
  refine ⟨bitWeightedSum xs ys, bitWeightedSum xs' ys, fold_of_promotes b b' hxs hys hfirst,
    fold_of_promotes b b' hxs' hys hsecond, fun hright target => ?_, fun hright a' => ?_⟩
  · obtain ⟨a, ha, hunique⟩ := elementClass_qm31.exists_quotient
      (elementClass_qm31.operatorDivision Operand.qm31_div) (target - bitWeightedSum xs ys) hright
    refine ⟨a, by rw [elementClass_qm31.sub, ok_bind, ha], fun a' => ⟨_, hwhole a', ?_⟩⟩
    rw [← hunique a', eq_sub_iff_add_eq', mul_comm a']
  · rw [hwhole a', hright, zero_mul, add_zero]

/-- Two lists whose first halves fold to five: the second half of the first list folds to ten and
takes it to twenty-five for the first factor two only, that of the second list folds to zero. -/
theorem one_first_factor_reaches_target_of_pairs :
    (∀ a : QM31, ∃ result : QM31,
      fold .qm31 (.group .square [.m31 3, .m31 1, .m31 2, .m31 4])
          (.group .round [.qm31 a, .m31 2]) = .ok (.qm31 result) ∧
        (result = 25 ↔ a = 2)) ∧
      ∀ a : QM31,
        fold .qm31 (.group .square [.m31 3, .m31 1, .m31 (-4), .qm31 2])
          (.group .round [.qm31 a, .m31 2]) = .ok (.qm31 5) := by
  have htail : ∀ f ∈ [Operand.m31 2], f.IsPromotable :=
    List.forall_mem_singleton.mpr (.inl (.m31 _))
  constructor
  · have hvalues : ∀ v ∈ [Operand.m31 3, .m31 1, .m31 2, .m31 4], v.IsPromotable := by
      simp only [List.forall_mem_cons]
      exact ⟨.inl (.m31 _), .inl (.m31 _), .inl (.m31 _), .inl (.m31 _), List.forall_mem_nil _⟩
    have hten : fold .qm31 (.group .square [.m31 2, .m31 4]) (.group .round [.m31 2]) =
        .ok (.qm31 10) := rfl
    have hreaching : fold .qm31 (.group .square [.m31 3, .m31 1, .m31 2, .m31 4])
        (.group .round [.qm31 2, .m31 2]) = .ok (.qm31 25) := rfl
    obtain ⟨left, right, _, hright, hreached, _⟩ :=
      one_first_factor_reaches_target (k := 1) .square .round hvalues htail rfl rfl
    obtain rfl : 10 = right := Operand.qm31.inj (Except.ok.inj (hten.symm.trans hright))
    obtain ⟨a, _, hunique⟩ := hreached (by decide) 25
    obtain ⟨result, hresult, htwo⟩ := hunique 2
    obtain rfl : 25 = result := Operand.qm31.inj (Except.ok.inj (hreaching.symm.trans hresult))
    obtain rfl : 2 = a := htwo.mp rfl
    exact hunique
  · have hvalues : ∀ v ∈ [Operand.m31 3, .m31 1, .m31 (-4), .qm31 2], v.IsPromotable := by
      simp only [List.forall_mem_cons]
      exact ⟨.inl (.m31 _), .inl (.m31 _), .inl (.m31 _), .inr ⟨_, rfl⟩, List.forall_mem_nil _⟩
    have hfive : fold .qm31 (.group .square [.m31 3, .m31 1]) (.group .round [.m31 2]) =
        .ok (.qm31 5) := rfl
    have hzero : fold .qm31 (.group .square [.m31 (-4), .qm31 2]) (.group .round [.m31 2]) =
        .ok (.qm31 0) := rfl
    obtain ⟨left, right, hleft, hright, _, hconstant⟩ :=
      one_first_factor_reaches_target (k := 1) .square .round hvalues htail rfl rfl
    obtain rfl : 5 = left := Operand.qm31.inj (Except.ok.inj (hfive.symm.trans hleft))
    obtain rfl : 0 = right := Operand.qm31.inj (Except.ok.inj (hzero.symm.trans hright))
    exact hconstant rfl

/-- Weighted sums with all factors zero or one determine the values: first those of the first half,
for which the first factor is zero, then those of the second half. -/
theorem eq_of_bitWeightedSum_eq {R : Type} [CommRing R] {xs xs' : List R}
    (hsize : xs.length = 2 ^ k) (hsize' : xs'.length = 2 ^ k)
    (hsums : ∀ ys : List R, ys.length = k → (∀ y ∈ ys, y = 0 ∨ y = 1) →
      bitWeightedSum xs ys = bitWeightedSum xs' ys) : xs = xs' := by
  induction k generalizing xs xs' with
  | zero =>
    obtain ⟨x, rfl⟩ := List.length_eq_one_iff.mp hsize
    obtain ⟨x', rfl⟩ := List.length_eq_one_iff.mp hsize'
    have hsum := hsums [] rfl (List.forall_mem_nil _)
    simpa [bitWeightedSum] using hsum
  | succ k ih =>
    obtain ⟨left, right, rfl, hleft, hright⟩ := exists_halves hsize
    obtain ⟨left', right', rfl, hleft', hright'⟩ := exists_halves hsize'
    have hsplit (y : R) (hy : y = 0 ∨ y = 1) (ys : List R) (hcount : ys.length = k)
        (hys : ∀ y ∈ ys, y = 0 ∨ y = 1) :
        bitWeightedSum left ys + bitWeightedSum right ys * y =
          bitWeightedSum left' ys + bitWeightedSum right' ys * y := by
      subst hcount
      rw [← bitWeightedSum_append _ _ _ _ hleft hright,
        ← bitWeightedSum_append _ _ _ _ hleft' hright']
      exact hsums (y :: ys) rfl (List.forall_mem_cons.mpr ⟨hy, hys⟩)
    -- The first factor zero hides the second halves; once the first halves agree, one shows them.
    obtain rfl : left = left' := by
      refine ih hleft hleft' fun ys hcount hys => ?_
      simpa using hsplit 0 (.inl rfl) ys hcount hys
    obtain rfl : right = right' := by
      refine ih hright hright' fun ys hcount hys => ?_
      simpa using hsplit 1 (.inr rfl) ys hcount hys
    rfl

/-- Operands that can be packed as they are and stand for the same element are equal, whichever of
them compares. -/
theorem Promotes.equals_of_isPackable {v w : Operand} {x : QM31} (hv : Promotes v x)
    (hw : Promotes w x) (hpackable : Strategy.isPackable v = true)
    (hpackable' : Strategy.isPackable w = true) : v.equals w = .ok true := by
  have hx := hv.ofOperand_eq
  have hx' := hw.ofOperand_eq
  cases v with
  | m31 a =>
    obtain rfl : QM31.ofM31 a = x := Except.ok.inj hx
    cases w with
    | m31 c =>
      obtain rfl : a = c :=
        congrArg (fun y : QM31 => y.re.re) (Except.ok.inj hx').symm
      exact (elementClass_m31.equals_iff a a).mpr rfl
    | qm31 c =>
      obtain rfl : c = QM31.ofM31 a := Except.ok.inj hx'
      exact congrArg Except.ok (decide_eq_true rfl)
    | _ => cases hpackable'
  | qm31 a =>
    obtain rfl : a = x := Except.ok.inj hx
    cases w with
    | m31 c =>
      obtain rfl : QM31.ofM31 c = a := Except.ok.inj hx'
      exact congrArg Except.ok (decide_eq_true rfl)
    | qm31 c =>
      obtain rfl : c = a := Except.ok.inj hx'
      exact (elementClass_qm31.equals_iff c c).mpr rfl
    | _ => cases hpackable'
  | _ => cases hpackable

/-- Base-field elements and elements of degree four, which can be packed, are of promoted kinds. -/
theorem Operand.isPromotable_of_isPackable {v : Operand} (hv : Strategy.isPackable v = true) :
    v.IsPromotable := by
  cases v with
  | m31 x => exact .inl (.m31 x)
  | qm31 x => exact .inr ⟨x, rfl⟩
  | _ => cases hv

/-- Two lists of base-field elements and elements of degree four are equal item by item if they fold
to equal results under every list of factors that are zero or one: no value is lost, used twice or
put in the place of another. -/
theorem zero_one_folds_determine_values (b b' : Brackets)
    (hvalues : ∀ v ∈ values, Strategy.isPackable v = true)
    (hothers : ∀ v ∈ others, Strategy.isPackable v = true)
    (hsize : values.length = 2 ^ k) (hsize' : others.length = 2 ^ k)
    (hfolds : ∀ factors : List Operand, factors.length = k →
      (∀ f ∈ factors, f = .qm31 0 ∨ f = .qm31 1) →
      (do
        (← fold .qm31 (.group b values) (.group b' factors)).equals
          (← fold .qm31 (.group b others) (.group b' factors))) = .ok true) :
    ∀ i < 2 ^ k, ∃ v w, values[i]? = some v ∧ others[i]? = some w ∧ v.equals w = .ok true := by
  obtain ⟨xs, hxs⟩ :=
    exists_forall₂ fun v hv => (Operand.isPromotable_of_isPackable (hvalues v hv)).exists_promotes
  obtain ⟨xs', hxs'⟩ :=
    exists_forall₂ fun v hv => (Operand.isPromotable_of_isPackable (hothers v hv)).exists_promotes
  obtain rfl : xs = xs' := by
    refine eq_of_bitWeightedSum_eq (k := k) (by rw [← hxs.length_eq, hsize])
      (by rw [← hxs'.length_eq, hsize']) fun ys hcount hys => ?_
    have hfactors : List.Forall₂ Promotes (ys.map .qm31) ys :=
      List.forall₂_map_left_iff.mpr (List.forall₂_same.mpr fun y _ => .quartic y)
    have hcounted : (ys.map Operand.qm31).length = k := by rw [List.length_map, hcount]
    have hequal := hfolds (ys.map .qm31) hcounted (by simpa using hys)
    rwa [fold_of_promotes b b' hxs hfactors (by rw [hsize, hcounted]), ok_bind,
      fold_of_promotes b b' hxs' hfactors (by rw [hsize', hcounted]), ok_bind,
      elementClass_qm31.equals, Except.ok.injEq, decide_eq_true_eq] at hequal
  intro i hi
  have hi' : i < values.length := hsize ▸ hi
  have hi'' : i < others.length := hsize' ▸ hi
  have hlt : i < xs.length := hxs.length_eq ▸ hi'
  refine ⟨values[i], others[i], List.getElem?_eq_getElem hi', List.getElem?_eq_getElem hi'', ?_⟩
  exact (hxs.get hi' hlt).equals_of_isPackable (hxs'.get hi'' hlt)
    (hvalues _ (List.getElem_mem hi')) (hothers _ (List.getElem_mem hi''))

/-- Two lists of two that fold to the same under zero and under one; the first value of one is a
base-field element, that of the other the element of degree four for which it stands. -/
theorem zero_one_folds_determine_values_of_pairs :
    (∃ v w, [Operand.m31 5, .qm31 (.ofCoords 0 1 0 0)][0]? = some v ∧
        [Operand.qm31 5, .qm31 (.ofCoords 0 1 0 0)][0]? = some w ∧ v.equals w = .ok true) ∧
      ∃ v w, [Operand.m31 5, .qm31 (.ofCoords 0 1 0 0)][1]? = some v ∧
        [Operand.qm31 5, .qm31 (.ofCoords 0 1 0 0)][1]? = some w ∧ v.equals w = .ok true := by
  have hvalues : ∀ v ∈ [Operand.m31 5, .qm31 (.ofCoords 0 1 0 0)],
      Strategy.isPackable v = true := by simp [Strategy.isPackable]
  have hothers : ∀ v ∈ [Operand.qm31 5, .qm31 (.ofCoords 0 1 0 0)],
      Strategy.isPackable v = true := by simp [Strategy.isPackable]
  have hequal := zero_one_folds_determine_values (k := 1) .square .round hvalues hothers rfl rfl
    fun factors hcount hfactors => by
      obtain ⟨f, rfl⟩ := List.length_eq_one_iff.mp hcount
      obtain rfl | rfl := hfactors f (List.mem_singleton_self f)
      · rfl
      · rfl
  exact ⟨hequal 0 (by decide), hequal 1 (by decide)⟩

end TowerFold
