import Mathlib.Data.Nat.Bitwise
import Mathlib.Logic.Equiv.Fin.Rotate
import Mathlib.Tactic.FinCases
import Mathlib.Tactic.IntervalCases
import TowerFold.Proofs.Fold.ClosedForm

/-!
# Permuted factors

In a ring, the order of the factors only matters together with that of the values. When the
factors are permuted, a value has to move to the index whose digits select the same factors as
before. The recursion of the fold offers no induction over permutations, but its closed form is a
sum over all indices, which may be taken in any order.
-/

namespace TowerFold

variable {k : ℕ}

/-- The indices below `2 ^ k` by their binary digits. -/
def indexDigits (k : ℕ) : Fin (2 ^ k) ≃ (Fin k → Bool) where
  toFun i t := (i : ℕ).testBit t
  invFun digits := ⟨Nat.ofBits digits, Nat.ofBits_lt_two_pow digits⟩
  left_inv i := by
    ext
    exact (Nat.ofBits_testBit i k).trans (Nat.mod_eq_of_lt i.isLt)
  right_inv digits := by
    ext t
    exact Nat.testBit_ofBits_lt digits t t.isLt

/-- The indices below `2 ^ k` by the factors that they select. -/
def selection (k : ℕ) : Fin (2 ^ k) ≃ (Fin k → Bool) :=
  (indexDigits k).trans (Fin.revPerm.arrowCongr (.refl Bool))

/-- Factor `j` is selected by digit `k - 1 - j`. -/
theorem selection_apply (i : Fin (2 ^ k)) (j : Fin k) :
    selection k i j = (i : ℕ).testBit (k - 1 - j) := by
  have hplace : (j.rev : ℕ) = k - 1 - j := by
    rw [Fin.val_rev]
    omega
  rw [← hplace]
  rfl

/-- The index that selects factor `j` where the given one selects factor `σ j`. -/
def permuteIndex (σ : Equiv.Perm (Fin k)) : Equiv.Perm (Fin (2 ^ k)) :=
  (selection k).trans ((σ.symm.arrowCongr (.refl Bool)).trans (selection k).symm)

theorem selection_permuteIndex (σ : Equiv.Perm (Fin k)) (i : Fin (2 ^ k)) (j : Fin k) :
    selection k (permuteIndex σ i) j = selection k i (σ j) := by
  simp [permuteIndex, Equiv.arrowCongr]

section Sums

variable {R : Type} [CommRing R] {xs ys : List R}

/-- The weighted sum over all selections of factors. -/
theorem bitWeightedSum_eq_sum_selection (hxs : xs.length = 2 ^ k) (hys : ys.length = k) :
    bitWeightedSum xs ys =
      ∑ i : Fin (2 ^ k), xs.getD i 0 * ∏ j : Fin k, if selection k i j then ys.getD j 1 else 1 := by
  subst hys
  refine Fintype.sum_equiv (finCongr hxs) _ _ fun i => ?_
  simp [bitWeight, selection_apply]

/-- A weighted sum stays what it is when its factors are permuted and its values moved along. -/
theorem bitWeightedSum_permute (σ : Equiv.Perm (Fin k)) {xs' ys' : List R}
    (hxs : xs.length = 2 ^ k) (hys : ys.length = k) (hxs' : xs'.length = 2 ^ k)
    (hys' : ys'.length = k) (hfactors : ∀ j : Fin k, ys'[(j : ℕ)]? = ys[(σ j : ℕ)]?)
    (hvalues : ∀ i : Fin (2 ^ k), xs'[(permuteIndex σ i : ℕ)]? = xs[(i : ℕ)]?) :
    bitWeightedSum xs' ys' = bitWeightedSum xs ys := by
  rw [bitWeightedSum_eq_sum_selection hxs hys, bitWeightedSum_eq_sum_selection hxs' hys',
    ← Equiv.sum_comp (permuteIndex σ)]
  refine Finset.sum_congr rfl fun i _ => ?_
  simp only [List.getD_eq_getElem?_getD, hvalues, hfactors, selection_permuteIndex]
  rw [Equiv.prod_comp σ fun j => if selection k i j then ys[(j : ℕ)]?.getD 1 else 1]

end Sums

/-- Lists that are related item by item by a function of the item have equal members where the
items are equal. -/
theorem getElem?_eq_of_forall₂ {α β : Type} {related : α → β → Prop}
    (hunique : ∀ a b b', related a b → related a b' → b = b') {items items' : List α}
    {others others' : List β} (h : List.Forall₂ related items others)
    (h' : List.Forall₂ related items' others') {i i' : ℕ} (hsame : items'[i']? = items[i]?) :
    others'[i']? = others[i]? := by
  have hlength := h.length_eq
  have hlength' := h'.length_eq
  by_cases hi : i < items.length
  · rw [List.getElem?_eq_getElem hi] at hsame
    obtain ⟨hi', heq⟩ := List.getElem?_eq_some_iff.mp hsame
    have hrelated := h.get hi (hlength ▸ hi)
    have hrelated' := h'.get hi' (hlength' ▸ hi')
    simp only [List.get_eq_getElem, heq] at hrelated hrelated'
    rw [List.getElem?_eq_getElem (hlength' ▸ hi'), List.getElem?_eq_getElem (hlength ▸ hi),
      hunique _ _ _ hrelated' hrelated]
  · rw [List.getElem?_eq_none (Nat.not_lt.mp hi), List.getElem?_eq_none_iff, hlength'] at hsame
    rw [List.getElem?_eq_none hsame, List.getElem?_eq_none (hlength ▸ Nat.not_lt.mp hi)]

/-- An operand stands for one element only. -/
theorem RingEmbedding.Denotes.unique {e : RingEmbedding} {v : Operand} {x y : e.Carrier}
    (hx : e.Denotes v x) (hy : e.Denotes v y) : x = y := by
  have hput : e.put x = e.put y := Except.ok.inj (hx.apply_eq.symm.trans hy.apply_eq)
  cases e <;> cases hput <;> rfl

/-- The values in the order in which the digits of an index `i'` select factor `j` where those of
the old index select factor `σ j`. -/
def RearrangedBy (σ : Equiv.Perm (Fin k)) (values values' : List Operand) : Prop :=
  ∀ i i', i < 2 ^ k → i' < 2 ^ k →
    (∀ j : Fin k, i'.testBit (k - 1 - j) = i.testBit (k - 1 - σ j)) → values'[i']? = values[i]?

/-- Where values are rearranged, each one moves to the permuted index. -/
theorem RearrangedBy.getElem?_permuteIndex {σ : Equiv.Perm (Fin k)} {values values' : List Operand}
    (h : RearrangedBy σ values values') (i : Fin (2 ^ k)) :
    values'[(permuteIndex σ i : ℕ)]? = values[(i : ℕ)]? := by
  refine h i (permuteIndex σ i) i.isLt (permuteIndex σ i).isLt fun j => ?_
  rw [← selection_apply, selection_permuteIndex, selection_apply]

/-- Items that are members of the given ones in another order are admitted with these. -/
theorem admits_of_permuted {e : RingEmbedding} {n : ℕ} (τ : Equiv.Perm (Fin n))
    {items items' : List Operand} (hcount : items'.length = n) (hadmits : ∀ v ∈ items, e.Admits v)
    (hsame : ∀ i : Fin n, items'[(τ i : ℕ)]? = items[(i : ℕ)]?) : ∀ v ∈ items', e.Admits v := by
  intro v hv
  obtain ⟨i, hi, rfl⟩ := List.mem_iff_getElem.mp hv
  have hmoved := hsame (τ.symm ⟨i, hcount ▸ hi⟩)
  rw [Equiv.apply_symm_apply, List.getElem?_eq_getElem hi] at hmoved
  exact hadmits _ (List.mem_of_getElem? hmoved.symm)

/-- The fold of permuted factors and rearranged values is that of the given ones. -/
theorem fold_of_rearranged {e : RingEmbedding} (b b' : Brackets) (σ : Equiv.Perm (Fin k))
    {values values' factors factors' : List Operand}
    (hvalues : ∀ v ∈ values, e.Admits v) (hfactors : ∀ f ∈ factors, e.Admits f)
    (hsize : values.length = 2 ^ k) (hcount : factors.length = k)
    (hsize' : values'.length = 2 ^ k) (hcount' : factors'.length = k)
    (hpermuted : ∀ j : Fin k, factors'[(j : ℕ)]? = factors[(σ j : ℕ)]?)
    (hrearranged : RearrangedBy σ values values') :
    ∃ x, fold e.toEmbedding (.group b values) (.group b' factors) = .ok (e.put x) ∧
      fold e.toEmbedding (.group b values') (.group b' factors') = .ok (e.put x) := by
  have hmoved := hrearranged.getElem?_permuteIndex
  have hpermuted' (j : Fin k) : factors'[(σ.symm j : ℕ)]? = factors[(j : ℕ)]? := by
    rw [hpermuted, Equiv.apply_symm_apply]
  have hvalues' := admits_of_permuted (permuteIndex σ) hsize' hvalues hmoved
  have hfactors' := admits_of_permuted σ.symm hcount' hfactors hpermuted'
  obtain ⟨xs, hxs⟩ := RingEmbedding.exists_forall₂_denotes hvalues
  obtain ⟨ys, hys⟩ := RingEmbedding.exists_forall₂_denotes hfactors
  obtain ⟨xs', hxs'⟩ := RingEmbedding.exists_forall₂_denotes hvalues'
  obtain ⟨ys', hys'⟩ := RingEmbedding.exists_forall₂_denotes hfactors'
  have hunique (v : Operand) (x y : e.Carrier) (hx : e.Denotes v x) (hy : e.Denotes v y) : x = y :=
    hx.unique hy
  have hsum : bitWeightedSum xs' ys' = bitWeightedSum xs ys :=
    bitWeightedSum_permute σ (hxs.length_eq ▸ hsize) (hys.length_eq ▸ hcount)
      (hxs'.length_eq ▸ hsize') (hys'.length_eq ▸ hcount')
      (fun j => getElem?_eq_of_forall₂ hunique hys hys' (hpermuted j))
      (fun i => getElem?_eq_of_forall₂ hunique hxs hxs' (hmoved i))
  have hsizes : values.length = 2 ^ factors.length := by rw [hsize, hcount]
  have hsizes' : values'.length = 2 ^ factors'.length := by rw [hsize', hcount']
  refine ⟨_, fold_eq_put_bitWeightedSum b b' hxs hys hsizes, ?_⟩
  rw [fold_eq_put_bitWeightedSum b b' hxs' hys' hsizes', hsum]

/-- The index whose `k` digits are those of `i` from the other end. -/
def reverseDigits (k i : ℕ) : ℕ := Nat.ofBits fun t : Fin k => i.testBit (k - 1 - t)

/-- The values in the order of their reversed indices. -/
def bitReversed (k : ℕ) (values : List Operand) : List Operand :=
  List.ofFn fun i : Fin (2 ^ k) => values.getD (reverseDigits k i) .nothing

/-- An index is found from the digits of the reversed one. -/
theorem reverseDigits_eq {i i' : ℕ} (hi : i < 2 ^ k)
    (hdigits : ∀ t < k, i'.testBit (k - 1 - t) = i.testBit t) : reverseDigits k i' = i := by
  refine Nat.eq_of_testBit_eq fun t => ?_
  by_cases ht : t < k
  · rw [reverseDigits, Nat.testBit_ofBits_lt _ t ht]
    exact hdigits t ht
  · rw [reverseDigits, Nat.testBit_ofBits_ge _ t (Nat.not_lt.mp ht), Nat.testBit_lt_two_pow]
    exact hi.trans_le (Nat.pow_le_pow_right (by decide) (Nat.not_lt.mp ht))

/-- To reverse the indices is to rearrange the values for reversed factors. -/
theorem rearrangedBy_bitReversed {values : List Operand} (hsize : values.length = 2 ^ k) :
    RearrangedBy (Fin.revPerm (n := k)) values (bitReversed k values) := by
  intro i i' hi hi' hdigits
  have hindex : reverseDigits k i' = i := by
    refine reverseDigits_eq hi fun t ht => ?_
    have hplace : k - 1 - ((Fin.revPerm ⟨t, ht⟩ : Fin k) : ℕ) = t := by
      rw [Fin.revPerm_apply, Fin.val_rev, Fin.val_mk]
      omega
    rw [hdigits ⟨t, ht⟩, hplace]
  rw [bitReversed, List.getElem?_ofFn, dif_pos hi', hindex, List.getD_eq_getElem?_getD,
    List.getElem?_eq_getElem (hsize ▸ hi), Option.getD_some]

/-- When factors are permuted and values moved to the indices that select the same factors as
before, the fold gives the same element. In particular, the factors may be reversed together with
the digits of all indices. -/
theorem permuted_fold_agrees (e : RingEmbedding) (b b' : Brackets) {values factors : List Operand}
    (hvalues : ∀ v ∈ values, e.Admits v) (hfactors : ∀ f ∈ factors, e.Admits f)
    (hsize : values.length = 2 ^ k) (hcount : factors.length = k) :
    (∀ (σ : Equiv.Perm (Fin k)) (values' factors' : List Operand),
      values'.length = 2 ^ k → factors'.length = k →
      (∀ j : Fin k, factors'[(j : ℕ)]? = factors[(σ j : ℕ)]?) → RearrangedBy σ values values' →
      ∃ x, fold e.toEmbedding (.group b values) (.group b' factors) = .ok (e.put x) ∧
        fold e.toEmbedding (.group b values') (.group b' factors') = .ok (e.put x)) ∧
      ∃ x, fold e.toEmbedding (.group b values) (.group b' factors.reverse) = .ok (e.put x) ∧
        fold e.toEmbedding (.group b (bitReversed k values)) (.group b' factors) =
          .ok (e.put x) := by
  refine ⟨fun σ values' factors' hsize' hcount' hpermuted hrearranged =>
    fold_of_rearranged b b' σ hvalues hfactors hsize hcount hsize' hcount' hpermuted hrearranged,
    ?_⟩
  have hreversed (j : Fin k) :
      factors[(j : ℕ)]? = factors.reverse[((Fin.revPerm j : Fin k) : ℕ)]? := by
    have hlt : ((Fin.revPerm j : Fin k) : ℕ) < factors.length := hcount ▸ (Fin.revPerm j).isLt
    have hplace : factors.length - 1 - ((Fin.revPerm j : Fin k) : ℕ) = j := by
      rw [Fin.revPerm_apply, Fin.val_rev, hcount]
      omega
    rw [List.getElem?_reverse hlt, hplace]
  exact fold_of_rearranged b b' Fin.revPerm hvalues (fun f hf => hfactors f (List.mem_reverse.mp hf))
    hsize (by rw [List.length_reverse, hcount]) List.length_ofFn hcount hreversed
    (rearrangedBy_bitReversed hsize)

/-- Eight values under three factors that are moved around in a circle. -/
theorem permuted_fold_agrees_in_circle :
    ∃ x : QM31,
      fold .qm31 (.group .square [.m31 0, .m31 1, .m31 2, .m31 3, .qm31 (.ofCoords 4 0 0 1),
          .m31 5, .m31 6, .m31 7])
        (.group .square [.qm31 (.ofCoords 1 2 3 4), .m31 9, .m31 (-1)]) = .ok (.qm31 x) ∧
      fold .qm31 (.group .square [.m31 0, .qm31 (.ofCoords 4 0 0 1), .m31 1, .m31 5, .m31 2,
          .m31 6, .m31 3, .m31 7])
        (.group .square [.m31 9, .m31 (-1), .qm31 (.ofCoords 1 2 3 4)]) = .ok (.qm31 x) := by
  have hvalues : ∀ v ∈ [Operand.m31 0, .m31 1, .m31 2, .m31 3, .qm31 (.ofCoords 4 0 0 1), .m31 5,
      .m31 6, .m31 7], RingEmbedding.qm31.Admits v := by
    simp only [List.forall_mem_cons]
    exact ⟨.baseInQuartic _, .baseInQuartic _, .baseInQuartic _, .baseInQuartic _, .quartic _,
      .baseInQuartic _, .baseInQuartic _, .baseInQuartic _, List.forall_mem_nil _⟩
  have hfactors : ∀ f ∈ [Operand.qm31 (.ofCoords 1 2 3 4), .m31 9, .m31 (-1)],
      RingEmbedding.qm31.Admits f := by
    simp only [List.forall_mem_cons]
    exact ⟨.quartic _, .baseInQuartic _, .baseInQuartic _, List.forall_mem_nil _⟩
  refine (permuted_fold_agrees .qm31 .square .square (k := 3) hvalues hfactors rfl rfl).1
    (finRotate 3) _ _ rfl rfl (fun j => ?_) fun i i' hi hi' hdigits => ?_
  · fin_cases j <;> rfl
  · have hplace : ∀ i < 8, ∀ i' < 8,
        (∀ j : Fin 3, i'.testBit (3 - 1 - j) = i.testBit (3 - 1 - finRotate 3 j)) →
          i' = i * 2 % 8 + i / 4 := by decide
    obtain rfl := hplace i hi i' hi' hdigits
    interval_cases i <;> rfl

end TowerFold
