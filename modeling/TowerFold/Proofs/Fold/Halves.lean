import Mathlib.Data.List.Forall2
import TowerFold.Proofs.Fold.Sizes
import TowerFold.Proofs.Fold.Weights

/-!
# The fold by halves in a ring

Where operands stand for elements of a ring and every join stands for the join in the ring,
the fold by halves succeeds and stands for the weighted sum.
-/

namespace TowerFold

variable {R : Type} [CommRing R] {Result Factor : Operand → R → Prop} {e : Embedding}

/-- One join at a time, the fold by halves follows the weighted sum: every factor splits the
sum at the highest digit that still counts. -/
theorem foldHalves_of_join
    (hjoin : ∀ {left right factor : Operand} {x y z : R}, Result left x → Result right y →
      Factor factor z → ∃ r, join left right factor = .ok r ∧ Result r (x + y * z))
    {values factors : List Operand} {xs ys : List R}
    (hvalues : List.Forall₂ (fun v x => ∃ r, e.apply v = .ok r ∧ Result r x) values xs)
    (hfactors : List.Forall₂ Factor factors ys) (hsizes : values.length = 2 ^ factors.length) :
    ∃ r, foldHalves e factors values = .ok r ∧ Result r (bitWeightedSum xs ys) := by
  induction hfactors generalizing values xs with
  | nil =>
    obtain ⟨v, rfl⟩ := List.length_eq_one_iff.mp hsizes
    obtain ⟨x, _, hv, hrest, rfl⟩ := List.forall₂_cons_left_iff.mp hvalues
    obtain rfl := List.forall₂_nil_left_iff.mp hrest
    obtain ⟨r, hr, hresult⟩ := hv
    exact ⟨r, hr, by simpa [bitWeightedSum] using hresult⟩
  | @cons f y fs ys hf hfs ih =>
    have hhalf : values.length = 2 ^ fs.length + 2 ^ fs.length := by
      rw [hsizes, List.length_cons, pow_succ, Nat.mul_two]
    have hlength := hfs.length_eq
    have hxs := hvalues.length_eq
    obtain ⟨left, hleft, hleftResult⟩ :=
      ih (List.forall₂_take (2 ^ fs.length) hvalues) (by simp [hhalf])
    obtain ⟨right, hright, hrightResult⟩ :=
      ih (List.forall₂_drop (2 ^ fs.length) hvalues) (by simp [hhalf])
    obtain ⟨r, hr, hresult⟩ := hjoin hleftResult hrightResult hf
    refine ⟨r, ?_, ?_⟩
    · rw [foldHalves, leafCount_eq_two_pow]
      simp only [hleft, hright, ok_bind, hr]
    · rw [← bitWeightedSum_append, List.take_append_drop] at hresult
      · exact hresult
      · simp [← hxs, hhalf, hlength]
      · simp [← hxs, hhalf, hlength]

end TowerFold
