import Mathlib.RingTheory.AdjoinRoot
import TowerFold.Proofs.Field.Extension

/-!
# The extensions as quotients of polynomial rings

Pairs of coordinates calculate as the residues of polynomials modulo `X² − r`: the root that
is adjoined corresponds to the class of `X`.
-/

namespace TowerFold.Quadratic

open Polynomial

variable {F : Type} [CommRing F] {r : F}

/-- The element that is adjoined. -/
def generator : Quadratic F r := ⟨0, 1⟩

/-- The generator is a root of `r`. -/
theorem generator_mul_generator : (generator : Quadratic F r) * generator = embed r := by
  ext <;> simp [generator]

/-- An element by its coordinates. -/
theorem eq_embed_add_embed_mul_generator (x : Quadratic F r) :
    x = embed x.re + embed x.im * generator := by
  ext <;> simp [generator]

/-- The polynomial that the generator is a root of. -/
noncomputable abbrev minimalPolynomial (r : F) : F[X] := X ^ 2 - C r

theorem eval₂_generator :
    (minimalPolynomial r).eval₂ embedHom (generator : Quadratic F r) = 0 := by
  rw [eval₂_sub, eval₂_X_pow, eval₂_C, sq, generator_mul_generator]
  exact sub_self _

/-- The class of `X` is a root of `r`. -/
theorem root_mul_root :
    AdjoinRoot.root (minimalPolynomial r) * AdjoinRoot.root (minimalPolynomial r) =
      AdjoinRoot.of (minimalPolynomial r) r := by
  have hroot := AdjoinRoot.eval₂_root (minimalPolynomial r)
  rw [eval₂_sub, eval₂_X_pow, eval₂_C] at hroot
  rw [← sq, sub_eq_zero.mp hroot]

/-- An element as the class of a polynomial of degree one. -/
noncomputable def toQuotient (r : F) :
    Quadratic F r →+* AdjoinRoot (minimalPolynomial r) where
  toFun x := AdjoinRoot.of _ x.re + AdjoinRoot.of _ x.im * AdjoinRoot.root _
  map_zero' := by simp
  map_one' := by simp
  map_add' x y := by
    simp only [re_add, im_add, map_add]
    ring
  map_mul' x y := by
    simp only [re_mul, im_mul, map_add, map_mul, ← root_mul_root]
    ring

/-- The class of a polynomial as an element, by its value at the generator. -/
noncomputable def ofQuotient (r : F) :
    AdjoinRoot (minimalPolynomial r) →+* Quadratic F r :=
  AdjoinRoot.lift embedHom generator eval₂_generator

theorem toQuotient_embed (a : F) : toQuotient r (embed a) = AdjoinRoot.of _ a := by
  simp [toQuotient]

theorem toQuotient_generator : toQuotient r generator = AdjoinRoot.root _ := by
  simp [toQuotient, generator]

theorem ofQuotient_of (a : F) : ofQuotient r (AdjoinRoot.of _ a) = embed a :=
  AdjoinRoot.lift_of eval₂_generator

theorem ofQuotient_root : ofQuotient r (AdjoinRoot.root _) = generator :=
  AdjoinRoot.lift_root eval₂_generator

/-- Both ways around nothing changes, as the smaller ring and the root stay what they are. -/
noncomputable def quotientEquiv (r : F) :
    Quadratic F r ≃+* AdjoinRoot (minimalPolynomial r) := by
  refine RingEquiv.ofRingHom (toQuotient r) (ofQuotient r) ?_ ?_
  · refine AdjoinRoot.ringHom_ext (RingHom.ext fun a => ?_) ?_
    · exact (congrArg (toQuotient r) (ofQuotient_of a)).trans (toQuotient_embed a)
    · exact (congrArg (toQuotient r) ofQuotient_root).trans toQuotient_generator
  · refine RingHom.ext fun x => ?_
    rw [eq_embed_add_embed_mul_generator x]
    simp only [RingHom.comp_apply, RingHom.id_apply, map_add, map_mul, toQuotient_embed,
      toQuotient_generator, ofQuotient_of, ofQuotient_root]

/-- A quadratic extension is the quotient of the polynomials by `X² − r`. -/
theorem exists_quotientEquiv {p : F[X]} (hp : p = X ^ 2 - C r) :
    ∃ φ : Quadratic F r ≃+* AdjoinRoot p,
      (∀ a, φ (embed a) = AdjoinRoot.of p a) ∧ φ generator = AdjoinRoot.root p := by
  subst hp
  exact ⟨quotientEquiv r, toQuotient_embed, toQuotient_generator⟩

end TowerFold.Quadratic
