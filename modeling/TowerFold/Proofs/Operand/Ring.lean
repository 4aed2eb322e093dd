import TowerFold.Embedding
import TowerFold.Proofs.Field.Quotient
import TowerFold.Proofs.Operand.Elements

/-!
# The operators of a class form a ring

Between operands of one class, sums, differences, negatives and products always have a
result in the class, and they obey the laws of a commutative ring. The complex class is
that of the polynomials over the base field modulo `X² + 1`, and sits in the class of degree
four, which is that of the polynomials over the complex class modulo `X² − 2 − i`.
-/

namespace TowerFold

open Polynomial

/-- The operands that `put` makes form a commutative ring under their operators, in which the
integers zero and one, embedded by `e`, are neutral. -/
structure OperatorRing {F : Type} (put : F → Operand) (e : Embedding) : Prop where
  exists_add (x y : F) : ∃ z, (put x).add (put y) = .ok (put z)
  exists_mul (x y : F) : ∃ z, (put x).mul (put y) = .ok (put z)
  exists_neg (x : F) : ∃ z, (put x).neg = .ok (put z)
  add_assoc (x y z : F) :
    (do (← (put x).add (put y)).add (put z)) = do (put x).add (← (put y).add (put z))
  add_comm (x y : F) : (put x).add (put y) = (put y).add (put x)
  mul_assoc (x y z : F) :
    (do (← (put x).mul (put y)).mul (put z)) = do (put x).mul (← (put y).mul (put z))
  mul_comm (x y : F) : (put x).mul (put y) = (put y).mul (put x)
  mul_add (x y z : F) :
    (do (put x).mul (← (put y).add (put z))) =
      do (← (put x).mul (put y)).add (← (put x).mul (put z))
  zero_add (x : F) : (do (← e.apply (.int 0)).add (put x)) = .ok (put x)
  one_mul (x : F) : (do (← e.apply (.int 1)).mul (put x)) = .ok (put x)
  sub_eq_add_neg (x y : F) : (put x).sub (put y) = do (put x).add (← (put y).neg)
  add_neg (x : F) : (do (put x).add (← (put x).neg)) = e.apply (.int 0)

/-- Between the operands that `put` makes, the operators are those of the ring to which `φ`
takes their elements. -/
structure CalculatesIn {F R : Type} [Add F] [Mul F] [Ring R] (put : F → Operand)
    (φ : F ≃+* R) : Prop where
  add (x y : F) : (put x).add (put y) = .ok (put (φ.symm (φ x + φ y)))
  sub (x y : F) : (put x).sub (put y) = .ok (put (φ.symm (φ x - φ y)))
  neg (x : F) : (put x).neg = .ok (put (φ.symm (-φ x)))
  mul (x y : F) : (put x).mul (put y) = .ok (put (φ.symm (φ x * φ y)))

/-- Elements of one class are taken to elements of another one with all their sums,
differences, negatives, products and inverses, and different ones to different ones. -/
structure PreservesOperators {F G : Type} (f : F → G) (put : F → Operand)
    (put' : G → Operand) : Prop where
  injective : Function.Injective f
  add (x y z : F) : (put x).add (put y) = .ok (put z) ↔
    (put' (f x)).add (put' (f y)) = .ok (put' (f z))
  sub (x y z : F) : (put x).sub (put y) = .ok (put z) ↔
    (put' (f x)).sub (put' (f y)) = .ok (put' (f z))
  neg (x z : F) : (put x).neg = .ok (put z) ↔ (put' (f x)).neg = .ok (put' (f z))
  mul (x y z : F) : (put x).mul (put y) = .ok (put z) ↔
    (put' (f x)).mul (put' (f y)) = .ok (put' (f z))
  inverse (x z : F) : (put x).inverse = .ok (put z) ↔ (put' (f x)).inverse = .ok (put' (f z))
  inverse_error (x : F) (fault : Fault) :
    (put x).inverse = .error fault ↔ (put' (f x)).inverse = .error fault

namespace ElementClass

variable {F : Type} [CommRing F] [DecidableEq F] {put : F → Operand} {inverse? : F → Option F}

/-- The operators of a class inherit the laws of its field. -/
theorem operatorRing (h : ElementClass put inverse?) {e : Embedding}
    (hzero : e.apply (.int 0) = .ok (put 0)) (hone : e.apply (.int 1) = .ok (put 1)) :
    OperatorRing put e where
  exists_add _ _ := ⟨_, h.add _ _⟩
  exists_mul _ _ := ⟨_, h.mul _ _⟩
  exists_neg _ := ⟨_, h.neg _⟩
  add_assoc x y z := by simp only [h.add, ok_bind, add_assoc]
  add_comm x y := by rw [h.add, h.add, add_comm]
  mul_assoc x y z := by simp only [h.mul, ok_bind, mul_assoc]
  mul_comm x y := by rw [h.mul, h.mul, mul_comm]
  mul_add x y z := by simp only [h.add, h.mul, ok_bind, mul_add]
  zero_add x := by rw [hzero, ok_bind, h.add, zero_add]
  one_mul x := by rw [hone, ok_bind, h.mul, one_mul]
  sub_eq_add_neg x y := by rw [h.sub, h.neg, ok_bind, h.add, sub_eq_add_neg]
  add_neg x := by rw [h.neg, ok_bind, h.add, hzero, add_neg_cancel]

/-- The operators of a class are those of any ring that its field is isomorphic to. -/
theorem calculatesIn (h : ElementClass put inverse?) {R : Type} [Ring R] (φ : F ≃+* R) :
    CalculatesIn put φ where
  add x y := by rw [h.add, ← map_add, φ.symm_apply_apply]
  sub x y := by rw [h.sub, ← map_sub, φ.symm_apply_apply]
  neg x := by rw [h.neg, ← map_neg, φ.symm_apply_apply]
  mul x y := by rw [h.mul, ← map_mul, φ.symm_apply_apply]

variable {G : Type} [CommRing G] [DecidableEq G] {put' : G → Operand} {inverse?' : G → Option G}

/-- A field that sits in another one keeps its operators there. -/
theorem preservesOperators (h : ElementClass put inverse?) (h' : ElementClass put' inverse?')
    {f : F →+* G} (hf : Function.Injective f) : PreservesOperators f put put' where
  injective := hf
  add x y z := by
    rw [h.add, h'.add, Except.ok.injEq, Except.ok.injEq, h.injective.eq_iff, h'.injective.eq_iff,
      ← map_add, hf.eq_iff]
  sub x y z := by
    rw [h.sub, h'.sub, Except.ok.injEq, Except.ok.injEq, h.injective.eq_iff, h'.injective.eq_iff,
      ← map_sub, hf.eq_iff]
  neg x z := by
    rw [h.neg, h'.neg, Except.ok.injEq, Except.ok.injEq, h.injective.eq_iff, h'.injective.eq_iff,
      ← map_neg, hf.eq_iff]
  mul x y z := by
    rw [h.mul, h'.mul, Except.ok.injEq, Except.ok.injEq, h.injective.eq_iff, h'.injective.eq_iff,
      ← map_mul, hf.eq_iff]
  inverse x z := by
    rw [h.inverse_eq_ok_iff, h'.inverse_eq_ok_iff, ← map_mul, ← map_one f, hf.eq_iff]
  inverse_error x fault := by
    rw [h.inverse_eq_error_iff, h'.inverse_eq_error_iff, ← map_zero f, hf.eq_iff]

end ElementClass

/-- Different complex elements stay different in the extension of degree four. -/
theorem QM31.ofCM31_injective : Function.Injective QM31.ofCM31 := by
  intro x y hxy
  exact congrArg Quadratic.re hxy

/-- The operators of the complex class are those of the polynomials over the base field modulo
`X² + 1`, and the operators of the class of degree four are those of the polynomials over the
complex class modulo `X² − 2 − i`, whose elements are `lo + hi · u` with `u² = 2 + i`. -/
theorem extensions_are_quotient_rings :
    OperatorRing Operand.cm31 .cm31 ∧
      OperatorRing Operand.qm31 .qm31 ∧
      (∃ φ : CM31 ≃+* AdjoinRoot (X ^ 2 + 1 : M31[X]), CalculatesIn Operand.cm31 φ ∧
        (∀ a, φ (.ofM31 a) = AdjoinRoot.of _ a) ∧ φ (.ofCoords 0 1) = AdjoinRoot.root _) ∧
      (∃ φ : QM31 ≃+* AdjoinRoot (X ^ 2 - 2 - C (CM31.ofCoords 0 1) : CM31[X]),
        CalculatesIn Operand.qm31 φ ∧
        (∀ a, φ (.ofCM31 a) = AdjoinRoot.of _ a) ∧ φ (.ofCoords 0 0 1 0) = AdjoinRoot.root _) ∧
      (∀ a b c d : M31, (do
        let product ← (Operand.qm31 (.ofCoords c d 0 0)).mul (.qm31 (.ofCoords 0 0 1 0))
        (Operand.qm31 (.ofCoords a b 0 0)).add product) = .ok (.qm31 (.ofCoords a b c d))) ∧
      (Operand.qm31 (.ofCoords 0 0 1 0)).mul (.qm31 (.ofCoords 0 0 1 0)) =
        .ok (.qm31 (.ofCoords (.ofNat 2) 1 0 0)) ∧
      (∀ a b : M31, QM31.ofCM31 (.ofCoords a b) = .ofCoords a b 0 0) ∧
      PreservesOperators QM31.ofCM31 Operand.cm31 Operand.qm31 := by
  have hcomplex : (X ^ 2 + 1 : M31[X]) = X ^ 2 - C (-1) := by
    rw [C_neg, C_1, sub_neg_eq_add]
  have hquartic : (X ^ 2 - 2 - C (CM31.ofCoords 0 1) : CM31[X]) = X ^ 2 - C nonResidue := by
    have hnonResidue : nonResidue = 2 + CM31.ofCoords 0 1 := by decide
    rw [hnonResidue, C_add, sub_sub]
    rfl
  obtain ⟨φ, hφ⟩ := Quadratic.exists_quotientEquiv hcomplex
  obtain ⟨ψ, hψ⟩ := Quadratic.exists_quotientEquiv hquartic
  refine ⟨elementClass_cm31.operatorRing rfl rfl, elementClass_qm31.operatorRing rfl rfl,
    ⟨φ, elementClass_cm31.calculatesIn φ, hφ⟩, ⟨ψ, elementClass_qm31.calculatesIn ψ, hψ⟩,
    fun a b c d => ?_, ?_, fun a b => rfl,
    elementClass_cm31.preservesOperators elementClass_qm31 (f := Quadratic.embedHom)
      QM31.ofCM31_injective⟩
  · have hcoordinates : QM31.ofCoords a b c d =
        .ofCoords a b 0 0 + .ofCoords c d 0 0 * .ofCoords 0 0 1 0 :=
      Quadratic.eq_embed_add_embed_mul_generator _
    rw [elementClass_qm31.mul, ok_bind, elementClass_qm31.add, hcoordinates]
  · have hsquare : QM31.ofCoords 0 0 1 0 * .ofCoords 0 0 1 0 = .ofCoords (.ofNat 2) 1 0 0 :=
      Quadratic.generator_mul_generator
    rw [elementClass_qm31.mul, hsquare]

end TowerFold
