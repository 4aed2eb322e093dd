import TowerFold.Proofs.Operand.Coercion

/-!
# Differences in both orders

A difference between numbers is the negative of the difference in the other order, and one is
refused where the other one is. The only exception are a scalar and a complex element: the element
takes the scalar from itself, but declines to be taken from it.
-/

namespace TowerFold

/-- The differences of two operands in both orders exist together, and either is equal to the
negative of the other one. -/
structure SubtractsAntisymmetrically (v w : Operand) : Prop where
  exists_sub_iff : (∃ d, v.sub w = .ok d) ↔ ∃ e, w.sub v = .ok e
  equals_neg {d e : Operand} (hd : v.sub w = .ok d) (he : w.sub v = .ok e) :
    (do d.equals (← e.neg)) = .ok true

/-- A scalar and, as the second operand, a complex element. -/
def ScalarBesideComplex (v w : Operand) : Prop := v.IsScalar ∧ ∃ x, w = .cm31 x

namespace SubtractsAntisymmetrically

variable {F : Type} [CommRing F] [DecidableEq F] {put : F → Operand} {inverse? : F → Option F}
  {v w : Operand} {x y : F}

/-- Operands subtract antisymmetrically where their differences are those of two elements. -/
theorem of_elements (h : ElementClass put inverse?) (hsub : v.sub w = .ok (put (x - y)))
    (hsub' : w.sub v = .ok (put (y - x))) : SubtractsAntisymmetrically v w where
  exists_sub_iff := iff_of_true ⟨_, hsub⟩ ⟨_, hsub'⟩
  equals_neg hd he := by
    obtain rfl := Except.ok.inj (hsub.symm.trans hd)
    obtain rfl := Except.ok.inj (hsub'.symm.trans he)
    rw [h.neg, ok_bind, neg_sub, h.equals_iff]

/-- Operands without differences subtract antisymmetrically. -/
theorem of_errors {fault fault' : Fault} (hsub : v.sub w = .error fault)
    (hsub' : w.sub v = .error fault') : SubtractsAntisymmetrically v w where
  exists_sub_iff := by simp [hsub, hsub']
  equals_neg hd _ := by
    rw [hsub] at hd
    cases hd

/-- Beside an element, an operand that is coerced on both sides of a difference subtracts
antisymmetrically. -/
theorem of_coerced (h : ElementClass put inverse?)
    (happly : ∀ {p : Place}, p ∈ Place.all → p.apply (put x) v = p.apply (put x) (put y)) :
    SubtractsAntisymmetrically (put x) v ∧ SubtractsAntisymmetrically v (put x) := by
  have hright : (put x).sub v = .ok (put (x - y)) :=
    (happly (p := .right .sub) (by decide)).trans (h.sub x y)
  have hleft : v.sub (put x) = .ok (put (y - x)) :=
    (happly (p := .left .sub) (by decide)).trans (h.sub y x)
  exact ⟨of_elements h hright hleft, of_elements h hleft hright⟩

end SubtractsAntisymmetrically

section

variable {v w : Operand}

/-- A scalar is coerced on both sides of a base-field element. -/
theorem Operand.IsScalar.subtractsAntisymmetrically_m31 (hv : v.IsScalar) (x : M31) :
    SubtractsAntisymmetrically (.m31 x) v ∧ SubtractsAntisymmetrically v (.m31 x) := by
  obtain ⟨k, hk⟩ := hv.toM31?_eq
  exact SubtractsAntisymmetrically.of_coerced elementClass_m31 fun hp =>
    M31.apply_eq_of_toM31? hk x hp

/-- A number is coerced on both sides of an element of degree four, but for the complex elements,
which are refused on both sides. -/
theorem Operand.IsNumber.subtractsAntisymmetrically_qm31 (hv : v.IsNumber) (x : QM31) :
    SubtractsAntisymmetrically (.qm31 x) v ∧ SubtractsAntisymmetrically v (.qm31 x) := by
  have hcoerced {y : QM31} (hy : QM31.ofOperand v = .ok y) :
      SubtractsAntisymmetrically (.qm31 x) v ∧ SubtractsAntisymmetrically v (.qm31 x) :=
    SubtractsAntisymmetrically.of_coerced elementClass_qm31 fun hp =>
      QM31.coercesAt.apply_eq x hy hp
  cases hv with
  | scalar hv =>
    obtain ⟨k, hk⟩ := hv.toM31?_eq
    exact hcoerced (QM31.ofOperand_of_toM31? hk)
  | complex y => exact ⟨.of_errors rfl rfl, .of_errors rfl rfl⟩
  | quartic y => exact hcoerced rfl

namespace ScalarBesideComplex

/-- No side answers for a complex element that is to be taken from a scalar. -/
theorem sub_eq_error (h : ScalarBesideComplex v w) :
    v.sub w = .error (.unsupported .sub v w) := by
  obtain ⟨hv, x, rfl⟩ := h
  cases hv <;> rfl

/-- A complex element takes a scalar from itself. -/
theorem exists_sub_eq (h : ScalarBesideComplex v w) : ∃ d, w.sub v = .ok (.cm31 d) := by
  obtain ⟨hv, x, rfl⟩ := h
  obtain ⟨k, hk⟩ := hv.toM31?_eq
  have hcoerced := CM31.ofOperand_of_toM31? hk
  exact ⟨x - .ofM31 k, by rw [Operand.cm31_sub x (.of_cm31 hcoerced), hcoerced]; rfl⟩

/-- Of the two differences of a scalar and a complex element only one exists. -/
theorem not_exists_sub_iff (h : ScalarBesideComplex v w) :
    ¬((∃ d, v.sub w = .ok d) ↔ ∃ e, w.sub v = .ok e) := by
  obtain ⟨d, hd⟩ := h.exists_sub_eq
  simp [h.sub_eq_error, hd]

end ScalarBesideComplex

/-- Numbers subtract antisymmetrically unless they are a scalar and a complex element. -/
theorem subtractsAntisymmetrically_of_not (hv : v.IsNumber) (hw : w.IsNumber)
    (helement : v.isElement = true ∨ w.isElement = true) (hvw : ¬ScalarBesideComplex v w)
    (hwv : ¬ScalarBesideComplex w v) : SubtractsAntisymmetrically v w := by
  cases hv with
  | quartic x => exact (hw.subtractsAntisymmetrically_qm31 x).1
  | complex x =>
    cases hw with
    | scalar hw => exact absurd ⟨hw, x, rfl⟩ hwv
    | complex y => exact .of_elements elementClass_cm31 rfl rfl
    | quartic y => exact .of_errors rfl rfl
  | scalar hv =>
    cases hw with
    | complex y => exact absurd ⟨hv, y, rfl⟩ hvw
    | quartic y => exact ((Operand.IsNumber.scalar hv).subtractsAntisymmetrically_qm31 y).2
    | scalar hw =>
      -- One of the two is an element, and among the scalars these are the base-field elements.
      obtain helement | helement := helement
      · cases hv with
        | m31 x => exact (hw.subtractsAntisymmetrically_m31 x).1
        | _ => cases helement
      · cases hw with
        | m31 y => exact (hv.subtractsAntisymmetrically_m31 y).2
        | _ => cases helement

/-- Numbers, of which one at least is an element, subtract antisymmetrically exactly if they are not
a scalar and a complex element. The difference of such a scalar and element is not supported, though
it exists in the other order. -/
theorem differences_antisymmetric_iff (hv : v.IsNumber) (hw : w.IsNumber)
    (helement : v.isElement = true ∨ w.isElement = true) :
    (SubtractsAntisymmetrically v w ↔ ¬ScalarBesideComplex v w ∧ ¬ScalarBesideComplex w v) ∧
      (ScalarBesideComplex v w →
        v.sub w = .error (.unsupported .sub v w) ∧ ∃ d, w.sub v = .ok (.cm31 d)) := by
  refine ⟨⟨fun h => ⟨fun hvw => ?_, fun hwv => ?_⟩, fun h => ?_⟩, fun h => ?_⟩
  · exact hvw.not_exists_sub_iff h.exists_sub_iff
  · exact hwv.not_exists_sub_iff h.exists_sub_iff.symm
  · exact subtractsAntisymmetrically_of_not hv hw helement h.1 h.2
  · exact ⟨h.sub_eq_error, h.exists_sub_eq⟩

/-- An integer past the modulus subtracts antisymmetrically beside an element of degree four, and
not beside a complex element. -/
theorem differences_antisymmetric_of_integer :
    SubtractsAntisymmetrically (.int 2147483650) (.qm31 (.ofCoords 1 2 3 4)) ∧
      ¬SubtractsAntisymmetrically (.int 2147483650) (.cm31 (.ofCoords 3 4)) := by
  have hscalar : (Operand.int 2147483650).IsScalar := .int _
  have hquartic := differences_antisymmetric_iff (.scalar hscalar) (.quartic (.ofCoords 1 2 3 4))
    (.inr rfl)
  have hcomplex := differences_antisymmetric_iff (.scalar hscalar) (.complex (.ofCoords 3 4))
    (.inr rfl)
  refine ⟨hquartic.1.mpr ⟨?_, ?_⟩, fun h => (hcomplex.1.mp h).1 ⟨hscalar, _, rfl⟩⟩
  · rintro ⟨_, _, ⟨⟩⟩
  · rintro ⟨⟨⟩, _⟩

/-- One less a complex element is not supported, though that element less one is. -/
theorem one_less_complex_element :
    (Operand.int 1).sub (.cm31 (.ofCoords 3 4)) =
        .error (.unsupported .sub (.int 1) (.cm31 (.ofCoords 3 4))) ∧
      (Operand.cm31 (.ofCoords 3 4)).sub (.int 1) = .ok (.cm31 (.ofCoords 2 4)) :=
  ⟨rfl, rfl⟩

end

end TowerFold
