import TowerFold.Proofs.Operand.Elements

/-!
# The operators of a class form a field

In each of the three classes an operand has exactly one inverse, unless all its coordinates
are zero, and zero has no divisors. The base class and the class of degree four also divide,
by everything but zero. What has no inverse is refused with one and the same fault.
-/

namespace TowerFold

/-- The operands that `put` makes of elements with the given coordinates have inverses unless
all coordinates are zero, one each, and zero has no divisors among them. -/
structure OperatorField {F : Type} (put : F → Operand) (coords : F → List M31) : Prop where
  inverse_eq_error_iff (x : F) (fault : Fault) :
    (put x).inverse = .error fault ↔ fault = .zeroInverse ∧ ∀ c ∈ coords x, c = 0
  exists_inverse (x : F) (hx : ∃ c ∈ coords x, c ≠ 0) :
    ∃ y, (put x).inverse = .ok (put y) ∧
      ∀ z, (do (← (put x).mul (put z)).equals (.int 1)) = .ok true ↔ z = y
  eq_zero_or_eq_zero (x y : F) (hxy : (do (← (put x).mul (put y)).equals (.int 0)) = .ok true) :
    (put x).equals (.int 0) = .ok true ∨ (put y).equals (.int 0) = .ok true

/-- The operands that `put` makes are divided by all of them that are not equal to zero, and a
quotient times its divisor is equal to what was divided. -/
structure OperatorDivision {F : Type} (put : F → Operand) : Prop where
  div_eq_error_iff (x y : F) (fault : Fault) :
    (put x).div (put y) = .error fault ↔
      fault = .zeroInverse ∧ (put y).equals (.int 0) = .ok true
  exists_div (x y : F) (hy : (put y).equals (.int 0) ≠ .ok true) :
    ∃ q, (put x).div (put y) = .ok (put q) ∧
      (do (← (put q).mul (put y)).equals (put x)) = .ok true

namespace ElementClass

variable {F : Type} [CommRing F] [DecidableEq F] {put : F → Operand} {inverse? : F → Option F}

/-- An operand is equal to the integer zero when its element is zero. -/
theorem equals_zero_iff (h : ElementClass put inverse?) (x : F) :
    (put x).equals (.int 0) = .ok true ↔ x = 0 := by
  rw [h.equals_int, Int.cast_zero, Except.ok.injEq, decide_eq_true_eq]

/-- The operators of a class inherit the inverses of its field. -/
theorem operatorField (h : ElementClass put inverse?) {coords : F → List M31}
    (hcoords : ∀ x, (∀ c ∈ coords x, c = 0) ↔ x = 0) : OperatorField put coords where
  inverse_eq_error_iff x fault := by rw [h.inverse_eq_error_iff, hcoords]
  exists_inverse x hx := by
    have hne : x ≠ 0 := by
      intro hzero
      obtain ⟨c, hc, hcne⟩ := hx
      exact hcne ((hcoords x).mpr hzero c hc)
    obtain ⟨y, hy, hxy⟩ := h.inverts.exists_eq_some hne
    refine ⟨y, (h.inverse_eq_ok_iff x y).mpr hxy, fun z => ?_⟩
    rw [h.mul, ok_bind, h.equals_int, Int.cast_one, Except.ok.injEq, decide_eq_true_eq,
      ← h.inverts.eq_some_iff, hy, Option.some.injEq, eq_comm]
  eq_zero_or_eq_zero x y hxy := by
    rw [h.mul, ok_bind, h.equals_zero_iff] at hxy
    rw [h.equals_zero_iff, h.equals_zero_iff]
    exact h.inverts.mul_eq_zero hxy

/-- A class that divides by multiplying with inverses inherits the quotients of its field. -/
theorem operatorDivision (h : ElementClass put inverse?)
    (hdiv : ∀ x y, (put x).div (put y) =
      do return put (← orZeroInverse ((inverse? y).map (x * ·)))) : OperatorDivision put where
  div_eq_error_iff x y fault := by
    rw [hdiv, h.equals_zero_iff, ← h.inverts.eq_none_iff]
    cases inverse? y with
    | none => simp [orZeroInverse, eq_comm]
    | some z => simp [orZeroInverse]
  exists_div x y hy := by
    obtain ⟨z, hz, hyz⟩ := h.inverts.exists_eq_some (mt (h.equals_zero_iff y).mpr hy)
    refine ⟨x * z, ?_, ?_⟩
    · rw [hdiv, hz]
      rfl
    · have hcancel : x * z * y = x := by
        rw [mul_assoc, mul_comm z, hyz, mul_one]
      rw [h.mul, ok_bind, h.equals_iff, hcancel]

/-- The quotient by an element other than zero is the one element whose product with it is what
was divided. -/
theorem exists_quotient (h : ElementClass put inverse?) (hdivision : OperatorDivision put) (x : F)
    {y : F} (hy : y ≠ 0) :
    ∃ q, (put x).div (put y) = .ok (put q) ∧ ∀ z, z * y = x ↔ z = q := by
  obtain ⟨q, hq, hproduct⟩ := hdivision.exists_div x y (mt (h.equals_zero_iff y).mp hy)
  rw [h.mul, ok_bind, h.equals_iff] at hproduct
  refine ⟨q, hq, fun z => ⟨fun hz => ?_, fun hz => hz ▸ hproduct⟩⟩
  have hsame : y * z = y * q := by rw [mul_comm y z, hz, mul_comm y q, hproduct]
  exact h.inverts.mul_left_cancel hy hsame

end ElementClass

/-- An element of a quadratic extension is zero when both its coordinates are. -/
theorem Quadratic.eq_zero_iff {F : Type} [Zero F] {r : F} {x : Quadratic F r} :
    x = 0 ↔ x.re = 0 ∧ x.im = 0 := Quadratic.ext_iff

/-- Each of the three classes is a field under its operators, and the base class and the class
of degree four divide. The fault for the inverse of zero has a message of its own. -/
theorem classes_are_fields :
    OperatorField Operand.m31 (fun x => [x]) ∧
      OperatorField Operand.cm31 CM31.coords ∧
      OperatorField Operand.qm31 QM31.coords ∧
      OperatorDivision Operand.m31 ∧
      OperatorDivision Operand.qm31 ∧
      Fault.zeroInverse.message = some "M31 zero has no inverse" := by
  refine ⟨elementClass_m31.operatorField fun x => ?_, elementClass_cm31.operatorField fun x => ?_,
    elementClass_qm31.operatorField fun x => ?_,
    elementClass_m31.operatorDivision fun x _ => Operand.m31_div x rfl,
    elementClass_qm31.operatorDivision Operand.qm31_div, rfl⟩
  · exact List.forall_mem_singleton
  · simp [CM31.coords, Quadratic.eq_zero_iff]
  · simp [QM31.coords, Quadratic.eq_zero_iff, and_assoc]

end TowerFold
