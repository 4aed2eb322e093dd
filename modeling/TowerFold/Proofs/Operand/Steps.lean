import TowerFold.Proofs.Operand.Residues

/-!
# Operators as the steps of the classes

An operator beside an element is what the classes do step by step, whether it is computed in a field
or goes by what a class keeps of an irregular element. The two sides of an operator answer by steps
as they answer by fields, unless the field stops with an irregular element, and there the steps go
on.
-/

namespace TowerFold

/-- The answer of the steps is the answer of the field, unless that stops with an irregular
element. -/
def GoesOn (answer steps : Answer) : Prop :=
  answer = steps ∨ ∃ x, answer = some (.error (.irregular x))

namespace GoesOn

variable {v : Operand}

/-- What is done with the coerced element goes on with the coordinates that the complex class
keeps. -/
theorem of_complexCoords {f : CM31 → Except Fault Operand}
    {g : ComplexCoords → Except Fault Operand} (hfg : ∀ y : CM31, f y = g y.residues) :
    GoesOn (some (CM31.ofOperand v >>= f)) (some (v.complexCoords >>= g)) := by
  cases hcoerced : CM31.ofOperand v with
  | ok y =>
    left
    rw [CM31.ofOperand_eq_ok_iff.mp hcoerced, ok_bind, ok_bind, hfg]
  | error fault =>
    cases fault with
    | irregular x => exact .inr ⟨x, rfl⟩
    | _ =>
      left
      rw [CM31.complexCoords_eq_error rfl hcoerced, error_bind, error_bind]

/-- What is done with the coerced element goes on with the coordinates that the class of degree
four keeps. -/
theorem of_quarticCoords {f : QM31 → Except Fault Operand}
    {g : QuarticCoords → Except Fault Operand} (hfg : ∀ y, f y = g (QM31.residues y)) :
    GoesOn (some (QM31.ofOperand v >>= f)) (some (v.quarticCoords >>= g)) := by
  cases hcoerced : QM31.ofOperand v with
  | ok y =>
    left
    rw [QM31.ofOperand_eq_ok_iff.mp hcoerced, ok_bind, ok_bind, hfg]
  | error fault =>
    cases fault with
    | irregular x => exact .inr ⟨x, rfl⟩
    | _ =>
      left
      rw [QM31.quarticCoords_eq_error rfl hcoerced, error_bind, error_bind]

/-- An operation of the complex extension goes on with its steps. -/
theorem cm31 {f : CM31 → CM31} {step : ComplexCoords → Except Fault ComplexCoords}
    (hstep : ∀ y : CM31, step y.residues = .ok (f y).residues) :
    GoesOn (some do return .cm31 (f (← CM31.ofOperand v)))
      (some do return (RawElement.complex (← step (← v.complexCoords))).toOperand) :=
  of_complexCoords fun y => by
    rw [hstep, ok_bind]
    rfl

/-- An operation of the extension of degree four goes on with its steps. -/
theorem qm31 {f : QM31 → QM31} {step : QuarticCoords → Except Fault QuarticCoords}
    (hstep : ∀ y, step (QM31.residues y) = .ok (QM31.residues (f y))) :
    GoesOn (some do return .qm31 (f (← QM31.ofOperand v)))
      (some do return (RawElement.quartic (← step (← v.quarticCoords))).toOperand) :=
  of_quarticCoords fun y => by
    rw [hstep, ok_bind]
    rfl

/-- Answers of the left operand, and of the right one where the left one declines. -/
theorem orElse {left right steps steps' : Answer} (hleft : GoesOn left steps)
    (hright : left = none → GoesOn right steps') : GoesOn (left <|> right) (steps <|> steps') := by
  obtain rfl | ⟨x, rfl⟩ := hleft
  · cases left with
    | some outcome => exact .inl rfl
    | none => exact hright rfl
  · exact .inr ⟨x, rfl⟩

end GoesOn

namespace Operator

variable {v w : Operand}

/-- The scalar that an operand is for a class is its residue, if it is no irregular element. -/
theorem scalar?_eq (hv : v.isIrregular = false) : v.scalar? = v.toM31?.map .residue := by
  cases v with
  | irregular => cases hv
  | _ => rfl

/-- An answer to a scalar is given by its residue. -/
theorem map_toM31? (hv : v.isIrregular = false) {f : M31 → Except Fault Operand}
    {g : Representative → Except Fault Operand} (hfg : ∀ k, f k = g (.residue k)) :
    v.toM31?.map f = v.scalar?.map g := by
  rw [scalar?_eq hv, Option.map_map]
  exact congrArg (Option.map · _) (funext hfg)

/-- A base-field element on the left answers by the steps of its class. -/
theorem ownLeft_m31 (op : Operator) (x : M31) (hv : v.isIrregular = false) :
    op.ownLeft (.m31 x) v = (RawElement.base (.residue x)).left op v := by
  cases op with
  | add =>
    refine map_toM31? hv fun k => ?_
    rw [Representative.combine_add, ok_bind]
    rfl
  | sub =>
    refine map_toM31? hv fun k => ?_
    rw [Representative.combine_sub, ok_bind]
    rfl
  | mul =>
    refine map_toM31? hv fun k => ?_
    rw [Representative.combine_mul, ok_bind]
    rfl
  | div =>
    refine map_toM31? hv fun k => ?_
    simp only [Representative.inverse_residue, M31.div?]
    cases k.inverse? with
    | none => rfl
    | some y =>
      simp only [Option.map_some, orZeroInverse, ok_bind, pure_eq_ok, Representative.combine_mul]
      rfl
  | pow =>
    simp only [ownLeft, powLeft, RawElement.left, Representative.power]
    cases v.toInt? with
    | none => rfl
    | some n =>
      simp only [bind_assoc, pure_bind]
      rfl

/-- A complex element on the left answers by the steps of its class. -/
theorem ownLeft_cm31 (op : Operator) (x : CM31) (hv : v.isIrregular = false) :
    GoesOn (op.ownLeft (.cm31 x) v) ((RawElement.complex x.residues).left op v) := by
  cases op with
  | add => exact .cm31 (ComplexCoords.combine_add_residues x)
  | sub => exact .cm31 (ComplexCoords.combine_sub_residues x)
  | mul =>
    simp only [ownLeft, mulLeft, CM31.times, RawElement.left, scalar?_eq hv]
    cases v.toM31? with
    | some k =>
      left
      simp only [Option.map_some, ComplexCoords.scale_residues, ok_bind]
      rfl
    | none =>
      simp only [Option.map_none, bind_assoc]
      exact .cm31 (ComplexCoords.mul_residues x)
  | div => exact .inl rfl
  | pow => exact .inl rfl

/-- An element of degree four on the left answers by the steps of its class. -/
theorem ownLeft_qm31 (op : Operator) (x : QM31) (hv : v.isIrregular = false) :
    GoesOn (op.ownLeft (.qm31 x) v) ((RawElement.quartic (QM31.residues x)).left op v) := by
  cases op with
  | add => exact .qm31 (QuarticCoords.combine_add_residues x)
  | sub => exact .qm31 (QuarticCoords.combine_sub_residues x)
  | mul =>
    simp only [ownLeft, mulLeft, QM31.times, RawElement.left, scalar?_eq hv]
    cases v.toM31? with
    | some k =>
      left
      simp only [Option.map_some, QuarticCoords.scale_residues, ok_bind]
      rfl
    | none =>
      simp only [Option.map_none, QuarticCoords.halves_residues, ok_bind, bind_assoc]
      refine .of_quarticCoords fun y => ?_
      rw [QuarticCoords.halves_residues, ok_bind, QuarticCoords.mulHalves_residues, ok_bind]
      rfl
  | div =>
    simp only [ownLeft, divLeft, QM31.over, RawElement.left, scalar?_eq hv]
    cases hscalar : v.toM31? with
    | some k =>
      left
      simp only [Option.map_some, Operand.remainder_of_toM31? hscalar, ok_bind,
        Representative.inverse_residue]
      cases k.inverse? with
      | none => rfl
      | some y =>
        simp only [orZeroInverse, ok_bind, pure_eq_ok, QuarticCoords.scale_residues]
        rfl
    | none =>
      simp only [Option.map_none, bind_assoc]
      refine .of_quarticCoords fun y => ?_
      simp only [QM31.div?, QuarticCoords.inverse_residues]
      cases QM31.inverse? y with
      | none => rfl
      | some z =>
        simp only [Option.map_some, orZeroInverse, ok_bind, pure_eq_ok, QuarticCoords.mul_residues]
        rfl
  | pow =>
    left
    have hone : QuarticCoords.one = QM31.residues 1 := rfl
    simp only [ownLeft, powLeft, RawElement.left, hone, QuarticCoords.powerFrom_residues, ok_bind]
    rfl

/-- A base-field element on the right answers by the steps of its class. -/
theorem ownRight_m31 (op : Operator) (y : M31) (hv : v.isIrregular = false) :
    op.ownRight v (.m31 y) = (RawElement.base (.residue y)).right op v := by
  cases op with
  | add =>
    refine map_toM31? hv fun k => ?_
    rw [Representative.combine_add, ok_bind, add_comm]
    rfl
  | sub =>
    refine map_toM31? hv fun k => ?_
    rw [Representative.combine_sub, ok_bind]
    rfl
  | mul =>
    refine map_toM31? hv fun k => ?_
    rw [Representative.combine_mul, ok_bind, mul_comm]
    rfl
  | div => rfl
  | pow => rfl

/-- A complex element on the right answers by the steps of its class. -/
theorem ownRight_cm31 (op : Operator) (y : CM31) (hv : v.isIrregular = false) :
    GoesOn (op.ownRight v (.cm31 y)) ((RawElement.complex y.residues).right op v) := by
  cases op with
  | add => exact ownLeft_cm31 .add y hv
  | mul => exact ownLeft_cm31 .mul y hv
  | sub | div | pow => exact .inl rfl

/-- An element of degree four on the right answers by the steps of its class. -/
theorem ownRight_qm31 (op : Operator) (y : QM31) (hv : v.isIrregular = false) :
    GoesOn (op.ownRight v (.qm31 y)) ((RawElement.quartic (QM31.residues y)).right op v) := by
  cases op with
  | add => exact ownLeft_qm31 .add y hv
  | sub =>
    simp only [ownRight, subRight, RawElement.right, QuarticCoords.neg_residues, ok_bind]
    exact .qm31 (QuarticCoords.combine_add_residues (-y))
  | mul => exact ownLeft_qm31 .mul y hv
  | div | pow => exact .inl rfl

/-- An element on the left answers by the steps of its class. -/
theorem ownLeft_goesOn (op : Operator) {x : RawElement} (hv : v.toRaw? = some x)
    (hregular : v.isIrregular = false) (hw : w.isIrregular = false) :
    GoesOn (op.ownLeft v w) (x.left op w) := by
  cases v with
  | m31 x =>
    cases hv
    exact .inl (ownLeft_m31 op x hw)
  | cm31 x =>
    cases hv
    exact ownLeft_cm31 op x hw
  | qm31 x =>
    cases hv
    exact ownLeft_qm31 op x hw
  | irregular => cases hregular
  | _ => cases hv

/-- An element on the right answers by the steps of its class. -/
theorem ownRight_goesOn (op : Operator) {y : RawElement} (hw : w.toRaw? = some y)
    (hregular : w.isIrregular = false) (hv : v.isIrregular = false) :
    GoesOn (op.ownRight v w) (y.right op v) := by
  cases w with
  | m31 y =>
    cases hw
    exact .inl (ownRight_m31 op y hv)
  | cm31 y =>
    cases hw
    exact ownRight_cm31 op y hv
  | qm31 y =>
    cases hw
    exact ownRight_qm31 op y hv
  | irregular => cases hregular
  | _ => cases hw

/-- What is no element declines on the left of one. -/
theorem ownLeft_eq_none (op : Operator) (hv : v.toRaw? = none) (hw : w.isElement = true) :
    op.ownLeft v w = none := by
  cases w with
  | m31 | cm31 | qm31 =>
    cases op with
    | add =>
      cases v with
      | m31 | cm31 | qm31 | irregular => cases hv
      | group b => cases b <;> rfl
      | _ => rfl
    | _ =>
      cases v with
      | m31 | cm31 | qm31 | irregular => cases hv
      | _ => rfl
  | _ => cases hw

/-- What is no element declines on the right. -/
theorem ownRight_eq_none (op : Operator) (hw : w.toRaw? = none) : op.ownRight v w = none := by
  cases w with
  | m31 | cm31 | qm31 | irregular => cases hw
  | _ => cases op <;> rfl

/-- A word is asked after an element by its number, and so are its steps. -/
theorem right_word_goesOn (op : Operator) {x : RawElement} (hv : v.toRaw? = some x)
    (hregular : v.isIrregular = false) (n : UInt64) :
    GoesOn (op.right v (.word n)) (op.rawRight v (.word n)) := by
  left
  cases v with
  | m31 x =>
    simp only [right, rawRight, Operand.toRaw?]
    split_ifs
    · rfl
    · exact ownLeft_m31 op x (v := .int n.toNat) rfl
  | cm31 | qm31 => rfl
  | irregular => cases hregular
  | _ => cases hv

/-- Where an element declines a number on its left, it declines the word as well. -/
theorem ownRight_word_eq_none {op : Operator} {n : UInt64} (hw : w.isElement = true)
    (h : op.ownRight (.int n.toNat) w = none) : op.ownRight (.word n) w = none := by
  cases w with
  | m31 | cm31 | qm31 =>
    cases op with
    | add | mul => cases h
    | sub => first | rfl | cases h
    | div | pow => rfl
  | _ => cases hw

/-- An element that is no irregular one is an element of a field. -/
theorem isElement_of_toRaw? {x : RawElement} (hv : v.toRaw? = some x)
    (hregular : v.isIrregular = false) : v.isElement = true := by
  cases v with
  | m31 | cm31 | qm31 => rfl
  | irregular => cases hregular
  | _ => cases hv

/-- Between operands that are no words, the right one answers for itself. -/
theorem right_goesOn (op : Operator) (hwordv : ∀ n, v ≠ .word n) (hwordw : ∀ n, w ≠ .word n)
    (hv : v.isIrregular = false) (hw : w.isIrregular = false) :
    GoesOn (op.right v w) (op.rawRight v w) := by
  have hright : op.right v w = op.ownRight v w := by
    unfold right
    split
    · next n => exact absurd rfl (hwordw n)
    · rfl
  have hrawRight : op.rawRight v w = w.toRaw?.bind fun y => y.right op v := by
    unfold rawRight
    split
    · next n => exact absurd rfl (hwordv n)
    · next n _ => exact absurd rfl (hwordw n)
    · rfl
  rw [hright, hrawRight]
  cases hy : w.toRaw? with
  | none => exact .inl (ownRight_eq_none op hy)
  | some y => exact ownRight_goesOn op hy hw hv

/-- An element on the left of an operator, and the operand on its right, answer by steps. -/
theorem goesOn_of_left (op : Operator) {x : RawElement} (hx : v.toRaw? = some x)
    (hv : v.isIrregular = false) (hw : w.isIrregular = false) :
    GoesOn (op.left v w <|> op.right v w) (op.rawLeft v w <|> op.rawRight v w) := by
  have hword (n : UInt64) : v ≠ .word n := by
    rintro rfl
    cases hx
  have hleft : op.left v w = op.ownLeft v w := by
    unfold left
    split
    · next n => exact absurd rfl (hword n)
    · rfl
  have hrawLeft : op.rawLeft v w = x.left op w := by rw [rawLeft, hx]
  rw [hleft, hrawLeft]
  refine .orElse (ownLeft_goesOn op hx hv hw) fun _ => ?_
  by_cases hwordw : ∃ n, w = .word n
  · obtain ⟨n, rfl⟩ := hwordw
    exact right_word_goesOn op hx hv n
  · exact right_goesOn op hword (not_exists.mp hwordw) hv hw

/-- An operand that is no element, and the element on its right, answer by steps. To that element a
word is its number. -/
theorem goesOn_of_right (op : Operator) {y : RawElement} (hx : v.toRaw? = none)
    (hy : w.toRaw? = some y) (hv : v.isIrregular = false) (hw : w.isIrregular = false) :
    GoesOn (op.left v w <|> op.right v w) (op.rawLeft v w <|> op.rawRight v w) := by
  have helement := isElement_of_toRaw? hy hw
  have hwordw (n : UInt64) : w ≠ .word n := by
    rintro rfl
    cases hy
  have hrawLeft : op.rawLeft v w = none := by rw [rawLeft, hx]
  rw [hrawLeft]
  by_cases hwordv : ∃ n, v = .word n
  · obtain ⟨n, rfl⟩ := hwordv
    have hleft : op.left (.word n) w = op.ownRight (.int n.toNat) w := by
      rw [left, if_pos helement]
    have hright : op.right (.word n) w = op.ownRight (.word n) w := by
      unfold right
      split
      · next m => exact absurd rfl (hwordw m)
      · rfl
    have hrawRight : op.rawRight (.word n) w = y.right op (.int n.toNat) := by
      rw [rawRight, hy, Option.bind_some]
    have hgoes := ownRight_goesOn (v := .int n.toNat) op hy hw rfl
    rw [hleft, hright, hrawRight]
    cases hanswer : op.ownRight (.int n.toNat) w with
    | none =>
      rw [hanswer] at hgoes
      rw [ownRight_word_eq_none helement hanswer]
      exact hgoes
    | some outcome =>
      rw [hanswer] at hgoes
      exact hgoes
  · have hword := not_exists.mp hwordv
    have hleft : op.left v w = none := by
      unfold left
      split
      · next n => exact absurd rfl (hword n)
      · exact ownLeft_eq_none op hx helement
    rw [hleft]
    exact right_goesOn op hword hwordw hv hw

/-- An operator beside an element is what the classes do step by step. -/
theorem apply_eq_raw (op : Operator) (h : v.toRaw?.isSome ∨ w.toRaw?.isSome) :
    op.apply v w = op.raw v w := by
  have hregular : op.regular v w =
      (op.left v w <|> op.right v w).getD (.error (.unsupported op v w)) := by
    rw [regular]
    cases op.left v w <;> cases op.right v w <;> rfl
  have hraw : op.raw v w =
      (op.rawLeft v w <|> op.rawRight v w).getD (.error (.unsupported op v w)) := by
    rw [raw]
    cases op.rawLeft v w <;> cases op.rawRight v w <;> rfl
  by_cases hirregular : (v.isIrregular || w.isIrregular) = true
  · rw [apply, if_pos hirregular]
  · have hboth : v.isIrregular = false ∧ w.isIrregular = false := by simpa using hirregular
    have hanswers : GoesOn (op.left v w <|> op.right v w) (op.rawLeft v w <|> op.rawRight v w) := by
      cases hx : v.toRaw? with
      | some x => exact goesOn_of_left op hx hboth.1 hboth.2
      | none =>
        obtain ⟨y, hy⟩ := Option.isSome_iff_exists.mp (h.resolve_left (by simp [hx]))
        exact goesOn_of_right op hx hy hboth.1 hboth.2
    rw [apply, if_neg hirregular]
    obtain hsame | ⟨x, hstopped⟩ := hanswers
    · rw [hregular, hsame, ← hraw]
      split <;> rfl
    · rw [hregular, hstopped, Option.getD_some]

end Operator

namespace Operand

variable {v : Operand} {x : RawElement}

/-- The negative of an element is what its class does step by step. -/
theorem neg_eq_raw (hx : v.toRaw? = some x) : v.neg = x.neg := by
  cases v with
  | m31 x =>
    cases hx
    rw [RawElement.neg, Representative.neg_residue, ok_bind]
    rfl
  | cm31 x =>
    cases hx
    refine Eq.symm ((congrArg (· >>= _) (ComplexCoords.neg_residues x)).trans ?_)
    rfl
  | qm31 x =>
    cases hx
    refine Eq.symm ((congrArg (· >>= _) (QuarticCoords.neg_residues x)).trans ?_)
    rfl
  | irregular y =>
    cases hx
    rfl
  | _ => cases hx

/-- The inverse of an element is what its class does step by step. -/
theorem inverse_eq_raw (hx : v.toRaw? = some x) : v.inverse = x.inverse := by
  cases v with
  | m31 x =>
    cases hx
    rw [RawElement.inverse, Representative.inverse_residue, inverse]
    cases x.inverse? <;> rfl
  | cm31 x =>
    cases hx
    refine Eq.symm ((congrArg (· >>= _) (ComplexCoords.inverse_residues x)).trans ?_)
    rw [inverse]
    cases x.inverse? <;> rfl
  | qm31 x =>
    cases hx
    refine Eq.symm ((congrArg (· >>= _) (QuarticCoords.inverse_residues x)).trans ?_)
    rw [inverse]
    cases QM31.inverse? x <;> rfl
  | irregular y =>
    cases hx
    rfl
  | _ => cases hx

end Operand

end TowerFold
