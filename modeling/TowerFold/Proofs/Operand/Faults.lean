import TowerFold.Fold.Halves
import TowerFold.Proofs.Operand.Arithmetic
import TowerFold.Proofs.Operand.Steps

/-!
# The faults of operands

What can go wrong when operands are embedded, added and multiplied has its cause in the
operands: in their kinds, in the text they hold or in the size of the result. No such fault
speaks of the sizes of a fold, of its windows or of an index.

A coercion may also stop with an irregular element. That is no way to fail: the classes go on with
such an element, coordinate by coordinate.
-/

namespace TowerFold

/-- Whether the cause of a fault is an operand that is embedded, added or multiplied. -/
def Fault.isOperandFault : Fault → Bool
  | .unsupported _ _ _ | .noRemainder _ | .misfilled _ _ | .noInteger _ | .notIntegral _
  | .incompatible _ | .countOverflow _ | .repetitionOverflow _ | .tooLong | .malformedNumeral _
  | .digitsTooMany _ | .numeralTooLong | .wordOverflow _ | .shapeMismatch _ _ => true
  | _ => false

/-- A computation that fails only because of operands. -/
abbrev FailsByOperands {α : Type} (x : Except Fault α) : Prop :=
  FailsOnlyWith (fun fault => fault.isOperandFault = true) x

/-- A computation that fails only because of operands, or stops with an irregular element. -/
abbrev StopsByOperands {α : Type} (x : Except Fault α) : Prop :=
  FailsOnlyWith (fun fault => fault.isRegular = true → fault.isOperandFault = true) x

/-- What fails only because of operands stops only because of them. -/
theorem FailsByOperands.stops {α : Type} {x : Except Fault α} (hx : FailsByOperands x) :
    StopsByOperands x :=
  hx.mono fun _ hfault _ => hfault

/-- Only an irregular element is nothing that operands are to blame for. -/
theorem FailsByOperands.endsRegularly {α : Type} {x : Except Fault α} (hx : FailsByOperands x) :
    EndsRegularly x :=
  hx.mono fun fault hfault => by
    cases fault with
    | irregular => cases hfault
    | _ => rfl

/-! ## Coercion -/

theorem Fault.isOperandFault_stated_incompatible (v : Operand) :
    (Fault.incompatible v).stated.isOperandFault = true := by
  unfold Fault.stated
  split <;> rfl

theorem fillModulus_failsByOperands (script : Text.Script) (cs : List Char) :
    FailsByOperands (fillModulus script cs) := by
  unfold fillModulus
  split
  · exact .ok _
  · exact .error rfl
  · exact .error rfl

theorem Representative.remainder_failsByOperands (r : Representative) :
    FailsByOperands r.remainder := by
  cases r with
  | text s => exact (fillModulus_failsByOperands _ _).bind fun _ _ => .ok _
  | bytes data => exact (fillModulus_failsByOperands _ _).bind fun _ _ => .ok _
  | _ => exact .ok _

namespace Operand

theorem remainder_failsByOperands (v : Operand) : FailsByOperands v.remainder := by
  unfold remainder
  split
  · exact .ok _
  · split
    · exact Representative.remainder_failsByOperands _
    · exact Representative.remainder_failsByOperands _
    · exact Representative.remainder_failsByOperands _
    · exact Representative.remainder_failsByOperands _
    · exact Representative.remainder_failsByOperands _
    · exact .error rfl

theorem complexCoords_failsByOperands (v : Operand) : FailsByOperands v.complexCoords := by
  unfold complexCoords
  split
  · exact .ok _
  · exact .ok _
  · exact (Representative.remainder_failsByOperands _).bind fun _ _ => .ok _
  · exact (remainder_failsByOperands _).bind fun _ _ =>
      (remainder_failsByOperands _).bind fun _ _ => .ok _
  · split
    · exact .ok _
    · exact .error (Fault.isOperandFault_stated_incompatible _)

theorem quarticCoords_failsByOperands (v : Operand) : FailsByOperands v.quarticCoords := by
  unfold quarticCoords
  split
  · exact .ok _
  · exact .ok _
  · exact (Representative.remainder_failsByOperands _).bind fun _ _ => .ok _
  · exact (remainder_failsByOperands _).bind fun _ _ =>
      (remainder_failsByOperands _).bind fun _ _ =>
        (remainder_failsByOperands _).bind fun _ _ =>
          (remainder_failsByOperands _).bind fun _ _ => .ok _
  · split
    · exact .ok _
    · exact .error (Fault.isOperandFault_stated_incompatible _)

end Operand

theorem RawElement.checkRegular_stopsByOperands (x : RawElement) :
    StopsByOperands x.checkRegular := by
  intro fault hfault hregular
  rw [isRegular_of_checkRegular hfault] at hregular
  cases hregular

theorem M31.ofOperand_stopsByOperands (v : Operand) : StopsByOperands (M31.ofOperand v) :=
  v.remainder_failsByOperands.stops.bind fun _ _ =>
    (RawElement.checkRegular_stopsByOperands _).bind fun _ _ => .ok _

theorem CM31.ofOperand_stopsByOperands (v : Operand) : StopsByOperands (CM31.ofOperand v) :=
  v.complexCoords_failsByOperands.stops.bind fun _ _ =>
    (RawElement.checkRegular_stopsByOperands _).bind fun _ _ => .ok _

theorem QM31.ofOperand_stopsByOperands (v : Operand) : StopsByOperands (QM31.ofOperand v) :=
  v.quarticCoords_failsByOperands.stops.bind fun _ _ =>
    (RawElement.checkRegular_stopsByOperands _).bind fun _ _ => .ok _

/-! ## Embedding -/

namespace Operand

theorem readInteger_failsByOperands (v : Operand) (cs : List Char) :
    FailsByOperands (v.readInteger cs) := by
  unfold readInteger
  split
  · exact .error rfl
  · split
    · exact .ok _
    · exact .error rfl

theorem toInteger_failsByOperands (v : Operand) : FailsByOperands v.toInteger := by
  unfold toInteger
  split
  · exact .ok _
  · exact .error rfl
  · split
    · exact .ok _
    · exact .error rfl
  · exact readInteger_failsByOperands _ _
  · split
    · exact readInteger_failsByOperands _ _
    · exact .error rfl
  · unfold toWhole
    split
    · exact .ok _
    · exact .error rfl

end Operand

/-- An embedding goes on with an irregular element. -/
theorem orIrregular_failsByOperands {outcome : Except Fault Operand}
    (h : StopsByOperands outcome) : FailsByOperands (orIrregular outcome) := by
  unfold orIrregular
  split
  · exact .ok _
  · next hother =>
    intro fault hfault
    refine h fault hfault ?_
    cases fault with
    | irregular x => exact (hother x hfault).elim
    | _ => rfl

theorem Embedding.apply_failsByOperands (e : Embedding) (v : Operand) :
    FailsByOperands (e.apply v) := by
  cases e with
  | identity => exact .ok v
  | integer => exact v.toInteger_failsByOperands.bind fun _ _ => .ok _
  | m31 =>
    exact orIrregular_failsByOperands ((M31.ofOperand_stopsByOperands v).bind fun _ _ => .ok _)
  | cm31 =>
    exact orIrregular_failsByOperands ((CM31.ofOperand_stopsByOperands v).bind fun _ _ => .ok _)
  | qm31 =>
    exact orIrregular_failsByOperands ((QM31.ofOperand_stopsByOperands v).bind fun _ _ => .ok _)

/-! ## Plain operands -/

/-- What an operand answers, if it does, fails only because of operands. -/
abbrev AnswersByOperands (answer : Answer) : Prop :=
  ∀ outcome, answer = some outcome → FailsByOperands outcome

namespace AnswersByOperands

theorem some {outcome : Except Fault Operand} (h : FailsByOperands outcome) :
    AnswersByOperands (some outcome) := by
  rintro _ ⟨⟩
  exact h

theorem none : AnswersByOperands none := by
  rintro _ ⟨⟩

theorem map {α : Type} {f : α → Except Fault Operand} (x : Option α)
    (hf : ∀ a, FailsByOperands (f a)) : AnswersByOperands (x.map f) := by
  cases x with
  | none => exact .none
  | some a => exact .some (hf a)

end AnswersByOperands

theorem Operand.toGrid?_failsByOperands {v : Operand} {outcome : Except Fault (Grid UInt64)}
    (h : v.toGrid? = some outcome) : FailsByOperands outcome := by
  unfold toGrid? at h
  split at h
  · cases h
    exact .ok _
  · cases h
    exact .ok _
  · obtain ⟨n, _, rfl⟩ := Option.map_eq_some_iff.mp h
    split
    · exact .ok _
    · exact .error rfl

theorem Grid.zipWith_failsByOperands {α β γ : Type} (f : α → β → γ) (x : Grid α) (y : Grid β) :
    FailsByOperands (Grid.zipWith f x y) := by
  unfold Grid.zipWith
  split
  · exact .ok _
  · exact .error rfl

theorem Operand.repeated_failsByOperands (make : ℕ → Operand) (length width : ℕ) (kind : String)
    (count : ℤ) {overflow : Fault} (hoverflow : overflow.isOperandFault = true) :
    FailsByOperands (repeated make length width kind count overflow) := by
  unfold repeated
  split
  · exact .error rfl
  · split
    · exact .ok _
    · split
      · exact .error hoverflow
      · split
        · exact .error rfl
        · exact .ok _

theorem Operand.repeat?_answersByOperands (v : Operand) (kind : String) (count : ℤ) :
    AnswersByOperands (v.repeat? kind count) := by
  unfold repeat?
  split
  · exact .some (repeated_failsByOperands _ _ _ _ _ rfl)
  · exact .some (repeated_failsByOperands _ _ _ _ _ rfl)
  · exact .some (repeated_failsByOperands _ _ _ _ _ rfl)
  · exact .none

namespace Operator

variable (x y : Operand)

theorem wordwise?_answersByOperands (f : UInt64 → UInt64 → UInt64) :
    AnswersByOperands (wordwise? f x y) := by
  unfold wordwise?
  split
  · split
    · next g h hg hh =>
      exact .some ((Operand.toGrid?_failsByOperands hg).bind fun _ _ =>
        (Operand.toGrid?_failsByOperands hh).bind fun _ _ =>
          (Grid.zipWith_failsByOperands _ _ _).bind fun _ _ => .ok _)
    · exact .none
  · exact .none

theorem plainSum?_answersByOperands : AnswersByOperands (plainSum? x y) := by
  unfold plainSum?
  split
  · exact .some (.ok _)
  · split
    · next outcome houtcome =>
      exact .some (wordwise?_answersByOperands x y _ outcome houtcome)
    · exact .map _ fun _ => .ok _

theorem plainDifference?_answersByOperands : AnswersByOperands (plainDifference? x y) := by
  unfold plainDifference?
  split
  · exact .some (.ok _)
  · exact wordwise?_answersByOperands x y _

theorem repetition?_answersByOperands : AnswersByOperands (repetition? x y) := by
  unfold repetition?
  split
  · exact Operand.repeat?_answersByOperands _ _ _
  · exact Operand.repeat?_answersByOperands _ _ _
  · exact .none

theorem plainProduct?_answersByOperands : AnswersByOperands (plainProduct? x y) := by
  unfold plainProduct?
  split
  · exact .some (.ok _)
  · split
    · next outcome houtcome =>
      exact .some (wordwise?_answersByOperands x y _ outcome houtcome)
    · exact repetition?_answersByOperands x y

end Operator

/-- What an operator makes of operands that are no elements. -/
def Operator.plain? : Operator → Operand → Operand → Answer
  | .add => plainSum?
  | .sub => plainDifference?
  | .mul => plainProduct?
  | .div | .pow => fun _ _ => none

theorem Operator.plain?_answersByOperands (op : Operator) (x y : Operand) :
    AnswersByOperands (op.plain? x y) := by
  cases op with
  | add => exact plainSum?_answersByOperands x y
  | sub => exact plainDifference?_answersByOperands x y
  | mul => exact plainProduct?_answersByOperands x y
  | div | pow => exact .none

theorem Operand.isIrregular_of_toRaw? {v : Operand} (hv : v.toRaw? = none) :
    v.isIrregular = false := by
  cases v with
  | irregular => cases hv
  | _ => rfl

/-- Between operands that are no elements only the left one answers. -/
theorem Operator.regular_eq_plain (op : Operator) {x y : Operand} (hx : x.toRaw? = none)
    (hy : y.toRaw? = none) :
    op.regular x y = (op.plain? x y).getD (.error (.unsupported op x y)) := by
  have hleft : op.left x y = op.plain? x y := by
    cases x with
    | m31 | cm31 | qm31 | irregular => cases hx
    | word w =>
      have hnumber : y.isElement = false := by
        cases y with
        | m31 | cm31 | qm31 => cases hy
        | _ => rfl
      rw [left, if_neg (by simp [hnumber])]
      cases op <;> rfl
    | _ => cases op <;> rfl
  have hright : op.right x y = none := by
    unfold right
    split
    · split
      · cases hx
      · rfl
    · exact ownRight_eq_none op hy
  rw [regular, hleft, hright]
  cases op.plain? x y <;> rfl

theorem Operator.regular_failsByOperands (op : Operator) {x y : Operand} (hx : x.toRaw? = none)
    (hy : y.toRaw? = none) : FailsByOperands (op.regular x y) := by
  rw [op.regular_eq_plain hx hy]
  cases hplain : op.plain? x y with
  | none => exact .error rfl
  | some outcome => exact op.plain?_answersByOperands x y outcome hplain

/-! ## Steps of the classes -/

namespace Representative

theorem toRaw?_ofRepresentative (r : Representative) :
    (Operand.ofRepresentative r).toRaw? = none := by
  cases r <;> rfl

/-- Coordinates are combined as the plain operands that they are. -/
theorem combine_failsByOperands (op : Operator) (r s : Representative) :
    FailsByOperands (r.combine op s) :=
  (op.regular_failsByOperands (toRaw?_ofRepresentative r) (toRaw?_ofRepresentative s)).bind
    fun v _ => v.remainder_failsByOperands

end Representative

namespace ComplexCoords

variable (x y : ComplexCoords)

theorem mapM_failsByOperands {f : Representative → Except Fault Representative}
    (hf : ∀ r, FailsByOperands (f r)) : FailsByOperands (x.mapM f) :=
  (hf x.1).bind fun _ _ => (hf x.2).bind fun _ _ => .ok _

theorem kept_failsByOperands : FailsByOperands x.kept :=
  x.mapM_failsByOperands Representative.remainder_failsByOperands

theorem zipWithM_failsByOperands (op : Operator) :
    FailsByOperands (zipWithM (Representative.combine op) x y) :=
  (Representative.combine_failsByOperands _ _ _).bind fun _ _ =>
    (Representative.combine_failsByOperands _ _ _).bind fun _ _ => .ok _

theorem combine_failsByOperands (op : Operator) : FailsByOperands (x.combine op y) :=
  (x.zipWithM_failsByOperands y op).bind fun _ _ => kept_failsByOperands _

theorem mul_failsByOperands : FailsByOperands (x.mul y) := by
  have hpart (op : Operator) (a b c d : Representative) : FailsByOperands (do
      (← a.combine .mul b).combine op (← c.combine .mul d)) :=
    (Representative.combine_failsByOperands _ _ _).bind fun _ _ =>
      (Representative.combine_failsByOperands _ _ _).bind fun _ _ =>
        Representative.combine_failsByOperands _ _ _
  have hchain : x.mul y = (do
      let re ← (do (← x.1.combine .mul y.1).combine .sub (← x.2.combine .mul y.2))
      let im ← (do (← x.1.combine .mul y.2).combine .add (← x.2.combine .mul y.1))
      kept (re, im)) := by
    simp only [mul, bind_assoc]
  rw [hchain]
  exact (hpart _ _ _ _ _).bind fun _ _ => (hpart _ _ _ _ _).bind fun _ _ =>
    kept_failsByOperands _

theorem scale_failsByOperands (k : Representative) : FailsByOperands (x.scale k) :=
  (x.mapM_failsByOperands fun _ => Representative.combine_failsByOperands _ _ _).bind fun _ _ =>
    kept_failsByOperands _

end ComplexCoords

namespace QuarticCoords

variable (x y : QuarticCoords)

theorem mapM_failsByOperands {f : Representative → Except Fault Representative}
    (hf : ∀ r, FailsByOperands (f r)) : FailsByOperands (x.mapM f) :=
  (x.1.mapM_failsByOperands hf).bind fun _ _ => (x.2.mapM_failsByOperands hf).bind fun _ _ =>
    .ok _

theorem kept_failsByOperands : FailsByOperands x.kept :=
  x.mapM_failsByOperands Representative.remainder_failsByOperands

theorem combine_failsByOperands (op : Operator) : FailsByOperands (x.combine op y) :=
  (ComplexCoords.zipWithM_failsByOperands _ _ op).bind fun _ _ =>
    (ComplexCoords.zipWithM_failsByOperands _ _ op).bind fun _ _ => kept_failsByOperands _

theorem halves_failsByOperands : FailsByOperands x.halves :=
  x.1.kept_failsByOperands.bind fun _ _ => x.2.kept_failsByOperands.bind fun _ _ => .ok _

theorem mulHalves_failsByOperands : FailsByOperands (x.mulHalves y) :=
  (ComplexCoords.mul_failsByOperands _ _).bind fun _ _ =>
    (ComplexCoords.mul_failsByOperands _ _).bind fun _ _ =>
      (ComplexCoords.mul_failsByOperands _ _).bind fun _ _ =>
        (ComplexCoords.combine_failsByOperands _ _ _).bind fun _ _ =>
          (ComplexCoords.mul_failsByOperands _ _).bind fun _ _ =>
            (ComplexCoords.mul_failsByOperands _ _).bind fun _ _ =>
              (ComplexCoords.combine_failsByOperands _ _ _).bind fun _ _ =>
                kept_failsByOperands _

theorem scale_failsByOperands (k : Representative) : FailsByOperands (x.scale k) :=
  (x.mapM_failsByOperands fun _ => Representative.combine_failsByOperands _ _ _).bind fun _ _ =>
    kept_failsByOperands _

end QuarticCoords

namespace RawElement

variable {op : Operator}

/-- An element fails in a sum or a product only because of operands. -/
theorem left_answersByOperands (hop : op = .add ∨ op = .mul) (x : RawElement) (v : Operand) :
    AnswersByOperands (x.left op v) := by
  obtain rfl | rfl := hop
  · cases x with
    | base r =>
      exact .map _ fun s => (Representative.combine_failsByOperands _ r s).bind fun _ _ => .ok _
    | complex x =>
      exact .some (v.complexCoords_failsByOperands.bind fun y _ =>
        (x.combine_failsByOperands y _).bind fun _ _ => .ok _)
    | quartic x =>
      exact .some (v.quarticCoords_failsByOperands.bind fun y _ =>
        (x.combine_failsByOperands y _).bind fun _ _ => .ok _)
  · cases x with
    | base r =>
      exact .map _ fun s => (Representative.combine_failsByOperands _ r s).bind fun _ _ => .ok _
    | complex x =>
      refine .some ?_
      dsimp only
      split
      · exact (x.scale_failsByOperands _).bind fun _ _ => .ok _
      · exact v.complexCoords_failsByOperands.bind fun y _ =>
          (x.mul_failsByOperands y).bind fun _ _ => .ok _
    | quartic x =>
      refine .some ?_
      dsimp only
      split
      · exact (x.scale_failsByOperands _).bind fun _ _ => .ok _
      · exact x.halves_failsByOperands.bind fun x _ =>
          v.quarticCoords_failsByOperands.bind fun y _ => y.halves_failsByOperands.bind fun y _ =>
            (x.mulHalves_failsByOperands y).bind fun _ _ => .ok _

/-- On the right of a sum or a product an element says what it says on the left. -/
theorem right_eq_left (hop : op = .add ∨ op = .mul) (v : Operand) (y : RawElement) :
    right op v y = y.left op v := by
  obtain rfl | rfl := hop <;> cases y <;> rfl

end RawElement

namespace Operator

variable {op : Operator} (hop : op = .add ∨ op = .mul) (x y : Operand)

include hop

theorem rawLeft_answersByOperands : AnswersByOperands (op.rawLeft x y) := by
  unfold rawLeft
  split
  · exact RawElement.left_answersByOperands hop _ _
  · exact .none

theorem rawRight_answersByOperands : AnswersByOperands (op.rawRight x y) := by
  have hasked (v w : Operand) : AnswersByOperands
      (w.toRaw?.bind fun w => w.right op v) := by
    cases w.toRaw? with
    | none => exact .none
    | some w =>
      rw [Option.bind_some, RawElement.right_eq_left hop]
      exact RawElement.left_answersByOperands hop _ _
  unfold rawRight
  split
  · exact hasked _ _
  · split
    · split
      · exact .none
      · exact RawElement.left_answersByOperands hop _ _
    · exact .none
  · exact hasked _ _

theorem raw_failsByOperands : FailsByOperands (op.raw x y) := by
  unfold raw
  split
  · next outcome houtcome => exact rawLeft_answersByOperands hop x y outcome houtcome
  · split
    · next outcome houtcome => exact rawRight_answersByOperands hop x y outcome houtcome
    · exact .error rfl

/-- A sum or a product fails only because of operands. Beside an element it is what the classes do
step by step, and these go on with an irregular element. -/
theorem apply_failsByOperands : FailsByOperands (op.apply x y) := by
  by_cases helement : x.toRaw?.isSome ∨ y.toRaw?.isSome
  · rw [apply_eq_raw op helement]
    exact raw_failsByOperands hop x y
  · obtain ⟨hx, hy⟩ : x.toRaw? = none ∧ y.toRaw? = none := by simpa using helement
    have hplain := op.regular_failsByOperands hx hy
    rw [apply_of_endsRegularly (Operand.isIrregular_of_toRaw? hx) (Operand.isIrregular_of_toRaw? hy)
      hplain.endsRegularly]
    exact hplain

end Operator

variable (x y z : Operand)

theorem Operand.add_failsByOperands : FailsByOperands (x.add y) :=
  Operator.apply_failsByOperands (.inl rfl) x y

theorem Operand.mul_failsByOperands : FailsByOperands (x.mul y) :=
  Operator.apply_failsByOperands (.inr rfl) x y

/-- A join fails only because of the operands that are joined. -/
theorem join_failsByOperands : FailsByOperands (join x y z) :=
  (y.mul_failsByOperands z).bind fun product _ => x.add_failsByOperands product

end TowerFold
