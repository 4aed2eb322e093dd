import TowerFold.Operand.Equality
import TowerFold.Proofs.Field.Inverse
import TowerFold.Proofs.Operand.Arithmetic

/-!
# Classes of elements

The operands that hold the elements of one field calculate and compare among themselves as
those elements do. What follows for operands from the laws of the field needs no more than
this, so it is proved once for all three fields.
-/

namespace TowerFold

variable {F : Type} [CommRing F] [DecidableEq F]

/-- The operands that `put` makes of the elements of a field calculate and compare as these
elements do. -/
structure ElementClass (put : F → Operand) (inverse? : F → Option F) : Prop where
  add (x y : F) : (put x).add (put y) = .ok (put (x + y))
  sub (x y : F) : (put x).sub (put y) = .ok (put (x - y))
  mul (x y : F) : (put x).mul (put y) = .ok (put (x * y))
  neg (x : F) : (put x).neg = .ok (put (-x))
  inverse (x : F) : (put x).inverse = do return put (← orZeroInverse (inverse? x))
  equals (x y : F) : (put x).equals (put y) = .ok (decide (x = y))
  equals_int (x : F) (n : ℤ) : (put x).equals (.int n) = .ok (decide (x = n))
  inverts : Inverts inverse?

/-- Base-field elements as operands. -/
theorem elementClass_m31 : ElementClass Operand.m31 M31.inverse? where
  add _ _ := rfl
  sub _ _ := rfl
  mul _ _ := rfl
  neg _ := rfl
  inverse _ := rfl
  equals _ _ := rfl
  equals_int _ _ := rfl
  inverts := M31.inverts_inverse?

/-- An integer goes into the complex extension as its own numeral. -/
theorem CM31.ofM31_intCast (n : ℤ) : CM31.ofM31 (n : M31) = (n : CM31) :=
  map_intCast (Quadratic.embedHom (r := -1)) n

/-- An integer goes into the extension of degree four as its own numeral. -/
theorem QM31.ofM31_intCast (n : ℤ) : QM31.ofM31 (n : M31) = (n : QM31) :=
  (congrArg QM31.ofCM31 (CM31.ofM31_intCast n)).trans
    (map_intCast (Quadratic.embedHom (r := nonResidue)) n)

/-- Complex elements as operands. -/
theorem elementClass_cm31 : ElementClass Operand.cm31 CM31.inverse? where
  add _ _ := rfl
  sub _ _ := rfl
  mul _ _ := rfl
  neg _ := rfl
  inverse _ := rfl
  equals _ _ := rfl
  equals_int x n := by
    rw [← CM31.ofM31_intCast]
    rfl
  inverts := CM31.inverts_inverse?

/-- Elements of degree four as operands. -/
theorem elementClass_qm31 : ElementClass Operand.qm31 QM31.inverse? where
  add _ _ := rfl
  sub _ _ := rfl
  mul _ _ := rfl
  neg _ := rfl
  inverse _ := rfl
  equals _ _ := rfl
  equals_int x n := by
    rw [← QM31.ofM31_intCast]
    rfl
  inverts := QM31.inverts_inverse?

namespace ElementClass

variable {put : F → Operand} {inverse? : F → Option F}

/-- Different elements make different operands. -/
theorem injective (h : ElementClass put inverse?) : Function.Injective put := by
  intro x y hxy
  have hsame := h.equals x x
  have hother := h.equals x y
  rw [← hxy, hsame] at hother
  simpa using hother

/-- Operands of elements are equal when the elements are. -/
theorem equals_iff (h : ElementClass put inverse?) (x y : F) :
    (put x).equals (put y) = .ok true ↔ x = y := by
  rw [h.equals, Except.ok.injEq, decide_eq_true_eq]

/-- Zero is refused by the inversion of operands, with one and the same fault. -/
theorem inverse_eq_error_iff (h : ElementClass put inverse?) (x : F) (fault : Fault) :
    (put x).inverse = .error fault ↔ fault = .zeroInverse ∧ x = 0 := by
  rw [h.inverse, ← h.inverts.eq_none_iff]
  cases inverse? x with
  | none => simp [orZeroInverse, eq_comm]
  | some y => simp [orZeroInverse]

/-- The inverse of an operand is the operand of the inverse. -/
theorem inverse_eq_ok_iff (h : ElementClass put inverse?) (x y : F) :
    (put x).inverse = .ok (put y) ↔ x * y = 1 := by
  rw [h.inverse, ← h.inverts.eq_some_iff]
  cases inverse? x with
  | none => simp [orZeroInverse]
  | some z => simp [orZeroInverse, h.injective.eq_iff]

end ElementClass

end TowerFold
