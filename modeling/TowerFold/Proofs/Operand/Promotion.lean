import TowerFold.Proofs.RingEmbedding

/-!
# Promotion between kinds

Integers, truth values, base-field elements and elements of degree four all stand for an
element of degree four. A sum or product of two of them may be of any of these kinds, but it
always stands for the sum or product of what the two stand for.
-/

namespace TowerFold

/-- The element of degree four that an operand stands for: a scalar for the copy of its
residue, an element of degree four for itself. -/
inductive Promotes : Operand → QM31 → Prop
  | scalar {v : Operand} {k : M31} (hv : v.IsScalar) (hk : v.toM31? = some k) :
    Promotes v (.ofM31 k)
  | quartic (x : QM31) : Promotes (.qm31 x) x

namespace Operand

variable {v w : Operand} {k l : M31}

/-- A scalar that is no base-field element counts as an integer. -/
theorem IsScalar.toInt?_or_m31 (hv : v.IsScalar) :
    (∃ n, v.toInt? = some n ∧ v.toM31? = some (.ofInt n)) ∨ ∃ x, v = .m31 x := by
  cases hv with
  | int n => exact .inl ⟨n, rfl, rfl⟩
  | bool b => exact .inl ⟨_, rfl, rfl⟩
  | m31 x => exact .inr ⟨x, rfl⟩

/-- A base-field element answers for a scalar on its left. -/
theorem IsScalar.add_m31 (hv : v.IsScalar) (hk : v.toM31? = some k) (y : M31) :
    v.add (.m31 y) = .ok (.m31 (k + y)) := by
  cases hv <;> cases hk <;> rfl

/-- A base-field element answers for a scalar on its left. -/
theorem IsScalar.mul_m31 (hv : v.IsScalar) (hk : v.toM31? = some k) (y : M31) :
    v.mul (.m31 y) = .ok (.m31 (k * y)) := by
  cases hv <;> cases hk <;> rfl

/-- An element of degree four answers for a scalar on its left. -/
theorem IsScalar.add_qm31 (hv : v.IsScalar) (hk : v.toM31? = some k) (y : QM31) :
    v.add (.qm31 y) = .ok (.qm31 (.ofM31 k + y)) := by
  rw [add_comm]
  cases hv <;> cases hk <;> rfl

/-- An element of degree four answers for a scalar on its left. -/
theorem IsScalar.mul_qm31 (hv : v.IsScalar) (hk : v.toM31? = some k) (y : QM31) :
    v.mul (.qm31 y) = .ok (.qm31 (.ofM31 k * y)) := by
  rw [mul_comm, ← QM31.scale_eq_mul]
  cases hv <;> cases hk <;> rfl

/-- The sum of scalars is a scalar that has the sum of their residues. -/
theorem IsScalar.add (hv : v.IsScalar) (hw : w.IsScalar) (hk : v.toM31? = some k)
    (hl : w.toM31? = some l) :
    ∃ r, v.add w = .ok r ∧ r.IsScalar ∧ r.toM31? = some (k + l) := by
  obtain ⟨m, hm, hmk⟩ | ⟨x, rfl⟩ := hv.toInt?_or_m31
  · obtain ⟨n, hn, hnl⟩ | ⟨y, rfl⟩ := hw.toInt?_or_m31
    · obtain rfl := Option.some.inj (hmk.symm.trans hk)
      obtain rfl := Option.some.inj (hnl.symm.trans hl)
      exact ⟨_, add_of_toInt? hm hn, .int _, congrArg some (Int.cast_add (R := M31) m n)⟩
    · cases hl
      exact ⟨_, hv.add_m31 hk _, .m31 _, rfl⟩
  · cases hk
    exact ⟨_, m31_add _ hl, .m31 _, rfl⟩

/-- The product of scalars is a scalar that has the product of their residues. -/
theorem IsScalar.mul (hv : v.IsScalar) (hw : w.IsScalar) (hk : v.toM31? = some k)
    (hl : w.toM31? = some l) :
    ∃ r, v.mul w = .ok r ∧ r.IsScalar ∧ r.toM31? = some (k * l) := by
  obtain ⟨m, hm, hmk⟩ | ⟨x, rfl⟩ := hv.toInt?_or_m31
  · obtain ⟨n, hn, hnl⟩ | ⟨y, rfl⟩ := hw.toInt?_or_m31
    · obtain rfl := Option.some.inj (hmk.symm.trans hk)
      obtain rfl := Option.some.inj (hnl.symm.trans hl)
      exact ⟨_, mul_of_toInt? hm hn, .int _, congrArg some (Int.cast_mul (α := M31) m n)⟩
    · cases hl
      exact ⟨_, hv.mul_m31 hk _, .m31 _, rfl⟩
  · cases hk
    exact ⟨_, m31_mul _ hl, .m31 _, rfl⟩

end Operand

namespace Promotes

variable {v w : Operand} {x y : QM31}

/-- The field of degree four accepts an operand as the element that it stands for. -/
theorem ofOperand_eq (hv : Promotes v x) : QM31.ofOperand v = .ok x := by
  cases hv with
  | scalar _ hk => exact QM31.ofOperand_of_toM31? hk
  | quartic => rfl

/-- A sum stands for the sum, of whatever kind it is. -/
theorem add (hv : Promotes v x) (hw : Promotes w y) :
    ∃ r, v.add w = .ok r ∧ Promotes r (x + y) := by
  cases hv with
  | @scalar _ k hv hk =>
    cases hw with
    | @scalar _ l hw hl =>
      obtain ⟨r, hr, hscalar, hresidue⟩ := hv.add hw hk hl
      refine ⟨r, hr, ?_⟩
      rw [← QM31.ofM31_add]
      exact .scalar hscalar hresidue
    | quartic => exact ⟨_, hv.add_qm31 hk y, .quartic _⟩
  | quartic => exact ⟨_, Operand.qm31_add_of_ok x hw.ofOperand_eq, .quartic _⟩

/-- A product stands for the product, of whatever kind it is. -/
theorem mul (hv : Promotes v x) (hw : Promotes w y) :
    ∃ r, v.mul w = .ok r ∧ Promotes r (x * y) := by
  cases hv with
  | @scalar _ k hv hk =>
    cases hw with
    | @scalar _ l hw hl =>
      obtain ⟨r, hr, hscalar, hresidue⟩ := hv.mul hw hk hl
      refine ⟨r, hr, ?_⟩
      rw [← QM31.ofM31_mul]
      exact .scalar hscalar hresidue
    | quartic => exact ⟨_, hv.mul_qm31 hk y, .quartic _⟩
  | quartic => exact ⟨_, Operand.qm31_mul_of_ok x hw.ofOperand_eq, .quartic _⟩

end Promotes

end TowerFold
