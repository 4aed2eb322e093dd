import TowerFold.Embedding
import TowerFold.Operand.Arithmetic
import TowerFold.Proofs.Outcome

/-!
# Operands that stay regular

A field accepts an operand as one of its elements, or refuses it, or its class accepts it as an
irregular element. Where the last does not happen, the operators are those of the fields, and an
embedding has the outcome of the coercion. What is accepted as an element of the field is known by
its coordinates: they are residues.
-/

namespace TowerFold

/-- Whether a fault is no irregular element, with which someone may go on. -/
def Fault.isRegular : Fault → Bool
  | .irregular _ => false
  | _ => true

/-- A computation that has a result in the fields, or fails. -/
abbrev EndsRegularly {α : Type} (outcome : Except Fault α) : Prop :=
  FailsOnlyWith (fun fault => fault.isRegular = true) outcome

/-- An operand that is no irregular element, and is not accepted as one either. -/
structure StaysRegular {F : Type} (coerce : Operand → Except Fault F) (v : Operand) : Prop where
  isIrregular_eq : v.isIrregular = false
  endsRegularly : EndsRegularly (coerce v)

variable {v : Operand} {k : M31}

/-! ## Residues -/

namespace Representative

variable {r s : Representative}

/-- A residue is known as such. -/
theorem eq_residue (hr : r.isResidue = true) : r = .residue r.toM31 := by
  cases r with
  | residue x => rfl
  | _ => cases hr

/-- A remainder is a residue exactly if it is taken of one. -/
theorem isResidue_remainder (h : r.remainder = .ok s) : s.isResidue = r.isResidue := by
  cases r with
  | text t =>
    obtain ⟨written, _, ⟨⟩⟩ := bind_eq_ok_iff.mp h
    rfl
  | bytes data =>
    obtain ⟨written, _, ⟨⟩⟩ := bind_eq_ok_iff.mp h
    rfl
  | _ =>
    cases h
    rfl

end Representative

/-- Elements whose coordinates are all residues pass. -/
theorem RawElement.checkRegular_eq_ok_iff {x : RawElement} :
    x.checkRegular = .ok () ↔ x.isRegular = true := by
  unfold checkRegular
  split
  · next h => simp [h]
  · next h => simpa using h

/-- Elements are only stopped as irregular ones. -/
theorem RawElement.isRegular_of_checkRegular {x : RawElement} {fault : Fault}
    (h : x.checkRegular = .error fault) : fault.isRegular = false := by
  unfold checkRegular at h
  split at h
  · cases h
    rfl
  · cases h

namespace Operand

/-- The remainder of a scalar is its residue. -/
theorem remainder_of_toM31? (hv : v.toM31? = some k) : v.remainder = .ok (.residue k) := by
  simp only [remainder, hv]

/-- Only a scalar has a residue as remainder. -/
theorem toM31?_of_remainder {r : Representative} (hv : v.remainder = .ok r)
    (hr : r.isResidue = true) : v.toM31? = some r.toM31 := by
  cases hscalar : v.toM31? with
  | some x =>
    cases (remainder_of_toM31? hscalar).symm.trans hv
    rfl
  | none =>
    -- Everything else keeps its kind when the remainder is taken.
    have hkept {s : Representative} (h : s.remainder = .ok r) : s.isResidue = true :=
      (Representative.isResidue_remainder h).symm.trans hr
    cases v with
    | int | bool | m31 => cases hscalar
    | text t => cases hkept (s := .text t) hv
    | bytes data => cases hkept (s := .bytes data) hv
    | word w => cases hkept (s := .word w) hv
    | grid g => cases hkept (s := .grid g) hv
    | irregular x =>
      obtain ⟨element, hirregular⟩ := x
      cases element with
      | base s =>
        have hs := hkept (s := s) hv
        simp [RawElement.isRegular, RawElement.coords, hs] at hirregular
      | _ => cases hv
    | _ => cases hv

end Operand

/-- An operand is accepted into the base field exactly if it is a scalar. -/
theorem M31.ofOperand_eq_ok_iff {x : M31} : M31.ofOperand v = .ok x ↔ v.toM31? = some x := by
  constructor
  · intro hv
    obtain ⟨r, hr, hchecked⟩ := bind_eq_ok_iff.mp hv
    obtain ⟨hregular, hx⟩ := check_bind_eq_ok_iff.mp hchecked
    cases hx
    refine Operand.toM31?_of_remainder hr ?_
    simpa [RawElement.isRegular, RawElement.coords] using
      RawElement.checkRegular_eq_ok_iff.mp hregular
  · intro hv
    rw [M31.ofOperand, Operand.remainder_of_toM31? hv]
    rfl

/-- A scalar is a base-field element. -/
theorem M31.ofOperand_of_toM31? (hv : v.toM31? = some k) : M31.ofOperand v = .ok k :=
  M31.ofOperand_eq_ok_iff.mpr hv

/-! ## Coordinates -/

/-- The coordinates of a complex element, as its class keeps them. -/
def CM31.residues (x : CM31) : ComplexCoords := (.residue x.re, .residue x.im)

/-- The coordinates of an element of degree four, as its class keeps them. -/
def QM31.residues (x : QM31) : QuarticCoords := (CM31.residues x.re, CM31.residues x.im)

/-- An operand is accepted into the complex extension exactly if its coordinates are residues. -/
theorem CM31.ofOperand_eq_ok_iff {x : CM31} :
    CM31.ofOperand v = .ok x ↔ v.complexCoords = .ok x.residues := by
  constructor
  · intro hv
    obtain ⟨coords, hcoords, hchecked⟩ := bind_eq_ok_iff.mp hv
    obtain ⟨hregular, hx⟩ := check_bind_eq_ok_iff.mp hchecked
    cases hx
    obtain ⟨a, b⟩ := coords
    have hab : a.isResidue = true ∧ b.isResidue = true := by
      simpa [RawElement.isRegular, RawElement.coords] using
        RawElement.checkRegular_eq_ok_iff.mp hregular
    rw [hcoords]
    exact congrArg Except.ok
      (Prod.ext (Representative.eq_residue hab.1) (Representative.eq_residue hab.2))
  · intro hv
    rw [CM31.ofOperand, hv]
    rfl

/-- An operand is accepted into the extension of degree four exactly if its coordinates are
residues. -/
theorem QM31.ofOperand_eq_ok_iff {x : QM31} :
    QM31.ofOperand v = .ok x ↔ v.quarticCoords = .ok (QM31.residues x) := by
  constructor
  · intro hv
    obtain ⟨coords, hcoords, hchecked⟩ := bind_eq_ok_iff.mp hv
    obtain ⟨hregular, hx⟩ := check_bind_eq_ok_iff.mp hchecked
    cases hx
    obtain ⟨⟨a, b⟩, c, d⟩ := coords
    obtain ⟨ha, hb, hc, hd⟩ : a.isResidue = true ∧ b.isResidue = true ∧ c.isResidue = true ∧
        d.isResidue = true := by
      simpa [RawElement.isRegular, RawElement.coords] using
        RawElement.checkRegular_eq_ok_iff.mp hregular
    rw [hcoords]
    exact congrArg Except.ok (Prod.ext
      (Prod.ext (Representative.eq_residue ha) (Representative.eq_residue hb))
      (Prod.ext (Representative.eq_residue hc) (Representative.eq_residue hd)))
  · intro hv
    rw [QM31.ofOperand, hv]
    rfl

/-- An element of degree four is accepted as it is. -/
theorem QM31.ofOperand_qm31 (x : QM31) : QM31.ofOperand (.qm31 x) = .ok x := rfl

/-- A scalar goes into the complex extension. -/
theorem CM31.ofOperand_of_toM31? (hv : v.toM31? = some k) :
    CM31.ofOperand v = .ok (.ofM31 k) := by
  cases v with
  | int | bool | m31 =>
    cases hv
    rfl
  | _ => cases hv

/-- A scalar goes into the extension of degree four. -/
theorem QM31.ofOperand_of_toM31? (hv : v.toM31? = some k) :
    QM31.ofOperand v = .ok (.ofM31 k) := by
  cases v with
  | int | bool | m31 =>
    cases hv
    rfl
  | _ => cases hv

/-- Two scalars are the coordinates of a complex element. -/
theorem CM31.ofOperand_group (b : Brackets) {v₀ v₁ : Operand} {k₀ k₁ : M31}
    (h₀ : v₀.toM31? = some k₀) (h₁ : v₁.toM31? = some k₁) :
    CM31.ofOperand (.group b [v₀, v₁]) = .ok (.ofCoords k₀ k₁) := by
  rw [CM31.ofOperand_eq_ok_iff, Operand.complexCoords, Operand.remainder_of_toM31? h₀,
    Operand.remainder_of_toM31? h₁]
  rfl

/-- Four scalars are the coordinates of an element of degree four. -/
theorem QM31.ofOperand_group (b : Brackets) {v₀ v₁ v₂ v₃ : Operand} {k₀ k₁ k₂ k₃ : M31}
    (h₀ : v₀.toM31? = some k₀) (h₁ : v₁.toM31? = some k₁) (h₂ : v₂.toM31? = some k₂)
    (h₃ : v₃.toM31? = some k₃) :
    QM31.ofOperand (.group b [v₀, v₁, v₂, v₃]) = .ok (.ofCoords k₀ k₁ k₂ k₃) := by
  rw [QM31.ofOperand_eq_ok_iff, Operand.quarticCoords, Operand.remainder_of_toM31? h₀,
    Operand.remainder_of_toM31? h₁, Operand.remainder_of_toM31? h₂,
    Operand.remainder_of_toM31? h₃]
  rfl

/-! ## What is accepted and what is refused -/

/-- A scalar is no irregular element. -/
theorem Operand.isIrregular_of_toM31? (hv : v.toM31? = some k) : v.isIrregular = false := by
  cases v with
  | irregular => cases hv
  | _ => rfl

/-- What the complex extension accepts is no irregular element. -/
theorem CM31.isIrregular_of_ofOperand {x : CM31} (hv : CM31.ofOperand v = .ok x) :
    v.isIrregular = false := by
  have hcoords := CM31.ofOperand_eq_ok_iff.mp hv
  cases v with
  | irregular y =>
    obtain ⟨element, hirregular⟩ := y
    cases element with
    | base r =>
      obtain ⟨s, hs, hpair⟩ := bind_eq_ok_iff.mp hcoords
      have hfirst : s = .residue x.re := congrArg Prod.fst (Except.ok.inj hpair)
      rw [hfirst] at hs
      cases Operand.toM31?_of_remainder (v := .irregular ⟨.base r, hirregular⟩) hs rfl
    | complex z =>
      cases hcoords
      cases hirregular
    | quartic z => cases hcoords
  | _ => rfl

/-- What the extension of degree four accepts is no irregular element. -/
theorem QM31.isIrregular_of_ofOperand {x : QM31} (hv : QM31.ofOperand v = .ok x) :
    v.isIrregular = false := by
  have hcoords := QM31.ofOperand_eq_ok_iff.mp hv
  cases v with
  | irregular y =>
    obtain ⟨element, hirregular⟩ := y
    cases element with
    | base r =>
      obtain ⟨s, hs, hquadruple⟩ := bind_eq_ok_iff.mp hcoords
      have hfirst : s = .residue x.re.re :=
        congrArg (fun coords : QuarticCoords => coords.1.1) (Except.ok.inj hquadruple)
      rw [hfirst] at hs
      cases Operand.toM31?_of_remainder (v := .irregular ⟨.base r, hirregular⟩) hs rfl
    | complex z => cases hcoords
    | quartic z =>
      cases hcoords
      cases hirregular
  | _ => rfl

/-- What the complex extension refuses has no coordinates. -/
theorem CM31.complexCoords_eq_error {fault : Fault} (hfault : fault.isRegular = true)
    (hv : CM31.ofOperand v = .error fault) : v.complexCoords = .error fault := by
  obtain hcoords | ⟨coords, _, hchecked⟩ := bind_eq_error_iff.mp hv
  · exact hcoords
  · obtain hirregular | ⟨_, _, ⟨⟩⟩ := bind_eq_error_iff.mp hchecked
    rw [RawElement.isRegular_of_checkRegular hirregular] at hfault
    cases hfault

/-- What the extension of degree four refuses has no coordinates. -/
theorem QM31.quarticCoords_eq_error {fault : Fault} (hfault : fault.isRegular = true)
    (hv : QM31.ofOperand v = .error fault) : v.quarticCoords = .error fault := by
  obtain hcoords | ⟨coords, _, hchecked⟩ := bind_eq_error_iff.mp hv
  · exact hcoords
  · obtain hirregular | ⟨_, _, ⟨⟩⟩ := bind_eq_error_iff.mp hchecked
    rw [RawElement.isRegular_of_checkRegular hirregular] at hfault
    cases hfault

namespace StaysRegular

/-- What is accepted into the complex extension stays regular. -/
theorem of_cm31 {x : CM31} (hv : CM31.ofOperand v = .ok x) : StaysRegular CM31.ofOperand v where
  isIrregular_eq := CM31.isIrregular_of_ofOperand hv
  endsRegularly := hv ▸ .ok x

/-- What is accepted into the extension of degree four stays regular. -/
theorem of_qm31 {x : QM31} (hv : QM31.ofOperand v = .ok x) : StaysRegular QM31.ofOperand v where
  isIrregular_eq := QM31.isIrregular_of_ofOperand hv
  endsRegularly := hv ▸ .ok x

end StaysRegular

/-! ## Operators and embeddings -/

/-- Between operands that are no irregular elements, an operator is what their answers say, unless
an answer is that one of them was accepted as an irregular element. -/
theorem Operator.apply_of_endsRegularly {op : Operator} {v w : Operand}
    (hv : v.isIrregular = false) (hw : w.isIrregular = false)
    (h : EndsRegularly (op.regular v w)) : op.apply v w = op.regular v w := by
  unfold apply
  rw [if_neg (by simp [hv, hw])]
  split
  · next x hx => cases h _ hx
  · rfl

/-- An answer of the left operand that ends regularly is the outcome. -/
theorem Operator.apply_of_left {op : Operator} {v w : Operand} {outcome : Except Fault Operand}
    (hv : v.isIrregular = false) (hw : w.isIrregular = false)
    (hleft : op.left v w = some outcome) (h : EndsRegularly outcome) :
    op.apply v w = outcome := by
  have hregular : op.regular v w = outcome := by rw [regular, hleft]
  rw [apply_of_endsRegularly hv hw (hregular ▸ h), hregular]

/-- Where the left operand declines, an answer of the right one that ends regularly is the
outcome. -/
theorem Operator.apply_of_right {op : Operator} {v w : Operand} {outcome : Except Fault Operand}
    (hv : v.isIrregular = false) (hw : w.isIrregular = false) (hleft : op.left v w = none)
    (hright : op.right v w = some outcome) (h : EndsRegularly outcome) :
    op.apply v w = outcome := by
  have hregular : op.regular v w = outcome := by rw [regular, hleft, hright]
  rw [apply_of_endsRegularly hv hw (hregular ▸ h), hregular]

/-- An embedding has the outcome of the coercion. -/
theorem orIrregular_of_endsRegularly {outcome : Except Fault Operand}
    (h : EndsRegularly outcome) : orIrregular outcome = outcome := by
  unfold orIrregular
  split
  · next x => cases h _ rfl
  · rfl

/-- What is embedded as no irregular element was the outcome of the coercion. -/
theorem orIrregular_eq_ok_iff {outcome : Except Fault Operand} (hv : v.isIrregular = false) :
    orIrregular outcome = .ok v ↔ outcome = .ok v := by
  unfold orIrregular
  split
  · next x => exact iff_of_false (by rintro ⟨⟩; cases hv) nofun
  · rfl

namespace Embedding

/-- A value is embedded in the base field as the element that it is accepted as. -/
theorem m31_apply_eq_ok_iff {x : M31} :
    Embedding.m31.apply v = .ok (.m31 x) ↔ M31.ofOperand v = .ok x := by
  rw [apply, orIrregular_eq_ok_iff rfl, bind_eq_ok_iff]
  simp

/-- A value is embedded in the complex extension as the element that it is accepted as. -/
theorem cm31_apply_eq_ok_iff {x : CM31} :
    Embedding.cm31.apply v = .ok (.cm31 x) ↔ CM31.ofOperand v = .ok x := by
  rw [apply, orIrregular_eq_ok_iff rfl, bind_eq_ok_iff]
  simp

/-- A value is embedded in the extension of degree four as the element that it is accepted as. -/
theorem qm31_apply_eq_ok_iff {x : QM31} :
    Embedding.qm31.apply v = .ok (.qm31 x) ↔ QM31.ofOperand v = .ok x := by
  rw [apply, orIrregular_eq_ok_iff rfl, bind_eq_ok_iff]
  simp

end Embedding

end TowerFold
