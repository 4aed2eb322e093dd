import TowerFold.Proofs.Operand.Field
import TowerFold.Proofs.Operand.Refusal
import TowerFold.Proofs.Operand.Sides
import TowerFold.Proofs.RingEmbedding

/-!
# Coercion is uniform

On either side of an element, an operand acts as the element that it is coerced to, whether an
operator coerces it, scales coordinates by it or leaves the answer to the other side. What a field
refuses to coerce, all operators of its elements refuse, and for the same reasons.
-/

namespace TowerFold

/-- Where an operand stands beside an element: to the right or to the left of an operator. -/
inductive Place
  | right (op : Operator)
  | left (op : Operator)
  deriving DecidableEq

/-- The outcome of an operator between an element and the operand at a place beside it. -/
def Place.apply : Place → Operand → Operand → Except Fault Operand
  | .right op, x, v => op.apply x v
  | .left op, x, v => op.apply v x

/-- Whether the element is asked at a place beside it, or a word or a grid that stands before it
answers instead. -/
def Place.AsksElement : Place → Operand → Prop
  | .right _, _ => True
  | .left _, v => v.isPacked = false

namespace Place

/-- The places beside an element of the base class or of the class of degree four. -/
def all : List Place :=
  [.right .add, .right .sub, .right .mul, .right .div, .left .add, .left .sub, .left .mul]

/-- The places beside a complex element, which is not divided, and which declines on the right of
a difference. -/
def besideComplex : List Place :=
  [.right .add, .right .sub, .right .mul, .left .add, .left .mul]

theorem mem_all {p : Place} : p ∈ all ↔
    p = .right .add ∨ p = .right .sub ∨ p = .right .mul ∨ p = .right .div ∨
      p = .left .add ∨ p = .left .sub ∨ p = .left .mul := by
  simp [all]

theorem mem_besideComplex {p : Place} : p ∈ besideComplex ↔
    p = .right .add ∨ p = .right .sub ∨ p = .right .mul ∨ p = .left .add ∨ p = .left .mul := by
  simp [besideComplex]

/-- What is not packed leaves the answer to the element. -/
theorem asksElement_of_not_isPacked (p : Place) {v : Operand} (hplain : v.isPacked = false) :
    p.AsksElement v := by
  cases p with
  | right => trivial
  | left => exact hplain

end Place

variable {F : Type} {put : F → Operand} {coerce : Operand → Except Fault F} {v : Operand}
  {p : Place} {x y : F}

/-! ## Places where operands are coerced -/

/-- At a place beside `x`, an operand counts as the element that it is coerced to, and is refused
for what its coercion is refused for. -/
def CountsAsCoerced (put : F → Operand) (coerce : Operand → Except Fault F) (p : Place) (x : F)
    (v : Operand) : Prop :=
  p.apply (put x) v = do p.apply (put x) (put (← coerce v))

/-- Where the outcome is some function of the coerced operand, that function says what the outcome
is for an element. -/
theorem CountsAsCoerced.of_answer {f : F → Except Fault Operand}
    (hanswer : p.apply (put x) v = coerce v >>= f) (helement : ∀ y, p.apply (put x) (put y) = f y) :
    CountsAsCoerced put coerce p x v := by
  rw [CountsAsCoerced, hanswer]
  exact congrArg (coerce v >>= ·) (funext fun y => (helement y).symm)

/-- At certain places beside the operands that `put` makes of elements with `count` coordinates,
all operands that stay regular are coerced where the element is asked, but for those of a foreign
kind. These are no groups, and either they or the element refuse the other one. -/
structure CoercesAt (put : F → Operand) (coerce : Operand → Except Fault F)
    (foreign : Operand → Prop) (count : ℕ) (places : List Place) : Prop where
  counts {v : Operand} {p : Place} (hasked : p.AsksElement v) (hforeign : ¬foreign v)
    (hv : StaysRegular coerce v) (x : F) (hp : p ∈ places) : CountsAsCoerced put coerce p x v
  accepted {v : Operand} {y : F} (hv : coerce v = .ok y) :
    StaysRegular coerce v ∧ v.isPacked = false ∧ ¬foreign v
  refused {v : Operand} {fault : Fault} (hv : StaysRegular coerce v)
    (hrefused : coerce v = .error fault) : RefusedByKind count v fault
  refused_foreign {v : Operand} (hforeign : foreign v) (x : F) {p : Place} (hp : p ∈ places) :
    ∃ w, p.apply (put x) v = .error (.incompatible w)
  foreign_ne_group {v : Operand} (hforeign : foreign v) (b : Brackets) (items : List Operand) :
    v ≠ .group b items

/-- What stands beside a complex element. -/
theorem CM31.coercesAt :
    CoercesAt Operand.cm31 CM31.ofOperand (fun v => ∃ y, v = .qm31 y) 2 Place.besideComplex where
  counts {v p} hasked hforeign hv x hp := by
    have hown (y : CM31) : ∀ z, Operand.cm31 y ≠ .qm31 z := by simp
    have hself (y : CM31) : StaysRegular CM31.ofOperand (.cm31 y) := .of_cm31 rfl
    obtain rfl | rfl | rfl | rfl | rfl := Place.mem_besideComplex.mp hp
    · exact .of_answer (Operand.cm31_add x hv) fun y => elementClass_cm31.add x y
    · exact .of_answer (Operand.cm31_sub x hv) fun y => elementClass_cm31.sub x y
    · exact .of_answer (Operand.cm31_mul x hv) fun y => elementClass_cm31.mul x y
    · exact .of_answer (Operand.add_cm31 hasked (not_exists.mp hforeign) hv x) fun y =>
        Operand.add_cm31 rfl (hown y) (hself y) x
    · exact .of_answer (Operand.mul_cm31 hasked (not_exists.mp hforeign) hv x) fun y =>
        Operand.mul_cm31 rfl (hown y) (hself y) x
  accepted {v y} hv := by
    refine ⟨.of_cm31 hv, ?_⟩
    cases v with
    | word | grid | qm31 => cases hv
    | _ => exact ⟨rfl, by simp⟩
  refused hv hrefused := CM31.refusedByKind_of_complexCoords hv.isIrregular_eq
    (CM31.complexCoords_eq_error (hv.endsRegularly _ hrefused) hrefused)
  refused_foreign := by
    rintro _ ⟨y, rfl⟩ x p hp
    obtain rfl | rfl | rfl | rfl | rfl := Place.mem_besideComplex.mp hp <;> exact ⟨_, rfl⟩
  foreign_ne_group := by
    rintro _ ⟨y, rfl⟩
    exact nofun

/-- What stands beside an element of degree four. -/
theorem QM31.coercesAt :
    CoercesAt Operand.qm31 QM31.ofOperand (fun v => ∃ y, v = .cm31 y) 4 Place.all where
  counts {v p} hasked hforeign hv x hp := by
    have hown (y : QM31) : ∀ z, Operand.qm31 y ≠ .cm31 z := by simp
    have hself (y : QM31) : StaysRegular QM31.ofOperand (.qm31 y) := .of_qm31 rfl
    obtain rfl | rfl | rfl | rfl | rfl | rfl | rfl := Place.mem_all.mp hp
    · exact .of_answer (Operand.qm31_add x hv) fun y => elementClass_qm31.add x y
    · exact .of_answer (Operand.qm31_sub x hv) fun y => elementClass_qm31.sub x y
    · exact .of_answer (Operand.qm31_mul x hv) fun y => elementClass_qm31.mul x y
    · exact .of_answer (Operand.qm31_div_coerced x hv) (Operand.qm31_div x)
    · exact .of_answer (Operand.add_qm31 hasked (not_exists.mp hforeign) hv x) fun y =>
        Operand.add_qm31 rfl (hown y) (hself y) x
    · exact .of_answer (Operand.sub_qm31 hasked (not_exists.mp hforeign) hv x) fun y =>
        Operand.sub_qm31 rfl (hown y) (hself y) x
    · exact .of_answer (Operand.mul_qm31 hasked (not_exists.mp hforeign) hv x) fun y =>
        Operand.mul_qm31 rfl (hown y) (hself y) x
  accepted {v y} hv := by
    refine ⟨.of_qm31 hv, ?_⟩
    cases v with
    | word | grid | cm31 => cases hv
    | _ => exact ⟨rfl, by simp⟩
  refused hv hrefused := QM31.refusedByKind_of_quarticCoords hv.isIrregular_eq
    (QM31.quarticCoords_eq_error (hv.endsRegularly _ hrefused) hrefused)
  refused_foreign := by
    rintro _ ⟨y, rfl⟩ x p hp
    obtain rfl | rfl | rfl | rfl | rfl | rfl | rfl := Place.mem_all.mp hp <;> exact ⟨_, rfl⟩
  foreign_ne_group := by
    rintro _ ⟨y, rfl⟩
    exact nofun

/-- A scalar beside a base-field element counts as its residue. -/
theorem M31.apply_eq_of_toM31? {k : M31} (hv : v.toM31? = some k) (x : M31)
    (hp : p ∈ Place.all) : p.apply (.m31 x) v = p.apply (.m31 x) (.m31 k) := by
  cases v with
  | int | bool | m31 =>
    cases hv
    obtain rfl | rfl | rfl | rfl | rfl | rfl | rfl := Place.mem_all.mp hp <;> rfl
  | _ => cases hv

/-! ## Uniform coercion -/

namespace CoercesAt

variable {foreign : Operand → Prop} {count : ℕ} {places : List Place}

/-- What is coerced to an element gives the same outcome as that element. -/
theorem apply_eq (h : CoercesAt put coerce foreign count places) (x : F) (hv : coerce v = .ok y)
    (hp : p ∈ places) : p.apply (put x) v = p.apply (put x) (put y) := by
  obtain ⟨hregular, hplain, hforeign⟩ := h.accepted hv
  have hcounts := h.counts (p.asksElement_of_not_isPacked hplain) hforeign hregular x hp
  rwa [CountsAsCoerced, hv, ok_bind] at hcounts

end CoercesAt

namespace ElementClass

variable [CommRing F] [DecidableEq F] {inverse? : F → Option F}

end ElementClass

end TowerFold
