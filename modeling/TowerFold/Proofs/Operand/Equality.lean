import TowerFold.Proofs.Operand.Elements
import TowerFold.Proofs.RingEmbedding

/-!
# Equality in both orders

An element compares with an operand alike from both sides, whichever of the two judges, and also
where the comparison is refused. An operand that the field of an element accepts is equal to it
exactly if it is coerced to the same coordinates, where the integers in that operand count modulo
`modulus`.
-/

namespace TowerFold

/-- The number of coordinates that an element of a ring has. -/
def RingEmbedding.degree : RingEmbedding → ℕ
  | integer | m31 => 1
  | cm31 => 2
  | qm31 => 4

/-- Elements of one class compare alike from both sides. -/
theorem ElementClass.equals_comm {F : Type} [CommRing F] [DecidableEq F] {put : F → Operand}
    {inverse? : F → Option F} (h : ElementClass put inverse?) (x y : F) :
    (put y).equals (put x) = (put x).equals (put y) := by
  rw [h.equals, h.equals, decide_eq_decide.mpr eq_comm]

/-- Any coordinate and a residue compare alike from both sides. -/
theorem Representative.equals_residue_comm (r : Representative) (x : M31) :
    r.equals (.residue x) = (Representative.residue x).equals r := by
  cases r with
  | residue y => exact congrArg Except.ok (decide_eq_decide.mpr eq_comm)
  | _ => rfl

/-- Any coordinates and residues compare alike from both sides. -/
theorem RawElement.equalCoords_residues_comm (rs : List Representative) (xs : List M31) :
    equalCoords rs (xs.map .residue) = equalCoords (xs.map .residue) rs := by
  induction rs generalizing xs with
  | nil => cases xs <;> rfl
  | cons r rs ih =>
    cases xs with
    | nil => rfl
    | cons x xs =>
      rw [List.map_cons, equalCoords, equalCoords, Representative.equals_residue_comm, ih]

/-- An irregular element is stopped. -/
theorem RawElement.checkRegular_of_irregular {x : RawElement} (hx : x.isRegular = false) :
    x.checkRegular = .error (.irregular ⟨x, hx⟩) :=
  dif_pos hx

namespace Operand

/-- The field of an element. -/
def field? : Operand → Option RingEmbedding
  | .m31 _ => some .m31
  | .cm31 _ => some .cm31
  | .qm31 _ => some .qm31
  | _ => none

/-- The reduced coordinates of an element. -/
def coordinates : Operand → List ℤ
  | .m31 x => [(x.val : ℤ)]
  | .cm31 x => (CM31.coords x).map fun c => (c.val : ℤ)
  | .qm31 x => (QM31.coords x).map fun c => (c.val : ℤ)
  | _ => []

/-- The integers that an operand offers as coordinates to a field of the given degree, unreduced:
the entries of a group, the coordinates of an element of an extension, and a scalar with zeros
behind it. -/
def offered (degree : ℕ) : Operand → Except Fault (List ℤ)
  | .group _ items => items.mapM toInteger
  | .cm31 x => .ok (cm31 x).coordinates
  | .qm31 x => .ok (qm31 x).coordinates
  | v => do return (← v.toInteger) :: List.replicate (degree - 1) 0

variable {v w : Operand} {k : M31}

/-- An element and an operand compare alike from both sides. -/
theorem equals_comm (hv : v.isElement = true) (w : Operand) : w.equals v = v.equals w := by
  cases v with
  | m31 x =>
    cases w with
    | m31 y => exact elementClass_m31.equals_comm x y
    | group b items => cases b <;> rfl
    | irregular y =>
      obtain ⟨y, hy⟩ := y
      cases y with
      | base r => exact Representative.equals_residue_comm r x
      | _ => rfl
    | _ => rfl
  | cm31 x =>
    cases w with
    | cm31 y => exact elementClass_cm31.equals_comm x y
    | group b items => cases b <;> rfl
    | irregular y =>
      obtain ⟨y, hy⟩ := y
      cases y with
      | complex y =>
        -- Both sides compare what their classes keep, since this element is not coerced.
        have hcoerced : CM31.ofOperand (.irregular ⟨.complex y, hy⟩) =
            .error (.irregular ⟨.complex y, hy⟩) := by
          rw [CM31.ofOperand, complexCoords, ok_bind, RawElement.checkRegular_of_irregular hy,
            error_bind]
        refine Eq.trans ?_ (congrArg (judgeCoerced x _) hcoerced).symm
        exact RawElement.equalCoords_residues_comm _ x.coords
      | _ => rfl
    | _ => rfl
  | qm31 x =>
    cases w with
    | qm31 y => exact elementClass_qm31.equals_comm x y
    | group b items => cases b <;> rfl
    | irregular y =>
      obtain ⟨y, hy⟩ := y
      cases y with
      | quartic y =>
        have hcoerced : QM31.ofOperand (.irregular ⟨.quartic y, hy⟩) =
            .error (.irregular ⟨.quartic y, hy⟩) := by
          rw [QM31.ofOperand, quarticCoords, ok_bind, RawElement.checkRegular_of_irregular hy,
            error_bind]
        refine Eq.trans ?_ (congrArg (judgeCoerced x _) hcoerced).symm
        exact RawElement.equalCoords_residues_comm _ (QM31.coords x)
      | _ => rfl
    | _ => rfl
  | _ => cases hv

/-- A base-field element is equal to a scalar that has it as residue. -/
theorem m31_equals (x : M31) (hw : w.toM31? = some k) :
    (m31 x).equals w = .ok (decide (x = k)) := by
  cases w with
  | int | bool | m31 =>
    cases hw
    rfl
  | _ => cases hw

/-- A complex element is equal to what is coerced to it. -/
theorem cm31_equals (x : CM31) {y : CM31} (hw : RingEmbedding.cm31.Admits w)
    (hy : CM31.ofOperand w = .ok y) : (cm31 x).equals w = .ok (decide (x = y)) := by
  have hjudged : (cm31 x).equals w = judgeCoerced x (x.coords.map .residue) (CM31.ofOperand w) := by
    cases hw <;> rfl
  rw [hjudged, hy, judgeCoerced]

/-- An element of degree four is equal to what is coerced to it. -/
theorem qm31_equals (x : QM31) {y : QM31} (hw : RingEmbedding.qm31.Admits w)
    (hy : QM31.ofOperand w = .ok y) : (qm31 x).equals w = .ok (decide (x = y)) := by
  have hjudged : (qm31 x).equals w =
      judgeCoerced x ((QM31.coords x).map .residue) (QM31.ofOperand w) := by
    cases hw <;> rfl
  rw [hjudged, hy, judgeCoerced]

/-- The residue of a scalar is that of the integer it is. -/
theorem IsScalar.exists_residue (hv : v.IsScalar) :
    ∃ k n, v.toM31? = some k ∧ v.toInteger = .ok n ∧ (k.val : ℤ) = n % modulus := by
  cases hv with
  | int n => exact ⟨_, n, rfl, rfl, M31.val_ofInt n⟩
  | bool b => exact ⟨_, _, rfl, rfl, M31.val_ofInt _⟩
  | m31 x =>
    have hreduced : (x.val : ℤ) = x.val % modulus := by
      rw [← Int.natCast_emod, Nat.mod_eq_of_lt x.val_lt]
    exact ⟨x, _, rfl, rfl, hreduced⟩

/-- A scalar offers the integer it is, and zeros behind it. -/
theorem IsScalar.offered_eq (hv : v.IsScalar) {n : ℤ} (hn : v.toInteger = .ok n) (degree : ℕ) :
    v.offered degree = .ok (n :: List.replicate (degree - 1) 0) := by
  cases hv <;> cases hn <;> rfl

/-- Elements of one field with the same coordinates are equal. -/
theorem coordinates_m31 (x y : M31) :
    (m31 x).coordinates = (m31 y).coordinates ↔ x = y := by
  simp [coordinates, M31.ext_iff]

theorem coordinates_cm31 (x y : CM31) :
    (cm31 x).coordinates = (cm31 y).coordinates ↔ x = y := by
  simp [coordinates, CM31.coords, Quadratic.ext_iff, M31.ext_iff]

theorem coordinates_qm31 (x y : QM31) :
    (qm31 x).coordinates = (qm31 y).coordinates ↔ x = y := by
  simp [coordinates, QM31.coords, Quadratic.ext_iff, M31.ext_iff, and_assoc]

/-- Coordinates are residues already. -/
theorem map_emod_coordinates (v : Operand) :
    v.coordinates.map (· % (modulus : ℤ)) = v.coordinates := by
  have hreduced (c : M31) : (c.val : ℤ) % modulus = c.val :=
    Int.emod_eq_of_lt (Int.natCast_nonneg _) (Int.ofNat_lt.mpr c.val_lt)
  cases v <;> simp [coordinates, hreduced]

/-! ## The coordinates of a coerced operand -/

/-- The base field coerces what it accepts to the residue of the integer that is offered. -/
theorem exists_residues_m31 (hw : RingEmbedding.m31.Admits w) :
    ∃ y ns, w.toM31? = some y ∧ w.offered 1 = .ok ns ∧
      (m31 y).coordinates = ns.map (· % (modulus : ℤ)) := by
  have hscalar : w.IsScalar := by
    cases hw with
    | int _ n => exact .int n
    | bool _ b => exact .bool b
    | base y => exact .m31 y
  obtain ⟨k, n, hk, hn, hresidue⟩ := hscalar.exists_residue
  exact ⟨k, _, hk, hscalar.offered_eq hn 1, congrArg ([·]) hresidue⟩

/-- The complex extension coerces what it accepts to the residues of the integers that are
offered. -/
theorem exists_residues_cm31 (hw : RingEmbedding.cm31.Admits w) :
    ∃ y ns, CM31.ofOperand w = .ok y ∧ w.offered 2 = .ok ns ∧
      (cm31 y).coordinates = ns.map (· % (modulus : ℤ)) := by
  have hscalar (hv : w.IsScalar) : ∃ y ns, CM31.ofOperand w = .ok y ∧ w.offered 2 = .ok ns ∧
      (cm31 y).coordinates = ns.map (· % (modulus : ℤ)) := by
    obtain ⟨k, n, hk, hn, hresidue⟩ := hv.exists_residue
    refine ⟨_, _, CM31.ofOperand_of_toM31? hk, hv.offered_eq hn 2, ?_⟩
    simp [coordinates, CM31.coords, CM31.ofM31, hresidue]
  cases hw with
  | int _ n => exact hscalar (.int n)
  | bool _ b => exact hscalar (.bool b)
  | baseInComplex y => exact hscalar (.m31 y)
  | complex y => exact ⟨y, _, rfl, rfl, (map_emod_coordinates _).symm⟩
  | pair b h₀ h₁ =>
    obtain ⟨k₀, n₀, hk₀, hn₀, hresidue₀⟩ := h₀.exists_residue
    obtain ⟨k₁, n₁, hk₁, hn₁, hresidue₁⟩ := h₁.exists_residue
    refine ⟨.ofCoords k₀ k₁, [n₀, n₁], CM31.ofOperand_group b hk₀ hk₁, ?_, ?_⟩
    · simp [offered, hn₀, hn₁]
    · simp [coordinates, CM31.coords, CM31.ofCoords, hresidue₀, hresidue₁]

/-- The extension of degree four coerces what it accepts to the residues of the integers that are
offered. -/
theorem exists_residues_qm31 (hw : RingEmbedding.qm31.Admits w) :
    ∃ y ns, QM31.ofOperand w = .ok y ∧ w.offered 4 = .ok ns ∧
      (qm31 y).coordinates = ns.map (· % (modulus : ℤ)) := by
  have hscalar (hv : w.IsScalar) : ∃ y ns, QM31.ofOperand w = .ok y ∧ w.offered 4 = .ok ns ∧
      (qm31 y).coordinates = ns.map (· % (modulus : ℤ)) := by
    obtain ⟨k, n, hk, hn, hresidue⟩ := hv.exists_residue
    refine ⟨_, _, QM31.ofOperand_of_toM31? hk, hv.offered_eq hn 4, ?_⟩
    simp [coordinates, QM31.coords, QM31.ofM31, CM31.ofM31, hresidue]
  cases hw with
  | int _ n => exact hscalar (.int n)
  | bool _ b => exact hscalar (.bool b)
  | baseInQuartic y => exact hscalar (.m31 y)
  | quartic y => exact ⟨y, _, rfl, rfl, (map_emod_coordinates _).symm⟩
  | quadruple b h₀ h₁ h₂ h₃ =>
    obtain ⟨k₀, n₀, hk₀, hn₀, hresidue₀⟩ := h₀.exists_residue
    obtain ⟨k₁, n₁, hk₁, hn₁, hresidue₁⟩ := h₁.exists_residue
    obtain ⟨k₂, n₂, hk₂, hn₂, hresidue₂⟩ := h₂.exists_residue
    obtain ⟨k₃, n₃, hk₃, hn₃, hresidue₃⟩ := h₃.exists_residue
    refine ⟨.ofCoords k₀ k₁ k₂ k₃, [n₀, n₁, n₂, n₃],
      QM31.ofOperand_group b hk₀ hk₁ hk₂ hk₃, ?_, ?_⟩
    · simp [offered, hn₀, hn₁, hn₂, hn₃]
    · simp [coordinates, QM31.coords, QM31.ofCoords, hresidue₀, hresidue₁, hresidue₂,
        hresidue₃]

end Operand

/-! ## Comparison by coordinates -/

/-- Beside an element `v` of a field, an operand `w` counts as the element to which that field
coerces it, whose coordinates are the residues of the integers that `w` offers: the two are equal
exactly if `v` has these coordinates. -/
def ComparesByCoordinates (e : RingEmbedding) (v w : Operand) : Prop :=
  ∃ c ns, e.toEmbedding.apply w = .ok c ∧ c.field? = some e ∧
    w.offered e.degree = .ok ns ∧ c.coordinates = ns.map (· % (modulus : ℤ)) ∧
    v.equals w = .ok (decide (v.coordinates = c.coordinates))

/-- An element compares by coordinates with everything that its field accepts. -/
theorem comparesByCoordinates {e : RingEmbedding} {v w : Operand} (hv : v.field? = some e)
    (hw : e.Admits w) : ComparesByCoordinates e v w := by
  cases v with
  | m31 x =>
    cases hv
    obtain ⟨y, ns, hy, hns, hresidues⟩ := Operand.exists_residues_m31 hw
    refine ⟨.m31 y, ns, Embedding.m31_apply_eq_ok_iff.mpr (M31.ofOperand_of_toM31? hy), rfl,
      hns, hresidues, ?_⟩
    rw [Operand.m31_equals x hy, decide_eq_decide.mpr (Operand.coordinates_m31 x y)]
  | cm31 x =>
    cases hv
    obtain ⟨y, ns, hy, hns, hresidues⟩ := Operand.exists_residues_cm31 hw
    refine ⟨.cm31 y, ns, Embedding.cm31_apply_eq_ok_iff.mpr hy, rfl, hns, hresidues, ?_⟩
    rw [Operand.cm31_equals x hw hy, decide_eq_decide.mpr (Operand.coordinates_cm31 x y)]
  | qm31 x =>
    cases hv
    obtain ⟨y, ns, hy, hns, hresidues⟩ := Operand.exists_residues_qm31 hw
    refine ⟨.qm31 y, ns, Embedding.qm31_apply_eq_ok_iff.mpr hy, rfl, hns, hresidues, ?_⟩
    rw [Operand.qm31_equals x hw hy, decide_eq_decide.mpr (Operand.coordinates_qm31 x y)]
  | _ => cases hv

/-- An element and an operand of any kind compare alike from both sides, with the same outcome or
the same fault, and they differ where they are not equal. What the field of the element accepts is
equal to it exactly if it is coerced to the same coordinates. -/
theorem equality_in_both_orders (v w : Operand) (hv : v.isElement = true) :
    w.equals v = v.equals w ∧
      v.differs w = (do return !(← v.equals w)) ∧
      w.differs v = v.differs w ∧
      ∀ e, v.field? = some e → e.Admits w → ComparesByCoordinates e v w := by
  have hcomm := Operand.equals_comm hv w
  refine ⟨hcomm, rfl, ?_, fun e he hw => comparesByCoordinates he hw⟩
  rw [Operand.differs, Operand.differs, hcomm]

/-- An element of degree four is compared by coordinates with a tuple of scalars of all kinds, one
of them past the modulus and one negative, and is equal to it from both sides. With a list that
holds something else the comparison is refused from both sides. -/
theorem equality_in_both_orders_of_quartic :
    ComparesByCoordinates .qm31 (.qm31 (.ofCoords 1 1 2 (-1)))
        (.group .round [.int 2147483648, .bool true, .m31 2, .int (-1)]) ∧
      (Operand.group .round [.int 2147483648, .bool true, .m31 2, .int (-1)]).equals
        (.qm31 (.ofCoords 1 1 2 (-1))) = .ok true ∧
      (Operand.group .square [.int 1, .bool true, .nothing, .int (-1)]).differs
        (.qm31 (.ofCoords 1 1 2 (-1))) = .error (.noRemainder .nothing) := by
  have hadmits : RingEmbedding.qm31.Admits
      (.group .round [.int 2147483648, .bool true, .m31 2, .int (-1)]) :=
    .quadruple .round (.int _) (.bool _) (.m31 _) (.int _)
  obtain ⟨hequals, _, _, hcoordinates⟩ := equality_in_both_orders
    (.qm31 (.ofCoords 1 1 2 (-1)))
    (.group .round [.int 2147483648, .bool true, .m31 2, .int (-1)]) rfl
  obtain ⟨_, _, hdiffers, _⟩ := equality_in_both_orders
    (.qm31 (.ofCoords 1 1 2 (-1)))
    (.group .square [.int 1, .bool true, .nothing, .int (-1)]) rfl
  exact ⟨hcoordinates .qm31 rfl hadmits, hequals.trans rfl, hdiffers.trans rfl⟩

end TowerFold
