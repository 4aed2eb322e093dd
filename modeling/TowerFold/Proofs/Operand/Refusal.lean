import TowerFold.Proofs.Operand.Faults

/-!
# What a field refuses to coerce

A field refuses an operand for its kind, and says so with the text of the operand. There are two
exceptions, both of them groups. One that is too short or too long for the field, and whose text
would hold an integer that is too long to be written, is refused for that integer. One of the right
length is refused for its first item without a remainder, and that may be a text or bytes with
directives that cannot be followed.
-/

namespace TowerFold

/-- A group of another number of items than `count`, whose text would hold an integer that is too
long to be written. -/
def Operand.IsUnwritableMisfit (count : ℕ) (v : Operand) : Prop :=
  ∃ b items, v = .group b items ∧ items.length ≠ count ∧ areWritable items = false

/-- A group of `count` items, of which the first one that the base class refuses is refused for
another reason than its kind. -/
inductive Operand.IsMisfilledGroup (count : ℕ) : Operand → Prop
  | intro (b : Brackets) {before after : List Operand} {item : Operand} {fault : Fault}
    (hcount : (before ++ item :: after).length = count)
    (hbefore : ∀ other ∈ before, ∃ r, other.remainder = .ok r)
    (hitem : item.remainder = .error fault) (hfault : fault.errorClass ≠ .kind) :
    IsMisfilledGroup count (.group b (before ++ item :: after))

/-- What a field with `count` coordinates refuses an operand for: for its kind, exactly if neither
the text of a misfit fails first nor an item for another reason. -/
structure RefusedByKind (count : ℕ) (v : Operand) (fault : Fault) : Prop where
  errorClass_eq_iff :
    fault.errorClass = .kind ↔ ¬v.IsUnwritableMisfit count ∧ ¬v.IsMisfilledGroup count
  eq_numeralTooLong (hv : v.IsUnwritableMisfit count) : fault = .numeralTooLong

variable {v : Operand} {fault : Fault} {count : ℕ}

/-- Only integers and groups can have a text that is too long. -/
theorem Operand.exists_group_of_not_isWritable (hscalar : v.toM31? = none)
    (hv : v.isWritable = false) : ∃ b items, v = .group b items ∧ areWritable items = false := by
  cases v with
  | int n => cases hscalar
  | group b items => exact ⟨b, items, rfl, hv⟩
  | _ => cases hv

namespace RefusedByKind

/-- What is no misfit, and no group of the right length, is refused for its kind. -/
theorem of_kind (hfault : fault.errorClass = .kind) (hmisfit : ¬v.IsUnwritableMisfit count)
    (hcount : ∀ b items, v = .group b items → items.length ≠ count) :
    RefusedByKind count v fault where
  errorClass_eq_iff := by
    refine iff_of_true hfault ⟨hmisfit, ?_⟩
    rintro ⟨b, hlength, _, _, _⟩
    exact hcount b _ rfl hlength
  eq_numeralTooLong hv := absurd hv hmisfit

/-- A misfit is refused for the integer that is too long. -/
theorem of_isUnwritableMisfit (hv : v.IsUnwritableMisfit count) :
    RefusedByKind count v .numeralTooLong where
  errorClass_eq_iff := iff_of_false nofun fun h => h.1 hv
  eq_numeralTooLong _ := rfl

/-- An operand that is no scalar and no group of `count` items is incompatible, if that can be
stated. -/
theorem of_stated (hscalar : v.toM31? = none)
    (hcount : ∀ b items, v = .group b items → items.length ≠ count) :
    RefusedByKind count v (Fault.incompatible v).stated := by
  have hrepeats : Operand.areWritable (Fault.incompatible v).repeats = v.isWritable := by
    rw [Fault.repeats, Operand.areWritable, Operand.areWritable, Bool.and_true]
  unfold Fault.stated
  rw [hrepeats]
  cases hwritable : v.isWritable with
  | true =>
    refine of_kind rfl ?_ hcount
    rintro ⟨b, items, rfl, _, hitems⟩
    exact absurd (hwritable.symm.trans hitems) nofun
  | false =>
    obtain ⟨b, items, hgroup, hitems⟩ := Operand.exists_group_of_not_isWritable hscalar hwritable
    exact of_isUnwritableMisfit ⟨b, items, hgroup, hcount b items hgroup, hitems⟩

/-- A group of `count` items is refused as its first item that has no remainder. -/
theorem of_items {b : Brackets} {items : List Operand} (hcount : items.length = count)
    (hitems : items.mapM Operand.remainder = .error fault) :
    RefusedByKind count (.group b items) fault where
  errorClass_eq_iff := by
    constructor
    · intro hfault
      refine ⟨?_, ?_⟩
      · rintro ⟨_, _, ⟨⟩, hne, _⟩
        exact hne hcount
      · rintro ⟨_, _, hbefore, hitem, hother⟩
        cases hitems.symm.trans (mapM_eq_error_iff.mpr ⟨_, _, _, rfl, hbefore, hitem⟩)
        exact hother hfault
    · rintro ⟨-, hmisfilled⟩
      obtain ⟨before, item, after, rfl, hbefore, hitem⟩ := mapM_eq_error_iff.mp hitems
      by_contra hfault
      exact hmisfilled (.intro b hcount hbefore hitem hfault)
  eq_numeralTooLong := by
    rintro ⟨_, _, ⟨⟩, hne, _⟩
    exact absurd hcount hne

end RefusedByKind

/-- A pair without coordinates has an item without a remainder. -/
theorem Operand.mapM_remainder_of_complexCoords (b : Brackets) {v₀ v₁ : Operand}
    (h : complexCoords (.group b [v₀, v₁]) = .error fault) :
    [v₀, v₁].mapM remainder = .error fault := by
  rw [complexCoords] at h
  cases h₀ : v₀.remainder <;> cases h₁ : v₁.remainder <;> simp_all

/-- What the complex extension refuses. -/
theorem CM31.refusedByKind_of_complexCoords (hregular : v.isIrregular = false)
    (hv : v.complexCoords = .error fault) : RefusedByKind 2 v fault := by
  unfold Operand.complexCoords at hv
  split at hv
  · cases hv
  · cases hregular
  · cases hregular
  · next b _ _ => exact .of_items rfl (Operand.mapM_remainder_of_complexCoords b hv)
  · next hgroup =>
    split at hv
    · cases hv
    · next hscalar =>
      cases hv
      refine .of_stated hscalar ?_
      rintro b items rfl hcount
      obtain ⟨a₀, a₁, rfl⟩ := List.length_eq_two.mp hcount
      exact hgroup b a₀ a₁ rfl

/-- Four items without coordinates have one among them without a remainder. -/
theorem Operand.mapM_remainder_of_quarticCoords (b : Brackets) {v₀ v₁ v₂ v₃ : Operand}
    (h : quarticCoords (.group b [v₀, v₁, v₂, v₃]) = .error fault) :
    [v₀, v₁, v₂, v₃].mapM remainder = .error fault := by
  rw [quarticCoords] at h
  cases h₀ : v₀.remainder <;> cases h₁ : v₁.remainder <;> cases h₂ : v₂.remainder <;>
    cases h₃ : v₃.remainder <;> simp_all

/-- What the extension of degree four refuses. -/
theorem QM31.refusedByKind_of_quarticCoords (hregular : v.isIrregular = false)
    (hv : v.quarticCoords = .error fault) : RefusedByKind 4 v fault := by
  unfold Operand.quarticCoords at hv
  split at hv
  · cases hv
  · cases hregular
  · cases hregular
  · next b _ _ _ _ => exact .of_items rfl (Operand.mapM_remainder_of_quarticCoords b hv)
  · next hgroup =>
    split at hv
    · cases hv
    · next hscalar =>
      cases hv
      refine .of_stated hscalar ?_
      rintro b items rfl hcount
      obtain ⟨a₀, a₁, a₂, a₃, rfl⟩ := List.length_eq_four.mp hcount
      exact hgroup b a₀ a₁ a₂ a₃ rfl

/-! ## What is not accepted as an irregular element -/

/-- Whether the base class keeps at most a residue of an operand: that is no irregular element, no
word and no grid, and has no percent sign if it is a text or bytes. -/
def Operand.isPlain : Operand → Bool
  | .irregular _ | .word _ | .grid _ => false
  | .text s => '%' ∉ s.toList
  | .bytes data => '%' ∉ data.map fun b => Char.ofNat b.toNat
  | _ => true

/-- Whether an extension keeps at most residues of an operand: that is no irregular element, and
has plain items if it is a group. -/
def Operand.hasPlainItems : Operand → Bool
  | .irregular _ => false
  | .group _ items => items.all isPlain
  | _ => true

/-- Without a percent sign there is no place for the modulus. -/
theorem fillModulus_of_not_mem (script : Text.Script) {cs : List Char} (hcs : '%' ∉ cs) :
    fillModulus script cs = .error (.misfilled script .unused) := by
  rw [fillModulus, Text.fill_of_not_mem script modulus hcs]

namespace Operand

variable {r : Representative}

/-- What the base class keeps of a plain operand is a residue. -/
theorem isResidue_of_isPlain (hv : v.isPlain = true) (hr : v.remainder = .ok r) :
    r.isResidue = true := by
  cases v with
  | int | bool | m31 =>
    cases hr
    rfl
  | text s =>
    obtain ⟨_, hwritten, _⟩ := bind_eq_ok_iff.mp hr
    rw [fillModulus_of_not_mem _ (of_decide_eq_true hv)] at hwritten
    cases hwritten
  | bytes data =>
    obtain ⟨_, hwritten, _⟩ := bind_eq_ok_iff.mp hr
    rw [fillModulus_of_not_mem _ (of_decide_eq_true hv)] at hwritten
    cases hwritten
  | irregular | word | grid => cases hv
  | _ => cases hr

/-- The complex class keeps residues of plain items. -/
theorem isRegular_of_complexCoords (hv : v.hasPlainItems = true) {coords : ComplexCoords}
    (h : v.complexCoords = .ok coords) : (RawElement.complex coords).isRegular = true := by
  unfold complexCoords at h
  split at h
  · cases h
    rfl
  · cases hv
  · cases hv
  · simp only [bind_eq_ok_iff, pure_eq_ok, Except.ok.injEq] at h
    obtain ⟨a, ha, b, hb, rfl⟩ := h
    simp only [hasPlainItems, List.all_cons, List.all_nil, Bool.and_true, Bool.and_eq_true] at hv
    simp [RawElement.isRegular, RawElement.coords, isResidue_of_isPlain hv.1 ha,
      isResidue_of_isPlain hv.2 hb]
  · split at h
    · cases h
      rfl
    · cases h

/-- The class of degree four keeps residues of plain items. -/
theorem isRegular_of_quarticCoords (hv : v.hasPlainItems = true) {coords : QuarticCoords}
    (h : v.quarticCoords = .ok coords) : (RawElement.quartic coords).isRegular = true := by
  unfold quarticCoords at h
  split at h
  · cases h
    rfl
  · cases hv
  · cases hv
  · simp only [bind_eq_ok_iff, pure_eq_ok, Except.ok.injEq] at h
    obtain ⟨a, ha, b, hb, c, hc, d, hd, rfl⟩ := h
    simp only [hasPlainItems, List.all_cons, List.all_nil, Bool.and_true, Bool.and_eq_true] at hv
    obtain ⟨hva, hvb, hvc, hvd⟩ := hv
    simp [RawElement.isRegular, RawElement.coords, isResidue_of_isPlain hva ha,
      isResidue_of_isPlain hvb hb, isResidue_of_isPlain hvc hc, isResidue_of_isPlain hvd hd]
  · split at h
    · cases h
      rfl
    · cases h

end Operand

/-- With plain items an operand stays regular in both extensions. -/
theorem Operand.staysRegular_of_hasPlainItems (hv : v.hasPlainItems = true) :
    StaysRegular CM31.ofOperand v ∧ StaysRegular QM31.ofOperand v := by
  have hregular : v.isIrregular = false := by
    cases v with
    | irregular => cases hv
    | _ => rfl
  refine ⟨⟨hregular, v.complexCoords_failsByOperands.endsRegularly.bind fun x hx => ?_⟩,
    ⟨hregular, v.quarticCoords_failsByOperands.endsRegularly.bind fun x hx => ?_⟩⟩
  · rw [RawElement.checkRegular_eq_ok_iff.mpr (isRegular_of_complexCoords hv hx), ok_bind]
    exact .ok _
  · rw [RawElement.checkRegular_eq_ok_iff.mpr (isRegular_of_quarticCoords hv hx), ok_bind]
    exact .ok _

/-- Operands with plain items stay regular in the extension of degree four. -/
theorem Operand.forall_staysRegular (vs : List Operand) (hvs : vs.all hasPlainItems = true) :
    ∀ v ∈ vs, StaysRegular QM31.ofOperand v := fun v hv =>
  (staysRegular_of_hasPlainItems (List.all_eq_true.mp hvs v hv)).2

end TowerFold
