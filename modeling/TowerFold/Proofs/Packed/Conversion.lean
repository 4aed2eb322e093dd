import TowerFold.Packed.Conversion
import TowerFold.Proofs.Packed.Element
import TowerFold.Proofs.RingEmbedding

/-!
# What operands are packed as

Operands that stand for elements of degree four are packed as these elements, also where
all of them are base-field elements and only the first words are filled.
-/

namespace TowerFold

variable {v : Operand} {values : List Operand}

/-- An operand that stands for an element is coerced to it. -/
theorem ofOperand_of_denotes {x : QM31} (hv : RingEmbedding.qm31.Denotes v x) :
    QM31.ofOperand v = .ok x :=
  Embedding.qm31_apply_eq_ok_iff.mp hv.apply_eq

/-- A list of which the base-field elements are known holds nothing else. -/
theorem eq_map_of_baseElements? {ks : List M31} (hbase : baseElements? values = some ks) :
    values = ks.map .m31 := by
  induction values generalizing ks with
  | nil =>
    cases hbase
    rfl
  | cons v values ih =>
    simp only [baseElements?, List.mapM_cons, Option.bind_eq_bind, Option.bind_eq_some_iff,
      Option.pure_def, Option.some.injEq] at hbase
    obtain ⟨k, hk, rest, hrest, rfl⟩ := hbase
    cases v with
    | m31 _ =>
      cases hk
      rw [List.map_cons, ← ih hrest]
    | _ => cases hk

/-- Without irregular elements, a list of elements of the base class is one of base-field
elements. -/
theorem baseRepresentatives?_of_regular (hvalues : ∀ v ∈ values, v.isIrregular = false) :
    baseRepresentatives? values = (baseElements? values).map (List.map .residue) := by
  induction values with
  | nil => rfl
  | cons v values ih =>
    obtain ⟨hv, hrest⟩ := List.forall_mem_cons.mp hvalues
    rw [baseRepresentatives?, baseElements?] at ih ⊢
    rw [List.mapM_cons, List.mapM_cons, ih hrest]
    cases v with
    | m31 x => cases h : baseElements? values <;> simp_all [Operand.toRaw?, baseElements?]
    | irregular => cases hv
    | _ => rfl

/-- A single operand is packed as the element that it is coerced to. -/
theorem packValue_eq_coerced (hv : EndsRegularly (QM31.ofOperand v)) :
    packValue v = do return Packed.ofQM31 (← QM31.ofOperand v) := by
  cases hcoerced : QM31.ofOperand v with
  | error fault =>
    rw [packValue, QM31.quarticCoords_eq_error (hv fault hcoerced) hcoerced]
    rfl
  | ok x =>
    rw [packValue, QM31.ofOperand_eq_ok_iff.mp hcoerced]
    rfl

/-- Where only the first words are filled, the same is packed as item by item. -/
theorem packValues_eq_mapM (hvalues : ∀ v ∈ values, v.isIrregular = false) :
    packValues values = values.mapM packValue := by
  unfold packValues
  cases hbase : baseElements? values with
  | none => simp only [baseRepresentatives?_of_regular hvalues, hbase, Option.map_none]
  | some ks =>
    have hcopy (k : M31) : packValue (.m31 k) = .ok (.ofM31 k) := rfl
    rw [eq_map_of_baseElements? hbase, eq_comm, mapM_eq_ok_iff, List.map_map, List.map_map]
    exact List.map_congr_left fun k _ => hcopy k

/-- A list of operands is packed as the list of the elements that they are coerced to. -/
theorem packValues_eq_coerced (hvalues : ∀ v ∈ values, StaysRegular QM31.ofOperand v) :
    packValues values = do return (← values.mapM QM31.ofOperand).map .ofQM31 := by
  rw [packValues_eq_mapM fun v hv => (hvalues v hv).isIrregular_eq,
    ← mapM_bind_pure QM31.ofOperand Packed.ofQM31 values]
  exact mapM_congr fun v hv => packValue_eq_coerced (hvalues v hv).endsRegularly

/-- Operands that stand for elements are packed as them. -/
theorem packValues_of_denotes {xs : List QM31}
    (hvalues : List.Forall₂ RingEmbedding.qm31.Denotes values xs) :
    packValues values = .ok (xs.map Packed.ofQM31) := by
  have hcoerced : values.mapM QM31.ofOperand = .ok xs :=
    mapM_of_forall₂ (hvalues.imp fun _ _ hv => ofOperand_of_denotes hv)
  have hregular (v : Operand) (hv : v ∈ values) : StaysRegular QM31.ofOperand v := by
    obtain ⟨x, hx⟩ := exists_mapM_eq_ok_iff.mp ⟨xs, hcoerced⟩ v hv
    exact .of_qm31 hx
  rw [packValues_eq_coerced hregular, hcoerced, ok_bind, pure_eq_ok]

end TowerFold
