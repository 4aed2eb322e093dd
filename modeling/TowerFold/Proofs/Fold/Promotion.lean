import TowerFold.Proofs.Fold.Halves
import TowerFold.Proofs.Operand.Promotion

/-!
# Folds of mixed kinds

A fold over integers, truth values, base-field elements and elements of degree four may go
through results of all these kinds. Whether its values are embedded in the field of degree
four, in the base field, in the integers or not at all, its result stands for one and the
same element of degree four.
-/

namespace TowerFold

variable {v : Operand} {e : Embedding}

/-- The join of operands stands for the join of what they stand for. -/
theorem Promotes.join {left right factor : Operand} {x y z : QM31} (hleft : Promotes left x)
    (hright : Promotes right y) (hfactor : Promotes factor z) :
    ∃ r, join left right factor = .ok r ∧ Promotes r (x + y * z) := by
  obtain ⟨product, hproduct, hpromotes⟩ := hright.mul hfactor
  obtain ⟨r, hr, hresult⟩ := hleft.add hpromotes
  exact ⟨r, by rw [TowerFold.join, hproduct, ok_bind, hr], hresult⟩

/-- An operand of a kind that is promoted: a scalar or an element of degree four. -/
def Operand.IsPromotable (v : Operand) : Prop := v.IsScalar ∨ ∃ x, v = .qm31 x

/-- An operand of a kind that is promoted stands for an element. -/
theorem Operand.IsPromotable.exists_promotes (hv : v.IsPromotable) : ∃ x, Promotes v x := by
  obtain hv | ⟨x, rfl⟩ := hv
  · obtain ⟨k, hk⟩ := hv.toM31?_eq
    exact ⟨_, .scalar hv hk⟩
  · exact ⟨x, .quartic x⟩

/-- An embedding takes a value of a kind that is promoted: those into the base field and the
integers only take scalars. -/
def Embedding.Takes (e : Embedding) (v : Operand) : Prop :=
  e = .qm31 ∨ e = .identity ∨ (e = .m31 ∨ e = .integer) ∧ v.IsScalar

/-- A scalar keeps its residue in the base field. -/
theorem Operand.IsScalar.apply_m31 {k : M31} (hk : v.toM31? = some k) :
    Embedding.m31.apply v = .ok (.m31 k) := by
  rw [Embedding.apply, M31.ofOperand_of_toM31? hk]
  rfl

/-- A scalar keeps its residue among the integers. -/
theorem Operand.IsScalar.apply_integer {k : M31} (hv : v.IsScalar) (hk : v.toM31? = some k) :
    ∃ n, Embedding.integer.apply v = .ok (.int n) ∧ M31.ofInt n = k := by
  cases hv with
  | int n => exact ⟨n, rfl, Option.some.inj hk⟩
  | bool b => exact ⟨_, rfl, Option.some.inj hk⟩
  | m31 x =>
    cases hk
    exact ⟨_, rfl, (Int.cast_natCast (R := M31) k.val).trans k.ofNat_val⟩

/-- An embedding that takes a value leaves what it stands for as it is. -/
theorem Embedding.Takes.exists_apply (he : e.Takes v) {x : QM31} (hv : Promotes v x) :
    ∃ r, e.apply v = .ok r ∧ Promotes r x := by
  obtain rfl | rfl | ⟨rfl | rfl, hscalar⟩ := he
  · exact ⟨.qm31 x, by rw [Embedding.apply, hv.ofOperand_eq]; rfl, .quartic x⟩
  · exact ⟨v, rfl, hv⟩
  · cases hv with
    | scalar _ hk => exact ⟨_, Operand.IsScalar.apply_m31 hk, .scalar (.m31 _) rfl⟩
    | quartic => cases hscalar
  · cases hv with
    | scalar _ hk =>
      obtain ⟨n, hn, rfl⟩ := hscalar.apply_integer hk
      exact ⟨_, hn, .scalar (.int n) rfl⟩
    | quartic => cases hscalar

/-- A fold over integers, truth values, base-field elements and elements of degree four in any
mixture succeeds with its values embedded in the field of degree four or left as they are,
and where no value is of degree four also with its values embedded in the base field or in
the integers. All the results stand for the same element of degree four. -/
theorem mixed_folds_promote_alike {values factors : Operand} {vs fs : List Operand}
    (hvalues : values.elements = .ok vs) (hfactors : factors.elements = .ok fs)
    (hsizes : vs.length = 2 ^ fs.length) (hvs : ∀ v ∈ vs, v.IsPromotable)
    (hfs : ∀ f ∈ fs, f.IsPromotable) :
    ∃ x : QM31, ∀ e : Embedding,
      (e = .qm31 ∨ e = .identity ∨ (e = .m31 ∨ e = .integer) ∧ ∀ v ∈ vs, v.IsScalar) →
        ∃ r, fold e values factors = .ok r ∧ QM31.ofOperand r = .ok x := by
  -- What the leaves and factors stand for does not depend on the embedding.
  obtain ⟨xs, hxs⟩ := exists_forall₂ fun v hv => (hvs v hv).exists_promotes
  obtain ⟨ys, hys⟩ := exists_forall₂ fun f hf => (hfs f hf).exists_promotes
  refine ⟨bitWeightedSum xs ys, fun e he => ?_⟩
  have htakes (v : Operand) (hv : v ∈ vs) : e.Takes v :=
    he.imp_right (Or.imp_right (And.imp_right fun hscalars => hscalars v hv))
  have hembedded : List.Forall₂ (fun v x => ∃ r, e.apply v = .ok r ∧ Promotes r x) vs xs :=
    ((List.forall₂_and_left vs xs).mpr ⟨htakes, hxs⟩).imp fun v x ⟨hv, hx⟩ => hv.exists_apply hx
  obtain ⟨r, hr, hresult⟩ :=
    foldHalves_of_join (fun hleft hright hfactor => hleft.join hright hfactor) hembedded hys hsizes
  refine ⟨r, ?_, hresult.ofOperand_eq⟩
  rw [fold_of_elements hvalues hfactors, foldList_of_sizes hsizes, hr]

/-- Four scalars of all kinds, one of them past the modulus, under a factor of degree four and
an integer: the exact integers and the base field both give the element that the field of
degree four gives. -/
theorem mixed_folds_promote_alike_on_scalars :
    (∃ r, fold .integer (.group .square [.int (-5), .bool true, .m31 7, .int 4294967296])
          (.group .round [.qm31 (.ofCoords 1 0 3 0), .int (-2)]) = .ok r ∧
        QM31.ofOperand r = .ok (.ofCoords (-4) 0 9 0)) ∧
      ∃ r, fold .m31 (.group .square [.int (-5), .bool true, .m31 7, .int 4294967296])
          (.group .round [.qm31 (.ofCoords 1 0 3 0), .int (-2)]) = .ok r ∧
        QM31.ofOperand r = .ok (.ofCoords (-4) 0 9 0) := by
  have hvs : (Operand.group .square [.int (-5), .bool true, .m31 7, .int 4294967296]).elements =
      .ok [.int (-5), .bool true, .m31 7, .int 4294967296] := rfl
  have hfs : (Operand.group .round [.qm31 (.ofCoords 1 0 3 0), .int (-2)]).elements =
      .ok [.qm31 (.ofCoords 1 0 3 0), .int (-2)] := rfl
  have hscalars : ∀ v ∈ [Operand.int (-5), .bool true, .m31 7, .int 4294967296], v.IsScalar := by
    simp only [List.forall_mem_cons]
    exact ⟨.int _, .bool _, .m31 _, .int _, List.forall_mem_nil _⟩
  have hfactors : ∀ f ∈ [Operand.qm31 (.ofCoords 1 0 3 0), .int (-2)], f.IsPromotable := by
    simp only [List.forall_mem_cons]
    exact ⟨.inr ⟨_, rfl⟩, .inl (.int _), List.forall_mem_nil _⟩
  obtain ⟨x, hx⟩ := mixed_folds_promote_alike hvs hfs rfl (fun v hv => .inl (hscalars v hv))
    hfactors
  have hresult : x = .ofCoords (-4) 0 9 0 := by
    obtain ⟨r, hr, hrx⟩ := hx .qm31 (.inl rfl)
    have hfold : fold .qm31 (.group .square [.int (-5), .bool true, .m31 7, .int 4294967296])
        (.group .round [.qm31 (.ofCoords 1 0 3 0), .int (-2)]) =
          .ok (.qm31 (.ofCoords (-4) 0 9 0)) := rfl
    obtain rfl := Except.ok.inj (hfold.symm.trans hr)
    exact (Except.ok.inj hrx).symm
  rw [← hresult]
  exact ⟨hx .integer (.inr (.inr ⟨.inr rfl, hscalars⟩)),
    hx .m31 (.inr (.inr ⟨.inl rfl, hscalars⟩))⟩

end TowerFold
