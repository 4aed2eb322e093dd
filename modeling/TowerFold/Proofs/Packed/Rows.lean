import TowerFold.Proofs.Fold.Precedence
import TowerFold.Proofs.Operand.Equality
import TowerFold.Proofs.Packed.Conversion
import TowerFold.Proofs.Packed.Kernel
import TowerFold.Proofs.Packed.Settled

/-!
# Arrays of packed operands

A sequence of operands is packed into an array with a row of four words for each of them: the
reduced coordinates of the element that it is coerced to. From a row this element is unpacked, and
a row of integers of any size is unpacked to the element that is packed as their residues. What
cannot be coerced cannot be packed, and the first such operand decides the fault. Where an operand
is accepted as an irregular element, what its class keeps may still have no place in a word.
-/

namespace TowerFold

/-- The array that is kept of the items of an operand, packed. -/
def packArray (values : Operand) : Except Fault Operand := do
  return .ofGrid (.ofRows (← packOperand values))

/-- A row of an array: four words that are the coordinates of an element, from which that element
is unpacked. -/
structure IsRowOf (x : QM31) (row : Operand) : Prop where
  exists_words : ∃ words : List UInt64, row.elements = .ok (words.map .word) ∧
    words.map (fun w => (w.toNat : ℤ)) = (Operand.qm31 x).coordinates
  unpackRow_eq : unpackRow row = .ok x

/-- An array with a row of four words for every one of the elements. -/
structure HoldsRows (xs : List QM31) (array : Operand) : Prop where
  exists_grid : ∃ g, array = .grid g ∧ g.shape = [xs.length, 4]
  exists_rows : ∃ rows, array.elements = .ok rows ∧ List.Forall₂ IsRowOf xs rows

variable {values row : Operand} {vs : List Operand} {xs : List QM31} {fault : Fault}

/-- Integers in any sequence of four are unpacked to the element that has their residues as
coordinates. -/
theorem unpackRow_of_integers {ns : List ℤ} (hlength : ns.length = 4) {items : List Operand}
    (hitems : items.map Operand.toInteger = ns.map .ok) (hrow : row.elements = .ok items) :
    ∃ x, unpackRow row = .ok x ∧
      (Operand.qm31 x).coordinates = ns.map (· % (modulus : ℤ)) := by
  obtain ⟨a, b, c, d, rfl⟩ := List.length_eq_four.mp hlength
  have hscalar (n : ℤ) : (Operand.int n).toM31? = some (.ofInt n) := rfl
  refine ⟨.ofCoords (.ofInt a) (.ofInt b) (.ofInt c) (.ofInt d), ?_, ?_⟩
  · rw [unpackRow, Operand.iterated_of_elements hrow, ok_bind, mapM_eq_ok_iff.mpr hitems]
    exact QM31.ofOperand_group .square (hscalar a) (hscalar b) (hscalar c) (hscalar d)
  · simp [Operand.coordinates, QM31.coords, QM31.ofCoords]

/-- Words with the coordinates of an element are a row of it. -/
theorem IsRowOf.of_words {x : QM31} {words : List UInt64}
    (hrow : row.elements = .ok (words.map .word))
    (hwords : words.map (fun w => (w.toNat : ℤ)) = (Operand.qm31 x).coordinates) :
    IsRowOf x row where
  exists_words := ⟨words, hrow, hwords⟩
  unpackRow_eq := by
    have hlength : (words.map fun w => (w.toNat : ℤ)).length = 4 := by
      rw [hwords]
      rfl
    have hitems : (words.map Operand.word).map Operand.toInteger =
        (words.map fun w => (w.toNat : ℤ)).map .ok := by
      rw [List.map_map, List.map_map]
      rfl
    obtain ⟨y, hy, hcoords⟩ := unpackRow_of_integers hlength hitems hrow
    rw [hwords, Operand.map_emod_coordinates, Operand.coordinates_qm31] at hcoords
    rw [hy, hcoords]

/-- The slice of an array of packed elements at one of its places is the row of the element
there. -/
theorem isRowOf_slice (i : ℕ) (hi : i < xs.length) :
    IsRowOf xs[i] (.ofGrid
      ⟨[4], fun index => (Grid.ofRows (xs.map Packed.ofQM31)).entry (index ++ [i])⟩) := by
  have hpacked : (xs.map Packed.ofQM31).toArray.getD i ⟨0, 0, 0, 0⟩ = .ofQM31 xs[i] := by
    simp [Array.getD_eq_getD_getElem?, hi]
  have hwords := Grid.words_unpacked ⟨[(xs.map Packed.ofQM31).toArray.size],
    fun index => (xs.map Packed.ofQM31).toArray.getD (index.headD 0) ⟨0, 0, 0, 0⟩⟩ [i] hpacked
  have hcast := congrArg (List.map (Nat.cast : ℕ → ℤ)) hwords
  rw [List.map_map, List.map_map] at hcast
  refine .of_words (Operand.elements_ofGrid_line 4 _) ?_
  rw [List.map_map]
  exact hcast

/-- The array of packed elements has them as rows. -/
theorem holdsRows_ofRows (xs : List QM31) :
    HoldsRows xs (.ofGrid (.ofRows (xs.map Packed.ofQM31))) := by
  have haxes : (Grid.ofRows (xs.map Packed.ofQM31)).axes = [4] ++ [xs.length] := by
    simp [Grid.ofRows, Grid.unpacked]
  refine ⟨⟨_, if_neg (by simp [haxes]), ?_⟩, _, Operand.elements_ofGrid haxes, ?_⟩
  · have hsettled : (Grid.ofRows (xs.map Packed.ofQM31)).settled.axes = [4] ++ [xs.length] := haxes
    rw [Grid.shape, hsettled]
    rfl
  · refine List.forall₂_iff_get.mpr ⟨by simp, fun i hi _ => ?_⟩
    simpa using isRowOf_slice i hi

/-- What the items of a sequence are coerced to decides the array. -/
theorem packArray_of_elements (hvalues : values.elements = .ok vs)
    (hregular : ∀ v ∈ vs, StaysRegular QM31.ofOperand v) :
    packArray values = do
      return .ofGrid (.ofRows ((← vs.mapM QM31.ofOperand).map Packed.ofQM31)) := by
  rw [packArray, packOperand, hvalues, ok_bind, packValues_eq_coerced hregular, bind_assoc]
  rfl

/-- A sequence is packed as the elements that its items are coerced to. -/
theorem packArray_eq_ok_iff (hvalues : values.elements = .ok vs)
    (hregular : ∀ v ∈ vs, StaysRegular QM31.ofOperand v) {array : Operand} :
    packArray values = .ok array ↔ ∃ xs, vs.mapM QM31.ofOperand = .ok xs ∧
      .ofGrid (.ofRows (xs.map Packed.ofQM31)) = array := by
  rw [packArray_of_elements hvalues hregular, bind_eq_ok_iff]
  simp only [pure_eq_ok, Except.ok.injEq]

/-- Elements are packed as they are. -/
theorem packArray_of_qm31 (b : Brackets) (xs : List QM31) :
    packArray (.group b (xs.map .qm31)) = .ok (.ofGrid (.ofRows (xs.map Packed.ofQM31))) := by
  have hregular : ∀ v ∈ xs.map Operand.qm31, StaysRegular QM31.ofOperand v := by
    simp only [List.forall_mem_map]
    exact fun x _ => .of_qm31 (QM31.ofOperand_qm31 x)
  have hself : (xs.map Operand.qm31).mapM QM31.ofOperand = .ok xs := by
    rw [mapM_eq_ok_iff, List.map_map]
    rfl
  exact (packArray_eq_ok_iff rfl hregular).mpr ⟨xs, hself, rfl⟩

/-- The first operand that is refused is the one for which a list is not coerced. -/
theorem FirstRefusal.mapM_eq_error {i : ℕ} (hrefused : FirstRefusal vs i fault) :
    vs.mapM QM31.ofOperand = .error fault := by
  induction vs generalizing i with
  | nil =>
    obtain ⟨v, hv, _⟩ := hrefused.refused
    cases hv
  | cons v vs ih =>
    cases i with
    | zero =>
      obtain ⟨w, hw, hfault⟩ := hrefused.refused
      obtain rfl := Option.some.inj hw
      rw [List.mapM_cons, hfault, error_bind]
    | succ i =>
      obtain ⟨x, hx⟩ := hrefused.accepted_before 0 v i.succ_pos rfl
      have hrest : FirstRefusal vs i fault := hrefused.drop (n := 1) (by omega)
      rw [List.mapM_cons, hx, ok_bind, ih hrest, error_bind]

/-- A list is refused as the first operand in it is that is refused. -/
theorem mapM_ofOperand_eq_error_iff :
    vs.mapM QM31.ofOperand = .error fault ↔ ∃ i, FirstRefusal vs i fault := by
  constructor
  · intro hfault
    have hrefused : ∃ v ∈ vs, ¬QM31.Accepts v := by
      by_contra hnone
      push Not at hnone
      obtain ⟨xs, hxs⟩ := exists_mapM_eq_ok_iff.mpr hnone
      cases hxs.symm.trans hfault
    obtain ⟨i, first, hfirst⟩ := FirstRefusal.exists_of_not_accepts hrefused
    cases hfirst.mapM_eq_error.symm.trans hfault
    exact ⟨i, hfirst⟩
  · rintro ⟨i, hfirst⟩
    exact hfirst.mapM_eq_error

/-- A sequence is not packed exactly because of the first operand in it that is refused. -/
theorem packArray_eq_error_iff (hvalues : values.elements = .ok vs)
    (hregular : ∀ v ∈ vs, StaysRegular QM31.ofOperand v) :
    packArray values = .error fault ↔ ∃ i, FirstRefusal vs i fault := by
  rw [packArray_of_elements hvalues hregular, ← mapM_ofOperand_eq_error_iff]
  cases vs.mapM QM31.ofOperand <;> simp

/-- A sequence is packed exactly if every item is coerced, and otherwise the first item that is
refused decides the fault. The array has a row of four words for every item, which are the reduced
coordinates of the element that the item is coerced to; from the row this element is unpacked, and
the list of all these elements is packed into the same array. It makes no difference whether only
the first column is filled or the items are packed one by one. All this is so unless an item is an
irregular element or accepted as one. Four integers of any size are unpacked to an element of which
the array holds their residues. -/
theorem packed_rows_are_coerced (hvalues : values.elements = .ok vs) :
    ((∀ v ∈ vs, StaysRegular QM31.ofOperand v) →
        ((∃ array, packArray values = .ok array) ↔ ∀ v ∈ vs, QM31.Accepts v) ∧
        (∀ array, packArray values = .ok array → ∃ xs, vs.mapM QM31.ofOperand = .ok xs ∧
          HoldsRows xs array ∧ packArray (.group .square (xs.map .qm31)) = .ok array) ∧
        packValues vs = vs.mapM packValue ∧
        ∀ fault, packArray values = .error fault ↔ ∃ i, FirstRefusal vs i fault) ∧
      ∀ (row : Operand) (items : List Operand) (ns : List ℤ), row.elements = .ok items →
        items.map Operand.toInteger = ns.map .ok → ns.length = 4 →
        ∃ x array, unpackRow row = .ok x ∧ packArray (.group .square [.qm31 x]) = .ok array ∧
          HoldsRows [x] array ∧
          (Operand.qm31 x).coordinates = ns.map (· % (modulus : ℤ)) := by
  refine ⟨fun hregular => ⟨?_, fun array harray => ?_,
      packValues_eq_mapM fun v hv => (hregular v hv).isIrregular_eq,
      fun fault => packArray_eq_error_iff hvalues hregular⟩,
    fun row items ns hrow hitems hlength => ?_⟩
  · refine Iff.trans ?_ exists_mapM_eq_ok_iff
    constructor
    · rintro ⟨array, harray⟩
      obtain ⟨xs, hxs, _⟩ := (packArray_eq_ok_iff hvalues hregular).mp harray
      exact ⟨xs, hxs⟩
    · rintro ⟨xs, hxs⟩
      exact ⟨_, (packArray_eq_ok_iff hvalues hregular).mpr ⟨xs, hxs, rfl⟩⟩
  · obtain ⟨xs, hxs, rfl⟩ := (packArray_eq_ok_iff hvalues hregular).mp harray
    exact ⟨xs, hxs, holdsRows_ofRows xs, packArray_of_qm31 .square xs⟩
  · obtain ⟨x, hx, hcoords⟩ := unpackRow_of_integers hlength hitems hrow
    exact ⟨x, _, hx, packArray_of_qm31 .square [x], holdsRows_ofRows [x], hcoords⟩

/-- A base-field element and a tuple of scalars fill two rows. A text and an absent value are both
refused, and the text comes first. A tuple of integers on both sides of the modulus is unpacked to
its residues. -/
theorem packed_rows_are_coerced_of_pairs :
    (∃ array, packArray (.group .square [.m31 (.ofNat 5),
        .group .round [.int (-1), .bool true, .m31 0, .int 2147483648]]) = .ok array ∧
      HoldsRows [.ofM31 (.ofNat 5), .ofCoords (.ofInt (-1)) 1 0 1] array) ∧
      packArray (.group .square [.int 7, .text "y", .nothing]) =
        .error (.incompatible (.text "y")) ∧
      ∃ x array, unpackRow (.group .round [.int (-1), .int 2147483648, .bool true, .int 5]) =
          .ok x ∧ packArray (.group .square [.qm31 x]) = .ok array ∧ HoldsRows [x] array ∧
        (Operand.qm31 x).coordinates = [2147483646, 1, 1, 5] := by
  have hpair : (Operand.group .square [.m31 (.ofNat 5),
      .group .round [.int (-1), .bool true, .m31 0, .int 2147483648]]).elements = .ok _ := rfl
  have htexts : (Operand.group .square [.int 7, .text "y", .nothing]).elements = .ok _ := rfl
  have hcoerced : [Operand.m31 (.ofNat 5),
      .group .round [.int (-1), .bool true, .m31 0, .int 2147483648]].mapM QM31.ofOperand =
      .ok [.ofM31 (.ofNat 5), .ofCoords (.ofInt (-1)) 1 0 1] := rfl
  have haccepted := exists_mapM_eq_ok_iff.mp ⟨_, hcoerced⟩
  have hregular := Operand.forall_staysRegular [.int 7, .text "y", .nothing] rfl
  have hrefused : FirstRefusal [.int 7, .text "y", .nothing] 1 (.incompatible (.text "y")) :=
    .cons ⟨_, rfl⟩ ⟨⟨_, rfl, rfl⟩, fun i v hlt _ => by omega⟩
  obtain ⟨hregular_of_accepted, hunpacked⟩ := packed_rows_are_coerced hpair
  obtain ⟨hpacked, hrows, -, -⟩ := hregular_of_accepted fun v hv =>
    (haccepted v hv).elim fun x hx => .of_qm31 hx
  refine ⟨?_, (((packed_rows_are_coerced htexts).1 hregular).2.2.2 _).mpr ⟨1, hrefused⟩, ?_⟩
  · obtain ⟨array, harray⟩ := hpacked.mpr haccepted
    obtain ⟨xs, hxs, hholds, -⟩ := hrows array harray
    cases hcoerced.symm.trans hxs
    exact ⟨array, harray, hholds⟩
  · exact hunpacked (.group .round [.int (-1), .int 2147483648, .bool true, .int 5]) _
      [-1, 2147483648, 1, 5] rfl rfl rfl

/-- A list with a text that takes the modulus is accepted, and its first coordinate is no numeral.
So the array is refused for that, and not for the value behind it, which is the first one that is
not accepted. -/
theorem packArray_of_filled_text :
    (∃ x, Embedding.qm31.apply (.group .square [.text "%s!", .int 0, .int 0, .int 0]) =
        .ok (.irregular x)) ∧
      Embedding.qm31.apply .nothing = .error (.incompatible .nothing) ∧
      packArray (.group .square
          [.group .square [.text "%s!", .int 0, .int 0, .int 0], .nothing]) =
        .error (.malformedNumeral (.text "2147483647!")) ∧
      Fault.errorClass (.malformedNumeral (.text "2147483647!")) ≠
        Fault.errorClass (.incompatible .nothing) :=
  ⟨⟨_, rfl⟩, rfl, rfl, by decide⟩

end TowerFold
