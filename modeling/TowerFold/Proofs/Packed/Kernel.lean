import TowerFold.Packed.Conversion
import TowerFold.Proofs.Fold.Sizes
import TowerFold.Proofs.Operand.Arithmetic
import TowerFold.Proofs.Packed.Columns
import TowerFold.Proofs.Packed.Element
import TowerFold.Proofs.Packed.Settled

/-!
# Products of grids of words

The product of two grids holds, at every index of the outer axes, the reduced coordinates of
the product of the two elements that are unpacked from the rows there. The words need not be
reduced, as long as they are below `2 ^ 32`.
-/

namespace TowerFold.Grid

variable {x y : Grid UInt64} {as bs : List Nat} {n m : Nat}

/-- The first four words along the innermost axis, kept as a grid of their own. -/
def row (g : Grid UInt64) (index : List Nat) : Operand :=
  .ofGrid ⟨[4], fun place => g.entry (place ++ index)⟩

/-- From a row the element is unpacked that has the residues of its words as coordinates. -/
theorem unpackRow_row (index : List Nat) :
    unpackRow (x.row index) = .ok (x.packedAt index).toQM31 := by
  have hscalar (w : UInt64) : (Operand.int w.toNat).toM31? = some (.ofNat w.toNat) :=
    congrArg some (Int.cast_natCast w.toNat : ((w.toNat : ℤ) : M31) = (w.toNat : M31))
  rw [unpackRow, row, Operand.iterated_of_elements (Operand.elements_ofGrid_line 4 _), ok_bind]
  exact QM31.ofOperand_group .square (hscalar _) (hscalar _) (hscalar _) (hscalar _)

/-- Words are found again where packed elements were spread out. -/
theorem words_unpacked (g : Grid Packed) (index : List Nat) {z : QM31}
    (h : g.entry index = .ofQM31 z) :
    (List.range 4).map (fun j => (g.unpacked.entry (j :: index)).toNat) =
      z.coords.map M31.val := by
  have hwords : (List.range 4).map (fun j => (g.unpacked.entry (j :: index)).toNat) =
      [(g.entry index).a, (g.entry index).b, (g.entry index).c, (g.entry index).d].map
        UInt64.toNat := rfl
  have hpacked : Packed.ofQM31 z = ⟨Word.ofM31 z.re.re, Word.ofM31 z.re.im,
      Word.ofM31 z.im.re, Word.ofM31 z.im.im⟩ := rfl
  rw [hwords, h, hpacked]
  simp only [List.map_cons, List.map_nil, Word.toNat_ofM31, QM31.coords]

/-- The words of a row are short if all words of the grid that are looked at are. -/
theorem isShort_packedAt {i : List Nat} (h : ∀ j < 4, (x.entry (j :: i)).toNat < 2 ^ 32) :
    (x.packedAt i).IsShort where
  a_lt := h 0 (by decide)
  b_lt := h 1 (by decide)
  c_lt := h 2 (by decide)
  d_lt := h 3 (by decide)

/-- The product of two grids of words below `2 ^ 32` has the stretched outer axes, and four
words along the innermost one: at every index, the reduced coordinates of the product of the
elements that are unpacked from the rows of the factors that stand for it. Whole columns
multiplied step by step have the same product. -/
theorem packedMul_eq_products (hx : x.axes = n :: as) (hy : y.axes = m :: bs) (hn : 4 ≤ n)
    (hm : 4 ≤ m) (hfits : Fits as bs)
    (hxwords : ∀ i ∈ indices as, ∀ j < 4, (x.entry (j :: i)).toNat < 2 ^ 32)
    (hywords : ∀ i ∈ indices bs, ∀ j < 4, (y.entry (j :: i)).toNat < 2 ^ 32) :
    ∃ product, x.packedMul y = .ok product ∧ product.axes = 4 :: stretched as bs ∧
      (∀ index ∈ indices (stretched as bs), ∃ i i' k l z,
        StandsFor as i index ∧ StandsFor bs i' index ∧
        unpackRow (x.row i) = .ok k ∧ unpackRow (y.row i') = .ok l ∧
        (Operand.qm31 k).mul (.qm31 l) = .ok (.qm31 z) ∧
        (List.range 4).map (fun j => (product.entry (j :: index)).toNat) =
          z.coords.map M31.val) ∧
      ∃ columns, columnMul x y = .ok columns ∧
        List.Forall₂ (fun j c => Holds (stretched as bs) (product.column j).entry c)
          (List.range 4) columns := by
  have hmul := packedMul_of_fits hx hy hn hm hfits
  refine ⟨_, hmul, rfl, fun index hindex => ?_, columnMul_of_fits hx hy hn hm hfits hmul⟩
  have hi : StandsFor as (project as index) index := standsFor_project hindex
  have hi' : StandsFor bs (project bs index) index :=
    standsFor_project (stretched_comm hfits ▸ hindex)
  have hproduct := Packed.mul_of_mul? (Packed.mul?_of_isShort
    (isShort_packedAt (hxwords _ hi.mem)) (isShort_packedAt (hywords _ hi'.mem)))
  refine ⟨_, _, _, _, _, hi, hi', unpackRow_row _, unpackRow_row _,
    Operand.qm31_mul_of_ok _ rfl, ?_⟩
  exact words_unpacked _ _ hproduct

/-- Five words along the innermost axis, all the largest below `2 ^ 32`. -/
def fullWords : Grid UInt64 := ⟨[5, 1, 2], fun _ => 4294967295⟩

/-- Three rows of four words, which fall from the largest below `2 ^ 32`. -/
def fallingWords : Grid UInt64 := ⟨[4, 3], fun index => UInt64.ofNat (4294967295 - index.sum)⟩

/-- Unreduced words in grids of different axes, of which two are stretched and one word of every
row is left over. -/
theorem packedMul_eq_products_of_unreduced :
    ∃ product, fullWords.packedMul fallingWords = .ok product ∧ product.axes = [4, 3, 2] ∧
      (∀ index ∈ indices [3, 2], ∃ i i' k l z,
        StandsFor [1, 2] i index ∧ StandsFor [3] i' index ∧
        unpackRow (fullWords.row i) = .ok k ∧ unpackRow (fallingWords.row i') = .ok l ∧
        (Operand.qm31 k).mul (.qm31 l) = .ok (.qm31 z) ∧
        (List.range 4).map (fun j => (product.entry (j :: index)).toNat) =
          z.coords.map M31.val) ∧
      ∃ columns, columnMul fullWords fallingWords = .ok columns ∧
        List.Forall₂ (fun j c => Holds [3, 2] (product.column j).entry c) (List.range 4)
          columns := by
  have hfits : Fits [1, 2] [3] := by
    intro t
    match t with
    | 0 => exact .inr (.inl rfl)
    | t + 1 => exact .inr (.inr rfl)
  have hfull : (4294967295 : UInt64).toNat < 2 ^ 32 := by decide
  exact packedMul_eq_products (x := fullWords) (y := fallingWords) rfl rfl (by decide) (by decide)
    hfits (fun _ _ _ _ => hfull) (by decide)

end TowerFold.Grid
