import TowerFold.Packed.Kernel
import TowerFold.Proofs.Outcome
import TowerFold.Proofs.Packed.Broadcast

/-!
# The product of grids column by column

The coordinates of packed elements are the columns of a grid: its words at one place of the
innermost axis. Multiplied as whole columns, by the operations on grids and with broadcasting at
every step, packed elements have the product that they have one by one. Once two columns have
been combined, all axes are stretched, and later steps leave them as they are.
-/

namespace TowerFold.Grid

variable {x y g h : Grid UInt64} {as bs axes index : List Nat} {n m : Nat}
  {f f' : List Nat → UInt64}

/-- The first four words along the innermost axis, as one packed element. -/
def packedAt (g : Grid UInt64) (index : List Nat) : Packed :=
  ⟨g.entry (0 :: index), g.entry (1 :: index), g.entry (2 :: index), g.entry (3 :: index)⟩

/-- The words at one place of the innermost axis. -/
def column (g : Grid UInt64) (j : Nat) : Grid UInt64 :=
  ⟨g.axes.tail, fun index => g.entry (j :: index)⟩

/-- The columns of the product of packed elements, by operations on whole columns. -/
def columnMul (x y : Grid UInt64) : Except Fault (List (Grid UInt64)) := do
  let low ← complexMul (x.column 0) (x.column 1) (y.column 0) (y.column 1)
  let high ← complexMul (x.column 2) (x.column 3) (y.column 2) (y.column 3)
  let highRe ← sub (← add high.1 high.1) high.2
  let highIm ← add high.1 (← add high.2 high.2)
  let outer ← complexMul (x.column 0) (x.column 1) (y.column 2) (y.column 3)
  let inner ← complexMul (x.column 2) (x.column 3) (y.column 0) (y.column 1)
  return [← add low.1 highRe, ← add low.2 highIm, ← add outer.1 inner.1, ← add outer.2 inner.2]

/-- A grid has the axes, and at each of its indices the word that the function gives. -/
structure Holds (axes : List Nat) (f : List Nat → UInt64) (g : Grid UInt64) : Prop where
  axes_eq : g.axes = axes
  entry_eq (index : List Nat) (hindex : index ∈ indices axes) : g.entry index = f index

/-- Columns of axes that fit each other are combined word by word after stretching. -/
theorem zipWith_of_fits (op : UInt64 → UInt64 → UInt64) (hx : x.axes = as) (hy : y.axes = bs)
    (hfits : Fits as bs) :
    ∃ g, zipWith op x y = .ok g ∧
      Holds (stretched as bs)
        (fun index => op (x.entry (project as index)) (y.entry (project bs index))) g := by
  subst hx hy
  rw [zipWith, broadcastAxes?_of_fits hfits]
  exact ⟨_, rfl, rfl, fun _ _ => rfl⟩

/-- Columns of the same axes are combined word by word. -/
theorem zipWith_of_holds (op : UInt64 → UInt64 → UInt64) (hg : Holds axes f g)
    (hh : Holds axes f' h) :
    ∃ r, zipWith op g h = .ok r ∧ Holds axes (fun index => op (f index) (f' index)) r := by
  obtain ⟨r, hr, haxes, hentry⟩ := zipWith_of_fits op hg.axes_eq hh.axes_eq (fits_refl axes)
  rw [stretched_self] at haxes hentry
  refine ⟨r, hr, haxes, fun index hindex => ?_⟩
  rw [hentry index hindex, project_of_mem hindex, hg.entry_eq index hindex,
    hh.entry_eq index hindex]

/-- Complex numbers in two columns each are multiplied word by word. -/
theorem complexMul_of_fits {a₀ a₁ b₀ b₁ : Grid UInt64} (ha₀ : a₀.axes = as) (ha₁ : a₁.axes = as)
    (hb₀ : b₀.axes = bs) (hb₁ : b₁.axes = bs) (hfits : Fits as bs) :
    ∃ re im, complexMul a₀ a₁ b₀ b₁ = .ok (re, im) ∧
      Holds (stretched as bs) (fun index =>
        (Word.complexMul (a₀.entry (project as index)) (a₁.entry (project as index))
          (b₀.entry (project bs index)) (b₁.entry (project bs index))).1) re ∧
      Holds (stretched as bs) (fun index =>
        (Word.complexMul (a₀.entry (project as index)) (a₁.entry (project as index))
          (b₀.entry (project bs index)) (b₁.entry (project bs index))).2) im := by
  obtain ⟨p₀, hp₀, hp₀'⟩ := zipWith_of_fits Word.mul ha₀ hb₀ hfits
  obtain ⟨p₁, hp₁, hp₁'⟩ := zipWith_of_fits Word.mul ha₁ hb₁ hfits
  obtain ⟨q₀, hq₀, hq₀'⟩ := zipWith_of_fits Word.mul ha₀ hb₁ hfits
  obtain ⟨q₁, hq₁, hq₁'⟩ := zipWith_of_fits Word.mul ha₁ hb₀ hfits
  obtain ⟨re, hre, hre'⟩ := zipWith_of_holds Word.sub hp₀' hp₁'
  obtain ⟨im, him, him'⟩ := zipWith_of_holds Word.add hq₀' hq₁'
  refine ⟨re, im, ?_, hre', him'⟩
  simp only [complexMul, mul, sub, add, hp₀, hp₁, hq₀, hq₁, hre, him, ok_bind, pure_eq_ok]

/-- Grids with four words along the innermost axis are multiplied if their outer axes fit each
other. -/
theorem packedMul_of_fits (hx : x.axes = n :: as) (hy : y.axes = m :: bs) (hn : 4 ≤ n)
    (hm : 4 ≤ m) (hfits : Fits as bs) :
    x.packedMul y = .ok (unpacked ⟨stretched as bs, fun index =>
      (x.packedAt (project as index)).mul (y.packedAt (project bs index))⟩) := by
  have hpackedx : x.packed = .ok ⟨as, x.packedAt⟩ := by
    rw [packed, hx]
    exact if_neg (by omega)
  have hpackedy : y.packed = .ok ⟨bs, y.packedAt⟩ := by
    rw [packed, hy]
    exact if_neg (by omega)
  rw [packedMul, hpackedx, ok_bind, hpackedy, ok_bind, zipWith, broadcastAxes?_of_fits hfits]
  rfl

/-- The columns of the product of grids are the product of their columns. -/
theorem columnMul_of_fits (hx : x.axes = n :: as) (hy : y.axes = m :: bs) (hn : 4 ≤ n)
    (hm : 4 ≤ m) (hfits : Fits as bs) {product : Grid UInt64}
    (hproduct : x.packedMul y = .ok product) :
    ∃ columns, columnMul x y = .ok columns ∧
      List.Forall₂ (fun j c => Holds (stretched as bs) (product.column j).entry c)
        (List.range 4) columns := by
  rw [packedMul_of_fits hx hy hn hm hfits] at hproduct
  cases hproduct
  have hx' (j : Nat) : (x.column j).axes = as := by rw [column, hx, List.tail_cons]
  have hy' (j : Nat) : (y.column j).axes = bs := by rw [column, hy, List.tail_cons]
  obtain ⟨low₀, low₁, hlow, hlow₀, hlow₁⟩ :=
    complexMul_of_fits (hx' 0) (hx' 1) (hy' 0) (hy' 1) hfits
  obtain ⟨high₀, high₁, hhigh, hhigh₀, hhigh₁⟩ :=
    complexMul_of_fits (hx' 2) (hx' 3) (hy' 2) (hy' 3) hfits
  obtain ⟨outer₀, outer₁, houter, houter₀, houter₁⟩ :=
    complexMul_of_fits (hx' 0) (hx' 1) (hy' 2) (hy' 3) hfits
  obtain ⟨inner₀, inner₁, hinner, hinner₀, hinner₁⟩ :=
    complexMul_of_fits (hx' 2) (hx' 3) (hy' 0) (hy' 1) hfits
  -- The product of the upper columns times `2 + i`, by doubling and adding.
  obtain ⟨double₀, hdouble₀, hdouble₀'⟩ := zipWith_of_holds Word.add hhigh₀ hhigh₀
  obtain ⟨double₁, hdouble₁, hdouble₁'⟩ := zipWith_of_holds Word.add hhigh₁ hhigh₁
  obtain ⟨raised₀, hraised₀, hraised₀'⟩ := zipWith_of_holds Word.sub hdouble₀' hhigh₁
  obtain ⟨raised₁, hraised₁, hraised₁'⟩ := zipWith_of_holds Word.add hhigh₀ hdouble₁'
  obtain ⟨c₀, hc₀, hc₀'⟩ := zipWith_of_holds Word.add hlow₀ hraised₀'
  obtain ⟨c₁, hc₁, hc₁'⟩ := zipWith_of_holds Word.add hlow₁ hraised₁'
  obtain ⟨c₂, hc₂, hc₂'⟩ := zipWith_of_holds Word.add houter₀ hinner₀
  obtain ⟨c₃, hc₃, hc₃'⟩ := zipWith_of_holds Word.add houter₁ hinner₁
  refine ⟨[c₀, c₁, c₂, c₃], ?_, ?_⟩
  · simp only [columnMul, sub, add, hlow, hhigh, houter, hinner, hdouble₀, hdouble₁, hraised₀,
      hraised₁, hc₀, hc₁, hc₂, hc₃, ok_bind, pure_eq_ok]
  · exact .cons hc₀' (.cons hc₁' (.cons hc₂' (.cons hc₃' .nil)))

end TowerFold.Grid
