import TowerFold.Packed.Element
import TowerFold.Proofs.Field.Extension
import TowerFold.Proofs.Packed.Word

/-!
# Packed arithmetic without wrapping

Sums and products of packed elements, repeated on word operations that have no result
where something wraps. On packed elements of the field they always have a result, which
is the packed sum or product.
-/

namespace TowerFold.Packed

/-- The sum, unless an operation on words wraps. -/
def add? (x y : Packed) : Option Packed := do
  let a ← Word.add? x.a y.a
  let b ← Word.add? x.b y.b
  let c ← Word.add? x.c y.c
  let d ← Word.add? x.d y.d
  return ⟨a, b, c, d⟩

/-- A complex number times `2 + i`, by doubling and adding, unless an operation on words
wraps. -/
def timesNonResidue? (high : UInt64 × UInt64) : Option (UInt64 × UInt64) := do
  let re ← Word.sub? (← Word.add? high.1 high.1) high.2
  let im ← Word.add? high.1 (← Word.add? high.2 high.2)
  return (re, im)

/-- The product, unless an operation on words wraps. -/
def mul? (x y : Packed) : Option Packed := do
  let low ← Word.complexMul? x.a x.b y.a y.b
  let high ← Word.complexMul? x.c x.d y.c y.d
  let raised ← timesNonResidue? high
  let outer ← Word.complexMul? x.a x.b y.c y.d
  let inner ← Word.complexMul? x.c x.d y.a y.b
  add? ⟨low.1, low.2, outer.1, outer.2⟩ ⟨raised.1, raised.2, inner.1, inner.2⟩

variable {x y z : Packed}

/-- A sum wraps exactly where one of its operations does. -/
theorem add?_eq_some_iff :
    add? x y = some z ↔ Word.add? x.a y.a = some z.a ∧ Word.add? x.b y.b = some z.b ∧
      Word.add? x.c y.c = some z.c ∧ Word.add? x.d y.d = some z.d := by
  simp only [add?, Option.bind_eq_bind, Option.bind_eq_some_iff, Option.pure_def,
    Option.some.injEq]
  constructor
  · rintro ⟨a, ha, b, hb, c, hc, d, hd, rfl⟩
    exact ⟨ha, hb, hc, hd⟩
  · rintro ⟨ha, hb, hc, hd⟩
    exact ⟨z.a, ha, z.b, hb, z.c, hc, z.d, hd, rfl⟩

/-- A product by `2 + i` wraps exactly where one of its operations does. -/
theorem timesNonResidue?_eq_some_iff {high raised : UInt64 × UInt64} :
    timesNonResidue? high = some raised ↔
      ∃ re, Word.add? high.1 high.1 = some re ∧ Word.sub? re high.2 = some raised.1 ∧
        ∃ im, Word.add? high.2 high.2 = some im ∧ Word.add? high.1 im = some raised.2 := by
  simp only [timesNonResidue?, Option.bind_eq_bind, Option.bind_eq_some_iff, Option.pure_def,
    Option.some.injEq]
  constructor
  · rintro ⟨re, hre, re', hre', im, him, im', him', rfl⟩
    exact ⟨re, hre, hre', im, him, him'⟩
  · rintro ⟨re, hre, hre', im, him, him'⟩
    exact ⟨re, hre, raised.1, hre', im, him, raised.2, him', rfl⟩

/-- A product wraps exactly where one of its operations does. -/
theorem mul?_eq_some_iff :
    mul? x y = some z ↔
      ∃ low, Word.complexMul? x.a x.b y.a y.b = some low ∧
        ∃ high, Word.complexMul? x.c x.d y.c y.d = some high ∧
          ∃ raised, timesNonResidue? high = some raised ∧
            ∃ outer, Word.complexMul? x.a x.b y.c y.d = some outer ∧
              ∃ inner, Word.complexMul? x.c x.d y.a y.b = some inner ∧
                add? ⟨low.1, low.2, outer.1, outer.2⟩ ⟨raised.1, raised.2, inner.1, inner.2⟩ =
                  some z := by
  simp only [mul?, Option.bind_eq_bind, Option.bind_eq_some_iff]

/-- A sum that does not wrap is the sum. -/
theorem add_of_add? (h : add? x y = some z) : x.add y = z := by
  obtain ⟨ha, hb, hc, hd⟩ := add?_eq_some_iff.mp h
  rw [add, (Word.add?_eq_some_iff.mp ha).2, (Word.add?_eq_some_iff.mp hb).2,
    (Word.add?_eq_some_iff.mp hc).2, (Word.add?_eq_some_iff.mp hd).2]

/-- A product that does not wrap is the product. -/
theorem mul_of_mul? (h : mul? x y = some z) : x.mul y = z := by
  obtain ⟨low, hlow, high, hhigh, raised, hraised, outer, houter, inner, hinner, hsum⟩ :=
    mul?_eq_some_iff.mp h
  obtain ⟨re, hre, hre', im, him, him'⟩ := timesNonResidue?_eq_some_iff.mp hraised
  simp only [mul, Word.complexMul_of_complexMul? hlow, Word.complexMul_of_complexMul? hhigh,
    Word.complexMul_of_complexMul? houter, Word.complexMul_of_complexMul? hinner,
    (Word.add?_eq_some_iff.mp hre).2, (Word.sub?_eq_some_iff.mp hre').2,
    (Word.add?_eq_some_iff.mp him).2, (Word.add?_eq_some_iff.mp him').2]
  exact add_of_add? hsum

/-- What is packed can be read again. -/
@[simp] theorem toQM31_ofQM31 (k : QM31) : (ofQM31 k).toQM31 = k := by
  have hword (c : M31) : M31.ofNat (UInt64.ofNat c.val).toNat = c := Word.residue_ofM31 c
  simp only [toQM31, ofQM31, hword]
  rfl

/-- Sums of packed elements do not wrap. -/
theorem add?_ofQM31 (k l : QM31) : add? (ofQM31 k) (ofQM31 l) = some (ofQM31 (k + l)) :=
  add?_eq_some_iff.mpr ⟨Word.add?_ofM31 _ _, Word.add?_ofM31 _ _, Word.add?_ofM31 _ _,
    Word.add?_ofM31 _ _⟩

/-- Doubling and adding multiplies by `2 + i` and does not wrap. -/
theorem timesNonResidue?_ofM31 (k : CM31) :
    timesNonResidue? (Word.ofM31 k.re, Word.ofM31 k.im) =
      some (Word.ofM31 (nonResidue * k).re, Word.ofM31 (nonResidue * k).im) := by
  have hre : k.re + k.re - k.im = (nonResidue * k).re := by
    simp [nonResidue, CM31.ofCoords, M31.ofNat_eq_cast]
    ring
  have him : k.re + (k.im + k.im) = (nonResidue * k).im := by
    simp [nonResidue, CM31.ofCoords, M31.ofNat_eq_cast]
    ring
  rw [← hre, ← him]
  exact timesNonResidue?_eq_some_iff.mpr ⟨_, Word.add?_ofM31 _ _, Word.sub?_ofM31 _ _,
    _, Word.add?_ofM31 _ _, Word.add?_ofM31 _ _⟩

/-- The complex product of words below `2 ^ 32` is the product in the complex extension. -/
theorem complexMul?_eq_product {a₀ a₁ b₀ b₁ : UInt64} (ha₀ : a₀.toNat < 2 ^ 32)
    (ha₁ : a₁.toNat < 2 ^ 32) (hb₀ : b₀.toNat < 2 ^ 32) (hb₁ : b₁.toNat < 2 ^ 32) {k l : CM31}
    (hk : k = ⟨Word.residue a₀, Word.residue a₁⟩) (hl : l = ⟨Word.residue b₀, Word.residue b₁⟩) :
    Word.complexMul? a₀ a₁ b₀ b₁ = some (Word.ofM31 (k * l).re, Word.ofM31 (k * l).im) := by
  have hre : Word.residue a₀ * Word.residue b₀ - Word.residue a₁ * Word.residue b₁ =
      (k * l).re := by
    rw [hk, hl, Quadratic.re_mul]
    ring
  have him : Word.residue a₀ * Word.residue b₁ + Word.residue a₁ * Word.residue b₀ =
      (k * l).im := by
    rw [hk, hl, Quadratic.im_mul]
  rw [← hre, ← him]
  exact Word.complexMul?_of_lt ha₀ ha₁ hb₀ hb₁

/-- Four words that are all below `2 ^ 32`, though perhaps not reduced. -/
structure IsShort (x : Packed) : Prop where
  a_lt : x.a.toNat < 2 ^ 32
  b_lt : x.b.toNat < 2 ^ 32
  c_lt : x.c.toNat < 2 ^ 32
  d_lt : x.d.toNat < 2 ^ 32

/-- Products of short words do not wrap, and are the packed products of the elements that the
words stand for. -/
theorem mul?_of_isShort (hx : x.IsShort) (hy : y.IsShort) :
    mul? x y = some (ofQM31 (x.toQM31 * y.toQM31)) := by
  have hlow := complexMul?_eq_product hx.a_lt hx.b_lt hy.a_lt hy.b_lt
    (k := x.toQM31.re) (l := y.toQM31.re) rfl rfl
  have hhigh := complexMul?_eq_product hx.c_lt hx.d_lt hy.c_lt hy.d_lt
    (k := x.toQM31.im) (l := y.toQM31.im) rfl rfl
  have houter := complexMul?_eq_product hx.a_lt hx.b_lt hy.c_lt hy.d_lt
    (k := x.toQM31.re) (l := y.toQM31.im) rfl rfl
  have hinner := complexMul?_eq_product hx.c_lt hx.d_lt hy.a_lt hy.b_lt
    (k := x.toQM31.im) (l := y.toQM31.re) rfl rfl
  exact mul?_eq_some_iff.mpr ⟨_, hlow, _, hhigh, _, timesNonResidue?_ofM31 _, _, houter,
    _, hinner, add?_ofQM31 ⟨_, _⟩ ⟨_, _⟩⟩

/-- Reduced words are short. -/
theorem isShort_ofQM31 (k : QM31) : (ofQM31 k).IsShort :=
  ⟨Word.toNat_ofM31_lt _, Word.toNat_ofM31_lt _, Word.toNat_ofM31_lt _, Word.toNat_ofM31_lt _⟩

/-- Products of packed elements do not wrap. -/
theorem mul?_ofQM31 (k l : QM31) : mul? (ofQM31 k) (ofQM31 l) = some (ofQM31 (k * l)) := by
  rw [mul?_of_isShort (isShort_ofQM31 k) (isShort_ofQM31 l), toQM31_ofQM31, toQM31_ofQM31]

end TowerFold.Packed
