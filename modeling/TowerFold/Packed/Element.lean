import TowerFold.Field.Tower
import TowerFold.Packed.Word

/-!
# Packed elements

An element of degree four in four machine words, and its arithmetic on them.
-/

namespace TowerFold

/-- Four words `a, b, c, d`, meaning `(a + b·i) + (c + d·i)·u` with `u² = 2 + i`. -/
@[ext]
structure Packed where
  /-- The coordinate of one. -/
  a : UInt64
  /-- The coordinate of `i`. -/
  b : UInt64
  /-- The coordinate of `u`. -/
  c : UInt64
  /-- The coordinate of `i·u`. -/
  d : UInt64
  deriving DecidableEq

namespace Packed

/-- A base-field element fills the first word. -/
def ofM31 (x : M31) : Packed := ⟨UInt64.ofNat x.val, 0, 0, 0⟩

/-- The reduced coordinates of an element, one a word. -/
def ofQM31 (x : QM31) : Packed :=
  ⟨UInt64.ofNat x.re.re.val, UInt64.ofNat x.re.im.val,
    UInt64.ofNat x.im.re.val, UInt64.ofNat x.im.im.val⟩

/-- The element whose coordinates are the residues of the words. -/
def toQM31 (x : Packed) : QM31 :=
  .ofCoords (.ofNat x.a.toNat) (.ofNat x.b.toNat) (.ofNat x.c.toNat) (.ofNat x.d.toNat)

/-- The word at a position from zero to three. -/
def word (x : Packed) : Nat → UInt64
  | 0 => x.a
  | 1 => x.b
  | 2 => x.c
  | _ => x.d

/-- The sum, word by word. -/
def add (x y : Packed) : Packed :=
  ⟨Word.add x.a y.a, Word.add x.b y.b, Word.add x.c y.c, Word.add x.d y.d⟩

/-- The product. The product of the upper halves is multiplied by `2 + i` by doubling
and adding. -/
def mul (x y : Packed) : Packed :=
  let low := Word.complexMul x.a x.b y.a y.b
  let high := Word.complexMul x.c x.d y.c y.d
  let highRe := Word.sub (Word.add high.1 high.1) high.2
  let highIm := Word.add high.1 (Word.add high.2 high.2)
  let outer := Word.complexMul x.a x.b y.c y.d
  let inner := Word.complexMul x.c x.d y.a y.b
  ⟨Word.add low.1 highRe, Word.add low.2 highIm,
    Word.add outer.1 inner.1, Word.add outer.2 inner.2⟩

end Packed

end TowerFold
