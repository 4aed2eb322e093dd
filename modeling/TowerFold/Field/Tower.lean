import TowerFold.Field.Mersenne
import TowerFold.Field.Quadratic

/-!
# The tower of fields

`CM31` adjoins `i` with `i² = −1` to the base field, `QM31` adjoins `u` with
`u² = 2 + i` to `CM31`. Each field sits in the next one as the elements whose upper
coordinates vanish.
-/

namespace TowerFold

/-- The complex extension: `a + b·i` with `i² = −1`. -/
abbrev CM31 := Quadratic M31 (-1)

namespace CM31

/-- The element `a + b·i`. -/
def ofCoords (a b : M31) : CM31 := ⟨a, b⟩

/-- The coordinates of one and `i`. -/
def coords (x : CM31) : List M31 := [x.re, x.im]

/-- A base-field element as an element of the complex extension. -/
def ofM31 (a : M31) : CM31 := Quadratic.embed a

/-- Every coordinate multiplied by a base-field element. -/
def scale (x : CM31) (k : M31) : CM31 := ⟨x.re * k, x.im * k⟩

/-- The inverse of a nonzero element. -/
def inverse? (x : CM31) : Option CM31 := Quadratic.inverseBy? M31.inverse? x

end CM31

/-- `2 + i`, which has no square root in `CM31`. -/
def nonResidue : CM31 := CM31.ofCoords (M31.ofNat 2) 1

/-- The extension of degree four: `(a + b·i) + (c + d·i)·u` with `u² = 2 + i`. -/
abbrev QM31 := Quadratic CM31 nonResidue

namespace QM31

/-- The element `(a + b·i) + (c + d·i)·u`. -/
def ofCoords (a b c d : M31) : QM31 := ⟨⟨a, b⟩, ⟨c, d⟩⟩

/-- The coordinates of one, `i`, `u` and `i·u`. -/
def coords (x : QM31) : List M31 := [x.re.re, x.re.im, x.im.re, x.im.im]

/-- A base-field element as an element of the extension of degree four. -/
def ofM31 (a : M31) : QM31 := Quadratic.embed (CM31.ofM31 a)

/-- A complex element as an element of the extension of degree four. -/
def ofCM31 (a : CM31) : QM31 := Quadratic.embed a

/-- Every coordinate multiplied by a base-field element. -/
def scale (x : QM31) (k : M31) : QM31 := ⟨CM31.scale x.re k, CM31.scale x.im k⟩

/-- The inverse of a nonzero element. -/
def inverse? (x : QM31) : Option QM31 := Quadratic.inverseBy? CM31.inverse? x

/-- The quotient by a nonzero element. -/
def div? (x y : QM31) : Option QM31 :=
  (inverse? y).map (x * ·)

/-- The power with an integer exponent, where every exponent up to zero gives one. -/
def power (x : QM31) (n : Int) : QM31 := TowerFold.power x n.toNat

end QM31

end TowerFold
