import TowerFold.Field.Tower
import TowerFold.Packed.Grid

/-!
# Elements as their classes keep them

The class of a field keeps the coordinates of an element by representatives, and asks nothing of
these but that there is a remainder modulo `modulus`. That is a residue for an integer. A text or
bytes have it as well, where it means that they are filled in with the modulus, and so have machine
words and grids of them, which go on to wrap around.

An element is irregular when one of its coordinates is no residue. Such an element is accepted, but
not all of its arithmetic exists.
-/

namespace TowerFold

/-- What a class may keep in the place of a coordinate. -/
inductive Representative
  /-- A residue, by the integer that represents it. -/
  | residue (x : M31)
  /-- A text that has been filled in. -/
  | text (s : String)
  /-- Bytes that have been filled in. -/
  | bytes (data : List UInt8)
  /-- A machine word. -/
  | word (w : UInt64)
  /-- A grid of machine words with at least one axis. -/
  | grid (g : Grid UInt64)

namespace Representative

instance : Zero Representative := ⟨.residue 0⟩

/-- Whether a coordinate is a residue. -/
def isResidue : Representative → Bool
  | .residue _ => true
  | _ => false

/-- The residue that a coordinate is, and zero where it is none. -/
def toM31 : Representative → M31
  | .residue x => x
  | _ => 0

end Representative

/-- The coordinates of a complex element as its class keeps them. -/
abbrev ComplexCoords := Representative × Representative

/-- The coordinates of an element of degree four as its class keeps them, by halves. -/
abbrev QuarticCoords := ComplexCoords × ComplexCoords

/-- An element as its class keeps it. -/
inductive RawElement
  /-- An element of the base class. -/
  | base (r : Representative)
  /-- An element of the complex class. -/
  | complex (x : ComplexCoords)
  /-- An element of the class of degree four. -/
  | quartic (x : QuarticCoords)

namespace RawElement

/-- The coordinates of an element. -/
def coords : RawElement → List Representative
  | .base r => [r]
  | .complex (a, b) => [a, b]
  | .quartic ((a, b), (c, d)) => [a, b, c, d]

/-- Whether all coordinates are residues. -/
def isRegular (x : RawElement) : Bool := x.coords.all Representative.isResidue

end RawElement

/-- An element with a coordinate that is no residue. -/
structure Irregular where
  /-- The element. -/
  element : RawElement
  /-- Not all coordinates are residues. -/
  irregular : element.isRegular = false

end TowerFold
