import TowerFold.Operand.Representative

/-!
# Operands

What arithmetic and folding are asked to work on: integers, elements of the three
fields, machine words and grids of them, and the plain kinds that can turn up between
them. Sets, mappings and floating-point numbers are no operands.
-/

namespace TowerFold

/-- The brackets around a group of operands: square for a list, round for a tuple.
They tell groups apart where groups are joined, written or hashed. -/
inductive Brackets
  | square
  | round
  deriving DecidableEq

/-- A value that can stand on either side of an operator or inside a fold. -/
inductive Operand
  /-- An exact integer. -/
  | int (n : Int)
  /-- A truth value, which counts as one or zero wherever an integer is wanted. -/
  | bool (b : Bool)
  /-- The absence of a value. -/
  | nothing
  /-- A text, which is also the sequence of its characters. -/
  | text (s : String)
  /-- Bytes, which are also a sequence of integers. -/
  | bytes (data : List UInt8)
  /-- A list or tuple of operands. -/
  | group (brackets : Brackets) (items : List Operand)
  /-- An element of the base field. -/
  | m31 (x : M31)
  /-- An element of the complex extension. -/
  | cm31 (x : CM31)
  /-- An element of the extension of degree four. -/
  | qm31 (x : QM31)
  /-- An element of one of the three classes that has a coordinate which is no residue. -/
  | irregular (x : Irregular)
  /-- A machine word, which counts and wraps by itself. -/
  | word (w : UInt64)
  /-- A grid of machine words with at least one axis. -/
  | grid (g : Grid UInt64)
  /-- A strategy, which is no number and no sequence. It is told from others by its
  serial number, and written as its label. -/
  | strategy (serial : Nat) (label : String)
  deriving Inhabited

namespace Operand

/-- The integer that an operand stands for where an integer is wanted. -/
def toInt? : Operand → Option Int
  | .int n => some n
  | .bool b => some (if b then 1 else 0)
  | _ => none

/-- The integer that an operand stands for where an index or a count is wanted: also a
machine word will do. -/
def toIndex? : Operand → Option Int
  | .word w => some w.toNat
  | v => v.toInt?

/-- The base-field element that an integer or a base-field element stands for. -/
def toM31? : Operand → Option M31
  | .m31 x => some x
  | v => v.toInt?.map M31.ofInt

/-- A grid as an operand: without axes it is a word. -/
def ofGrid (g : Grid UInt64) : Operand :=
  if g.axes.isEmpty then .word (g.entry []) else .grid g.settled

/-- The items of an operand that is a sequence: a group, a text, bytes, or a grid, which
is the sequence of its slices. -/
def elements? : Operand → Option (List Operand)
  | .grid g => g.slices?.map fun slices => slices.map ofGrid
  | .group _ items => some items
  | .text s => some (s.toList.map fun c => .text (String.singleton c))
  | .bytes data => some (data.map fun b => .int b.toNat)
  | _ => none

/-- Whether an operand is an element of one of the three fields. -/
def isElement : Operand → Bool
  | .m31 _ | .cm31 _ | .qm31 _ => true
  | _ => false

/-- An element as its class keeps it. -/
def toRaw? : Operand → Option RawElement
  | .m31 x => some (.base (.residue x))
  | .cm31 x => some (.complex (.residue x.re, .residue x.im))
  | .qm31 x => some (.quartic ((.residue x.re.re, .residue x.re.im),
      (.residue x.im.re, .residue x.im.im)))
  | .irregular x => some x.element
  | _ => none

/-- Whether an operand is an irregular element. -/
def isIrregular : Operand → Bool
  | .irregular _ => true
  | _ => false

/-- The truth of an operand: numbers other than zero, grids that hold one, sequences with
an item, every strategy, and every element of a class, zero included. -/
def truth : Operand → Bool
  | .int n => n ≠ 0
  | .bool b => b
  | .nothing => false
  | .text s => !s.isEmpty
  | .bytes data => !data.isEmpty
  | .group _ items => !items.isEmpty
  | .word w => w ≠ 0
  | .grid g => g.items.any (· ≠ 0)
  | .m31 _ | .cm31 _ | .qm31 _ | .irregular _ | .strategy _ _ => true

/-- A representative as an operand of its own. -/
def ofRepresentative : Representative → Operand
  | .residue x => .int x.val
  | .text s => .text s
  | .bytes data => .bytes data
  | .word w => .word w
  | .grid g => .grid g

/-- The name of the kind of an operand. -/
def kind : Operand → String
  | .int _ => "int"
  | .bool _ => "bool"
  | .nothing => "NoneType"
  | .text _ => "str"
  | .bytes _ => "bytes"
  | .group .square _ => "list"
  | .group .round _ => "tuple"
  | .m31 _ | .irregular ⟨.base _, _⟩ => "M31"
  | .cm31 _ | .irregular ⟨.complex _, _⟩ => "CM31"
  | .qm31 _ | .irregular ⟨.quartic _, _⟩ => "QM31"
  | .word _ => "numpy.uint64"
  | .grid _ => "numpy.ndarray"
  | .strategy _ "<sequential backend>" => "SequentialBackend"
  | .strategy _ "<threaded backend>" => "ThreadedBackend"
  | .strategy _ "<numpy backend>" => "NumpyBackend"
  | .strategy _ _ => "Backend"

end Operand

namespace RawElement

/-- The regular element with the residues among the coordinates, and zero in the place of the
others. -/
def toRegular : RawElement → Operand
  | .base r => .m31 r.toM31
  | .complex (a, b) => .cm31 (.ofCoords a.toM31 b.toM31)
  | .quartic ((a, b), (c, d)) => .qm31 (.ofCoords a.toM31 b.toM31 c.toM31 d.toM31)

/-- An element as an operand. -/
def toOperand (x : RawElement) : Operand :=
  if h : x.isRegular = false then .irregular ⟨x, h⟩ else x.toRegular

end RawElement

end TowerFold
