import TowerFold.Operand.Basic
import TowerFold.Packed.Layout
import TowerFold.Text.Numeral
import TowerFold.Text.Quoted

/-!
# Written operands

The text of an operand in messages and reports. A field element shows its coordinates
between angle brackets, and a text is quoted only inside a group. An operand has no text
when it holds an integer that is too long to be written.
-/

namespace TowerFold

/-- The text of a representative where kinds that look alike are told apart. -/
def Representative.quoted : Representative → String
  | .residue x => toString x.val
  | .text s => Text.quote s
  | .bytes data => Text.quoteBytes data
  | .word w => "np.uint64(" ++ toString w ++ ")"
  | .grid g => g.quoted

/-- The text of a representative on its own. -/
def Representative.render : Representative → String
  | .text s => s
  | .word w => toString w
  | .grid g => g.render
  | r => r.quoted

/-- The text of an element as its class keeps it. -/
def RawElement.quoted : RawElement → String
  | .base r => "<" ++ r.render ++ ">"
  | x => "<[" ++ ", ".intercalate (x.coords.map Representative.quoted) ++ "]>"

namespace Operand

/-- Coordinates between square brackets. -/
def renderCoords (coords : List M31) : String :=
  "[" ++ ", ".intercalate (coords.map fun x => toString x.val) ++ "]"

/-- Written items between the given brackets; a tuple of one item keeps a comma. -/
def bracketed : Brackets → List String → String
  | .square, items => "[" ++ ", ".intercalate items ++ "]"
  | .round, [item] => "(" ++ item ++ ",)"
  | .round, items => "(" ++ ", ".intercalate items ++ ")"

mutual

/-- The text of an operand where kinds that look alike are told apart: a text by quotes,
words and grids by names. -/
def quoted : Operand → String
  | .int n => toString n
  | .bool b => if b then "True" else "False"
  | .nothing => "None"
  | .text s => Text.quote s
  | .bytes data => Text.quoteBytes data
  | .group brackets items => bracketed brackets (quotedItems items)
  | .m31 x => "<" ++ toString x.val ++ ">"
  | .cm31 x => "<" ++ renderCoords (CM31.coords x) ++ ">"
  | .qm31 x => "<" ++ renderCoords (QM31.coords x) ++ ">"
  | .irregular x => x.element.quoted
  | .word w => "np.uint64(" ++ toString w ++ ")"
  | .grid g => g.quoted
  | .strategy _ label => label

/-- The quoted texts of several operands. -/
def quotedItems : List Operand → List String
  | [] => []
  | v :: rest => v.quoted :: quotedItems rest

end

/-- The text of an operand on its own: a text is written as it is, a word as its number
and a grid as its rows. -/
def render : Operand → String
  | .text s => s
  | .word w => toString w
  | .grid g => g.render
  | v => v.quoted

mutual

/-- Whether every integer in the text of an operand is short enough to be written. -/
def isWritable : Operand → Bool
  | .int n => Text.isWritable n
  | .group _ items => areWritable items
  | _ => true

/-- Whether all of several operands can be written. -/
def areWritable : List Operand → Bool
  | [] => true
  | v :: rest => v.isWritable && areWritable rest

end

end Operand

end TowerFold
