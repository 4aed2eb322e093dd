import TowerFold.Operand.Coercion
import TowerFold.Operand.Sequence
import TowerFold.Packed.Element

/-!
# Packing operands

Operands that stand for elements of degree four become packed elements, and rows of
integers become elements again. A list of base-field elements only has its first column
filled.
-/

namespace TowerFold

/-- The base-field elements of a list that holds nothing else. -/
def baseElements? (values : List Operand) : Option (List M31) :=
  values.mapM fun
    | .m31 x => some x
    | _ => none

/-- The base-field elements of a list, of which some are irregular, as their class keeps them. -/
def baseRepresentatives? (values : List Operand) : Option (List Representative) :=
  values.mapM fun v =>
    match v.toRaw? with
    | some (.base r) => some r
    | _ => none

/-- The word that a coordinate is written to: a residue or a word as it is, a text or bytes by the
integer that they write. -/
def Representative.toWord : Representative → Except Fault UInt64
  | .residue x => .ok (UInt64.ofNat x.val)
  | .word w => .ok w
  | .grid _ => .error .ragged
  | r => do
    let n ← (Operand.ofRepresentative r).toInteger
    if 0 ≤ n ∧ n < UInt64.size then return UInt64.ofNat n.toNat else throw (.wordOverflow n)

/-- Coordinates that are written next to each other have to be single ones, and no grids. -/
def checkSingle (coords : List Representative) : Except Fault Unit :=
  if coords.any fun r => r matches .grid _ then .error .ragged else .ok ()

/-- Base-field elements, some of them irregular, packed by what their class keeps. A grid with a
single entry fills a column of one place. -/
def packRepresentatives : List Representative → Except Fault (List Packed)
  | [.grid g] =>
    if g.count = 1 then .ok (g.items.map fun w => ⟨w, 0, 0, 0⟩) else .error .ragged
  | rs => do
    checkSingle rs
    return (← rs.mapM Representative.toWord).map fun w => ⟨w, 0, 0, 0⟩

/-- A single operand packed, by the coordinates that the class of degree four keeps of it. -/
def packValue (v : Operand) : Except Fault Packed := do
  let x ← v.quarticCoords
  checkSingle (RawElement.quartic x).coords
  return ⟨← x.1.1.toWord, ← x.1.2.toWord, ← x.2.1.toWord, ← x.2.2.toWord⟩

/-- A list of operands packed. -/
def packValues (values : List Operand) : Except Fault (List Packed) :=
  match baseElements? values with
  | some xs => .ok (xs.map Packed.ofM31)
  | none =>
    match baseRepresentatives? values with
    | some rs => packRepresentatives rs
    | none => values.mapM packValue

/-- The items of any operand packed. -/
def packOperand (v : Operand) : Except Fault (List Packed) := do
  packValues (← v.elements)

/-- The element whose four coordinates are the integers in a row, of any size. -/
def unpackRow (row : Operand) : Except Fault QM31 := do
  let coords ← (← row.iterated).mapM Operand.toInteger
  QM31.ofOperand (.group .square (coords.map .int))

end TowerFold
