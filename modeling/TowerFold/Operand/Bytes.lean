import TowerFold.Fault
import TowerFold.Field.Bytes

/-!
# Byte forms of operands

The byte form of an element, and elements read from operands that hold bytes: bytes
themselves, a group of integers that are bytes, or words, of eight bytes each.
-/

namespace TowerFold

namespace Operand

/-- The byte form of what a class keeps in the place of a coordinate. -/
def representativeBytes : Representative → Except Fault (List UInt8)
  | .residue x => .ok x.toBytes
  | r => .error (.noByteForm (ofRepresentative r).kind)

/-- The byte form of an element of the base field or of degree four. -/
def toBytes : Operand → Except Fault (List UInt8)
  | .m31 x => .ok x.toBytes
  | .qm31 x => .ok (QM31.toBytes x)
  | .irregular ⟨.base r, _⟩ => representativeBytes r
  | .irregular ⟨.quartic x, _⟩ => do
    return (← (RawElement.quartic x).coords.mapM representativeBytes).flatten
  | v => .error (.noByteForm v.kind)

/-- The byte that an integer or a word is. -/
def toByte (v : Operand) : Except Fault UInt8 :=
  match v.toIndex? with
  | none => .error (.noByte v)
  | some n => if 0 ≤ n ∧ n < 256 then .ok (UInt8.ofNat n.toNat) else .error .byteOutOfRange

/-- The items that are to be read as bytes. -/
def byteItems : Operand → Except Fault (List Operand)
  | .bytes data => .ok (data.map fun b => .int b.toNat)
  | .group _ items => .ok items
  | v => .error (.noBytes v)

/-- The eight bytes of a word. -/
def wordBytes (w : UInt64) : List UInt8 := littleEndian 8 w.toNat

end Operand

/-- The base-field element whose bytes an operand holds. -/
def M31.readBytes : Operand → Except Fault M31
  | .word w => .ok (.ofBytes (Operand.wordBytes w))
  | .grid g => .ok (.ofBytes (g.items.flatMap Operand.wordBytes))
  | v => do return .ofBytes (← (← v.byteItems).mapM Operand.toByte)

/-- The element whose coordinates are read from four times four slices of a grid. -/
def QM31.readSlices (slices : List (Grid UInt64)) : QM31 :=
  let coordinate (i : Nat) : M31 :=
    .ofBytes (((slices.drop (4 * i)).take 4).flatMap fun g => g.items.flatMap Operand.wordBytes)
  .ofCoords (coordinate 0) (coordinate 1) (coordinate 2) (coordinate 3)

/-- The element of degree four whose bytes an operand holds, four items a coordinate.
Items past the sixteenth are not looked at. -/
def QM31.readBytes : Operand → Except Fault QM31
  | .word w => .error (.indexOutOfRange (.word w))
  | .grid g => .ok (QM31.readSlices (g.slices?.getD []))
  | v => do
    if v.elements?.isNone then throw (.notIndexable v)
    return .ofBytes (← ((← v.byteItems).take 16).mapM Operand.toByte)

end TowerFold
