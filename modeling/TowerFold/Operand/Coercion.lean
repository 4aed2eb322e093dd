import TowerFold.Fault
import TowerFold.Packed.Word
import TowerFold.Text.Numeral

/-!
# Coercion into the fields

Which operands the classes of the three fields accept as elements of their own. Integers and
base-field elements go everywhere; a group of as many scalars as the field has coordinates
goes into an extension; no extension accepts elements of the other one.

The base class keeps the remainder of whatever has one. So a text with a directive is accepted as
well, and a machine word, but the element is irregular then: it is none of the field.
-/

namespace TowerFold

/-- A text or bytes with the modulus filled in. -/
def fillModulus (script : Text.Script) (cs : List Char) : Except Fault (List Char) :=
  match Text.fill script modulus cs with
  | .ok written => .ok written
  | .error .tooWide => .error .tooLong
  | .error cause => .error (.misfilled script cause)

/-- The remainder of a representative. -/
def Representative.remainder : Representative → Except Fault Representative
  | .residue x => .ok (.residue x)
  | .text s => do return .text (String.ofList (← fillModulus .characters s.toList))
  | .bytes data => do
    let written ← fillModulus .bytes (data.map fun b => Char.ofNat b.toNat)
    return .bytes (written.map fun c => UInt8.ofNat c.toNat)
  | .word w => .ok (.word (w % Word.modulus64))
  | .grid g => .ok (.grid (Grid.settled ⟨g.axes, fun index => g.entry index % Word.modulus64⟩))

/-- An element whose coordinates have to be residues. -/
def RawElement.checkRegular (x : RawElement) : Except Fault Unit :=
  if h : x.isRegular = false then .error (.irregular ⟨x, h⟩) else .ok ()

namespace Operand

/-- The coordinate that the base class keeps of an operand: its remainder, or what an element of
the class keeps. -/
def remainder (v : Operand) : Except Fault Representative :=
  match v.toM31? with
  | some x => .ok (.residue x)
  | none =>
    match v with
    | .text s => (Representative.text s).remainder
    | .bytes data => (Representative.bytes data).remainder
    | .word w => (Representative.word w).remainder
    | .grid g => (Representative.grid g).remainder
    | .irregular ⟨.base r, _⟩ => r.remainder
    | v => .error (.noRemainder v)

/-- The coordinates that the complex class keeps of an operand. -/
def complexCoords : Operand → Except Fault ComplexCoords
  | .cm31 x => .ok (.residue x.re, .residue x.im)
  | .irregular ⟨.complex x, _⟩ => .ok x
  | .irregular ⟨.base r, _⟩ => do return (← r.remainder, 0)
  | .group _ [a, b] => do return (← a.remainder, ← b.remainder)
  | v =>
    match v.toM31? with
    | some x => .ok (.residue x, 0)
    | none => .error (Fault.incompatible v).stated

/-- The coordinates that the class of degree four keeps of an operand. -/
def quarticCoords : Operand → Except Fault QuarticCoords
  | .qm31 x =>
    .ok ((.residue x.re.re, .residue x.re.im), (.residue x.im.re, .residue x.im.im))
  | .irregular ⟨.quartic x, _⟩ => .ok x
  | .irregular ⟨.base r, _⟩ => do return ((← r.remainder, 0), (0, 0))
  | .group _ [a, b, c, d] => do
    return ((← a.remainder, ← b.remainder), (← c.remainder, ← d.remainder))
  | v =>
    match v.toM31? with
    | some x => .ok ((.residue x, 0), (0, 0))
    | none => .error (Fault.incompatible v).stated

end Operand

/-- The base-field element that an operand stands for. -/
def M31.ofOperand (v : Operand) : Except Fault M31 := do
  let r ← v.remainder
  RawElement.checkRegular (.base r)
  return r.toM31

/-- The complex element that an operand stands for. -/
def CM31.ofOperand (v : Operand) : Except Fault CM31 := do
  let x ← v.complexCoords
  RawElement.checkRegular (.complex x)
  return .ofCoords x.1.toM31 x.2.toM31

/-- The element of degree four that an operand stands for. -/
def QM31.ofOperand (v : Operand) : Except Fault QM31 := do
  let x ← v.quarticCoords
  RawElement.checkRegular (.quartic x)
  return .ofCoords x.1.1.toM31 x.1.2.toM31 x.2.1.toM31 x.2.2.toM31

/-- The element of degree four with the given coordinates, of which there have to be
four. -/
def QM31.ofScalars : List Operand → Except Fault QM31
  | [a, b, c, d] => QM31.ofOperand (.group .square [a, b, c, d])
  | coords => .error (.coordinateCount coords.length)

/-- What a coercion makes of an operand: an element, which may be irregular. -/
def orIrregular : Except Fault Operand → Except Fault Operand
  | .error (.irregular x) => .ok (.irregular x)
  | outcome => outcome

namespace Operand

/-- The integer that a text or bytes write, by their characters. Digits are counted before they
are read. -/
def readInteger (v : Operand) (cs : List Char) : Except Fault Int :=
  if Text.digitLimit < Text.digitCount cs then .error (.digitsTooMany (Text.digitCount cs))
  else
    match Text.readInteger? cs with
    | some n => .ok n
    | none => .error (.malformedNumeral v)

/-- An operand where nothing but an integer, a truth value or a word will do. -/
def toWhole (v : Operand) : Except Fault Int :=
  match v.toIndex? with
  | some n => .ok n
  | none => .error (.noInteger v)

/-- An operand as an exact integer: integers and truth values as they are, a base-field
element by its representative, a numeral by what it writes, a word by its number, and a
grid by its only entry. -/
def toInteger : Operand → Except Fault Int
  | .m31 x => .ok x.val
  | .irregular ⟨.base r, _⟩ => .error (.notIntegral (ofRepresentative r).kind)
  | .grid g =>
    if g.count = 1 then .ok ((g.items.headD 0).toNat : Int) else .error (.noInteger (.grid g))
  | .text s => readInteger (.text s) s.toList
  | .bytes data =>
    if data.all (· < 128) then readInteger (.bytes data) (data.map fun b => Char.ofNat b.toNat)
    else .error (.malformedNumeral (.bytes data))
  | v => v.toWhole

/-- An operand whose logarithm is asked for: what is no integer has no order. -/
def toMagnitude (v : Operand) : Except Fault Int :=
  match v.toIndex? with
  | some n => .ok n
  | none => .error (.notComparable ">" v)

end Operand

end TowerFold
