import TowerFold.Field.Bytes
import TowerFold.Operand.Sequence

/-!
# Hash keys

What the hash of an operand depends on. Two operands hash alike exactly when their
keys are equal: a base-field element like the integer that represents it, an extension
element like the tuple of its coordinates, a text like the bytes that hold it.

Hashes of integers, and of tuples of what has such a hash, are signed words of 64 bits, and
may agree by chance. The hashes of texts and bytes are not fixed, so a key keeps what they
are taken of; strategies are hashed by what tells them apart.
-/

namespace TowerFold

/-- A step in the description of what is hashed. A tuple announces its size, so a key
is read in only one way. -/
inductive HashToken
  /-- The absence of a value. -/
  | absent
  /-- A hash that is fixed: a signed word. -/
  | number (n : Int)
  /-- The bytes of a text that is not empty. -/
  | content (data : List UInt8)
  /-- A strategy, by its serial number. -/
  | strategy (serial : Nat)
  /-- A tuple of this many items, not all of fixed hash, which follow. -/
  | tuple (size : Nat)
  deriving DecidableEq

/-- The key under which an operand is hashed. -/
abbrev HashKey := List HashToken

namespace HashKey

/-- Magnitudes are hashed modulo the Mersenne prime `2⁶¹ − 1`. -/
def magnitudeModulus : Nat := 2305843009213693951

/-- An integer is hashed by its sign and its reduced magnitude, where the hash of `−1`
is that of `−2`. -/
def ofInt (n : Int) : HashKey :=
  let reduced := n.sign * (n.natAbs % magnitudeModulus : Nat)
  [.number (if reduced = -1 then -2 else reduced)]

/-- Bytes are hashed as they are, none at all like the integer zero. -/
def ofBytes (data : List UInt8) : HashKey :=
  if data.isEmpty then ofInt 0 else [.content data]

/-- A text is hashed by its characters in the narrowest of one, two and four bytes that
fits every one of them. -/
def ofText (cs : List Char) : HashKey :=
  ofBytes (cs.flatMap fun c => littleEndian (Operand.characterWidth cs) c.toNat)

/-- The fixed hash that a key stands for. -/
def toInt? : HashKey → Option Int
  | [.number n] => some n
  | _ => none

/-- The first word of a tuple's hash, into which the hashes of its items are mixed. -/
def tupleSeed : UInt64 := 2870177450012600261

/-- One more hash mixed into the word of a tuple: it is scaled and added, and the sum is
rotated by 31 bits and scaled again. All arithmetic wraps around. -/
def mixInto (word : UInt64) (hash : Int) : UInt64 :=
  let sum := word + UInt64.ofInt hash * 14029467366897019727
  ((sum <<< 31) ||| (sum >>> 33)) * 11400714785074694791

/-- The hash of a tuple whose items have these hashes. Its size enters at the end, and the
word `−1` is no hash. -/
def mix (hashes : List Int) : Int :=
  let size := UInt64.ofNat hashes.length
  let word := hashes.foldl mixInto tupleSeed + (size ^^^ (tupleSeed ^^^ 3527539))
  let hash := word.toInt64.toInt
  if hash = -1 then 1546275796 else hash

/-- The key of a tuple whose items have these keys. -/
def ofItems (keys : List HashKey) : HashKey :=
  match keys.mapM toInt? with
  | some hashes => [.number (mix hashes)]
  | none => .tuple keys.length :: keys.flatten

/-- Coordinates are hashed as the tuple of their representatives. -/
def ofCoords (coords : List M31) : HashKey :=
  ofItems (coords.map fun x => ofInt x.val)

/-- The key of what a class keeps in the place of a coordinate. -/
def ofRepresentative : Representative → Except Fault HashKey
  | .residue x => .ok (ofInt x.val)
  | .text s => .ok (ofText s.toList)
  | .bytes data => .ok (ofBytes data)
  | .word w => .ok (ofInt w.toNat)
  | .grid g => .error (.unhashable (.grid g))

/-- The key of an element as its class keeps it. -/
def ofElement : RawElement → Except Fault HashKey
  | .base r => ofRepresentative r
  | x => do return ofItems (← x.coords.mapM ofRepresentative)

end HashKey

namespace Operand

mutual

/-- The key of an operand; lists and grids have none, nor has a tuple that holds one. -/
def hashKey : Operand → Except Fault HashKey
  | .int n => .ok (HashKey.ofInt n)
  | .bool b => .ok (HashKey.ofInt (if b then 1 else 0))
  | .nothing => .ok [.absent]
  | .text s => .ok (HashKey.ofText s.toList)
  | .bytes data => .ok (HashKey.ofBytes data)
  | .group .square items => .error (.unhashable (.group .square items))
  | .group .round items => do return .ofItems (← hashItems items)
  | .m31 x => .ok (HashKey.ofInt x.val)
  | .cm31 x => .ok (HashKey.ofCoords (CM31.coords x))
  | .qm31 x => .ok (HashKey.ofCoords (QM31.coords x))
  | .irregular x => HashKey.ofElement x.element
  | .word w => .ok (HashKey.ofInt w.toNat)
  | .grid g => .error (.unhashable (.grid g))
  | .strategy serial _ => .ok [.strategy serial]

/-- The keys of several operands. -/
def hashItems : List Operand → Except Fault (List HashKey)
  | [] => .ok []
  | v :: rest => do
    let key ← v.hashKey
    let keys ← hashItems rest
    return key :: keys

end

/-- Whether two operands hash alike. -/
def hashesAlike (x y : Operand) : Except Fault Bool := do
  let a ← x.hashKey
  let b ← y.hashKey
  return decide (a = b)

end Operand

end TowerFold
