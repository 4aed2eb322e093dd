import TowerFold.Field.Tower

/-!
# Byte forms

A base-field element is written in four bytes, least significant first, and an
element of degree four as its four coordinates one after the other. Reading accepts
any number of bytes: what is missing counts as zero, and the value is reduced.
-/

namespace TowerFold

/-- The `count` lowest base-256 digits of a number, least significant first. -/
def littleEndian : (count : Nat) → (n : Nat) → List UInt8
  | 0, _ => []
  | count + 1, n => UInt8.ofNat (n % 256) :: littleEndian count (n / 256)

/-- The number whose base-256 digits, least significant first, are the given bytes. -/
def ofLittleEndian : List UInt8 → Nat
  | [] => 0
  | b :: rest => b.toNat + 256 * ofLittleEndian rest

/-- The four-byte form of a base-field element. -/
def M31.toBytes (x : M31) : List UInt8 := littleEndian 4 x.val

/-- The residue of the number that the bytes write. -/
def M31.ofBytes (data : List UInt8) : M31 := .ofNat (ofLittleEndian data)

/-- The sixteen-byte form of an element of degree four. -/
def QM31.toBytes (x : QM31) : List UInt8 := (QM31.coords x).flatMap M31.toBytes

/-- The element whose coordinates are read from four successive words of four bytes.
Bytes past the sixteenth are not read. -/
def QM31.ofBytes (data : List UInt8) : QM31 :=
  .ofCoords (M31.ofBytes (word 0)) (M31.ofBytes (word 1)) (M31.ofBytes (word 2))
    (M31.ofBytes (word 3))
where
  /-- The four bytes from position `4 · i`, as far as there are any. -/
  word (i : Nat) : List UInt8 := (data.drop (4 * i)).take 4

@[simp] theorem length_littleEndian (count n : Nat) :
    (littleEndian count n).length = count := by
  induction count generalizing n with
  | zero => rfl
  | succ count ih => simp [littleEndian, ih]

end TowerFold
