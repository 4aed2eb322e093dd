import TowerFold.Fault

/-!
# Powers of two

Every size in a fold is a power of two. A positive number is one exactly when it
shares no binary digit with its predecessor. Where an exponent comes from outside, it is
checked before the power is computed.
-/

namespace TowerFold

/-- Whether an integer of either sign is a power of two. -/
def isPowerOfTwo (n : Int) : Bool :=
  decide (0 < n) && (n.toNat &&& (n.toNat - 1)) == 0

/-- The exponent of a power of two, by the position of its only binary digit. -/
def exactLog2 (n : Int) : Except Fault Nat :=
  if isPowerOfTwo n then .ok n.toNat.log2 else .error .noLogarithm

/-- How many values `k` factors fold: the `k`-th power of two. -/
def leafCount (k : Nat) : Nat := 1 <<< k

/-- The least exponent whose power of two, in digits of thirty bits and four bytes each, fills the
whole address space. -/
def exponentLimit : Nat := 30 * (addressSpace / 4 - 1)

/-- The least exponent for whose power of two the room, in digits of thirty bits, is more
than a machine word counts in bytes. -/
def countableExponent : Nat := 69175290276410818321

/-- The exponent of a power of two that is to be computed has to stay below the limits. -/
def checkExponent (k : Nat) : Except Fault Unit :=
  if countableExponent ≤ k then .error .powerOverflow
  else if exponentLimit ≤ k then .error .tooLong
  else .ok ()

end TowerFold
