import TowerFold.Operand.Sequence
import TowerFold.PowerOfTwo

/-!
# The sizes of a fold

A fold takes `2 ^ k` values and `k` factors. The values are counted before the factors
are looked at.
-/

namespace TowerFold

/-- The number of values has to be a power of two. -/
def checkCount (count : Nat) : Except Fault Unit :=
  if isPowerOfTwo count then .ok () else .error (.countNotPowerOfTwo count)

/-- A power of two of values takes as many factors as its exponent says. -/
def checkFactors (count factors : Nat) : Except Fault Unit :=
  if count.log2 = factors then .ok ()
  else .error (.factorCount count count.log2 factors)

/-- The sizes of a fold: a number of values and a number of factors. -/
def checkSizes (count factors : Nat) : Except Fault Unit := do
  checkCount count
  checkFactors count factors

/-- The values and the factors of a fold, once their sizes are found to match. -/
def sized (values factors : Operand) : Except Fault (List Operand × List Operand) := do
  let vs ← values.elements
  checkCount vs.length
  let fs ← factors.elements
  checkFactors vs.length fs.length
  return (vs, fs)

end TowerFold
