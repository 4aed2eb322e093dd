import TowerFold.Fold.Halves

/-!
# The closed form

A fold is a weighted sum of its values. The binary digits of a value's index select
the factors of its weight: the highest digit the first factor, the lowest the last one.
Nothing is checked: of an index only as many low digits count as there are factors.
-/

namespace TowerFold

/-- A weight multiplied by those of the factors that the binary digits of `index`
select. -/
def weightFrom (index : Nat) (weight : Operand) : List Operand → Except Fault Operand
  | [] => .ok weight
  | factor :: factors => do
    let weight ← if index.testBit factors.length then weight.mul factor else .ok weight
    weightFrom index weight factors

/-- A partial sum continued by the weighted values from `index` on. -/
def weightedSumFrom (e : Embedding) (factors : List Operand) (index : Nat)
    (sum : Operand) : List Operand → Except Fault Operand
  | [] => .ok sum
  | value :: values => do
    let weight ← weightFrom index (← e.apply (.int 1)) factors
    let sum ← sum.add (← weight.mul value)
    weightedSumFrom e factors (index + 1) sum values

/-- The closed form of the fold of any operands, which have to be sequences. -/
def closedForm (e : Embedding) (values factors : Operand) : Except Fault Operand := do
  let fs ← factors.elements
  let start ← e.apply (.int 0)
  weightedSumFrom e fs 0 start (← values.iterated)

end TowerFold
