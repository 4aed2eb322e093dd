import TowerFold.Operand.Coercion
import TowerFold.Operand.Sequence
import TowerFold.Packed.Kernel

/-!
# Answers to operators

An operator asks its left operand first. An operand may decline, and then the right
one is asked; an answer, even a failing one, is final. The extension fields coerce the
other side, the base field declines what is no scalar, and the plain kinds only know
their own.

Machine words and grids of them wrap around among themselves and with integers that fit
a word. Where a word meets a field element, it stands for its number: on the left always,
on the right only where the element declines it.
-/

namespace TowerFold

/-- What an operand says when an operator asks it: nothing, when it declines, or an
outcome. -/
abbrev Answer := Option (Except Fault Operand)

/-- A result that may be missing because something had no inverse. -/
def orZeroInverse {α : Type} : Option α → Except Fault α
  | some x => .ok x
  | none => .error .zeroInverse

/-- A complex element times an operand: a scalar multiplies every coordinate, anything
else is coerced first. -/
def CM31.times (x : CM31) (v : Operand) : Except Fault CM31 :=
  match v.toM31? with
  | some k => .ok (x.scale k)
  | none => do return x * (← CM31.ofOperand v)

/-- An element of degree four times an operand: a scalar multiplies every coordinate,
anything else is coerced first. -/
def QM31.times (x : QM31) (v : Operand) : Except Fault QM31 :=
  match v.toM31? with
  | some k => .ok (x.scale k)
  | none => do return x * (← QM31.ofOperand v)

/-- An element of degree four divided by an operand: the inverse of a scalar multiplies
every coordinate, anything else is coerced first. -/
def QM31.over (x : QM31) (v : Operand) : Except Fault QM31 :=
  match v.toM31? with
  | some k => do return x.scale (← orZeroInverse k.inverse?)
  | none => do orZeroInverse (QM31.div? x (← QM31.ofOperand v))

/-- Whether an operand is a machine word or a grid of them. -/
def Operand.isPacked : Operand → Bool
  | .word _ | .grid _ => true
  | _ => false

/-- The grid by which an operand takes part in the arithmetic of words. An integer has to
fit a word. -/
def Operand.toGrid? : Operand → Option (Except Fault (Grid UInt64))
  | .word w => some (.ok (.single w))
  | .grid g => some (.ok g)
  | v => v.toInt?.map fun (n : Int) =>
    if 0 ≤ n ∧ n < UInt64.size then .ok (.single (.ofNat n.toNat)) else .error (.wordOverflow n)

namespace Operator

/-- An operation on words between operands, of which one at least is packed. -/
def wordwise? (f : UInt64 → UInt64 → UInt64) (x y : Operand) : Answer :=
  if x.isPacked || y.isPacked then
    match x.toGrid?, y.toGrid? with
    | some g, some h => some do return .ofGrid (← Grid.zipWith f (← g) (← h))
    | _, _ => none
  else none

/-- The sum of two plain operands: of integers, of words, or of sequences of one kind. -/
def plainSum? (x y : Operand) : Answer :=
  match x.toInt?, y.toInt? with
  | some m, some n => some (.ok (.int (m + n)))
  | _, _ =>
    match wordwise? (· + ·) x y with
    | some outcome => some outcome
    | none => (Operand.concat? x y).map .ok

/-- The difference of two plain operands, which are integers or words. -/
def plainDifference? (x y : Operand) : Answer :=
  match x.toInt?, y.toInt? with
  | some m, some n => some (.ok (.int (m - n)))
  | _, _ => wordwise? (· - ·) x y

/-- The product of a sequence and a count, on either side of it. -/
def repetition? (x y : Operand) : Answer :=
  match x.toIndex?, y.toIndex? with
  | some m, none => y.repeat? x.kind m
  | none, some n => x.repeat? y.kind n
  | _, _ => none

/-- The product of two plain operands: of integers, of words, or of a sequence and a
count. -/
def plainProduct? (x y : Operand) : Answer :=
  match x.toInt?, y.toInt? with
  | some m, some n => some (.ok (.int (m * n)))
  | _, _ =>
    match wordwise? (· * ·) x y with
    | some outcome => some outcome
    | none => repetition? x y

/-- What the left operand of a sum says. -/
def addLeft (x y : Operand) : Answer :=
  match x with
  | .m31 x => y.toM31?.map fun y => .ok (.m31 (x + y))
  | .cm31 x => some do return .cm31 (x + (← CM31.ofOperand y))
  | .qm31 x => some do return .qm31 (x + (← QM31.ofOperand y))
  | x => plainSum? x y

/-- What the right operand of a sum says. -/
def addRight (x y : Operand) : Answer :=
  match y with
  | .m31 y => x.toM31?.map fun x => .ok (.m31 (x + y))
  | .cm31 y => some do return .cm31 (y + (← CM31.ofOperand x))
  | .qm31 y => some do return .qm31 (y + (← QM31.ofOperand x))
  | _ => none

/-- What the left operand of a difference says. -/
def subLeft (x y : Operand) : Answer :=
  match x with
  | .m31 x => y.toM31?.map fun y => .ok (.m31 (x - y))
  | .cm31 x => some do return .cm31 (x - (← CM31.ofOperand y))
  | .qm31 x => some do return .qm31 (x - (← QM31.ofOperand y))
  | x => plainDifference? x y

/-- What the right operand of a difference says. A complex element always declines, and
an element of degree four adds the left side to its negative. -/
def subRight (x y : Operand) : Answer :=
  match y with
  | .m31 y => x.toM31?.map fun x => .ok (.m31 (x - y))
  | .qm31 y => some do return .qm31 (-y + (← QM31.ofOperand x))
  | _ => none

/-- What the left operand of a product says. -/
def mulLeft (x y : Operand) : Answer :=
  match x with
  | .m31 x => y.toM31?.map fun y => .ok (.m31 (x * y))
  | .cm31 x => some do return .cm31 (← x.times y)
  | .qm31 x => some do return .qm31 (← QM31.times x y)
  | x => plainProduct? x y

/-- What the right operand of a product says. -/
def mulRight (x y : Operand) : Answer :=
  match y with
  | .m31 y => x.toM31?.map fun x => .ok (.m31 (x * y))
  | .cm31 y => some do return .cm31 (← y.times x)
  | .qm31 y => some do return .qm31 (← QM31.times y x)
  | _ => none

/-- What the left operand of a quotient says. -/
def divLeft (x y : Operand) : Answer :=
  match x with
  | .m31 x => y.toM31?.map fun y => do return .m31 (← orZeroInverse (x.div? y))
  | .qm31 x => some do return .qm31 (← QM31.over x y)
  | _ => none

/-- A power in the base field. -/
def basePower (x : M31) (n : Int) : Except Fault M31 :=
  match x.power? n with
  | some z => .ok z
  | none => .error .zeroToNegativePower

/-- What the left operand of a power says; exponents are integers, and for an element of
degree four also words. -/
def powLeft (x y : Operand) : Answer :=
  match x with
  | .m31 x =>
    some <| match y.toInt? with
    | some n => do return .m31 (← basePower x n)
    | none => .error (.noPower (.int x.val) y)
  | .qm31 x =>
    some <| match y.toIndex? with
    | some n => .ok (.qm31 (QM31.power x n))
    | none => .error (.notComparable ">" y)
  | _ => none

/-- What a left operand other than a word before a field element says to an operator. -/
def ownLeft : Operator → Operand → Operand → Answer
  | .add => addLeft
  | .sub => subLeft
  | .mul => mulLeft
  | .div => divLeft
  | .pow => powLeft

/-- What a right operand other than a word says to an operator; no quotient or power is
answered from the right. -/
def ownRight : Operator → Operand → Operand → Answer
  | .add => addRight
  | .sub => subRight
  | .mul => mulRight
  | .div | .pow => fun _ _ => none

/-- What the left operand says to an operator. A word before a field element leaves the
answer to that element, to which it is its number. -/
def left (op : Operator) (x y : Operand) : Answer :=
  match x with
  | .word w => if y.isElement then op.ownRight (.int w.toNat) y else op.ownLeft x y
  | x => op.ownLeft x y

/-- What the right operand says to an operator. A word after a base-field element is its
number, but no exponent. -/
def right (op : Operator) (x y : Operand) : Answer :=
  match y with
  | .word w =>
    match x with
    | .m31 _ => if op = .pow then none else op.ownLeft x (.int w.toNat)
    | _ => none
  | y => op.ownRight x y

/-- The outcome of an operator between operands that are no irregular elements: the left operand's
answer, else the right one's, else the operator is not supported between these operands. -/
def regular (op : Operator) (x y : Operand) : Except Fault Operand :=
  match op.left x y with
  | some outcome => outcome
  | none =>
    match op.right x y with
    | some outcome => outcome
    | none => .error (.unsupported op x y)

end Operator

end TowerFold
