import TowerFold.Operand.Answers

/-!
# Arithmetic of elements as their classes keep them

What the operators of the three classes do step by step, coordinate by coordinate, whatever is
kept in the place of the coordinates. A step combines two representatives as operands of their
own, and keeps the remainder of the result; every new element takes the remainders of its
coordinates once more. Where all coordinates are residues this is the arithmetic of the fields;
with texts, bytes or words among them it is what is left of it.
-/

namespace TowerFold

namespace Representative

/-- Two coordinates combined by an operator. -/
def combine (op : Operator) (r s : Representative) : Except Fault Representative := do
  (← op.regular (.ofRepresentative r) (.ofRepresentative s)).remainder

/-- Whether a coordinate is true, which a grid is only with a single entry. -/
def truth : Representative → Except Fault Bool
  | .grid g => if g.count = 1 then .ok (g.items.any (· ≠ 0)) else .error (.ambiguous g.count)
  | r => .ok (Operand.ofRepresentative r).truth

/-- Whether a coordinate is zero. -/
def isZero : Representative → Except Fault Bool
  | .text _ | .bytes _ => .ok false
  | r => do return !(← r.truth)

/-- The negative of a coordinate: what is missing to the modulus. -/
def neg (r : Representative) : Except Fault Representative := do
  let taken : Operand := if ← r.truth then .ofRepresentative r else .int modulus
  (← Operator.sub.regular (.int modulus) taken).remainder

/-- The power of a coordinate, which has to be a residue, and the exponent an integer. -/
def power (r : Representative) (v : Operand) : Except Fault Representative :=
  match r, v.toInt? with
  | .residue x, some n => do return .residue (← Operator.basePower x n)
  | r, _ => .error (.noPower (.ofRepresentative r) v)

/-- The inverse of a coordinate. -/
def inverse (r : Representative) : Except Fault Representative := do
  if ← r.isZero then throw .zeroInverse
  r.power (.int (-1))

end Representative

/-- The scalar that an operand is for a class: an integer or an element of the base class. -/
def Operand.scalar? : Operand → Option Representative
  | .irregular ⟨.base r, _⟩ => some r
  | v => v.toM31?.map .residue

namespace ComplexCoords

/-- Both coordinates changed in the same way. -/
def mapM (f : Representative → Except Fault Representative) (x : ComplexCoords) :
    Except Fault ComplexCoords := do
  return (← f x.1, ← f x.2)

/-- Coordinates of two elements put together in the same way. -/
def zipWithM (f : Representative → Representative → Except Fault Representative)
    (x y : ComplexCoords) : Except Fault ComplexCoords := do
  return (← f x.1 y.1, ← f x.2 y.2)

/-- The coordinates of a new element. -/
def kept (x : ComplexCoords) : Except Fault ComplexCoords := mapM Representative.remainder x

/-- The sum or the difference of two elements. -/
def combine (op : Operator) (x y : ComplexCoords) : Except Fault ComplexCoords := do
  kept (← zipWithM (Representative.combine op) x y)

/-- The product of two elements. -/
def mul (x y : ComplexCoords) : Except Fault ComplexCoords := do
  let re ← (← x.1.combine .mul y.1).combine .sub (← x.2.combine .mul y.2)
  let im ← (← x.1.combine .mul y.2).combine .add (← x.2.combine .mul y.1)
  kept (re, im)

/-- Every coordinate multiplied by a scalar. -/
def scale (x : ComplexCoords) (k : Representative) : Except Fault ComplexCoords := do
  kept (← mapM (Representative.combine .mul · k) x)

/-- The negative of an element. -/
def neg (x : ComplexCoords) : Except Fault ComplexCoords := do
  kept (← mapM Representative.neg x)

/-- The inverse of an element: its conjugate over its norm. -/
def inverse (x : ComplexCoords) : Except Fault ComplexCoords := do
  let norm ← (← x.1.combine .mul x.1).combine .add (← x.2.combine .mul x.2)
  let n ← norm.inverse
  kept (← x.1.combine .mul n, ← (← x.2.neg).combine .mul n)

end ComplexCoords

namespace QuarticCoords

/-- All coordinates changed in the same way. -/
def mapM (f : Representative → Except Fault Representative) (x : QuarticCoords) :
    Except Fault QuarticCoords := do
  return (← ComplexCoords.mapM f x.1, ← ComplexCoords.mapM f x.2)

/-- The coordinates of a new element. -/
def kept (x : QuarticCoords) : Except Fault QuarticCoords := mapM Representative.remainder x

/-- The sum or the difference of two elements. -/
def combine (op : Operator) (x y : QuarticCoords) : Except Fault QuarticCoords := do
  kept (← ComplexCoords.zipWithM (Representative.combine op) x.1 y.1,
    ← ComplexCoords.zipWithM (Representative.combine op) x.2 y.2)

/-- The square of the generator. -/
def nonResidue : ComplexCoords :=
  (.residue TowerFold.nonResidue.re, .residue TowerFold.nonResidue.im)

/-- The halves of an element as elements of the complex class. -/
def halves (x : QuarticCoords) : Except Fault QuarticCoords := do
  return (← ComplexCoords.kept x.1, ← ComplexCoords.kept x.2)

/-- The product of two elements by their halves. -/
def mulHalves (x y : QuarticCoords) : Except Fault QuarticCoords := do
  let lo ← ComplexCoords.combine .add (← ComplexCoords.mul x.1 y.1)
    (← ComplexCoords.mul (← ComplexCoords.mul x.2 y.2) nonResidue)
  let hi ← ComplexCoords.combine .add (← ComplexCoords.mul x.1 y.2)
    (← ComplexCoords.mul x.2 y.1)
  kept (lo, hi)

/-- The product of two elements. -/
def mul (x y : QuarticCoords) : Except Fault QuarticCoords := do
  let x ← halves x
  mulHalves x (← halves y)

/-- Every coordinate multiplied by a scalar. -/
def scale (x : QuarticCoords) (k : Representative) : Except Fault QuarticCoords := do
  kept (← mapM (Representative.combine .mul · k) x)

/-- The negative of an element. -/
def neg (x : QuarticCoords) : Except Fault QuarticCoords := do
  kept (← mapM Representative.neg x)

/-- The inverse of an element: its conjugate over its norm. -/
def inverse (x : QuarticCoords) : Except Fault QuarticCoords := do
  let x ← halves x
  let norm ← ComplexCoords.combine .sub (← ComplexCoords.mul x.1 x.1)
    (← ComplexCoords.mul (← ComplexCoords.mul x.2 x.2) nonResidue)
  let n ← ComplexCoords.inverse norm
  let lo ← ComplexCoords.mul x.1 n
  let hi ← ComplexCoords.mul (← ComplexCoords.neg x.2) n
  kept (lo, hi)

/-- One. -/
def one : QuarticCoords := ((.residue 1, 0), (0, 0))

/-- `acc` times a power: the lowest binary digit of the exponent says whether the base itself is a
factor, the others act on its square. -/
def powerFrom (acc base : QuarticCoords) (n : Nat) : Except Fault QuarticCoords :=
  if n = 0 then .ok acc
  else do
    let acc ← if n % 2 = 1 then mul acc base else .ok acc
    powerFrom acc (← mul base base) (n / 2)
termination_by n

end QuarticCoords

namespace RawElement

/-- What an element on the left of an operator says. -/
def left (op : Operator) (x : RawElement) (v : Operand) : Answer :=
  match op, x with
  | .add, .base r | .sub, .base r | .mul, .base r =>
    v.scalar?.map fun s => do return (base (← r.combine op s)).toOperand
  | .div, .base r =>
    v.scalar?.map fun s => do return (base (← r.combine .mul (← s.inverse))).toOperand
  | .pow, .base r => some do return (base (← r.power v)).toOperand
  | .add, .complex x | .sub, .complex x =>
    some do return (complex (← x.combine op (← v.complexCoords))).toOperand
  | .mul, .complex x =>
    some do
      let z ← match v.scalar? with
        | some k => x.scale k
        | none => x.mul (← v.complexCoords)
      return (complex z).toOperand
  | .div, .complex _ | .pow, .complex _ => none
  | .add, .quartic x | .sub, .quartic x =>
    some do return (quartic (← x.combine op (← v.quarticCoords))).toOperand
  | .mul, .quartic x =>
    some do
      let z ← match v.scalar? with
        | some k => x.scale k
        | none => do
          let x ← x.halves
          x.mulHalves (← QuarticCoords.halves (← v.quarticCoords))
      return (quartic z).toOperand
  | .div, .quartic x =>
    some do
      let z ← match v.scalar? with
        | some _ => x.scale (← (← v.remainder).inverse)
        | none => x.mul (← (← v.quarticCoords).inverse)
      return (quartic z).toOperand
  | .pow, .quartic x =>
    some <| match v.toIndex? with
    | some n => do return (quartic (← QuarticCoords.powerFrom .one x n.toNat)).toOperand
    | none => .error (.notComparable ">" v)

/-- What an element on the right of an operator says. A complex element takes no part in a
difference there, and an element of degree four adds the left side to its negative. -/
def right (op : Operator) (v : Operand) (y : RawElement) : Answer :=
  match op, y with
  | .sub, .base r =>
    v.scalar?.map fun s => do return (base (← s.combine .sub r)).toOperand
  | .sub, .quartic y =>
    some do return (quartic (← (← y.neg).combine .add (← v.quarticCoords))).toOperand
  | .add, y | .mul, y => y.left op v
  | _, _ => none

/-- The negative of an element. -/
def neg : RawElement → Except Fault Operand
  | .base r => do return (base (← r.neg)).toOperand
  | .complex x => do return (complex (← x.neg)).toOperand
  | .quartic x => do return (quartic (← x.neg)).toOperand

/-- The inverse of an element. -/
def inverse : RawElement → Except Fault Operand
  | .base r => do return (base (← r.inverse)).toOperand
  | .complex x => do return (complex (← x.inverse)).toOperand
  | .quartic x => do return (quartic (← x.inverse)).toOperand

end RawElement

namespace Operator

/-- What an element on the left says to an operator. -/
def rawLeft (op : Operator) (x y : Operand) : Answer :=
  match x.toRaw? with
  | some x => x.left op y
  | none => none

/-- What an element on the right says to an operator, to which a word on the left is its number.
A word on the right of an element of the base class is its number as well, but no exponent. -/
def rawRight (op : Operator) (x y : Operand) : Answer :=
  match x, y with
  | .word w, y => y.toRaw?.bind fun y => y.right op (.int w.toNat)
  | x, .word w =>
    match x.toRaw? with
    | some (.base r) => if op = .pow then none else (RawElement.base r).left op (.int w.toNat)
    | _ => none
  | x, y => y.toRaw?.bind fun y => y.right op x

/-- The outcome of an operator between operands of which one is an element, however irregular. -/
def raw (op : Operator) (x y : Operand) : Except Fault Operand :=
  match op.rawLeft x y with
  | some outcome => outcome
  | none =>
    match op.rawRight x y with
    | some outcome => outcome
    | none => .error (.unsupported op x y)

end Operator

end TowerFold
