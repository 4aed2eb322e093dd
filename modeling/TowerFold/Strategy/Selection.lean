import TowerFold.Strategy.Basic
import TowerFold.Strategy.Forked
import TowerFold.Strategy.Layered

/-!
# Folding by a strategy

Every strategy checks the sizes of its input first and hands on to the plain fold what
its own schedule does not support. Large inputs that can be packed are folded by layers
unless a strategy is asked for.
-/

namespace TowerFold

/-- Inputs of at least this many values are folded by packed layers where those support
them. -/
def accelerationThreshold : Nat := 1024

namespace Strategy

/-- The fold by a strategy's own schedule. A forked fold with no level to fork is a
plain one, and asks for no pool. -/
def schedule (s : Strategy) (e : Embedding) (values factors : List Operand) :
    Except Fault Operand :=
  match s with
  | .unscheduled => .error .noSchedule
  | .sequential => foldList e values factors
  | .forked plan =>
    let depth := min plan.depth factors.length
    if depth = 0 then foldList e values factors
    else do
      plan.checkPool
      foldForked e depth values factors
  | .layered => foldLayered values factors

/-- The fold by a strategy. -/
def fold (s : Strategy) (e : Embedding) (values factors : Operand) :
    Except Fault Operand := do
  let (vs, fs) ← sized values factors
  if ← s.supports e values factors then s.schedule e vs fs
  else foldList e vs fs

/-- The strategy for an input: packed layers from `threshold` values on where they
support it, else the plain fold. The sizes need not match. -/
def select (e : Embedding) (values factors : Operand)
    (threshold : Int := accelerationThreshold) : Except Fault Strategy := do
  let vs ← values.elements
  if threshold ≤ vs.length then
    if ← layered.supports e values factors then return layered
  return sequential

end Strategy

/-- The fold by a given strategy, or else by the one that suits the input. -/
def foldAccelerated (e : Embedding) (values factors : Operand)
    (strategy? : Option Strategy := none) : Except Fault Operand := do
  let _ ← sized values factors
  let s ← match strategy? with
    | some s => pure s
    | none => Strategy.select e values factors
  s.fold e values factors

end TowerFold
