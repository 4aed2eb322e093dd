import TowerFold.Embedding
import TowerFold.Operand.HashKey
import TowerFold.Operand.Sequence

/-!
# Strategies

The schedules by which a fold can be computed, the options they take, and which inputs
each of them supports.
-/

namespace TowerFold

/-- How many levels are forked where nothing is said about it. -/
def parallelDepth : Nat := 2

/-- How a forked fold spreads its work. -/
structure ForkPlan where
  /-- The number of top levels that are forked into subtrees. -/
  depth : Nat := parallelDepth
  /-- The number of workers asked for, looked at only when work is spread. -/
  workers : Operand := .nothing
  /-- The depth as it was written, which may be a truth value or a word. -/
  written : Operand := .int depth
  /-- Whether work is spread over a pool of workers, and not over an operand that was given
  to take its place and cannot. -/
  pooled : Bool := true

/-- A schedule for a fold. -/
inductive Strategy
  /-- A strategy without a schedule, which checks sizes and folds nothing. -/
  | unscheduled
  /-- The fold by halves. -/
  | sequential
  /-- Subtrees below the top levels on their own, then the top levels. -/
  | forked (plan : ForkPlan)
  /-- Whole layers of packed elements, from the leaves up. -/
  | layered

namespace Strategy

/-- The name of a strategy. -/
def name? : Strategy → Option String
  | .unscheduled => none
  | .sequential => some "sequential"
  | .forked _ => some "threaded"
  | .layered => some "numpy"

/-- The text of a strategy. -/
def render (s : Strategy) : String :=
  "<" ++ s.name?.getD "None" ++ " backend>"

end Strategy

/-- The names of the options of a fork plan. -/
def ForkPlan.optionNames : List String := ["depth", "max_workers", "executor_cls"]

/-- The fork plan that options ask for: a depth, a number of workers, and what takes the
place of the pool. Options that are not known come first among the faults, and a depth has
to be a number that is not negative. -/
def ForkPlan.ofOptions (options : List (String × Operand)) : Except Fault ForkPlan :=
  match options.find? fun (key, _) => !optionNames.contains key with
  | some (key, _) => .error (.unknownOption key)
  | none =>
    let written := (options.lookup "depth").getD (.int parallelDepth)
    let workers := (options.lookup "max_workers").getD .nothing
    match written.toIndex? with
    | none => .error (.notComparable "<" written)
    | some depth =>
      if depth < 0 then .error (Fault.negativeDepth depth).stated
      else .ok ⟨depth.toNat, workers, written, !options.any (·.1 = "executor_cls")⟩

/-- A number of workers that is given has to be a positive number. -/
def checkWorkers : Operand → Except Fault Unit
  | .nothing => .ok ()
  | v =>
    match v.toIndex? with
    | none => .error (.notComparable "<=" v)
    | some n => if n ≤ 0 then .error .noWorkers else .ok ()

/-- Work can be spread over a pool with a number of workers that is not refused. -/
def ForkPlan.checkPool (plan : ForkPlan) : Except Fault Unit :=
  if plan.pooled then checkWorkers plan.workers else .error .notPool

namespace Strategy

/-- A strategy that takes no options. -/
def plain (s : Strategy) : List (String × Operand) → Except Fault Strategy
  | [] => .ok s
  | (key, _) :: _ => .error (.unknownOption key)

/-- The strategy of a name, with its options, none of which may take the place of the
name. A name that cannot be hashed cannot be looked up either. -/
def ofName (name : Operand) (options : List (String × Operand)) :
    Except Fault Strategy := do
  if options.any (·.1 = "name") then throw (.unknownOption "name")
  let _ ← name.hashKey
  match name with
  | .text "sequential" => sequential.plain options
  | .text "numpy" => layered.plain options
  | .text "threaded" => return forked (← ForkPlan.ofOptions options)
  | _ => throw (Fault.unknownStrategy name).stated

/-- Whether an operand can be packed as it is: a base-field element or an element of
degree four. -/
def isPackable : Operand → Bool
  | .m31 _ | .qm31 _ => true
  | _ => false

/-- Whether packed layers take an operand for one that can be packed: whether it is an element of
the base class or of the class of degree four, irregular or not. -/
def looksPackable (v : Operand) : Bool :=
  match v.toRaw? with
  | some (.base _) | some (.quartic _) => true
  | _ => false

/-- Whether an operand is a sequence whose items all look packable. -/
def allPackable (v : Operand) : Except Fault Bool := do
  return (← v.iterated).all looksPackable

/-- Whether a strategy's own schedule handles an input. Packed layers handle embeddings
into the field of degree four, with values and factors that look packable; the factors
are looked at only when the values do. -/
def supports (s : Strategy) (e : Embedding) (values factors : Operand) :
    Except Fault Bool := do
  match s with
  | .layered =>
    if e ≠ .qm31 then return false
    else if !(← allPackable values) then return false
    else allPackable factors
  | _ => return true

end Strategy

end TowerFold
