import TowerFold.Fold.ClosedForm
import TowerFold.Operand.Equality
import TowerFold.Strategy.Selection
import TowerFold.Text.Numeral

/-!
# The benchmark report

Inputs are drawn, folded once by the plain fold and again by every strategy asked for,
and each result is reported and compared with the first one. A report is a function of
the draws alone: no time is measured, so the seconds in it read zero.
-/

namespace TowerFold.Benchmark

/-- Up to this many values the closed form is compared too. -/
def referenceLimit : Nat := 1024

/-- A source of integers, which begins again when all of them are drawn. -/
structure Draws where
  /-- The integers in the order in which they are drawn. -/
  integers : Array Int

/-- The `n`-th draw. -/
def Draws.nth (draws : Draws) (n : Nat) : Int :=
  draws.integers.getD (n % draws.integers.size) 0

/-- The `n`-th draw below the modulus of the base field, as an element. -/
def drawn (draws : Draws) (n : Nat) : M31 := .ofInt (draws.nth n)

/-- The `2 ^ k` values of an input of size `k`: base-field elements, one draw each. -/
def drawValues (draws : Draws) (k : Nat) : List Operand :=
  (List.range (leafCount k)).map fun i => .m31 (drawn draws i)

/-- The `k` factors of an input of size `k`: elements of degree four, whose coordinates
are the draws that follow those of the values. -/
def drawFactors (draws : Draws) (k : Nat) : List Operand :=
  (List.range k).map fun j =>
    let first := leafCount k + 4 * j
    .qm31 (.ofCoords (drawn draws first) (drawn draws (first + 1)) (drawn draws (first + 2))
      (drawn draws (first + 3)))

/-- The values and factors of an input of a size that is not negative, and for whose values there
is room. Every input takes at least one draw, so the source must not be empty. -/
def drawInputs (room : Room) (draws : Draws) (logSize : Int) :
    Except Fault (List Operand × List Operand) :=
  if logSize < 0 then .error .negativeSize
  else if countableExponent ≤ logSize.toNat then .error .powerOverflow
  else if !room.holds logSize.toNat then .error .tooLong
  else if draws.integers.isEmpty then .error .noDraws
  else .ok (drawValues draws logSize.toNat, drawFactors draws logSize.toNat)

/-- What a benchmark prints, and how it ends. -/
structure Report where
  /-- The lines printed, also before a fault. -/
  lines : List String
  /-- Whether the benchmark ran to its end. -/
  outcome : Except Fault Unit

namespace Report

/-- A report that ends in a fault without a line. -/
def failed (fault : Fault) : Report := ⟨[], .error fault⟩

/-- A line before a report. -/
def after (line : String) (r : Report) : Report := ⟨line :: r.lines, r.outcome⟩

/-- A report followed by another one, which is reached only without a fault. -/
def andThen (r next : Report) : Report :=
  match r.outcome with
  | .ok () => ⟨r.lines ++ next.lines, next.outcome⟩
  | .error _ => r

end Report

/-- The line for a result: who computed it, and in how many seconds. -/
def resultLine (label : String) (result : Operand) : String :=
  label ++ ": " ++ result.render ++ " in 0.0000 sec"

/-- Goes on with `next` when `computed` equals `expected`. -/
def checked (computed : Except Fault Operand) (expected : Operand) (next : Report) : Report :=
  match (do (← computed).equals expected) with
  | .error fault => .failed fault
  | .ok false => .failed .disagreement
  | .ok true => next

/-- The part of a report on the named strategies. -/
def compareStrategies (values factors expected : Operand) : List String → Report
  | [] => ⟨["All backends agree"], .ok ()⟩
  | name :: names =>
    match (do (← Strategy.ofName (.text name) []).fold .qm31 values factors) with
    | .error fault => .failed fault
    | .ok result =>
      .after (resultLine name result)
        (checked (.ok result) expected (compareStrategies values factors expected names))

/-- The report on an input that has been drawn. -/
def reportOn (values factors : List Operand) (names : List String) : Report :=
  let values' := .group .square values
  let factors' := .group .square factors
  .after ("Folding " ++ toString values.length ++ " values with " ++
      toString factors.length ++ " factors") <|
    match fold .qm31 values' factors' with
    | .error fault => .failed fault
    | .ok expected =>
      .after (resultLine "fold" expected) <|
        let comparison := compareStrategies values' factors' expected
          (if names.isEmpty then Strategy.names else names)
        if values.length ≤ referenceLimit then
          checked (closedForm .qm31 values' factors') expected
            (.after "Matches closed form" comparison)
        else comparison

/-- The report on a fold of `2 ^ logSize` values by the named strategies, or by all of
them when none is named. There is never room for so many values that the fold would nest too deeply
or their number could not be written. -/
def report (room : Room) (draws : Draws) (logSize : Int) (names : List String) : Report :=
  match drawInputs room draws logSize with
  | .error fault => .failed fault
  | .ok (values, factors) => reportOn values factors names

/-- The sizes that are reported on where none is asked for. -/
def defaultSizes : List Int := [4, 10, 16]

/-- The reports that command-line arguments ask for. Arguments of digits are sizes,
names of strategies choose strategies, and the rest is ignored. All sizes are read
before the first report. -/
def reportOnArguments (room : Room) (draws : Draws) (arguments : List String) : Report :=
  match (arguments.filter Text.isDigits).mapM fun a => (Operand.text a).toInteger with
  | .error fault => .failed fault
  | .ok sizes =>
    let names := arguments.filter (· ∈ Strategy.names)
    let reports := (if sizes.isEmpty then defaultSizes else sizes).map (report room draws · names)
    reports.foldr Report.andThen ⟨[], .ok ()⟩

end TowerFold.Benchmark
