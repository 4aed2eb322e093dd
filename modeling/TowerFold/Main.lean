import TowerFold.Benchmark

/-!
# The command line

Prints the benchmark reports that the arguments ask for, on inputs from a fixed seed.
-/

namespace TowerFold

/-- Pseudo-random draws from a seed. -/
def Benchmark.Draws.ofSeed (seed count : Nat) : Benchmark.Draws :=
  .mk <| (List.range count).foldl (fun (drawn, gen) _ =>
    let (n, gen) := randNat gen 0 (modulus - 1)
    (drawn.push (n : Int), gen)) ((#[] : Array Int), mkStdGen seed) |>.1

end TowerFold

/-- Prints the reports and ends with a failure code when one of them ends in a fault. -/
def main (arguments : List String) : IO UInt32 := do
  let report := TowerFold.Benchmark.reportOnArguments .whole (.ofSeed 42 100000) arguments
  for line in report.lines do
    IO.println line
  match report.outcome with
  | .ok () => return 0
  | .error fault =>
    IO.eprintln (fault.message.getD "the benchmark failed")
    return 1
