/-!
# Names of strategies

The names by which a schedule for a fold is asked for.
-/

namespace TowerFold.Strategy

/-- The names of the strategies that have a schedule, in alphabetical order. -/
def names : List String := ["numpy", "sequential", "threaded"]

end TowerFold.Strategy
