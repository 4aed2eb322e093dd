/-!
# Limits of the runtime

What no process holds and no machine word counts. All sizes are measured against the same
limits: the results of repetitions and directives, powers of two, and lists of inputs.
-/

namespace TowerFold

/-- Counts and lengths from `2⁶³` on do not fit a signed machine word. -/
def countLimit : Nat := 9223372036854775808

/-- A process addresses `2⁴⁷` bytes, so nothing that takes as many is ever held. -/
def addressSpace : Nat := 140737488355328

/-- How long a list a process can build, with everything that goes with its items. The items
themselves take eight bytes each. -/
structure Room where
  /-- The number of items of the longest list. -/
  items : Nat
  /-- The list has addresses. -/
  addressed : 8 * items < addressSpace

namespace Room

/-- The room of a process that can use all addresses. -/
def whole : Room := ⟨addressSpace / 8 - 1, by decide⟩

/-- Whether there is room for a list of `2 ^ k` items. The power is not computed. -/
def holds (room : Room) (k : Nat) : Bool := room.items ≠ 0 && k ≤ room.items.log2

end Room

end TowerFold
