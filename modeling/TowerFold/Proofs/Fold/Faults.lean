import TowerFold.Proofs.Fold.Forked
import TowerFold.Proofs.Operand.Faults

/-!
# The faults of a fold with matching sizes

Once the sizes match, nothing but an operand can make a fold fail, whether it goes by halves
or forks its top levels: every block that is cut off has the size that is left for it, and
every layer ends in one result.
-/

namespace TowerFold

variable {e : Embedding} {values factors : List Operand}

/-- With matching sizes the fold by halves fails only because of operands. -/
theorem foldHalves_failsByOperands (hsizes : values.length = 2 ^ factors.length) :
    FailsByOperands (foldHalves e factors values) := by
  induction factors generalizing values with
  | nil =>
    obtain ⟨v, rfl⟩ := List.length_eq_one_iff.mp hsizes
    exact e.apply_failsByOperands v
  | cons factor factors ih =>
    obtain ⟨hleft, hright⟩ := length_halves hsizes
    rw [foldHalves]
    exact (ih hleft).bind fun _ _ => (ih hright).bind fun _ _ => join_failsByOperands _ _ _

/-- The blocks of a list that is cut up completely all have the size asked for. -/
theorem length_of_mem_blocks {α : Type} {size count : ℕ} {items block : List α}
    (hitems : items.length = size * count) (hblock : block ∈ blocks size count items) :
    block.length = size := by
  induction count generalizing items with
  | zero => cases hblock
  | succ count ih =>
    rw [Nat.mul_succ] at hitems
    rcases List.mem_cons.mp hblock with rfl | hrest
    · rw [List.length_take]
      omega
    · refine ih ?_ hrest
      rw [List.length_drop]
      omega

/-- A layer is joined in one way or fails because of operands. -/
theorem joinLayer_failsByOperands (factor : Operand) (layer : List Operand) :
    FailsByOperands (joinLayer factor layer) := by
  induction layer using List.twoStepInduction with
  | nil => exact .ok []
  | singleton x => exact .ok []
  | cons_cons left right rest ih =>
    exact (join_failsByOperands left right factor).bind fun _ _ => ih.bind fun _ _ => .ok _

theorem joinLayers_failsByOperands (factors layer : List Operand) :
    FailsByOperands (joinLayers factors layer) :=
  .foldlM layer fun _ _ _ => joinLayer_failsByOperands _ _

variable {depth : ℕ}

/-- The size of a block matches the factors below the levels that are forked. -/
theorem length_of_mem_blocks_of_sizes (hdepth : depth ≤ factors.length)
    (hsizes : values.length = 2 ^ factors.length) {block : List Operand}
    (hblock : block ∈ blocks (values.length / leafCount depth) (leafCount depth) values) :
    block.length = 2 ^ (factors.drop depth).length := by
  rw [blockSize_of_sizes hdepth hsizes] at hblock
  refine length_of_mem_blocks ?_ hblock
  rw [hsizes, leafCount_eq_two_pow, ← pow_add, List.length_drop, Nat.sub_add_cancel hdepth]

/-- With matching sizes a forked fold fails only because of operands: every block has the size
that its factors ask for, and the joins leave exactly one result. -/
theorem foldForked_failsByOperands (hdepth : depth ≤ factors.length)
    (hsizes : values.length = 2 ^ factors.length) :
    FailsByOperands (foldForked e depth values factors) := by
  have hblocks : FailsByOperands
      (foldBlocks e (factors.drop depth) (2 ^ (factors.take depth).length) values) := by
    refine .mapM fun block hblock => ?_
    rw [← blockSize_of_sizes hdepth hsizes, ← blockCount_of_le hdepth] at hblock
    have hlength := length_of_mem_blocks_of_sizes hdepth hsizes hblock
    rw [foldList_of_sizes hlength]
    exact foldHalves_failsByOperands hlength
  rw [foldForked_eq_joinBlocks hdepth hsizes, joinBlocks, bind_assoc]
  refine hblocks.bind fun layer hlayer => ?_
  refine (joinLayers_failsByOperands _ layer).bind fun top htop => ?_
  -- A layer without results would be indexed out of range.
  have hone : top.length = 1 := by
    refine length_joinLayers ?_ htop
    rw [length_foldBlocks hlayer, Nat.mul_one]
  obtain ⟨result, rfl⟩ := List.length_eq_one_iff.mp hone
  exact .ok result

end TowerFold
