import TowerFold.Proofs.Fold.Sizes
import TowerFold.Strategy.Forked

/-!
# Forked folds and the fold by halves

A forked fold evaluates the same joins as the fold by halves, but all blocks before the
first join and the joins layer by layer. So it has the same results. Which fault comes
first may differ, unless at most one level is forked.
-/

namespace TowerFold

@[simp] theorem length_blocks {α : Type} (size count : ℕ) (items : List α) :
    (blocks size count items).length = count := by
  induction count generalizing items with
  | zero => rfl
  | succ count ih => rw [blocks, List.length_cons, ih]

/-- The blocks of a list are those of its first part and those of the rest. -/
theorem blocks_add {α : Type} (size m n : ℕ) (items : List α) :
    blocks size (m + n) items =
      blocks size m (items.take (size * m)) ++ blocks size n (items.drop (size * m)) := by
  induction m generalizing items with
  | zero => simp [blocks]
  | succ m ih =>
    have htake : (items.take (size * (m + 1))).take size = items.take size := by
      rw [List.take_take, min_eq_left (Nat.le_mul_of_pos_right size (by omega))]
    have hdrop : (items.take (size * (m + 1))).drop size = (items.drop size).take (size * m) := by
      rw [List.drop_take, Nat.mul_succ, Nat.add_sub_cancel]
    rw [Nat.add_right_comm, blocks, blocks, htake, hdrop, ih, List.drop_drop, Nat.mul_succ,
      Nat.add_comm (size * m)]
    rfl

/-- Layers joined by several factors, the last factor first. -/
def joinLayers (factors layer : List Operand) : Except Fault (List Operand) :=
  factors.reverse.foldlM (fun layer factor => joinLayer factor layer) layer

@[simp] theorem joinLayers_nil (layer : List Operand) : joinLayers [] layer = .ok layer := rfl

/-- The first factor makes the last layer. -/
theorem joinLayers_cons (factor : Operand) (factors layer : List Operand) :
    joinLayers (factor :: factors) layer = joinLayers factors layer >>= joinLayer factor := by
  simp [joinLayers, List.foldlM_append]

/-- Every join halves a layer. -/
theorem length_joinLayer {factor : Operand} {layer result : List Operand}
    (h : joinLayer factor layer = .ok result) : result.length = layer.length / 2 := by
  induction layer using List.twoStepInduction generalizing result with
  | nil =>
    cases h
    rfl
  | singleton x =>
    cases h
    simp
  | cons_cons left right rest ih =>
    simp only [joinLayer, bind_eq_ok_iff] at h
    obtain ⟨first, _, others, hothers, hresult⟩ := h
    cases hresult
    have hlength := ih hothers
    simp only [List.length_cons]
    omega

/-- Under `k` factors a layer shrinks by `2 ^ k`. -/
theorem length_joinLayers {factors layer result : List Operand} {m : ℕ}
    (hlayer : layer.length = 2 ^ factors.length * m) (h : joinLayers factors layer = .ok result) :
    result.length = m := by
  induction factors generalizing result m with
  | nil =>
    cases h
    simpa using hlayer
  | cons factor factors ih =>
    rw [joinLayers_cons, bind_eq_ok_iff] at h
    obtain ⟨lower, hlower, hresult⟩ := h
    rw [List.length_cons, pow_succ, Nat.mul_assoc] at hlayer
    rw [length_joinLayer hresult, ih hlayer hlower]
    omega

/-- A join of two layers joins each of them, when no pair lies across. -/
theorem joinLayer_append (factor : Operand) {left : List Operand} (right : List Operand) {m : ℕ}
    (hleft : left.length = 2 * m) :
    joinLayer factor (left ++ right) = do
      let a ← joinLayer factor left
      let b ← joinLayer factor right
      return a ++ b := by
  induction m generalizing left with
  | zero =>
    obtain rfl := List.length_eq_zero_iff.mp hleft
    simp [joinLayer]
  | succ m ih =>
    match left, hleft with
    | x :: y :: rest, hleft =>
      have hrest : rest.length = 2 * m := by
        simp only [List.length_cons] at hleft
        omega
      simp only [List.cons_append, joinLayer, ih hrest, bind_assoc, pure_bind]

/-- Several joins of two layers give what the joins of each of them give. -/
theorem joinLayers_append (factors : List Operand) {left right : List Operand} {m : ℕ}
    (hleft : left.length = 2 ^ factors.length * m) :
    SameResults (joinLayers factors (left ++ right)) (do
      let a ← joinLayers factors left
      let b ← joinLayers factors right
      return a ++ b) := by
  induction factors generalizing m with
  | nil => exact .refl _
  | cons factor factors ih =>
    rw [List.length_cons, pow_succ, Nat.mul_assoc] at hleft
    simp only [joinLayers_cons, bind_assoc]
    refine (SameResults.bind (ih hleft) fun _ _ => .refl _).trans ?_
    simp only [bind_assoc, pure_bind]
    refine SameResults.bind (.refl _) fun a ha => ?_
    have hlength := length_joinLayers hleft ha
    simp only [joinLayer_append factor _ hlength]
    exact SameResults.bind_comm _ _ _

variable {e : Embedding}

/-- The first `count` blocks of a list, each folded on its own by the lower factors. -/
def foldBlocks (e : Embedding) (lower : List Operand) (count : ℕ) (values : List Operand) :
    Except Fault (List Operand) :=
  (blocks (2 ^ lower.length) count values).mapM fun block => foldList e block lower

/-- The blocks that are as many as the top factors ask for, folded and joined by these. -/
def joinBlocks (e : Embedding) (top lower values : List Operand) : Except Fault (List Operand) :=
  foldBlocks e lower (2 ^ top.length) values >>= joinLayers top

/-- As many results as blocks. -/
theorem length_foldBlocks {lower values results : List Operand} {count : ℕ}
    (h : foldBlocks e lower count values = .ok results) : results.length = count := by
  rw [length_of_mapM_eq_ok h, length_blocks]

/-- One more top factor joins what the two halves of the values give. -/
theorem joinBlocks_cons_sameResults (factor : Operand) (top lower values : List Operand) :
    SameResults (joinBlocks e (factor :: top) lower values) (do
      let left ← joinBlocks e top lower (values.take (2 ^ (top.length + lower.length)))
      let right ← joinBlocks e top lower (values.drop (2 ^ (top.length + lower.length)))
      joinLayer factor (left ++ right)) := by
  have hhalf : 2 ^ lower.length * 2 ^ top.length = 2 ^ (top.length + lower.length) := by
    rw [pow_add, Nat.mul_comm]
  calc
    _ = (do
        let a ← foldBlocks e lower (2 ^ top.length) (values.take (2 ^ (top.length + lower.length)))
        let b ← foldBlocks e lower (2 ^ top.length) (values.drop (2 ^ (top.length + lower.length)))
        let layer ← joinLayers top (a ++ b)
        joinLayer factor layer) := by
      simp only [joinBlocks, foldBlocks, List.length_cons, pow_succ, Nat.mul_two, blocks_add, hhalf,
        List.mapM_append, joinLayers_cons, bind_assoc, pure_bind]
    SameResults _ (do
        let a ← foldBlocks e lower (2 ^ top.length) (values.take (2 ^ (top.length + lower.length)))
        let b ← foldBlocks e lower (2 ^ top.length) (values.drop (2 ^ (top.length + lower.length)))
        let left ← joinLayers top a
        let right ← joinLayers top b
        joinLayer factor (left ++ right)) := by
      refine SameResults.bind (.refl _) fun a ha => SameResults.bind (.refl _) fun b _ => ?_
      have hlength : a.length = 2 ^ top.length * 1 := by rw [length_foldBlocks ha, Nat.mul_one]
      refine (SameResults.bind (joinLayers_append top hlength) fun _ _ => .refl _).trans ?_
      simp only [bind_assoc, pure_bind, SameResults.refl]
    SameResults _ (do
        let left ← joinBlocks e top lower (values.take (2 ^ (top.length + lower.length)))
        let right ← joinBlocks e top lower (values.drop (2 ^ (top.length + lower.length)))
        joinLayer factor (left ++ right)) := by
      simp only [joinBlocks, bind_assoc]
      exact SameResults.bind (.refl _) fun a _ => SameResults.bind_comm _ _ _

/-- Blocks folded by the lower factors and joined by the top ones give the fold by halves. -/
theorem joinBlocks_sameResults (top lower : List Operand) {values : List Operand}
    (hvalues : values.length = 2 ^ (top.length + lower.length)) :
    SameResults (joinBlocks e top lower values) (do
      let result ← foldHalves e (top ++ lower) values
      return [result]) := by
  induction top generalizing values with
  | nil =>
    have hlower : values.length = 2 ^ lower.length := by simpa using hvalues
    have htake : values.take (2 ^ lower.length) = values := by rw [← hlower, List.take_length]
    simp [joinBlocks, foldBlocks, blocks, htake, foldList_of_sizes hlower, SameResults.refl]
  | cons factor top ih =>
    generalize hhalf : 2 ^ (top.length + lower.length) = half at ih
    have hlength : values.length = half + half := by
      rw [hvalues, ← hhalf, List.length_cons, Nat.add_right_comm, pow_succ, Nat.mul_two]
    have hleft := @ih (values.take half) (by rw [List.length_take]; omega)
    have hright := @ih (values.drop half) (by rw [List.length_drop]; omega)
    have hcount : leafCount (top ++ lower).length = half := by
      rw [leafCount_eq_two_pow, List.length_append, hhalf]
    calc
      SameResults _ (do
          let left ← joinBlocks e top lower (values.take half)
          let right ← joinBlocks e top lower (values.drop half)
          joinLayer factor (left ++ right)) :=
        hhalf ▸ joinBlocks_cons_sameResults factor top lower values
      SameResults _ (do
          let left ← (do return [← foldHalves e (top ++ lower) (values.take half)])
          let right ← (do return [← foldHalves e (top ++ lower) (values.drop half)])
          joinLayer factor (left ++ right)) :=
        SameResults.bind hleft fun _ _ => SameResults.bind hright fun _ _ => .refl _
      _ = (do
          let result ← foldHalves e (factor :: top ++ lower) values
          return [result]) := by
        rw [List.cons_append, foldHalves, hcount]
        simp [joinLayer]

variable {values factors : List Operand} {depth : ℕ}

/-- As many values to a block as the factors below the forked levels fold. -/
theorem blockSize_of_sizes (hdepth : depth ≤ factors.length)
    (hsizes : values.length = 2 ^ factors.length) :
    values.length / leafCount depth = 2 ^ (factors.drop depth).length := by
  rw [hsizes, leafCount_eq_two_pow, List.length_drop, Nat.pow_div hdepth (by decide)]

/-- As many blocks as the factors of the forked levels join. -/
theorem blockCount_of_le (hdepth : depth ≤ factors.length) :
    leafCount depth = 2 ^ (factors.take depth).length := by
  rw [leafCount_eq_two_pow, List.length_take, min_eq_left hdepth]

/-- A forked fold is the first result that its joins leave. -/
theorem foldForked_eq_joinBlocks (hdepth : depth ≤ factors.length)
    (hsizes : values.length = 2 ^ factors.length) :
    foldForked e depth values factors =
      joinBlocks e (factors.take depth) (factors.drop depth) values >>= fun
        | result :: _ => .ok result
        | [] => .error (.indexOutOfRange (.group .square [])) := by
  rw [foldForked, blockSize_of_sizes hdepth hsizes, blockCount_of_le hdepth]
  simp only [joinBlocks, foldBlocks, joinLayers, bind_assoc]
  rfl

/-- A forked fold has the results of the fold by halves, however many levels are forked. -/
theorem foldForked_sameResults (hdepth : depth ≤ factors.length)
    (hsizes : values.length = 2 ^ factors.length) :
    SameResults (foldForked e depth values factors) (foldHalves e factors values) := by
  have hlength :
      values.length = 2 ^ ((factors.take depth).length + (factors.drop depth).length) := by
    rw [hsizes, ← List.length_append, List.take_append_drop]
  have hjoined := joinBlocks_sameResults (e := e) (factors.take depth) (factors.drop depth) hlength
  rw [List.take_append_drop] at hjoined
  rw [foldForked_eq_joinBlocks hdepth hsizes]
  refine (SameResults.bind hjoined fun _ _ => .refl _).trans ?_
  simp [SameResults.refl]

/-- With one forked level every step keeps its place, so also the faults agree. -/
theorem foldForked_one (factor : Operand) (factors : List Operand)
    (hsizes : values.length = 2 ^ (factors.length + 1)) :
    foldForked e 1 values (factor :: factors) = foldHalves e (factor :: factors) values := by
  obtain ⟨hleft, hright⟩ := length_halves hsizes
  rw [leafCount_eq_two_pow] at hleft hright
  have htake : (values.drop (2 ^ factors.length)).take (2 ^ factors.length) =
      values.drop (2 ^ factors.length) := List.take_of_length_le hright.le
  rw [foldForked_eq_joinBlocks (by simp) hsizes, foldHalves, leafCount_eq_two_pow]
  simp [joinBlocks, foldBlocks, blocks, joinLayers_cons, joinLayer, htake,
    foldList_of_sizes hleft, foldList_of_sizes hright]

end TowerFold
