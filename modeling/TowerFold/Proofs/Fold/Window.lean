import TowerFold.Fold.Window
import TowerFold.Proofs.Fold.Sizes

/-!
# Windows that fit

A window fits when it lies within the values, its level within the factors, and its size is
the one that its level asks for. The two halves of such a window fit again, so no check in
the recursion over windows ever fails, and its outcome is that of the fold by halves.
-/

namespace TowerFold

namespace Window

/-- A window that lies within `values` values and has the size that its level asks for under
`factors` factors. -/
structure Fits (w : Window) (values factors : ℕ) : Prop where
  start_nonneg : 0 ≤ w.start
  end_le : w.start + w.size ≤ values
  level_nonneg : 0 ≤ w.level
  level_le : w.level ≤ factors
  size_eq : w.size = w.expectedSize factors

/-- The windows into which the fold of a window descends: a window of one value is a leaf, any
other one is folded by its halves. -/
inductive Reaches : Window → Window → Prop
  | refl (w : Window) : Reaches w w
  | left {w w' : Window} (hsize : w.size ≠ 1) (h : Reaches w.left w') : Reaches w w'
  | right {w w' : Window} (hsize : w.size ≠ 1) (h : Reaches w.right w') : Reaches w w'

variable {w w' : Window} {values factors : ℕ}

/-- A level above the last `depth` factors asks for `2 ^ depth` values. -/
theorem expectedSize_of_depth {start size : ℤ} {level depth : ℕ}
    (hlevel : level + depth = factors) :
    (⟨start, size, level⟩ : Window).expectedSize factors = 2 ^ depth := by
  have hdepth : ((factors : ℤ) - level).toNat = depth := by omega
  rw [expectedSize, Window.depth, hdepth, leafCount_eq_two_pow]

/-- A window of `2 ^ depth` values over the last `depth` factors fits. -/
theorem fits_of_depth {start level depth : ℕ} (hlevel : level + depth = factors)
    (hend : start + 2 ^ depth ≤ values) :
    (⟨start, (2 ^ depth : ℕ), level⟩ : Window).Fits values factors where
  start_nonneg := by simp
  end_le := by simpa using Int.ofNat_le.mpr hend
  level_nonneg := by simp
  level_le := by
    rw [← hlevel]
    simp
  size_eq := by rw [expectedSize_of_depth hlevel]

/-- Half of a power of two is the next smaller one. -/
theorem two_pow_succ_half (depth : ℕ) : ((2 ^ (depth + 1) : ℕ) : ℤ) / 2 = (2 ^ depth : ℕ) := by
  rw [pow_succ]
  omega

/-- The first half of a window of `2 ^ (depth + 1)` values is one of `2 ^ depth` values. -/
theorem left_of_depth (start level depth : ℕ) :
    (⟨start, (2 ^ (depth + 1) : ℕ), level⟩ : Window).left =
      ⟨start, (2 ^ depth : ℕ), (level + 1 : ℕ)⟩ := by
  simp only [Window.left, two_pow_succ_half, Nat.cast_add, Nat.cast_one]

/-- The second half begins behind as many values. -/
theorem right_of_depth (start level depth : ℕ) :
    (⟨start, (2 ^ (depth + 1) : ℕ), level⟩ : Window).right =
      ⟨(start + 2 ^ depth : ℕ), (2 ^ depth : ℕ), (level + 1 : ℕ)⟩ := by
  simp only [Window.right, two_pow_succ_half, Nat.cast_add, Nat.cast_one]

/-- A window that fits is one of `2 ^ depth` values over the last `depth` factors. -/
theorem Fits.exists_depth (hw : w.Fits values factors) :
    ∃ start level depth : ℕ, level + depth = factors ∧ start + 2 ^ depth ≤ values ∧
      w = ⟨start, (2 ^ depth : ℕ), level⟩ := by
  obtain ⟨start, size, level⟩ := w
  obtain ⟨hstart, hend, hlevel, hle, hsize⟩ := hw
  simp only at hstart hend hlevel hle hsize
  obtain ⟨start, rfl⟩ := Int.eq_ofNat_of_zero_le hstart
  obtain ⟨level, rfl⟩ := Int.eq_ofNat_of_zero_le hlevel
  obtain ⟨depth, hdepth⟩ := Nat.exists_eq_add_of_le (Int.ofNat_le.mp hle)
  rw [expectedSize_of_depth hdepth.symm] at hsize
  refine ⟨start, level, depth, hdepth.symm, ?_, by rw [hsize]⟩
  rw [hsize] at hend
  exact_mod_cast hend

/-- The halves of a window that fits and holds more than one value fit one level down. -/
theorem Fits.halves (hw : w.Fits values factors) (hsize : w.size ≠ 1) :
    w.left.Fits values factors ∧ w.right.Fits values factors := by
  obtain ⟨start, level, depth, hlevel, hend, rfl⟩ := hw.exists_depth
  cases depth with
  | zero => exact absurd rfl hsize
  | succ depth =>
    rw [left_of_depth, right_of_depth]
    rw [pow_succ] at hend
    have hlevel' : level + 1 + depth = factors := by omega
    exact ⟨fits_of_depth hlevel' (by omega), fits_of_depth hlevel' (by omega)⟩

/-- All windows into which the fold of a window that fits descends fit. -/
theorem Fits.of_reaches (hreaches : w.Reaches w') (hw : w.Fits values factors) :
    w'.Fits values factors := by
  induction hreaches with
  | refl => exact hw
  | left hsize _ ih => exact ih (hw.halves hsize).1
  | right hsize _ ih => exact ih (hw.halves hsize).2

end Window

variable {e : Embedding} {values : Operand} {vs fs : List Operand}

/-- The item of a sequence at an index that is within bounds. -/
theorem Operand.itemAt_of_lt {items : List Operand} {i : ℕ} (hi : i < items.length)
    (refusal : Fault) : itemAt items i refusal = .ok items[i] := by
  have hnonneg : ¬(i : ℤ) < 0 := by omega
  simp [itemAt, hnonneg, hi]

/-- A sequence has no item from its end on. -/
theorem Operand.itemAt_of_le {items : List Operand} {i : ℕ} (hi : items.length ≤ i)
    (refusal : Fault) : itemAt items i refusal = .error refusal := by
  have hnonneg : ¬(i : ℤ) < 0 := by omega
  simp [itemAt, hnonneg, hi]

/-- An item of a sequence is found among its elements. -/
theorem Operand.itemFrom_of_elements (hvalues : values.elements = .ok vs) (i : ℤ) :
    values.itemFrom i = itemAt vs i (.indexOutOfRange values) := by
  unfold itemFrom
  split
  · cases hvalues
  · rw [elements_eq_ok_iff.mp hvalues]

/-- A window of one value below the last factor passes the checks and is a leaf. -/
theorem foldWindow_leaf (start : ℕ) :
    foldWindow e values fs ⟨start, (1 : ℕ), fs.length⟩ = (do
      e.apply (← values.itemFrom start)) := by
  have hexpected : (⟨start, (1 : ℕ), fs.length⟩ : Window).expectedSize fs.length = 1 :=
    Window.expectedSize_of_depth (Nat.add_zero _)
  have hone : ((1 : ℕ) : ℤ) = 1 := rfl
  rw [foldWindow, if_neg (lt_irrefl _), dif_neg (by rw [hexpected]; simp), dif_pos hone]

/-- A window of `2 ^ (depth + 1)` values passes the checks and is folded by its halves. -/
theorem foldWindow_halves {start level depth : ℕ} (hlevel : level + (depth + 1) = fs.length) :
    foldWindow e values fs ⟨start, (2 ^ (depth + 1) : ℕ), level⟩ = (do
      let left ← foldWindow e values fs ⟨start, (2 ^ depth : ℕ), (level + 1 : ℕ)⟩
      let right ← foldWindow e values fs ⟨(start + 2 ^ depth : ℕ), (2 ^ depth : ℕ),
        (level + 1 : ℕ)⟩
      join left right (← Operand.itemAt fs level (.noFactor level))) := by
  have hexpected : (⟨start, (2 ^ (depth + 1) : ℕ), level⟩ : Window).expectedSize fs.length =
      2 ^ (depth + 1) := Window.expectedSize_of_depth hlevel
  have hsize : ((2 ^ (depth + 1) : ℕ) : ℤ) ≠ 1 := by
    have hpos := Nat.two_pow_pos depth
    rw [pow_succ]
    omega
  have habove : ¬(fs.length : ℤ) < level := by omega
  rw [foldWindow, if_neg habove, dif_neg (by rw [hexpected]; simp), dif_neg hsize,
    Window.left_of_depth, Window.right_of_depth]

/-- The fold of a window of `2 ^ depth` values over the last `depth` factors is the fold by
halves of these values under these factors. -/
theorem foldWindow_eq_foldHalves (hvalues : values.elements = .ok vs) {start level depth : ℕ}
    (hlevel : level + depth = fs.length) (hend : start + 2 ^ depth ≤ vs.length) :
    foldWindow e values fs ⟨start, (2 ^ depth : ℕ), level⟩ =
      foldHalves e (fs.drop level) ((vs.drop start).take (2 ^ depth)) := by
  induction depth generalizing start level with
  | zero =>
    obtain rfl : level = fs.length := hlevel
    have hstart : start < vs.length := hend
    rw [pow_zero, foldWindow_leaf, Operand.itemFrom_of_elements hvalues,
      Operand.itemAt_of_lt hstart, ok_bind, List.drop_length, List.drop_eq_getElem_cons hstart]
    rfl
  | succ depth ih =>
    -- Both halves are again windows of this form, one level further down.
    have hfactor : level < fs.length := by omega
    have hlevel' : level + 1 + depth = fs.length := by omega
    rw [pow_succ] at hend
    have hendLeft : start + 2 ^ depth ≤ vs.length := by omega
    have hendRight : start + 2 ^ depth + 2 ^ depth ≤ vs.length := by omega
    have hleft := ih hlevel' hendLeft
    have hright := ih hlevel' hendRight
    have hcount : leafCount (fs.drop (level + 1)).length = 2 ^ depth := by
      have hrest : fs.length - (level + 1) = depth := by omega
      rw [List.length_drop, hrest, leafCount_eq_two_pow]
    have htake : ((vs.drop start).take (2 ^ (depth + 1))).take (2 ^ depth) =
        (vs.drop start).take (2 ^ depth) := by
      rw [List.take_take, min_eq_left (Nat.pow_le_pow_right (by decide) (by omega))]
    have hdrop : ((vs.drop start).take (2 ^ (depth + 1))).drop (2 ^ depth) =
        (vs.drop (start + 2 ^ depth)).take (2 ^ depth) := by
      rw [List.drop_take, List.drop_drop, pow_succ, Nat.mul_two, Nat.add_sub_cancel]
    rw [foldWindow_halves hlevel, hleft, hright, Operand.itemAt_of_lt hfactor,
      List.drop_eq_getElem_cons hfactor, foldHalves, hcount, htake, hdrop]
    rfl

/-- The fold of a window of `2 ^ depth` values that reaches past the last value fails: so does its
second half, and in the end a leaf. -/
theorem foldWindow_of_overrun (hvalues : values.elements = .ok vs) {start level depth : ℕ}
    (hlevel : level + depth = fs.length) (hend : vs.length < start + 2 ^ depth) :
    ∃ fault, foldWindow e values fs ⟨start, (2 ^ depth : ℕ), level⟩ = .error fault := by
  induction depth generalizing start level with
  | zero =>
    obtain rfl : level = fs.length := hlevel
    have hstart : vs.length ≤ start := by
      rw [pow_zero] at hend
      omega
    rw [pow_zero, foldWindow_leaf, Operand.itemFrom_of_elements hvalues,
      Operand.itemAt_of_le hstart, error_bind]
    exact ⟨_, rfl⟩
  | succ depth ih =>
    rw [pow_succ] at hend
    have hlevel' : level + 1 + depth = fs.length := by omega
    have hend' : vs.length < start + 2 ^ depth + 2 ^ depth := by omega
    obtain ⟨fault, hright⟩ := ih hlevel' hend'
    rw [foldWindow_halves hlevel, hright]
    cases foldWindow e values fs ⟨start, (2 ^ depth : ℕ), (level + 1 : ℕ)⟩ with
    | error other => exact ⟨other, rfl⟩
    | ok left => exact ⟨fault, rfl⟩

/-- A window below the last factor is refused for its level, whatever else it is. -/
theorem foldWindow_of_length_lt (start size : ℤ) {level : ℕ} (hlevel : fs.length < level) :
    foldWindow e values fs ⟨start, size, level⟩ = .error .levelTooDeep := by
  rw [foldWindow, if_pos (Int.ofNat_lt.mpr hlevel)]

/-- A window over the last `depth` factors that does not hold `2 ^ depth` values is refused for its
size, whatever the values are. -/
theorem foldWindow_of_size_ne (start : ℤ) {size : ℤ} {level depth : ℕ}
    (hlevel : level + depth = fs.length) (hsize : size ≠ (2 ^ depth : ℕ)) :
    foldWindow e values fs ⟨start, size, level⟩ =
      .error (Fault.levelSize level size (2 ^ depth)).stated := by
  have habove : ¬(fs.length : ℤ) < level := by omega
  have hexpected : (⟨start, size, level⟩ : Window).expectedSize fs.length = 2 ^ depth :=
    Window.expectedSize_of_depth hlevel
  rw [foldWindow, if_neg habove, dif_pos (by rw [hexpected]; exact hsize), hexpected]

/-- Where sizes match, the fold of the window of all values is the fold. -/
theorem foldWindow_whole {factors : Operand} (hvalues : values.elements = .ok vs)
    (hfactors : factors.elements = .ok fs) (hsizes : vs.length = 2 ^ fs.length) :
    foldWindow e values fs ⟨0, vs.length, 0⟩ = fold e values factors := by
  have hwhole := foldWindow_eq_foldHalves (e := e) hvalues (Nat.zero_add fs.length)
    ((Nat.zero_add _).trans hsizes.symm).le
  rw [← hsizes, List.drop_zero, List.drop_zero, List.take_length] at hwhole
  rw [fold_of_elements hvalues hfactors, foldList_of_sizes hsizes]
  exact hwhole

/-- Where sizes match, every window into which the fold of all values descends fits. -/
theorem Window.fits_of_reaches_whole {count factors : ℕ} (hsizes : count = 2 ^ factors)
    {w : Window} (hreaches : Reaches ⟨0, count, 0⟩ w) : w.Fits count factors := by
  subst hsizes
  exact .of_reaches hreaches (fits_of_depth (Nat.zero_add _) (Nat.zero_add _).le)

end TowerFold
