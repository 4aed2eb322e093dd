import TowerFold.Proofs.Fold.Faults
import TowerFold.Proofs.Fold.Rounds
import TowerFold.Proofs.Fold.Window

/-!
# How the fold of a window ends

A window is refused for its level first, then for its size, and both before a value is looked at.
A window of the right size that lies within the values has the outcome of the fold of its slices,
and no window below it is refused; one that reaches past the last value has no result. The refusal
of a size names three integers, and gives way where one of them is too long to be written.
-/

namespace TowerFold

/-- The refusal of a size is stated exactly if its three integers can be written. -/
theorem Fault.stated_levelSize (level size : ℤ) (expected : ℕ) :
    (Fault.levelSize level size expected).stated =
      if ∀ n ∈ [level, size, (expected : ℤ)], Text.isWritable n then .levelSize level size expected
      else .numeralTooLong := by
  refine if_congr ?_ rfl rfl
  simp [repeats, Operand.areWritable, Operand.isWritable]

/-- The levels of a window are few enough exactly if its size can be computed and, where it has
that size, its fold can be nested. -/
theorem Window.checkDepth_eq_ok_iff (w : Window) (count : ℕ) :
    w.checkDepth count = .ok () ↔ w.depth count < exponentLimit ∧
      (w.size = w.expectedSize count → w.depth count ≤ nestingLimit) := by
  have hlimits : exponentLimit < countableExponent := by decide
  have hexponent : checkExponent (w.depth count) = .ok () ↔ w.depth count < exponentLimit := by
    unfold checkExponent
    split_ifs with hcountable hcomputed
    · exact iff_of_false nofun (by omega)
    · exact iff_of_false nofun (by omega)
    · exact iff_of_true rfl (by omega)
  rw [checkDepth, check_bind_eq_ok_iff, hexponent]
  refine and_congr_right fun _ => ?_
  split_ifs with hnested
  · refine iff_of_false nofun fun hlevels => ?_
    have hle := hlevels hnested.2
    omega
  · refine iff_of_true rfl fun hsize => ?_
    by_contra hlt
    exact hnested ⟨by omega, hsize⟩

variable {e : Embedding} {values factors : Operand} {vs fs : List Operand}

/-- A window with few enough levels has from outside the fold that it has below other windows. -/
theorem foldWithin_of_checkDepth {w : Window} (hfactors : factors.elements = .ok fs)
    (hdepth : w.checkDepth fs.length = .ok ()) :
    foldWithin e values factors w = foldWindow e values fs w := by
  rw [foldWithin, hfactors, ok_bind, hdepth, ok_bind]

/-- The limits of a window over the last `depth` factors in numbers. -/
theorem foldWithin_of_depth (hfactors : factors.elements = .ok fs) {start size : ℤ}
    {level depth : ℕ} (hlevel : level + depth = fs.length) (hcomputed : depth < exponentLimit)
    (hnested : size = (2 ^ depth : ℕ) → depth ≤ nestingLimit) :
    foldWithin e values factors ⟨start, size, level⟩ =
      foldWindow e values fs ⟨start, size, level⟩ := by
  have hdepth : (⟨start, size, level⟩ : Window).depth fs.length = depth := by
    simp only [Window.depth]
    omega
  refine foldWithin_of_checkDepth hfactors ((Window.checkDepth_eq_ok_iff _ _).mpr ?_)
  rw [hdepth, Window.expectedSize_of_depth hlevel]
  exact ⟨hcomputed, hnested⟩

/-- A fold that fails below other windows fails from outside. -/
theorem exists_foldWithin_eq_error {w : Window} (hfactors : factors.elements = .ok fs)
    (hw : ∃ fault, foldWindow e values fs w = .error fault) :
    ∃ fault, foldWithin e values factors w = .error fault := by
  obtain ⟨fault, hfault⟩ := hw
  rw [foldWithin, hfactors, ok_bind, hfault]
  cases w.checkDepth fs.length with
  | error other => exact ⟨other, rfl⟩
  | ok _ => exact ⟨fault, rfl⟩

/-- The values of a window have the size that the factors of its levels ask for. -/
theorem length_window {start level depth : ℕ} (hlevel : level + depth = fs.length)
    (hend : start + 2 ^ depth ≤ vs.length) :
    ((vs.drop start).take (2 ^ depth)).length = 2 ^ (fs.drop level).length := by
  rw [List.length_take, List.length_drop, List.length_drop, ← hlevel, Nat.add_sub_cancel_left]
  omega

/-- The fold of a window of `2 ^ depth` values over the last `depth` factors is the fold of these
slices of the values and the factors. -/
theorem foldWindow_eq_fold_slices (hvalues : values.elements = .ok vs)
    (hfactors : factors.elements = .ok fs) {start level depth : ℕ}
    (hlevel : level + depth = fs.length) (hend : start + 2 ^ depth ≤ vs.length) :
    foldWindow e values fs ⟨start, (2 ^ depth : ℕ), level⟩ =
      fold e (values.slice start (start + 2 ^ depth)) (factors.slice level fs.length) := by
  have hrest : fs.extract level fs.length = fs.drop level := by
    rw [List.extract_eq_take_drop, List.take_of_length_le (by rw [List.length_drop])]
  have hpart : vs.extract start (start + 2 ^ depth) = (vs.drop start).take (2 ^ depth) := by
    rw [List.extract_eq_take_drop, Nat.add_sub_cancel_left]
  rw [fold_slice hvalues hfactors, hrest, hpart, foldList_of_sizes (length_window hlevel hend),
    foldWindow_eq_foldHalves hvalues hlevel hend]

/-- The fold of a window that fits fails only because of operands. -/
theorem Window.Fits.failsByOperands {w : Window} (hw : w.Fits vs.length fs.length)
    (hvalues : values.elements = .ok vs) : FailsByOperands (foldWindow e values fs w) := by
  obtain ⟨start, level, depth, hlevel, hend, rfl⟩ := hw.exists_depth
  rw [foldWindow_eq_foldHalves hvalues hlevel hend]
  exact foldHalves_failsByOperands (length_window hlevel hend)

/-- A window whose level lies below the last factor is refused for that, and one over the last
`depth` factors that does not hold `2 ^ depth` values for its size, with a message that names the
level, the size and that power of two, if all three can be written; neither the embedding nor the
operand in the place of the values has a part in this. A window of `2 ^ depth` values has the
outcome of the fold of its slices, and all windows into which it descends fit, so they fail only
because of operands. If it reaches past the last value it fails. From outside a window has the same
outcome, unless its levels are too many: then its size cannot be computed, or it has that size and
cannot be nested. -/
theorem window_outcomes (hvalues : values.elements = .ok vs)
    (hfactors : factors.elements = .ok fs) (start level : ℕ) (size : ℤ) :
    (fs.length < level → ∀ e other,
        foldWindow e other fs ⟨start, size, level⟩ = .error .levelTooDeep ∧
        foldWithin e other factors ⟨start, size, level⟩ = .error .levelTooDeep) ∧
      ∀ depth, level + depth = fs.length →
        (size ≠ (2 ^ depth : ℕ) → ∀ e other,
          foldWindow e other fs ⟨start, size, level⟩ = .error
            (if ∀ n ∈ [(level : ℤ), size, (2 ^ depth : ℕ)], Text.isWritable n then
              .levelSize level size (2 ^ depth)
            else .numeralTooLong)) ∧
        (Fault.levelSize level size (2 ^ depth)).message =
          some ("Folding level " ++ toString (level : ℤ) ++ " holds " ++ toString size ++
            " values, expected " ++ toString (2 ^ depth)) ∧
        (size = (2 ^ depth : ℕ) → start + 2 ^ depth ≤ vs.length → ∀ e,
          foldWindow e values fs ⟨start, size, level⟩ =
            fold e (values.slice start (start + 2 ^ depth)) (factors.slice level fs.length) ∧
          ∀ w, Window.Reaches ⟨start, size, level⟩ w →
            w.Fits vs.length fs.length ∧ FailsByOperands (foldWindow e values fs w)) ∧
        (size = (2 ^ depth : ℕ) → vs.length < start + 2 ^ depth → ∀ e,
          (∃ fault, foldWindow e values fs ⟨start, size, level⟩ = .error fault) ∧
          ∃ fault, foldWithin e values factors ⟨start, size, level⟩ = .error fault) ∧
        (depth < exponentLimit → (size = (2 ^ depth : ℕ) → depth ≤ nestingLimit) → ∀ e other,
          foldWithin e other factors ⟨start, size, level⟩ =
            foldWindow e other fs ⟨start, size, level⟩) := by
  refine ⟨fun hlevel e other => ⟨foldWindow_of_length_lt start size hlevel, ?_⟩,
    fun depth hlevel => ⟨fun hsize e other => ?_, rfl, ?_, ?_,
      fun hcomputed hnested e other => ?_⟩⟩
  · have hdepth : (⟨start, size, level⟩ : Window).depth fs.length = 0 := by
      simp only [Window.depth]
      omega
    have hcheck : (⟨start, size, level⟩ : Window).checkDepth fs.length = .ok () := by
      rw [Window.checkDepth_eq_ok_iff, hdepth]
      exact ⟨by decide, fun _ => Nat.zero_le _⟩
    rw [foldWithin_of_checkDepth hfactors hcheck, foldWindow_of_length_lt start size hlevel]
  · rw [foldWindow_of_size_ne start hlevel hsize, Fault.stated_levelSize]
  · rintro rfl hend e
    refine ⟨foldWindow_eq_fold_slices hvalues hfactors hlevel hend, fun w hreaches => ?_⟩
    have hw : w.Fits vs.length fs.length :=
      .of_reaches hreaches (Window.fits_of_depth hlevel hend)
    exact ⟨hw, hw.failsByOperands hvalues⟩
  · rintro rfl hend e
    have hfails := foldWindow_of_overrun (e := e) hvalues hlevel hend
    exact ⟨hfails, exists_foldWithin_eq_error hfactors hfails⟩
  · exact foldWithin_of_depth hfactors hlevel hcomputed hnested

/-- Four of five letters under the last two of three counts. Three letters are refused for the size,
a window that begins one letter later reaches past the end, and there is no fourth factor. -/
theorem window_outcomes_of_letters :
    (Operand.text "abcde").elements =
        .ok [.text "a", .text "b", .text "c", .text "d", .text "e"] ∧
      (Operand.group .round [.int 2, .int 3, .int 1]).elements = .ok [.int 2, .int 3, .int 1] ∧
      foldWithin .identity (.text "abcde") (.group .round [.int 2, .int 3, .int 1]) ⟨1, 4, 1⟩ =
        .ok (.text "bcdedede") ∧
      foldWithin .identity (.text "abcde") (.group .round [.int 2, .int 3, .int 1]) ⟨1, 3, 1⟩ =
        .error (.levelSize 1 3 4) ∧
      (∃ fault, foldWithin .identity (.text "abcde")
        (.group .round [.int 2, .int 3, .int 1]) ⟨2, 4, 1⟩ = .error fault) ∧
      foldWithin .identity (.text "abcde") (.group .round [.int 2, .int 3, .int 1]) ⟨1, 4, 4⟩ =
        .error .levelTooDeep := by
  have hvalues : (Operand.text "abcde").elements =
      .ok [.text "a", .text "b", .text "c", .text "d", .text "e"] := rfl
  have hfactors : (Operand.group .round [.int 2, .int 3, .int 1]).elements =
      .ok [.int 2, .int 3, .int 1] := rfl
  refine ⟨hvalues, hfactors, ?_, ?_, ?_, ?_⟩
  · obtain ⟨-, -, hfits, -, hwithin⟩ := (window_outcomes hvalues hfactors 1 1 4).2 2 rfl
    refine (hwithin (by decide) (fun _ => by decide) _ _).trans ?_
    exact (hfits rfl (by decide) _).1.trans rfl
  · obtain ⟨hsize, -, -, -, hwithin⟩ := (window_outcomes hvalues hfactors 1 1 3).2 2 rfl
    have hwritable : ∀ n ∈ [(1 : ℤ), 3, 4], Text.isWritable n = true := by decide +kernel
    refine (hwithin (by decide) (fun _ => by decide) _ _).trans ((hsize (by decide) _ _).trans ?_)
    exact congrArg Except.error (if_pos hwritable)
  · exact (((window_outcomes hvalues hfactors 2 1 4).2 2 rfl).2.2.2.1 rfl (by decide) _).2
  · exact ((window_outcomes hvalues hfactors 1 4 4).1 (by decide) _ _).2

/-- One value under 14285 factors. The number of values that these ask for has 4301 digits, so the
window is not refused for its size. -/
theorem window_of_unwritable_size :
    (1 : ℤ) ≠ (2 ^ 14285 : ℕ) ∧
      foldWithin .identity (.group .square [.int 1])
        (.group .square (List.replicate 14285 (.int 1))) ⟨0, 1, 0⟩ = .error .numeralTooLong ∧
      ∀ level size expected, Fault.numeralTooLong ≠ .levelSize level size expected := by
  have hlength : (List.replicate 14285 (Operand.int 1)).length = 14285 := List.length_replicate
  have hlevel : 0 + 14285 = (List.replicate 14285 (Operand.int 1)).length :=
    (Nat.zero_add _).trans hlength.symm
  have hsize : (1 : ℤ) ≠ (2 ^ 14285 : ℕ) := by decide +kernel
  have hunwritable : ¬∀ n ∈ [((0 : ℕ) : ℤ), 1, (2 ^ 14285 : ℕ)], Text.isWritable n = true := by
    decide +kernel
  refine ⟨hsize, ?_, nofun⟩
  refine (foldWithin_of_depth rfl hlevel (by decide) fun h => absurd h hsize).trans ?_
  rw [foldWindow_of_size_ne 0 hlevel hsize, Fault.stated_levelSize, if_neg hunwritable]

end TowerFold
