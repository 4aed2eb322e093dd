import TowerFold.Benchmark
import TowerFold.Fold.Window
import TowerFold.Proofs.Operand.Elements
import TowerFold.Proofs.Strategy.Forked
import TowerFold.Proofs.Strategy.Selection

/-!
# Benchmarks end in agreement

Inputs that are drawn have matching sizes and hold elements of the field of degree four only,
so the plain fold, the closed form and every strategy give the same element for them. A report
therefore runs to its end for every size for whose values there is room. Such sizes are so small
that no other limit is met.
-/

namespace TowerFold

namespace Room

/-- There is room for a list of a length that does not exceed the longest one. -/
theorem holds_iff (room : Room) (k : Nat) : room.holds k = true ↔ 2 ^ k ≤ room.items := by
  simp only [holds, ne_eq, Bool.and_eq_true, decide_eq_true_eq]
  refine ⟨fun ⟨hitems, hk⟩ => (Nat.le_log2 hitems).mp hk, fun hk => ?_⟩
  have hitems : room.items ≠ 0 := Nat.ne_of_gt (Nat.lt_of_lt_of_le (Nat.two_pow_pos k) hk)
  exact ⟨hitems, (Nat.le_log2 hitems).mpr hk⟩

/-- The exponents of lists that are held are small. -/
theorem lt_of_holds {room : Room} {k : Nat} (h : room.holds k = true) : k < 44 := by
  have hitems := (room.holds_iff k).mp h
  have haddressed := room.addressed
  refine (Nat.pow_lt_pow_iff_right (by decide : 1 < 2)).mp (Nat.lt_of_le_of_lt hitems ?_)
  simp only [addressSpace] at haddressed
  omega

end Room

/-- Every strategy has the results of the plain fold when it takes no options. -/
theorem Strategy.ofName_bind_fold_eq_ok {e : Embedding} {name : String} {values factors r : Operand}
    (hname : name ∈ Strategy.names) (hvalues : values.HoldsRegular)
    (hfactors : factors.HoldsRegular) (hfold : TowerFold.fold e values factors = .ok r) :
    (do (← Strategy.ofName (.text name) []).fold e values factors) = .ok r := by
  have hcases : name = "numpy" ∨ name = "sequential" ∨ name = "threaded" := by
    simpa [names] using hname
  rcases hcases with rfl | rfl | rfl
  · have hlayered : ofName (.text "numpy") [] = .ok layered := rfl
    rw [hlayered, ok_bind, layered_fold hvalues hfactors, hfold]
  · have hsequential : ofName (.text "sequential") [] = .ok sequential := rfl
    rw [hsequential, ok_bind, sequential_fold, hfold]
  · have hforked : ofName (.text "threaded") [] = .ok (forked {}) := rfl
    rw [hforked, ok_bind]
    obtain ⟨⟨vs, fs⟩, hsized, hhalves⟩ := bind_eq_ok_iff.mp hfold
    obtain ⟨hvs, hfs, hsizes⟩ := sized_eq_ok_iff.mp hsized
    rw [fold_of_supports _ hvs hfs hsizes rfl]
    exact ((schedule_forked rfl hsizes).1 r).mpr hhalves

namespace Benchmark

variable {room : Room} {draws : Draws} {k : ℕ} {names : List String} {x : QM31}

theorem length_drawValues : (drawValues draws k).length = 2 ^ k := by
  rw [drawValues, List.length_map, List.length_range, leafCount_eq_two_pow]

theorem length_drawFactors : (drawFactors draws k).length = k := by
  rw [drawFactors, List.length_map, List.length_range]

/-- The values that are drawn stand for elements of the field of degree four. -/
theorem admits_of_mem_drawValues {v : Operand} (hv : v ∈ drawValues draws k) :
    RingEmbedding.qm31.Admits v := by
  obtain ⟨i, _, rfl⟩ := List.mem_map.mp hv
  exact .baseInQuartic _

/-- The factors that are drawn are elements of the field of degree four. -/
theorem admits_of_mem_drawFactors {f : Operand} (hf : f ∈ drawFactors draws k) :
    RingEmbedding.qm31.Admits f := by
  obtain ⟨j, _, rfl⟩ := List.mem_map.mp hf
  exact .quartic _

/-- Among the values that are drawn there is no irregular element. -/
theorem holdsRegular_drawValues (draws : Draws) (k : ℕ) :
    (Operand.group .square (drawValues draws k)).HoldsRegular := by
  rintro _ ⟨⟩ v hv
  obtain ⟨i, _, rfl⟩ := List.mem_map.mp hv
  rfl

/-- Among the factors that are drawn there is no irregular element. -/
theorem holdsRegular_drawFactors (draws : Draws) (k : ℕ) :
    (Operand.group .square (drawFactors draws k)).HoldsRegular := by
  rintro _ ⟨⟩ f hf
  obtain ⟨j, _, rfl⟩ := List.mem_map.mp hf
  rfl

/-- The plain fold and the closed form give one element for the inputs that are drawn. -/
theorem exists_fold_draws (draws : Draws) (k : ℕ) :
    ∃ x : QM31,
      fold .qm31 (.group .square (drawValues draws k)) (.group .square (drawFactors draws k)) =
        .ok (.qm31 x) ∧
      closedForm .qm31 (.group .square (drawValues draws k))
        (.group .square (drawFactors draws k)) = .ok (.qm31 x) := by
  have hvalues : ∀ v ∈ drawValues draws k, RingEmbedding.qm31.Admits v :=
    fun _ hv => admits_of_mem_drawValues hv
  have hfactors : ∀ f ∈ drawFactors draws k, RingEmbedding.qm31.Admits f :=
    fun _ hf => admits_of_mem_drawFactors hf
  obtain ⟨xs, hxs⟩ := RingEmbedding.exists_forall₂_denotes hvalues
  obtain ⟨ys, hys⟩ := RingEmbedding.exists_forall₂_denotes hfactors
  have hsizes : (drawValues draws k).length = 2 ^ (drawFactors draws k).length := by
    rw [length_drawValues, length_drawFactors]
  refine ⟨bitWeightedSum xs ys, ?_, closedForm_eq_put_bitWeightedSum _ _ hxs hys⟩
  rw [fold_of_elements rfl rfl, foldList_of_sizes hsizes]
  exact foldHalves_eq_put_bitWeightedSum hxs hys hsizes

/-- A comparison goes on when the same element has been computed. -/
theorem checked_self (next : Report) : checked (.ok (.qm31 x)) (.qm31 x) next = next := by
  have hequals : (Operand.qm31 x).equals (.qm31 x) = .ok true :=
    (elementClass_qm31.equals_iff x x).mpr rfl
  rw [checked, ok_bind, hequals]

/-- Strategies that are named any number of times all report the result of the plain fold. -/
theorem compareStrategies_of_fold {values factors : Operand} (hvalues : values.HoldsRegular)
    (hfactors : factors.HoldsRegular) (hfold : fold .qm31 values factors = .ok (.qm31 x))
    (hnames : ∀ name ∈ names, name ∈ Strategy.names) :
    compareStrategies values factors (.qm31 x) names =
      ⟨names.map (resultLine · (.qm31 x)) ++ ["All backends agree"], .ok ()⟩ := by
  induction names with
  | nil => rfl
  | cons name names ih =>
    obtain ⟨hname, hrest⟩ := List.forall_mem_cons.mp hnames
    rw [compareStrategies, Strategy.ofName_bind_fold_eq_ok hname hvalues hfactors hfold, ih hrest]
    simp only [checked_self, Report.after, List.map_cons, List.cons_append]

/-- The names by which a report goes: all of them where none is given. -/
def chosen (names : List String) : List String :=
  if names.isEmpty then Strategy.names else names

/-- The report in which the fold, the closed form where it is compared, and all strategies
that are named have one element as their result. -/
def agreement (k : ℕ) (names : List String) (x : QM31) : Report where
  lines :=
    ("Folding " ++ toString (2 ^ k) ++ " values with " ++ toString k ++ " factors") ::
      resultLine "fold" (.qm31 x) ::
      ((if 2 ^ k ≤ referenceLimit then ["Matches closed form"] else []) ++
        ((chosen names).map (resultLine · (.qm31 x)) ++ ["All backends agree"]))
  outcome := .ok ()

/-- The report on inputs that have been drawn ends in agreement on the result of the fold. -/
theorem reportOn_draws
    (hfold : fold .qm31 (.group .square (drawValues draws k))
      (.group .square (drawFactors draws k)) = .ok (.qm31 x))
    (hclosed : closedForm .qm31 (.group .square (drawValues draws k))
      (.group .square (drawFactors draws k)) = .ok (.qm31 x))
    (hnames : ∀ name ∈ names, name ∈ Strategy.names) :
    reportOn (drawValues draws k) (drawFactors draws k) names = agreement k names x := by
  have hchosen : ∀ name ∈ chosen names, name ∈ Strategy.names := by
    intro name hname
    unfold chosen at hname
    split at hname
    · exact hname
    · exact hnames name hname
  have hcomparison := compareStrategies_of_fold (holdsRegular_drawValues draws k)
    (holdsRegular_drawFactors draws k) hfold hchosen
  unfold chosen at hcomparison
  simp only [reportOn, hfold, hclosed, hcomparison, checked_self, length_drawValues,
    length_drawFactors]
  by_cases hlimit : 2 ^ k ≤ referenceLimit
  · simp only [hlimit, if_true, Report.after, agreement, chosen, List.singleton_append]
  · simp only [hlimit, if_false, Report.after, agreement, chosen, List.nil_append]

/-- Inputs are drawn for every size for whose values there is room. -/
theorem drawInputs_of_holds (hsize : room.holds k = true) (hdraws : draws.integers ≠ #[]) :
    drawInputs room draws k = .ok (drawValues draws k, drawFactors draws k) := by
  have hnonempty : draws.integers.isEmpty = false := Array.isEmpty_eq_false_iff.mpr hdraws
  have hcountable : ¬countableExponent ≤ k := by
    have hsmall := Room.lt_of_holds hsize
    unfold countableExponent
    omega
  have hsign : ¬(k : ℤ) < 0 := by omega
  rw [drawInputs, if_neg hsign, Int.toNat_natCast, if_neg hcountable, hsize, hnonempty]
  rfl

/-- Nothing is drawn for a size for whose values there is no room. -/
theorem drawInputs_of_not_holds (hsize : room.holds k = false) :
    drawInputs room draws k =
      .error (if countableExponent ≤ k then .powerOverflow else .tooLong) := by
  have hsign : ¬(k : ℤ) < 0 := by omega
  rw [drawInputs, if_neg hsign, Int.toNat_natCast, hsize]
  by_cases hcountable : countableExponent ≤ k
  · rw [if_pos hcountable, if_pos hcountable]
  · rw [if_neg hcountable, if_neg hcountable]
    rfl

/-- A number of values for which there is room can be written. -/
theorem isWritable_of_holds (hsize : room.holds k = true) :
    Text.isWritable ((2 ^ k : ℕ) : ℤ) = true := by
  have hsmall := Room.lt_of_holds hsize
  have hbound (digits : ℕ) (hdigits : 44 ≤ digits) : 2 ^ k < Nat.pow 10 digits :=
    calc 2 ^ k < 2 ^ 44 := Nat.pow_lt_pow_right (by decide) hsmall
      _ ≤ 10 ^ 44 := Nat.pow_le_pow_left (by decide) 44
      _ ≤ Nat.pow 10 digits := Nat.pow_le_pow_right (by decide) hdigits
  rw [Text.isWritable, decide_eq_true_eq, Int.natAbs_natCast]
  unfold Text.numeralBound
  exact hbound Text.digitLimit (by decide)

/-- Whatever is drawn and whichever strategies are named, a report on a size for whose values there
is room runs to its end, and every result in it is that of the plain fold. The fold does not nest
too deeply then, and the number of values can be written. A size without such room ends the report
before its first line. -/
theorem report_agrees (room : Room) (draws : Draws) (k : ℕ) (names : List String)
    (hdraws : draws.integers ≠ #[]) (hnames : ∀ name ∈ names, name ∈ Strategy.names) :
    (room.holds k = true →
      k ≤ nestingLimit ∧ Text.isWritable ((2 ^ k : ℕ) : ℤ) = true ∧ ∃ x : QM31,
        fold .qm31 (.group .square (drawValues draws k)) (.group .square (drawFactors draws k)) =
          .ok (.qm31 x) ∧
        report room draws k names = agreement k names x) ∧
    (room.holds k = false → report room draws k names =
      .failed (if countableExponent ≤ k then .powerOverflow else .tooLong)) := by
  constructor
  · intro hsize
    obtain ⟨x, hfold, hclosed⟩ := exists_fold_draws draws k
    have hnested : k ≤ nestingLimit := by
      have hsmall := Room.lt_of_holds hsize
      unfold nestingLimit
      omega
    refine ⟨hnested, isWritable_of_holds hsize, x, hfold, ?_⟩
    rw [report, drawInputs_of_holds hsize hdraws]
    exact reportOn_draws hfold hclosed hnames
  · intro hsize
    rw [report, drawInputs_of_not_holds hsize]

/-- Eight values of which some draws are negative or not reduced, by one strategy that is named
twice and another. -/
theorem report_agrees_on_eight_values :
    ∃ x : QM31, report .whole ⟨#[12345, 2147483646, 1099511627779, -7]⟩ 3
        ["threaded", "numpy", "threaded"] =
      agreement 3 ["threaded", "numpy", "threaded"] x := by
  obtain ⟨hagrees, _⟩ := report_agrees .whole ⟨#[12345, 2147483646, 1099511627779, -7]⟩ 3
    ["threaded", "numpy", "threaded"] (by decide) (by decide)
  obtain ⟨-, -, x, _, hreport⟩ := hagrees ((Room.holds_iff _ _).mpr (by decide))
  exact ⟨x, hreport⟩

/-- A size whose power of two has more digits than can be counted, with draws and the names of all
strategies: the report ends in a fault and not in agreement. So it does for the least size whose
values have no addresses. -/
theorem report_of_uncountable_size :
    report .whole ⟨#[0]⟩ 1000000000000000000000000000000 [] = .failed .powerOverflow ∧
      (report .whole ⟨#[0]⟩ 1000000000000000000000000000000 []).outcome ≠ .ok () ∧
      "All backends agree" ∉ (report .whole ⟨#[0]⟩ 1000000000000000000000000000000 []).lines ∧
      report .whole ⟨#[0]⟩ 44 [] = .failed .tooLong := by
  have hreport : report .whole ⟨#[0]⟩ 1000000000000000000000000000000 [] =
      .failed .powerOverflow := rfl
  rw [hreport]
  exact ⟨rfl, nofun, List.not_mem_nil, rfl⟩

end Benchmark

end TowerFold
