import TowerFold.Proofs.Fold.Faults
import TowerFold.Proofs.Fold.Window
import TowerFold.Proofs.Strategy.Selection

/-!
# Refused sizes

Every way to ask for a fold refuses sizes that do not match, with the same fault and before
anything else is looked at, and no other input meets such a refusal. Below the entry the sizes
are checked again, at every level of a window and for every block that is forked; when they
match at the entry, all these checks pass.
-/

namespace TowerFold

/-- The faults that say that sizes do not match. -/
inductive Fault.IsSizeFault : Fault → Prop
  | countNotPowerOfTwo (count : ℕ) : IsSizeFault (.countNotPowerOfTwo count)
  | factorCount (values needed given : ℕ) : IsSizeFault (.factorCount values needed given)
  | levelSize (level size : ℤ) (expected : ℕ) : IsSizeFault (.levelSize level size expected)

/-- A computation that fails only for other reasons than sizes. -/
abbrev NeverRefusesSizes {α : Type} (outcome : Except Fault α) : Prop :=
  FailsOnlyWith (fun fault => ¬fault.IsSizeFault) outcome

/-- An outcome for `count` values and `factors` factors refuses their sizes exactly when they
do not match: first for a number of values that is no power of two, then for the number of
factors that it needs. -/
structure RefusesSizes {α : Type} (count factors : ℕ) (outcome : Except Fault α) : Prop where
  isSizeFault_iff :
    (∃ fault, outcome = .error fault ∧ fault.IsSizeFault) ↔ count ≠ 2 ^ factors
  of_not_power (hcount : ∀ k, count ≠ 2 ^ k) : outcome = .error (.countNotPowerOfTwo count)
  of_power {k : ℕ} (hcount : count = 2 ^ k) (hfactors : k ≠ factors) :
    outcome = .error (.factorCount count k factors)

section Checks

variable {α : Type} {count factors : ℕ}

/-- A number of values that is no power of two is refused first. -/
theorem checkSizes_of_not_power (hcount : ∀ k, count ≠ 2 ^ k) :
    checkSizes count factors = .error (.countNotPowerOfTwo count) := by
  have hpower : ¬isPowerOfTwo count = true := by
    rw [isPowerOfTwo_natCast_iff]
    rintro ⟨k, hk⟩
    exact hcount k hk
  rw [checkSizes, checkCount, if_neg hpower, error_bind]

/-- Another number of factors than that of the power of two is refused then. -/
theorem checkSizes_of_power {k : ℕ} (hfactors : k ≠ factors) :
    checkSizes (2 ^ k) factors = .error (.factorCount (2 ^ k) k factors) := by
  have hpower : checkCount (2 ^ k) = .ok () := (checkCount_eq_ok_iff _).mpr ⟨k, rfl⟩
  rw [checkSizes, hpower, ok_bind, checkFactors, Nat.log2_two_pow, if_neg hfactors]

/-- An outcome that fails as the check of the sizes does, and otherwise never because of sizes,
refuses the sizes. -/
theorem RefusesSizes.of_checkSizes {outcome : Except Fault α}
    (hrefused : ∀ fault, checkSizes count factors = .error fault → outcome = .error fault)
    (haccepted : count = 2 ^ factors → NeverRefusesSizes outcome) :
    RefusesSizes count factors outcome where
  isSizeFault_iff := by
    constructor
    · rintro ⟨fault, houtcome, hfault⟩ hsizes
      exact haccepted hsizes fault houtcome hfault
    · intro hsizes
      by_cases hcount : ∃ k, count = 2 ^ k
      · obtain ⟨k, rfl⟩ := hcount
        have hfactors : k ≠ factors := fun h => hsizes (by rw [h])
        exact ⟨_, hrefused _ (checkSizes_of_power hfactors), .factorCount _ _ _⟩
      · have hnone : ∀ k, count ≠ 2 ^ k := fun k hk => hcount ⟨k, hk⟩
        exact ⟨_, hrefused _ (checkSizes_of_not_power hnone), .countNotPowerOfTwo _⟩
  of_not_power hcount := hrefused _ (checkSizes_of_not_power hcount)
  of_power hcount hfactors := by
    subst hcount
    exact hrefused _ (checkSizes_of_power hfactors)

end Checks

/-- The faults of operands are no refusals of sizes. -/
theorem FailsByOperands.neverRefusesSizes {α : Type} {x : Except Fault α}
    (hx : FailsByOperands x) : NeverRefusesSizes x := by
  refine hx.mono fun fault hfault hsize => ?_
  cases hsize <;> cases hfault

/-! ## Packing -/

theorem checkSingle_neverRefusesSizes (coords : List Representative) :
    NeverRefusesSizes (checkSingle coords) := by
  unfold checkSingle
  split
  · exact .error (by rintro ⟨⟩)
  · exact .ok _

theorem Representative.toWord_neverRefusesSizes (r : Representative) :
    NeverRefusesSizes r.toWord := by
  unfold toWord
  split
  · exact .ok _
  · exact .ok _
  · exact .error (by rintro ⟨⟩)
  · refine (Operand.toInteger_failsByOperands _).neverRefusesSizes.bind fun n _ => ?_
    split
    · exact .ok _
    · exact .error (by rintro ⟨⟩)

theorem packRepresentatives_neverRefusesSizes (rs : List Representative) :
    NeverRefusesSizes (packRepresentatives rs) := by
  unfold packRepresentatives
  split
  · split
    · exact .ok _
    · exact .error (by rintro ⟨⟩)
  · exact (checkSingle_neverRefusesSizes _).bind fun _ _ =>
      FailsOnlyWith.bind (.mapM fun r _ => r.toWord_neverRefusesSizes) fun _ _ => .ok _

theorem packValue_neverRefusesSizes (v : Operand) : NeverRefusesSizes (packValue v) :=
  v.quarticCoords_failsByOperands.neverRefusesSizes.bind fun _ _ =>
    (checkSingle_neverRefusesSizes _).bind fun _ _ =>
      (Representative.toWord_neverRefusesSizes _).bind fun _ _ =>
        (Representative.toWord_neverRefusesSizes _).bind fun _ _ =>
          (Representative.toWord_neverRefusesSizes _).bind fun _ _ =>
            (Representative.toWord_neverRefusesSizes _).bind fun _ _ => .ok _

theorem packValues_neverRefusesSizes (values : List Operand) :
    NeverRefusesSizes (packValues values) := by
  unfold packValues
  split
  · exact .ok _
  · split
    · exact packRepresentatives_neverRefusesSizes _
    · exact .mapM fun v _ => packValue_neverRefusesSizes v

variable {e : Embedding} {values factors : Operand} {vs fs : List Operand}

theorem foldLayered_neverRefusesSizes (vs fs : List Operand) :
    NeverRefusesSizes (foldLayered vs fs) := by
  refine (packValues_neverRefusesSizes vs).bind fun layer _ => ?_
  refine (packValues_neverRefusesSizes fs).bind fun factors _ => ?_
  split
  · exact .ok _
  · exact .error (by rintro ⟨⟩)

theorem checkPool_neverRefusesSizes (plan : ForkPlan) : NeverRefusesSizes plan.checkPool := by
  unfold ForkPlan.checkPool
  split
  · unfold checkWorkers
    split
    · exact .ok _
    · split
      · exact .error (by rintro ⟨⟩)
      · split
        · exact .error (by rintro ⟨⟩)
        · exact .ok _
  · exact .error (by rintro ⟨⟩)

/-- With matching sizes the plain fold of lists never refuses sizes again. -/
theorem foldList_neverRefusesSizes (hsizes : vs.length = 2 ^ fs.length) :
    NeverRefusesSizes (foldList e vs fs) := by
  rw [foldList_of_sizes hsizes]
  exact (foldHalves_failsByOperands hsizes).neverRefusesSizes

namespace Strategy

/-- With matching sizes no schedule refuses sizes again. -/
theorem schedule_neverRefusesSizes (s : Strategy) (hsizes : vs.length = 2 ^ fs.length) :
    NeverRefusesSizes (s.schedule e vs fs) := by
  cases s with
  | unscheduled => exact .error (by rintro ⟨⟩)
  | sequential => exact foldList_neverRefusesSizes hsizes
  | forked plan =>
    simp only [schedule]
    split
    · exact foldList_neverRefusesSizes hsizes
    · refine (checkPool_neverRefusesSizes plan).bind fun _ _ => ?_
      exact (foldForked_failsByOperands (min_le_right _ _) hsizes).neverRefusesSizes
  | layered => exact foldLayered_neverRefusesSizes vs fs

/-- Whether a strategy supports two sequences can always be told. -/
theorem exists_supports (s : Strategy) (hvalues : values.elements = .ok vs)
    (hfactors : factors.elements = .ok fs) : ∃ b, s.supports e values factors = .ok b := by
  cases s with
  | layered => exact ⟨_, supports_layered e hvalues hfactors⟩
  | _ => exact ⟨true, rfl⟩

/-- With matching sizes no strategy refuses sizes. -/
theorem fold_neverRefusesSizes (s : Strategy) (hvalues : values.elements = .ok vs)
    (hfactors : factors.elements = .ok fs) (hsizes : vs.length = 2 ^ fs.length) :
    NeverRefusesSizes (s.fold e values factors) := by
  obtain ⟨b, hb⟩ := s.exists_supports (e := e) hvalues hfactors
  cases b with
  | true =>
    rw [s.fold_of_supports hvalues hfactors hsizes hb]
    exact s.schedule_neverRefusesSizes hsizes
  | false =>
    rw [s.fold_of_not_supports hvalues hfactors hsizes hb, fold_of_elements hvalues hfactors]
    exact foldList_neverRefusesSizes hsizes

end Strategy

/-- With matching sizes the accelerated fold goes to the strategy that is given. -/
theorem foldAccelerated_some_of_sizes (s : Strategy) (hvalues : values.elements = .ok vs)
    (hfactors : factors.elements = .ok fs) (hsizes : vs.length = 2 ^ fs.length) :
    foldAccelerated e values factors (some s) = s.fold e values factors := by
  rw [foldAccelerated, sized_eq_ok_iff.mpr ⟨hvalues, hfactors, hsizes⟩]
  rfl

/-- With matching sizes the accelerated fold by the strategy that is selected refuses no sizes,
whichever that is. -/
theorem foldAccelerated_none_neverRefusesSizes (hvalues : values.elements = .ok vs)
    (hfactors : factors.elements = .ok fs) (hsizes : vs.length = 2 ^ fs.length) :
    NeverRefusesSizes (foldAccelerated e values factors) := by
  rw [foldAccelerated, sized_eq_ok_iff.mpr ⟨hvalues, hfactors, hsizes⟩, ok_bind]
  refine FailsOnlyWith.bind ?_ fun s _ => s.fold_neverRefusesSizes hvalues hfactors hsizes
  rcases Strategy.select_of_elements e hvalues hfactors accelerationThreshold with h | h
  · rw [h]
    exact .ok _
  · rw [h]
    exact .ok _

/-- The check of the sizes, the plain fold, the fold by any strategy and the accelerated fold
refuse sequences of any items exactly when their sizes do not match, all with the same fault.
When they match, the plain fold is the fold of the window of all values, every window into
which that descends has the size that its level asks for, and so have the blocks of a fold
that forks any number of levels, with all windows below them. -/
theorem sizes_refused_alike (e : Embedding) {values factors : Operand}
    (hvalues : values.elements = .ok vs) (hfactors : factors.elements = .ok fs) :
    RefusesSizes vs.length fs.length (sized values factors) ∧
      RefusesSizes vs.length fs.length (fold e values factors) ∧
      (∀ s : Strategy, RefusesSizes vs.length fs.length (s.fold e values factors)) ∧
      (∀ s? : Option Strategy,
        RefusesSizes vs.length fs.length (foldAccelerated e values factors s?)) ∧
      (vs.length = 2 ^ fs.length →
        foldWindow e values fs ⟨0, vs.length, 0⟩ = fold e values factors ∧
        (∀ w, Window.Reaches ⟨0, vs.length, 0⟩ w → w.Fits vs.length fs.length) ∧
        ∀ depth ≤ fs.length,
          ∀ block ∈ blocks (vs.length / leafCount depth) (leafCount depth) vs,
            checkSizes block.length (fs.drop depth).length = .ok () ∧
            ∀ w, Window.Reaches ⟨0, block.length, 0⟩ w →
              w.Fits block.length (fs.drop depth).length) := by
  have hsized (fault : Fault) (hcheck : checkSizes vs.length fs.length = .error fault) :
      sized values factors = .error fault := by
    rw [sized_of_elements hvalues hfactors, hcheck, error_bind]
  have hplain (hsizes : vs.length = 2 ^ fs.length) :
      NeverRefusesSizes (fold e values factors) := by
    rw [fold_of_elements hvalues hfactors]
    exact foldList_neverRefusesSizes hsizes
  refine ⟨.of_checkSizes hsized fun hsizes => ?_, .of_checkSizes ?_ hplain,
    fun s => .of_checkSizes ?_ (s.fold_neverRefusesSizes hvalues hfactors),
    fun s? => .of_checkSizes ?_ fun hsizes => ?_, fun hsizes => ⟨?_, ?_, ?_⟩⟩
  · rw [sized_eq_ok_iff.mpr ⟨hvalues, hfactors, hsizes⟩]
    exact .ok _
  · intro fault hcheck
    exact fold_of_sized_error (hsized fault hcheck)
  · intro fault hcheck
    exact s.fold_of_sized_error (hsized fault hcheck)
  · intro fault hcheck
    rw [foldAccelerated, hsized fault hcheck, error_bind]
  · cases s? with
    | none => exact foldAccelerated_none_neverRefusesSizes hvalues hfactors hsizes
    | some s =>
      rw [foldAccelerated_some_of_sizes s hvalues hfactors hsizes]
      exact s.fold_neverRefusesSizes hvalues hfactors hsizes
  · exact foldWindow_whole hvalues hfactors hsizes
  · intro w hreaches
    exact Window.fits_of_reaches_whole hsizes hreaches
  · intro depth hdepth block hblock
    have hlength := length_of_mem_blocks_of_sizes hdepth hsizes hblock
    exact ⟨(checkSizes_eq_ok_iff _ _).mpr hlength,
      fun w hreaches => Window.fits_of_reaches_whole hlength hreaches⟩

/-- Four letters and one factor are refused with the same fault by the strategy without a
schedule and by a fork without workers. Two letters and one factor are not: what fails then is
the pool. -/
theorem sizes_refused_alike_on_letters :
    Strategy.unscheduled.fold .qm31 (.text "abcd") (.group .round [.nothing]) =
        .error (.factorCount 4 2 1) ∧
      (Strategy.forked { depth := 1, workers := .int 0 }).fold .qm31 (.text "abcd")
        (.group .round [.nothing]) = .error (.factorCount 4 2 1) ∧
      (Strategy.forked { depth := 1, workers := .int 0 }).fold .qm31 (.text "ab")
        (.group .round [.nothing]) = .error .noWorkers ∧
      ¬∃ fault, (Strategy.forked { depth := 1, workers := .int 0 }).fold .qm31 (.text "ab")
        (.group .round [.nothing]) = .error fault ∧ fault.IsSizeFault := by
  have hone : (Operand.group .round [.nothing]).elements = .ok [.nothing] := rfl
  have hfour (s : Strategy) :=
    (sizes_refused_alike .qm31 (rfl : (Operand.text "abcd").elements = .ok _) hone).2.2.1 s
  have htwo (s : Strategy) :=
    (sizes_refused_alike .qm31 (rfl : (Operand.text "ab").elements = .ok _) hone).2.2.1 s
  refine ⟨(hfour _).of_power (k := 2) rfl (by decide),
    (hfour _).of_power (k := 2) rfl (by decide), rfl, fun hrefused => ?_⟩
  exact (htwo _).isSizeFault_iff.mp hrefused rfl

end TowerFold
