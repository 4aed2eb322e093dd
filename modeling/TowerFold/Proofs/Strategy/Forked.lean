import TowerFold.Proofs.Fold.Forked
import TowerFold.Proofs.Strategy.Dispatch

/-!
# The forked strategy

A strategy that forks any number of levels has the results of the plain fold, and its faults
where sizes do not match or at most one level is forked.
-/

namespace TowerFold

variable {e : Embedding} {vs fs : List Operand}

/-- A number of workers that is not given, or positive, is not refused. -/
theorem checkWorkers_eq_ok {workers : Operand}
    (hworkers : workers = .nothing ∨ ∃ n, workers.toInt? = some n ∧ 0 < n) :
    checkWorkers workers = .ok () := by
  rcases hworkers with rfl | ⟨n, hn, hpos⟩
  · rfl
  · cases workers with
    | int m =>
      cases hn
      simp [checkWorkers, Operand.toIndex?, Operand.toInt?, hpos]
    | bool b =>
      cases hn
      simp [checkWorkers, Operand.toIndex?, Operand.toInt?, hpos]
    | _ => cases hn

/-- A depth that is a natural number is taken as it is, and the pool is the usual one. -/
theorem ForkPlan.ofOptions_depth_workers (depth : ℕ) (workers : Operand) :
    ForkPlan.ofOptions [("depth", .int depth), ("max_workers", workers)] =
      .ok { depth := depth, workers := workers } := by
  have hdepth : (Operand.int depth).toIndex? = some (depth : ℤ) := rfl
  simp [ForkPlan.ofOptions, ForkPlan.optionNames, List.lookup_cons, hdepth]

/-- The forked strategy with a depth and a number of workers. -/
theorem ofName_threaded (depth : ℕ) (workers : Operand) :
    Strategy.ofName (.text "threaded") [("depth", .int depth), ("max_workers", workers)] =
      .ok (.forked { depth := depth, workers := workers }) := by
  simp [Strategy.ofName, Operand.hashKey, ForkPlan.ofOptions_depth_workers]

namespace Strategy

/-- The schedule of a forked strategy whose pool is not refused has the results of the fold by
halves, and with at most one level to fork also its faults. -/
theorem schedule_forked {plan : ForkPlan} (hpool : plan.checkPool = .ok ())
    (hsizes : vs.length = 2 ^ fs.length) :
    SameResults ((forked plan).schedule e vs fs) (foldHalves e fs vs) ∧
      (min plan.depth fs.length ≤ 1 →
        (forked plan).schedule e vs fs = foldHalves e fs vs) := by
  by_cases hzero : min plan.depth fs.length = 0
  · have hplain : (forked plan).schedule e vs fs = foldHalves e fs vs := by
      simp only [schedule, hzero, if_true, foldList_of_sizes hsizes]
    exact ⟨hplain ▸ .refl _, fun _ => hplain⟩
  · have hforked : (forked plan).schedule e vs fs =
        foldForked e (min plan.depth fs.length) vs fs := by
      simp only [schedule, hzero, if_false, hpool, ok_bind]
    rw [hforked]
    refine ⟨foldForked_sameResults (min_le_right _ _) hsizes, fun hle => ?_⟩
    have hone : min plan.depth fs.length = 1 := by omega
    rw [hone]
    cases fs with
    | nil => simp at hone
    | cons factor fs => exact foldForked_one factor fs hsizes

end Strategy

/-- A strategy forked at any depth, with any number of workers that is not refused, succeeds
where the plain fold does and with the same result. It also fails like it where the sizes do
not match or at most one level is forked. -/
theorem forked_fold_agrees (e : Embedding) (depth : ℕ) {workers : Operand}
    (hworkers : workers = .nothing ∨ ∃ n, workers.toInt? = some n ∧ 0 < n)
    {values factors : Operand} (hvalues : values.elements = .ok vs)
    (hfactors : factors.elements = .ok fs) :
    ∃ s, Strategy.ofName (.text "threaded") [("depth", .int depth), ("max_workers", workers)] =
        .ok s ∧
      (∀ r, s.fold e values factors = .ok r ↔ fold e values factors = .ok r) ∧
      (min depth fs.length ≤ 1 ∨ vs.length ≠ 2 ^ fs.length →
        s.fold e values factors = fold e values factors) := by
  refine ⟨_, ofName_threaded depth workers, ?_⟩
  by_cases hsizes : vs.length = 2 ^ fs.length
  · have hpool : ({ depth := depth, workers := workers } : ForkPlan).checkPool = .ok () :=
      checkWorkers_eq_ok hworkers
    obtain ⟨hresults, hfaults⟩ := Strategy.schedule_forked (e := e) hpool hsizes
    rw [Strategy.fold_of_supports _ hvalues hfactors hsizes rfl,
      fold_of_elements hvalues hfactors, foldList_of_sizes hsizes]
    refine ⟨hresults, fun hcases => hfaults ?_⟩
    exact hcases.resolve_right fun hne => hne hsizes
  · have heq := Strategy.fold_eq_of_sizes_ne (e := e)
      (.forked { depth := depth, workers := workers }) hvalues hfactors hsizes
    exact ⟨fun r => by rw [heq], fun _ => heq⟩

/-- Four letters folded by two counts, with both levels forked. -/
theorem forked_fold_agrees_on_letters :
    (Operand.text "abcd").elements =
        .ok [.text "a", .text "b", .text "c", .text "d"] ∧
      (Operand.group .round [.int 2, .int 3]).elements = .ok [.int 2, .int 3] ∧
      ∃ s, Strategy.ofName (.text "threaded") [("depth", .int 2), ("max_workers", .int 3)] =
          .ok s ∧
        s.fold .identity (.text "abcd") (.group .round [.int 2, .int 3]) =
          .ok (.text "abbbcdddcddd") := by
  have hvalues : (Operand.text "abcd").elements =
      .ok [.text "a", .text "b", .text "c", .text "d"] := rfl
  have hfactors : (Operand.group .round [.int 2, .int 3]).elements = .ok [.int 2, .int 3] := rfl
  have hworkers : (Operand.int 3) = .nothing ∨ ∃ n, (Operand.int 3).toInt? = some n ∧ 0 < n :=
    Or.inr ⟨3, rfl, by decide⟩
  obtain ⟨s, hs, hresults, _⟩ := forked_fold_agrees .identity 2 hworkers hvalues hfactors
  exact ⟨hvalues, hfactors, s, hs, (hresults _).mpr rfl⟩

end TowerFold
