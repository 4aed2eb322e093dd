import Mathlib.Data.List.Forall2
import TowerFold.Fault

/-!
# Outcomes

How outcomes are chained, and when two computations give the same results: each of them
succeeds where the other one does, with the same result, while their faults may differ.
-/

namespace TowerFold

variable {α β : Type}

/-- A result is handed on. -/
@[simp] theorem ok_bind (x : α) (f : α → Except Fault β) :
    ((Except.ok x : Except Fault α) >>= f) = f x := rfl

/-- A fault ends the computation. -/
@[simp] theorem error_bind (fault : Fault) (f : α → Except Fault β) :
    ((Except.error fault : Except Fault α) >>= f) = .error fault := rfl

/-- To return is to succeed. -/
@[simp] theorem pure_eq_ok (x : α) : (pure x : Except Fault α) = .ok x := rfl

/-- To return what was handed on changes nothing. -/
@[simp] theorem bind_ok (x : Except Fault α) : (x >>= fun a => Except.ok a) = x := bind_pure x

/-- A chain succeeds exactly through a result of its first part. -/
theorem bind_eq_ok_iff {x : Except Fault α} {f : α → Except Fault β} {b : β} :
    (x >>= f) = .ok b ↔ ∃ a, x = .ok a ∧ f a = .ok b := by
  cases x with
  | error fault => simp
  | ok a => simp

/-- A chain fails in its first part, or in its second part after a result of the first. -/
theorem bind_eq_error_iff {x : Except Fault α} {f : α → Except Fault β} {fault : Fault} :
    (x >>= f) = .error fault ↔ x = .error fault ∨ ∃ a, x = .ok a ∧ f a = .error fault := by
  cases x with
  | error other => simp
  | ok a => simp

/-- A check only lets the computation go on. -/
theorem check_bind_eq_ok_iff {x : Except Fault Unit} {f : Unit → Except Fault β} {b : β} :
    (x >>= f) = .ok b ↔ x = .ok () ∧ f () = .ok b := by
  cases x with
  | error fault => simp
  | ok _ => simp

/-- Every item of a list has a result exactly when the list has the list of these results. -/
theorem mapM_eq_ok_iff {f : α → Except Fault β} {items : List α} {results : List β} :
    items.mapM f = .ok results ↔ items.map f = results.map .ok := by
  induction items generalizing results with
  | nil => cases results <;> simp
  | cons item items ih =>
    cases results with
    | nil => simp [bind_eq_ok_iff]
    | cons result results =>
      simp only [List.mapM_cons, bind_eq_ok_iff, pure_eq_ok, Except.ok.injEq, List.cons.injEq,
        List.map_cons, ← ih]
      constructor
      · rintro ⟨_, hitem, _, hitems, rfl, rfl⟩
        exact ⟨hitem, hitems⟩
      · rintro ⟨hitem, hitems⟩
        exact ⟨result, hitem, results, hitems, rfl, rfl⟩

/-- The results of a list can be collected exactly when every item has one. -/
theorem exists_mapM_eq_ok_iff {f : α → Except Fault β} {items : List α} :
    (∃ results, items.mapM f = .ok results) ↔ ∀ item ∈ items, ∃ result, f item = .ok result := by
  induction items with
  | nil => exact iff_of_true ⟨[], rfl⟩ nofun
  | cons item items ih =>
    rw [List.forall_mem_cons, ← ih]
    simp only [List.mapM_cons, bind_eq_ok_iff, pure_eq_ok, Except.ok.injEq]
    constructor
    · rintro ⟨_, result, hitem, results, hitems, _⟩
      exact ⟨⟨result, hitem⟩, results, hitems⟩
    · rintro ⟨⟨result, hitem⟩, results, hitems⟩
      exact ⟨_, result, hitem, results, hitems, rfl⟩

/-- What has the same outcome on every item has the same outcome on the list. -/
theorem mapM_congr {f g : α → Except Fault β} {items : List α}
    (h : ∀ item ∈ items, f item = g item) : items.mapM f = items.mapM g := by
  induction items with
  | nil => rfl
  | cons item items ih =>
    obtain ⟨hitem, hrest⟩ := List.forall_mem_cons.mp h
    rw [List.mapM_cons, List.mapM_cons, hitem, ih hrest]

/-- Items with the given results have the list of these. -/
theorem mapM_of_forall₂ {f : α → Except Fault β} {items : List α} {results : List β}
    (h : List.Forall₂ (fun item result => f item = .ok result) items results) :
    items.mapM f = .ok results := by
  induction h with
  | nil => rfl
  | cons hitem _ ih => rw [List.mapM_cons, hitem, ok_bind, ih, ok_bind, pure_eq_ok]

/-- What is done with every single result can be done with all of them at the end. -/
theorem mapM_bind_pure {γ : Type} (f : α → Except Fault β) (g : β → γ) (items : List α) :
    (items.mapM fun item => do return g (← f item)) = do return (← items.mapM f).map g := by
  induction items with
  | nil => rfl
  | cons item items ih =>
    simp only [List.mapM_cons, ih, bind_assoc, pure_bind, List.map_cons]

/-- A list fails as the first item in it that fails. -/
theorem mapM_eq_error_iff {f : α → Except Fault β} {items : List α} {fault : Fault} :
    items.mapM f = .error fault ↔ ∃ before item after, items = before ++ item :: after ∧
      (∀ other ∈ before, ∃ result, f other = .ok result) ∧ f item = .error fault := by
  induction items with
  | nil => exact iff_of_false nofun (by simp)
  | cons first items ih =>
    rw [List.mapM_cons]
    cases hfirst : f first with
    | error other =>
      rw [error_bind]
      constructor
      · rintro ⟨⟩
        exact ⟨[], first, items, rfl, nofun, hfirst⟩
      · rintro ⟨before, item, after, hitems, hbefore, hitem⟩
        cases before with
        | nil =>
          cases hitems
          exact congrArg Except.error (Except.error.inj (hfirst.symm.trans hitem))
        | cons w before =>
          cases hitems
          obtain ⟨result, hresult⟩ := hbefore first List.mem_cons_self
          cases hfirst.symm.trans hresult
    | ok result =>
      have hrest : (Except.ok result >>= fun a => do
          let results ← items.mapM f
          pure (a :: results)) = .error fault ↔ items.mapM f = .error fault := by
        cases items.mapM f <;> simp
      rw [hrest, ih]
      constructor
      · rintro ⟨before, item, after, rfl, hbefore, hitem⟩
        exact ⟨first :: before, item, after, rfl,
          List.forall_mem_cons.mpr ⟨⟨result, hfirst⟩, hbefore⟩, hitem⟩
      · rintro ⟨before, item, after, hitems, hbefore, hitem⟩
        cases before with
        | nil =>
          cases hitems
          cases hfirst.symm.trans hitem
        | cons w before =>
          cases hitems
          exact ⟨before, item, after, rfl, (List.forall_mem_cons.mp hbefore).2, hitem⟩

/-- As many results as there are items. -/
theorem length_of_mapM_eq_ok {f : α → Except Fault β} {items : List α} {results : List β}
    (h : items.mapM f = .ok results) : results.length = items.length := by
  have hlength := congrArg List.length (mapM_eq_ok_iff.mp h)
  rw [List.length_map, List.length_map] at hlength
  exact hlength.symm

/-- Two computations have the same results, though perhaps not the same faults. -/
def SameResults (x y : Except Fault α) : Prop := ∀ r, x = .ok r ↔ y = .ok r

namespace SameResults

theorem refl (x : Except Fault α) : SameResults x x := fun _ => Iff.rfl

theorem trans {x y z : Except Fault α} (hxy : SameResults x y) (hyz : SameResults y z) :
    SameResults x z :=
  fun r => (hxy r).trans (hyz r)

instance : Trans (@SameResults α) SameResults SameResults := ⟨trans⟩

/-- Chains have the same results when their first parts have, and their second parts after
every result that occurs. -/
theorem bind {x y : Except Fault α} {f g : α → Except Fault β} (hxy : SameResults x y)
    (hfg : ∀ a, y = .ok a → SameResults (f a) (g a)) : SameResults (x >>= f) (y >>= g) := by
  intro r
  simp only [bind_eq_ok_iff]
  constructor
  · rintro ⟨a, hx, hf⟩
    have hy := (hxy a).mp hx
    exact ⟨a, hy, (hfg a hy r).mp hf⟩
  · rintro ⟨a, hy, hg⟩
    exact ⟨a, (hxy a).mpr hy, (hfg a hy r).mpr hg⟩

/-- Two steps that do not depend on each other may change places: only the fault that
comes first depends on their order. -/
theorem bind_comm {γ : Type} (x : Except Fault α) (y : Except Fault β)
    (f : α → β → Except Fault γ) :
    SameResults (do let a ← x; let b ← y; f a b) (do let b ← y; let a ← x; f a b) := by
  intro r
  simp only [bind_eq_ok_iff]
  constructor
  · rintro ⟨a, hx, b, hy, hf⟩
    exact ⟨b, hy, a, hx, hf⟩
  · rintro ⟨b, hy, a, hx, hf⟩
    exact ⟨a, hx, b, hy, hf⟩

end SameResults

/-- A computation that fails does so with a fault of the kind `P`. -/
def FailsOnlyWith (P : Fault → Prop) (x : Except Fault α) : Prop :=
  ∀ fault, x = .error fault → P fault

namespace FailsOnlyWith

variable {P Q : Fault → Prop} {x : Except Fault α}

theorem ok (a : α) : FailsOnlyWith P (.ok a) := by
  intro fault h
  cases h

theorem error {fault : Fault} (hfault : P fault) :
    FailsOnlyWith P (.error fault : Except Fault α) := by
  intro other h
  cases h
  exact hfault

theorem mono (hx : FailsOnlyWith P x) (hPQ : ∀ fault, P fault → Q fault) : FailsOnlyWith Q x :=
  fun fault h => hPQ fault (hx fault h)

/-- A chain fails as its first part, or as its second part after a result of the first. -/
theorem bind {f : α → Except Fault β} (hx : FailsOnlyWith P x)
    (hf : ∀ a, x = .ok a → FailsOnlyWith P (f a)) : FailsOnlyWith P (x >>= f) := by
  cases hresult : x with
  | error fault => exact .error (hx fault hresult)
  | ok a => exact hf a hresult

theorem mapM {f : α → Except Fault β} {items : List α}
    (hf : ∀ a ∈ items, FailsOnlyWith P (f a)) : FailsOnlyWith P (items.mapM f) := by
  induction items with
  | nil => exact .ok []
  | cons a items ih =>
    obtain ⟨ha, hrest⟩ := List.forall_mem_cons.mp hf
    rw [List.mapM_cons]
    exact ha.bind fun b _ => (ih hrest).bind fun others _ => .ok (b :: others)

theorem foldlM {f : β → α → Except Fault β} {items : List α} (start : β)
    (hf : ∀ b, ∀ a ∈ items, FailsOnlyWith P (f b a)) :
    FailsOnlyWith P (items.foldlM f start) := by
  induction items generalizing start with
  | nil => exact .ok start
  | cons a items ih =>
    rw [List.foldlM_cons]
    exact (hf start a List.mem_cons_self).bind fun b _ =>
      ih b fun b a ha => hf b a (List.mem_cons_of_mem _ ha)

end FailsOnlyWith

end TowerFold
