import TowerFold.Proofs.Fold.Sizes
import TowerFold.Proofs.Operand.Refusal

/-!
# The operand that a fold is refused for

A fold over the field of degree four is refused exactly when that field refuses one of its
values or factors, and then with the fault of one of them. Values are embedded from left to
right. A factor is first used when the first two subtrees that it joins are folded, so among the
refused factors the last one comes first, before every value to the right of these subtrees.
-/

namespace TowerFold

/-- The field of degree four accepts an operand. -/
def QM31.Accepts (v : Operand) : Prop := ∃ x, QM31.ofOperand v = .ok x

/-- The first item of a list that the field of degree four refuses stands at `i`, and is refused
with `fault`. -/
structure FirstRefusal (items : List Operand) (i : ℕ) (fault : Fault) : Prop where
  refused : ∃ v, items[i]? = some v ∧ QM31.ofOperand v = .error fault
  accepted_before : ∀ i' v, i' < i → items[i']? = some v → QM31.Accepts v

/-- The last item of a list that the field of degree four refuses stands at `j`, and is refused
with `fault`. -/
structure LastRefusal (items : List Operand) (j : ℕ) (fault : Fault) : Prop where
  refused : ∃ v, items[j]? = some v ∧ QM31.ofOperand v = .error fault
  accepted_after : ∀ j' v, j < j' → items[j']? = some v → QM31.Accepts v

variable {v : Operand} {items values factors : List Operand} {i j n : ℕ} {fault : Fault}

/-- What is refused is refused with some fault. -/
theorem QM31.not_accepts_iff : ¬QM31.Accepts v ↔ ∃ fault, QM31.ofOperand v = .error fault := by
  unfold Accepts
  cases QM31.ofOperand v with
  | error fault => simp
  | ok x => simp

namespace FirstRefusal

/-- An accepted item moves the first refusal one place on. -/
theorem cons (hv : QM31.Accepts v) (h : FirstRefusal items i fault) :
    FirstRefusal (v :: items) (i + 1) fault where
  refused := by simpa using h.refused
  accepted_before i' w hlt hw := by
    cases i' with
    | zero => exact Option.some.inj hw ▸ hv
    | succ i' => exact h.accepted_before i' w (by omega) (by simpa using hw)

/-- The first refusal stays the first one in a part that reaches it. -/
theorem take (h : FirstRefusal items i fault) (hi : i < n) :
    FirstRefusal (items.take n) i fault where
  refused := by
    rw [List.getElem?_take_of_lt hi]
    exact h.refused
  accepted_before i' v hlt hv := by
    rw [List.getElem?_take_of_lt (by omega)] at hv
    exact h.accepted_before i' v hlt hv

/-- A part that ends before the first refusal is accepted. -/
theorem accepts_of_mem_take (h : FirstRefusal items i fault) (hn : n ≤ i)
    (hv : v ∈ items.take n) : QM31.Accepts v := by
  obtain ⟨i', hi'⟩ := List.mem_iff_getElem?.mp hv
  obtain ⟨hlt, _⟩ := List.getElem?_eq_some_iff.mp hi'
  rw [List.length_take] at hlt
  rw [List.getElem?_take_of_lt (by omega)] at hi'
  exact h.accepted_before i' v (by omega) hi'

/-- The first refusal stays the first one in a part that begins before it. -/
theorem drop (h : FirstRefusal items i fault) (hn : n ≤ i) :
    FirstRefusal (items.drop n) (i - n) fault where
  refused := by
    rw [List.getElem?_drop, Nat.add_sub_cancel' hn]
    exact h.refused
  accepted_before i' v hlt hv := by
    rw [List.getElem?_drop] at hv
    exact h.accepted_before (n + i') v (by omega) hv

/-- Where an item is refused, there is a first one. -/
theorem exists_of_not_accepts (hrefused : ∃ v ∈ items, ¬QM31.Accepts v) :
    ∃ i fault, FirstRefusal items i fault := by
  induction items with
  | nil => simp at hrefused
  | cons w rest ih =>
    by_cases hw : QM31.Accepts w
    · obtain ⟨v, hv, hne⟩ := hrefused
      have hrest : v ∈ rest := (List.mem_cons.mp hv).resolve_left fun heq => hne (heq ▸ hw)
      obtain ⟨i, fault, hi⟩ := ih ⟨v, hrest, hne⟩
      exact ⟨i + 1, fault, hi.cons hw⟩
    · obtain ⟨fault, hfault⟩ := QM31.not_accepts_iff.mp hw
      exact ⟨0, fault, ⟨w, rfl, hfault⟩, fun i' v hlt _ => by omega⟩

end FirstRefusal

namespace LastRefusal

/-- An item in front moves the last refusal one place on. -/
theorem cons (v : Operand) (h : LastRefusal items j fault) :
    LastRefusal (v :: items) (j + 1) fault where
  refused := by simpa using h.refused
  accepted_after j' w hlt hw := by
    cases j' with
    | zero => omega
    | succ j' => exact h.accepted_after j' w (by omega) (by simpa using hw)

/-- The last refusal stays the last one without an item in front of it. -/
theorem tail (h : LastRefusal (v :: items) (j + 1) fault) : LastRefusal items j fault where
  refused := by simpa using h.refused
  accepted_after j' w hlt hw := h.accepted_after (j' + 1) w (by omega) (by simpa using hw)

/-- Where the last refusal is that of the first item, all others are accepted. -/
theorem accepts_of_mem_tail {w : Operand} (h : LastRefusal (w :: items) 0 fault)
    (hv : v ∈ items) : QM31.Accepts v := by
  obtain ⟨j, hj⟩ := List.mem_iff_getElem?.mp hv
  exact h.accepted_after (j + 1) v (by omega) (by simpa using hj)

/-- Where an item is refused, there is a last one. -/
theorem exists_of_not_accepts (hrefused : ∃ v ∈ items, ¬QM31.Accepts v) :
    ∃ j fault, LastRefusal items j fault := by
  induction items with
  | nil => simp at hrefused
  | cons w rest ih =>
    by_cases hrest : ∃ v ∈ rest, ¬QM31.Accepts v
    · obtain ⟨j, fault, hj⟩ := ih hrest
      exact ⟨j + 1, fault, hj.cons w⟩
    · push Not at hrest
      obtain ⟨v, hv, hne⟩ := hrefused
      obtain rfl : v = w := (List.mem_cons.mp hv).resolve_right fun hmem => hne (hrest v hmem)
      obtain ⟨fault, hfault⟩ := QM31.not_accepts_iff.mp hne
      refine ⟨0, fault, ⟨v, rfl, hfault⟩, fun j' w hlt hw => ?_⟩
      cases j' with
      | zero => omega
      | succ j' => exact hrest w (List.mem_of_getElem? (by simpa using hw))

end LastRefusal

/-- Elements of degree four are joined by a factor exactly when the field accepts it. -/
theorem join_qm31 (x y : QM31) {factor : Operand}
    (hfactor : StaysRegular QM31.ofOperand factor) :
    join (.qm31 x) (.qm31 y) factor = do
      return .qm31 (x + y * (← QM31.ofOperand factor)) := by
  simp only [join, Operand.qm31_mul y hfactor, bind_assoc, pure_bind]
  rfl

/-- An accepted value is embedded as an element, and what is refused otherwise than as an irregular
element is refused with its own fault. -/
theorem Embedding.qm31_apply_eq_error (hregular : fault.isRegular = true)
    (hv : QM31.ofOperand v = .error fault) : Embedding.qm31.apply v = .error fault := by
  rw [Embedding.apply, hv, error_bind, orIrregular_of_endsRegularly (.error hregular)]

/-- A fold of operands that are all accepted succeeds. -/
theorem foldHalves_of_accepts (hsizes : values.length = 2 ^ factors.length)
    (hvalues : ∀ v ∈ values, QM31.Accepts v) (hfactors : ∀ f ∈ factors, QM31.Accepts f) :
    ∃ x, foldHalves .qm31 factors values = .ok (.qm31 x) := by
  induction factors generalizing values with
  | nil =>
    obtain ⟨v, rfl⟩ := List.length_eq_one_iff.mp hsizes
    obtain ⟨x, hx⟩ := hvalues v List.mem_cons_self
    exact ⟨x, Embedding.qm31_apply_eq_ok_iff.mpr hx⟩
  | cons factor factors ih =>
    obtain ⟨⟨z, hz⟩, hrest⟩ := List.forall_mem_cons.mp hfactors
    obtain ⟨hleft, hright⟩ := length_halves hsizes
    obtain ⟨x, hx⟩ := ih hleft (fun v hv => hvalues v (List.mem_of_mem_take hv)) hrest
    obtain ⟨y, hy⟩ := ih hright (fun v hv => hvalues v (List.mem_of_mem_drop hv)) hrest
    exact ⟨x + y * z, by
      simp only [foldHalves, hx, hy, ok_bind, join_qm31 x y (.of_qm31 hz), hz, pure_eq_ok]⟩

/-- The first refused value decides the fault when no refused factor is used before it. -/
theorem foldHalves_of_firstRefusal (hsizes : values.length = 2 ^ factors.length)
    (hregular : fault.isRegular = true) (hfirst : FirstRefusal values i fault)
    (hfactors : ∀ j f, factors[j]? = some f → ¬QM31.Accepts f → i < 2 ^ (factors.length - j)) :
    foldHalves .qm31 factors values = .error fault := by
  induction factors generalizing values i with
  | nil =>
    obtain ⟨w, rfl⟩ := List.length_eq_one_iff.mp hsizes
    obtain ⟨v, hv, hfault⟩ := hfirst.refused
    obtain rfl : v = w := List.mem_singleton.mp (List.mem_of_getElem? hv)
    rw [foldHalves, Embedding.qm31_apply_eq_error hregular hfault]
  | cons factor factors ih =>
    obtain ⟨hleft, hright⟩ := length_halves hsizes
    have hbelow (j : ℕ) (f : Operand) (hf : factors[j]? = some f) (hne : ¬QM31.Accepts f) :
        i < 2 ^ (factors.length - j) := by
      simpa using hfactors (j + 1) f (by simpa using hf) hne
    rw [foldHalves]
    by_cases hi : i < leafCount factors.length
    · rw [ih hleft (hfirst.take hi) hbelow, error_bind]
    · -- A value in the second half is only reached when all factors but the first are accepted.
      rw [Nat.not_lt] at hi
      have hrest (f : Operand) (hf : f ∈ factors) : QM31.Accepts f := by
        by_contra hne
        obtain ⟨j, hj⟩ := List.mem_iff_getElem?.mp hf
        have hlt := hbelow j f hj hne
        have hle : 2 ^ (factors.length - j) ≤ 2 ^ factors.length :=
          Nat.pow_le_pow_right (by decide) (Nat.sub_le _ _)
        rw [leafCount_eq_two_pow] at hi
        omega
      obtain ⟨x, hx⟩ :=
        foldHalves_of_accepts hleft (fun v hv => hfirst.accepts_of_mem_take hi hv) hrest
      rw [hx, ok_bind, ih hright (hfirst.drop hi), error_bind]
      exact fun j f hf hne => absurd (hrest f (List.mem_of_getElem? hf)) hne

/-- The last refused factor decides the fault when all values of the first two subtrees that it
joins are accepted. -/
theorem foldHalves_of_lastRefusal (hsizes : values.length = 2 ^ factors.length)
    (hregular : ∀ f ∈ factors, StaysRegular QM31.ofOperand f)
    (hlast : LastRefusal factors j fault)
    (hvalues : ∀ i v, i < 2 ^ (factors.length - j) → values[i]? = some v → QM31.Accepts v) :
    foldHalves .qm31 factors values = .error fault := by
  induction factors generalizing values j with
  | nil =>
    obtain ⟨f, hf, _⟩ := hlast.refused
    cases hf
  | cons factor factors ih =>
    obtain ⟨hleft, hright⟩ := length_halves hsizes
    obtain ⟨hfactor, hrest⟩ := List.forall_mem_cons.mp hregular
    rw [foldHalves]
    cases j with
    | zero =>
      have haccepted (v : Operand) (hv : v ∈ values) : QM31.Accepts v := by
        obtain ⟨i, hi⟩ := List.mem_iff_getElem?.mp hv
        obtain ⟨hlt, _⟩ := List.getElem?_eq_some_iff.mp hi
        exact hvalues i v (hsizes ▸ hlt) hi
      obtain ⟨x, hx⟩ := foldHalves_of_accepts hleft
        (fun v hv => haccepted v (List.mem_of_mem_take hv)) fun f hf => hlast.accepts_of_mem_tail hf
      obtain ⟨y, hy⟩ := foldHalves_of_accepts hright
        (fun v hv => haccepted v (List.mem_of_mem_drop hv)) fun f hf => hlast.accepts_of_mem_tail hf
      obtain ⟨f, hf, hfault⟩ := hlast.refused
      obtain rfl : factor = f := Option.some.inj hf
      simp only [hx, hy, ok_bind, join_qm31 x y hfactor, hfault, error_bind]
    | succ j =>
      -- The factor is used in the first half already.
      have hbelow (i : ℕ) (v : Operand) (hi : i < 2 ^ (factors.length - j))
          (hv : (values.take (leafCount factors.length))[i]? = some v) : QM31.Accepts v := by
        obtain ⟨hlt, _⟩ := List.getElem?_eq_some_iff.mp hv
        rw [List.length_take] at hlt
        rw [List.getElem?_take_of_lt (by omega)] at hv
        exact hvalues i v (by simpa using hi) hv
      rw [ih hleft hrest hlast.tail hbelow, error_bind]

/-- The operand that decides the fault of a fold over the field of degree four: the first refused
value when no factor is refused or when it is one of the first `2 ^ (k - j)` values, where `k` is
the number of factors and `j` the place of the last refused one, and else that factor. -/
inductive RefusedWith (values factors : List Operand) (fault : Fault) : Prop
  /-- The first refused value decides. -/
  | value {i : ℕ} (hfirst : FirstRefusal values i fault)
    (hearly : (∀ f ∈ factors, QM31.Accepts f) ∨
      ∃ j other, LastRefusal factors j other ∧ i < 2 ^ (factors.length - j))
  /-- The last refused factor decides. -/
  | factor {j : ℕ} (hlast : LastRefusal factors j fault)
    (hlate : ∀ i other, FirstRefusal values i other → 2 ^ (factors.length - j) ≤ i)

/-- The deciding operand decides the fault of the fold. -/
theorem RefusedWith.foldHalves_eq (hsizes : values.length = 2 ^ factors.length)
    (hvalues : ∀ v ∈ values, StaysRegular QM31.ofOperand v)
    (hfactors : ∀ f ∈ factors, StaysRegular QM31.ofOperand f)
    (h : RefusedWith values factors fault) : foldHalves .qm31 factors values = .error fault := by
  cases h with
  | value hfirst hearly =>
    obtain ⟨v, hv, hfault⟩ := hfirst.refused
    have hregular := (hvalues v (List.mem_of_getElem? hv)).endsRegularly fault hfault
    refine foldHalves_of_firstRefusal hsizes hregular hfirst fun j' f hf hne => ?_
    rcases hearly with haccepted | ⟨j, _, hlast, hi⟩
    · exact absurd (haccepted f (List.mem_of_getElem? hf)) hne
    · have hle : j' ≤ j := Nat.not_lt.mp fun hlt => hne (hlast.accepted_after j' f hlt hf)
      exact hi.trans_le (Nat.pow_le_pow_right (by decide) (Nat.sub_le_sub_left hle _))
  | factor hlast hlate =>
    refine foldHalves_of_lastRefusal hsizes hfactors hlast fun i v hi hv => ?_
    by_contra hne
    obtain ⟨i', other, hfirst⟩ :=
      FirstRefusal.exists_of_not_accepts ⟨v, List.mem_of_getElem? hv, hne⟩
    have hle : i' ≤ i := Nat.not_lt.mp fun hlt => hne (hfirst.accepted_before i v hlt hv)
    have hfar := hlate i' other hfirst
    omega

/-- Unless all operands are accepted, one of them decides. -/
theorem exists_refusedWith
    (hrefused : ¬((∀ v ∈ values, QM31.Accepts v) ∧ ∀ f ∈ factors, QM31.Accepts f)) :
    ∃ fault, RefusedWith values factors fault := by
  by_cases hfactors : ∀ f ∈ factors, QM31.Accepts f
  · have hvalue : ∃ v ∈ values, ¬QM31.Accepts v := by
      by_contra hnone
      push Not at hnone
      exact hrefused ⟨hnone, hfactors⟩
    obtain ⟨i, fault, hfirst⟩ := FirstRefusal.exists_of_not_accepts hvalue
    exact ⟨fault, .value hfirst (.inl hfactors)⟩
  · push Not at hfactors
    obtain ⟨j, fault, hlast⟩ := LastRefusal.exists_of_not_accepts hfactors
    by_cases hearly : ∃ i other, FirstRefusal values i other ∧ i < 2 ^ (factors.length - j)
    · obtain ⟨i, other, hfirst, hi⟩ := hearly
      exact ⟨other, .value hfirst (.inr ⟨j, fault, hlast, hi⟩)⟩
    · push Not at hearly
      exact ⟨fault, .factor hlast hearly⟩

/-- A fold over the field of degree four succeeds exactly when the field accepts all values and
factors, and otherwise fails exactly with the fault of the operand that decides. Only irregular
elements are excluded, and lists of four that are accepted as such. -/
theorem quartic_fold_refusals {values factors : Operand} {vs fs : List Operand}
    (hvalues : values.elements = .ok vs) (hfactors : factors.elements = .ok fs)
    (hsizes : vs.length = 2 ^ fs.length) (hvs : ∀ v ∈ vs, StaysRegular QM31.ofOperand v)
    (hfs : ∀ f ∈ fs, StaysRegular QM31.ofOperand f) :
    ((∃ r, fold .qm31 values factors = .ok r) ↔
        (∀ v ∈ vs, QM31.Accepts v) ∧ ∀ f ∈ fs, QM31.Accepts f) ∧
      ∀ fault, fold .qm31 values factors = .error fault ↔ RefusedWith vs fs fault := by
  rw [fold_of_elements hvalues hfactors, foldList_of_sizes hsizes]
  by_cases haccepted : (∀ v ∈ vs, QM31.Accepts v) ∧ ∀ f ∈ fs, QM31.Accepts f
  · obtain ⟨x, hx⟩ := foldHalves_of_accepts hsizes haccepted.1 haccepted.2
    refine ⟨iff_of_true ⟨_, hx⟩ haccepted, fun fault => ⟨fun hfault => ?_, fun hrefused => ?_⟩⟩
    · rw [hx] at hfault
      cases hfault
    · exact hrefused.foldHalves_eq hsizes hvs hfs
  · obtain ⟨decided, hdecided⟩ := exists_refusedWith haccepted
    have hfold := hdecided.foldHalves_eq hsizes hvs hfs
    refine ⟨iff_of_false ?_ haccepted, fun fault => ⟨fun hfault => ?_, fun hrefused => ?_⟩⟩
    · rintro ⟨r, hr⟩
      rw [hfold] at hr
      cases hr
    · rw [hfold] at hfault
      cases hfault
      exact hdecided
    · exact hrefused.foldHalves_eq hsizes hvs hfs

/-- Four values of which the last two are refused, under a refused first factor. The first factor
is only used at the end, so the third value decides, unless the last factor is refused as well:
that one is used after two values. -/
theorem quartic_fold_refusals_of_four :
    fold .qm31 (.group .square [.int 1, .bool true, .cm31 (.ofCoords 1 2), .text "y"])
        (.group .round [.text "x", .int 5]) = .error (.incompatible (.cm31 (.ofCoords 1 2))) ∧
      fold .qm31 (.group .square [.int 1, .bool true, .cm31 (.ofCoords 1 2), .text "y"])
        (.group .round [.text "x", .nothing]) = .error (.incompatible .nothing) := by
  have hvalues : (Operand.group .square
      [.int 1, .bool true, .cm31 (.ofCoords 1 2), .text "y"]).elements =
      .ok [.int 1, .bool true, .cm31 (.ofCoords 1 2), .text "y"] := rfl
  have hone : QM31.Accepts (.int 1) := ⟨_, rfl⟩
  have htrue : QM31.Accepts (.bool true) := ⟨_, rfl⟩
  have hfirst : FirstRefusal [.int 1, .bool true, .cm31 (.ofCoords 1 2), .text "y"] 2
      (.incompatible (.cm31 (.ofCoords 1 2))) :=
    .cons hone (.cons htrue ⟨⟨_, rfl, rfl⟩, fun i' v hlt _ => by omega⟩)
  have hregular := Operand.forall_staysRegular
    [.int 1, .bool true, .cm31 (.ofCoords 1 2), .text "y"] rfl
  refine ⟨?_, ?_⟩
  · have hfactors := Operand.forall_staysRegular [.text "x", .int 5] rfl
    have hlast : LastRefusal [.text "x", .int 5] 0 (.incompatible (.text "x")) := by
      refine ⟨⟨_, rfl, rfl⟩, fun j' v hlt hv => ?_⟩
      obtain rfl : j' = 1 := by
        obtain ⟨hj, _⟩ := List.getElem?_eq_some_iff.mp hv
        simp only [List.length_cons, List.length_nil] at hj
        omega
      exact ⟨_, congrArg QM31.ofOperand (Option.some.inj hv).symm⟩
    exact ((quartic_fold_refusals hvalues rfl rfl hregular hfactors).2 _).mpr
      (.value hfirst (.inr ⟨0, _, hlast, by decide⟩))
  · have hfactors := Operand.forall_staysRegular [.text "x", .nothing] rfl
    have hlast : LastRefusal [.text "x", .nothing] 1 (.incompatible .nothing) :=
      .cons _ ⟨⟨_, rfl, rfl⟩, fun j' v hlt hv => by simp [Nat.ne_of_gt hlt] at hv⟩
    refine ((quartic_fold_refusals hvalues rfl rfl hregular hfactors).2 _).mpr
      (.factor hlast fun i other h => ?_)
    by_contra hlt
    obtain ⟨v, hv, hfault⟩ := h.refused
    exact QM31.not_accepts_iff.mpr ⟨_, hfault⟩ (hfirst.accepted_before i v (by simpa using hlt) hv)

/-- A list that the class of degree four accepts, because the text in it takes the modulus, stands
before a value that it refuses. The fold fails earlier, in the arithmetic of that text. -/
theorem quartic_fold_of_filled_text :
    (∃ x, Embedding.qm31.apply (.group .square [.text "%s%%", .int 0, .int 0, .int 0]) =
        .ok (.irregular x)) ∧
      Embedding.qm31.apply .nothing = .error (.incompatible .nothing) ∧
      QM31.Accepts (.int 1) ∧
      fold .qm31 (.group .square [.int 1,
          .group .square [.text "%s%%", .int 0, .int 0, .int 0], .nothing, .int 1])
        (.group .square [.int 1, .int 1]) = .error (.misfilled .characters .incomplete) ∧
      Fault.errorClass (.misfilled .characters .incomplete) ≠
        Fault.errorClass (.incompatible .nothing) :=
  ⟨⟨_, rfl⟩, rfl, ⟨_, rfl⟩, rfl, by decide⟩

end TowerFold
