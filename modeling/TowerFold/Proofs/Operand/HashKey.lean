import TowerFold.Operand.HashKey
import TowerFold.Proofs.Operand.Equality

/-!
# Hashes of equal numbers

Equal elements of one field hash alike. A base-field element hashes like an integer that is equal to
it exactly if their truncated remainders modulo `2⁶¹ − 1` agree, so like the integers that are
reduced. An element of an extension is hashed as the tuple of its coordinates, and like a scalar
that is equal to it only where the hash of that tuple happens to be that of an integer.
-/

namespace TowerFold

namespace HashKey

/-- The reduced magnitude of an integer with its sign is its truncated remainder. -/
theorem sign_mul_natAbs_mod (n : ℤ) :
    n.sign * (n.natAbs % magnitudeModulus : ℕ) = n.tmod magnitudeModulus := by
  cases n with
  | ofNat m =>
    obtain rfl | hm := eq_or_ne m 0
    · rfl
    · rw [Int.ofNat_eq_natCast, Int.sign_natCast_of_ne_zero hm, one_mul, Int.natAbs_natCast,
        Int.ofNat_tmod]
  | negSucc m => exact neg_one_mul _

/-- An integer that is not negative hashes like the integers with the same truncated remainder: that
`-1` hashes like `-2` plays no part, as its own remainder is neither. -/
theorem ofInt_eq_ofInt_iff {m n : ℤ} (hm : 0 ≤ m) :
    ofInt m = ofInt n ↔ m.tmod magnitudeModulus = n.tmod magnitudeModulus := by
  have hremainder : 0 ≤ m.tmod magnitudeModulus := Int.tmod_nonneg _ hm
  simp only [ofInt, sign_mul_natAbs_mod, List.cons.injEq, HashToken.number.injEq, and_true]
  split <;> split <;> omega

end HashKey

/-! ## The conditions -/

/-- Two elements of one field. -/
def SameField (v w : Operand) : Prop := ∃ e, v.field? = some e ∧ w.field? = some e

/-- Two scalars that are integers with the same truncated remainder modulo `2⁶¹ − 1`. -/
def SameRemainder (v w : Operand) : Prop :=
  v.IsScalar ∧ w.IsScalar ∧ ∃ m n, v.toInteger = .ok m ∧ w.toInteger = .ok n ∧
    m.tmod HashKey.magnitudeModulus = n.tmod HashKey.magnitudeModulus

/-- A scalar, and something else whose tuple of coordinates happens to have the hash of the integer
that the scalar is. -/
def SharesTupleHash (v w : Operand) : Prop :=
  v.IsScalar ∧ ¬w.IsScalar ∧ ∃ n, v.toInteger = .ok n ∧
    HashKey.ofItems (w.coordinates.map HashKey.ofInt) = HashKey.ofInt n

namespace Operand

variable {v w : Operand} {n : ℤ}

/-! ## Keys of numbers -/

/-- A scalar has the key of the integer it is. -/
theorem IsScalar.hashKey_eq (hv : v.IsScalar) (hn : v.toInteger = .ok n) :
    v.hashKey = .ok (HashKey.ofInt n) := by
  cases hv <;> cases hn <;> rfl

/-- An element of an extension has the key of the tuple of its coordinates. -/
theorem IsNumber.hashKey_eq (hv : v.IsNumber) (htuple : ¬v.IsScalar) :
    v.hashKey = .ok (HashKey.ofItems (v.coordinates.map HashKey.ofInt)) := by
  cases hv with
  | scalar hv => exact absurd hv htuple
  | complex x => rfl
  | quartic x => rfl

/-- Every number has a key. -/
theorem IsNumber.exists_hashKey (hv : v.IsNumber) : ∃ key, v.hashKey = .ok key := by
  cases hv with
  | scalar hv =>
    obtain ⟨_, _, _, hn, _⟩ := hv.exists_residue
    exact ⟨_, hv.hashKey_eq hn⟩
  | complex x => exact ⟨_, rfl⟩
  | quartic x => exact ⟨_, rfl⟩

/-- Operands with keys hash alike if their keys are equal. -/
theorem hashesAlike_iff {key key' : HashKey} (hv : v.hashKey = .ok key)
    (hw : w.hashKey = .ok key') : v.hashesAlike w = .ok true ↔ key = key' := by
  have halike : v.hashesAlike w = .ok (decide (key = key')) := by
    rw [hashesAlike, hv, hw]
    rfl
  rw [halike, Except.ok.injEq, decide_eq_true_eq]

/-! ## When keys are equal -/

/-- Equal elements of one field are the same element. -/
theorem eq_of_equals (hfield : SameField v w) (hequal : v.equals w = .ok true) : v = w := by
  obtain ⟨e, hv, hw⟩ := hfield
  cases v with
  | m31 x =>
    cases hv
    cases w with
    | m31 y => rw [(elementClass_m31.equals_iff x y).mp hequal]
    | _ => cases hw
  | cm31 x =>
    cases hv
    cases w with
    | cm31 y => rw [(elementClass_cm31.equals_iff x y).mp hequal]
    | _ => cases hw
  | qm31 x =>
    cases hv
    cases w with
    | qm31 y => rw [(elementClass_qm31.equals_iff x y).mp hequal]
    | _ => cases hw
  | _ => cases hv

/-- Equal numbers that are no scalars lie in one field. -/
theorem sameField_of_equals (hv : v.IsNumber) (hw : w.IsNumber) (htuple : ¬v.IsScalar)
    (htuple' : ¬w.IsScalar) (hequal : v.equals w = .ok true) : SameField v w := by
  cases hv with
  | scalar hv => exact absurd hv htuple
  | complex x =>
    cases hw with
    | scalar hw => exact absurd hw htuple'
    | complex y => exact ⟨.cm31, rfl, rfl⟩
    | quartic y => cases hequal
  | quartic x =>
    cases hw with
    | scalar hw => exact absurd hw htuple'
    | complex y => cases hequal
    | quartic y => exact ⟨.qm31, rfl, rfl⟩

/-- An integer that is a base-field element is not negative. -/
theorem toInteger_nonneg (hv : v.isElement = true) (hn : v.toInteger = .ok n) : 0 ≤ n := by
  cases v with
  | m31 x =>
    cases hn
    exact Int.natCast_nonneg _
  | cm31 | qm31 => cases hn
  | _ => cases hv

/-- A base-field element and another scalar hash alike if their remainders agree. -/
theorem hashesAlike_scalars_iff (hv : v.IsScalar) (hw : w.IsScalar)
    (helement : v.isElement = true ∨ w.isElement = true) :
    v.hashesAlike w = .ok true ↔ SameRemainder v w := by
  obtain ⟨_, m, _, hm, _⟩ := hv.exists_residue
  obtain ⟨_, n, _, hn, _⟩ := hw.exists_residue
  have hkeys : HashKey.ofInt m = HashKey.ofInt n ↔
      m.tmod HashKey.magnitudeModulus = n.tmod HashKey.magnitudeModulus := by
    obtain helement | helement := helement
    · exact HashKey.ofInt_eq_ofInt_iff (toInteger_nonneg helement hm)
    · rw [eq_comm, HashKey.ofInt_eq_ofInt_iff (toInteger_nonneg helement hn), eq_comm]
  rw [hashesAlike_iff (hv.hashKey_eq hm) (hw.hashKey_eq hn), hkeys]
  constructor
  · exact fun hmn => ⟨hv, hw, m, n, hm, hn, hmn⟩
  · rintro ⟨_, _, m', n', hm', hn', hmn⟩
    obtain rfl := Except.ok.inj (hm.symm.trans hm')
    obtain rfl := Except.ok.inj (hn.symm.trans hn')
    exact hmn

/-- A scalar and an element of an extension hash alike if the hash of the tuple happens to be that
of the scalar. -/
theorem hashesAlike_tuple_iff (hv : v.IsScalar) (hw : w.IsNumber) (htuple : ¬w.IsScalar) :
    v.hashesAlike w = .ok true ↔ SharesTupleHash v w := by
  obtain ⟨_, n, _, hn, _⟩ := hv.exists_residue
  rw [hashesAlike_iff (hv.hashKey_eq hn) (hw.hashKey_eq htuple), eq_comm]
  constructor
  · exact fun hkey => ⟨hv, htuple, n, hn, hkey⟩
  · rintro ⟨_, _, n', hn', hkey⟩
    obtain rfl := Except.ok.inj (hn.symm.trans hn')
    exact hkey

/-- Whether numbers hash alike does not depend on their order. -/
theorem hashesAlike_comm (hv : v.IsNumber) (hw : w.IsNumber) :
    v.hashesAlike w = .ok true ↔ w.hashesAlike v = .ok true := by
  obtain ⟨key, hkey⟩ := hv.exists_hashKey
  obtain ⟨key', hkey'⟩ := hw.exists_hashKey
  rw [hashesAlike_iff hkey hkey', hashesAlike_iff hkey' hkey, eq_comm]

end Operand

section

variable {v w : Operand}

/-- Equal numbers, of which one at least is an element, hash alike in three cases only: when they
are elements of one field, when they are scalars with the same remainder, and when a scalar happens
to share its hash with the tuple of coordinates of an element of an extension. -/
theorem equal_numbers_hash_alike_iff (hv : v.IsNumber) (hw : w.IsNumber)
    (helement : v.isElement = true ∨ w.isElement = true) (hequal : v.equals w = .ok true) :
    v.hashesAlike w = .ok true ↔
      SameField v w ∨ SameRemainder v w ∨ SharesTupleHash v w ∨ SharesTupleHash w v := by
  constructor
  · intro halike
    by_cases hscalar : v.IsScalar
    · by_cases hscalar' : w.IsScalar
      · exact .inr (.inl ((Operand.hashesAlike_scalars_iff hscalar hscalar' helement).mp halike))
      · exact .inr (.inr (.inl ((Operand.hashesAlike_tuple_iff hscalar hw hscalar').mp halike)))
    · by_cases hscalar' : w.IsScalar
      · rw [Operand.hashesAlike_comm hv hw, Operand.hashesAlike_tuple_iff hscalar' hv hscalar]
          at halike
        exact .inr (.inr (.inr halike))
      · exact .inl (Operand.sameField_of_equals hv hw hscalar hscalar' hequal)
  · rintro (hfield | hremainder | htuple | htuple)
    · obtain rfl := Operand.eq_of_equals hfield hequal
      obtain ⟨key, hkey⟩ := hv.exists_hashKey
      exact (Operand.hashesAlike_iff hkey hkey).mpr rfl
    · exact (Operand.hashesAlike_scalars_iff hremainder.1 hremainder.2.1 helement).mpr hremainder
    · exact (Operand.hashesAlike_tuple_iff htuple.1 hw htuple.2.1).mpr htuple
    · rw [Operand.hashesAlike_comm hv hw]
      exact (Operand.hashesAlike_tuple_iff htuple.1 hv htuple.2.1).mpr htuple

/-- A base-field element and the integer that is its representative are equal and hash alike. -/
theorem equal_numbers_hash_alike_of_five :
    (Operand.m31 5).equals (.int 5) = .ok true ∧
      (Operand.m31 5).hashesAlike (.int 5) = .ok true := by
  have hequal : (Operand.m31 5).equals (.int 5) = .ok true := by
    rw [elementClass_m31.equals_int, Except.ok.injEq, decide_eq_true_eq]
    rfl
  have halike := equal_numbers_hash_alike_iff (.scalar (.m31 5)) (.scalar (.int 5)) (.inl rfl)
    hequal
  exact ⟨hequal, halike.mpr (.inr (.inl ⟨.m31 5, .int 5, 5, 5, rfl, rfl, rfl⟩))⟩

/-- The copy of a base-field element in the extension of degree four is equal to it and hashes
otherwise; so does an integer that is not reduced. -/
theorem copy_of_five_hashes_otherwise :
    (Operand.m31 5).equals (.qm31 (.ofM31 5)) = .ok true ∧
      (Operand.m31 5).hashesAlike (.qm31 (.ofM31 5)) = .ok false ∧
      (Operand.m31 (-1)).equals (.int (-1)) = .ok true ∧
      (Operand.m31 (-1)).hashesAlike (.int (-1)) = .ok false :=
  ⟨rfl, rfl, rfl, rfl⟩

end

end TowerFold
