import Mathlib.Data.Nat.Digits.Lemmas
import TowerFold.Field.Bytes
import TowerFold.Proofs.Field.Residue

/-!
# Byte forms are exact

Bytes, least significant first, are the base-256 digits of a number, so as many bytes as a number
is written in tell it and are told by it. A byte form of an element is what is read back as that
element, and the reduced words are the only ones that are byte forms.
-/

namespace TowerFold

/-- The number that bytes write is the one with these base-256 digits. -/
theorem ofLittleEndian_eq_ofDigits (data : List UInt8) :
    ofLittleEndian data = Nat.ofDigits 256 (data.map UInt8.toNat) := by
  induction data with
  | nil => rfl
  | cons b data ih => rw [ofLittleEndian, ih, List.map_cons, Nat.ofDigits_cons]

/-- The bytes that follow others count for as many places more. -/
theorem ofLittleEndian_append (data rest : List UInt8) :
    ofLittleEndian (data ++ rest) =
      ofLittleEndian data + 256 ^ data.length * ofLittleEndian rest := by
  simp only [ofLittleEndian_eq_ofDigits, List.map_append, Nat.ofDigits_append, List.length_map]

/-- Zero bytes write zero. -/
theorem ofLittleEndian_replicate_zero (n : ℕ) :
    ofLittleEndian (List.replicate n 0) = 0 := by
  induction n with
  | zero => rfl
  | succ n ih => rw [List.replicate_succ, ofLittleEndian, ih]; rfl

/-- A number that fits so many bytes is read back from them. -/
theorem ofLittleEndian_littleEndian {count n : ℕ} (hn : n < 256 ^ count) :
    ofLittleEndian (littleEndian count n) = n := by
  induction count generalizing n with
  | zero =>
    obtain rfl : n = 0 := by simpa using hn
    rfl
  | succ count ih =>
    rw [pow_succ] at hn
    have hrest : n / 256 < 256 ^ count := by omega
    have hbyte : (UInt8.ofNat (n % 256)).toNat = n % 256 := by
      rw [UInt8.toNat_ofNat']
      omega
    rw [littleEndian, ofLittleEndian, ih hrest, hbyte, Nat.mod_add_div]

/-- The number that bytes write is written in these bytes. -/
theorem littleEndian_ofLittleEndian (data : List UInt8) :
    littleEndian data.length (ofLittleEndian data) = data := by
  induction data with
  | nil => rfl
  | cons b data ih =>
    have hb := b.toNat_lt
    have hlow : (b.toNat + 256 * ofLittleEndian data) % 256 = b.toNat := by omega
    have hhigh : (b.toNat + 256 * ofLittleEndian data) / 256 = ofLittleEndian data := by omega
    rw [List.length_cons, littleEndian, ofLittleEndian, hlow, hhigh, ih, UInt8.ofNat_toNat]

namespace M31

/-- A base-field element has a byte form of four bytes. -/
@[simp] theorem length_toBytes (x : M31) : x.toBytes.length = 4 := length_littleEndian 4 x.val

/-- A base-field element is read back from its byte form. -/
theorem ofBytes_toBytes (x : M31) : ofBytes x.toBytes = x := by
  have hx : x.val < 256 ^ 4 := x.val_lt.trans (by decide)
  rw [ofBytes, toBytes, ofLittleEndian_littleEndian hx, ofNat_val]

/-- Bytes are a byte form exactly if they are four and write a reduced number. -/
theorem toBytes_ofBytes_iff (data : List UInt8) :
    (ofBytes data).toBytes = data ↔ data.length = 4 ∧ ofLittleEndian data < modulus := by
  constructor
  · intro hdata
    have hlength : data.length = 4 := by rw [← hdata, length_toBytes]
    have hvalue : ofLittleEndian data = (ofBytes data).val := by
      have hfits : (ofBytes data).val < 256 ^ 4 := (ofBytes data).val_lt.trans (by decide)
      rw [← ofLittleEndian_littleEndian hfits]
      exact congrArg ofLittleEndian hdata.symm
    exact ⟨hlength, hvalue ▸ (ofBytes data).val_lt⟩
  · rintro ⟨hlength, hvalue⟩
    rw [toBytes, ofBytes, val_ofNat, Nat.mod_eq_of_lt hvalue, ← hlength,
      littleEndian_ofLittleEndian]

/-- What is read from bytes that follow others counts for as many places more. -/
theorem ofBytes_append (data rest : List UInt8) :
    ofBytes (data ++ rest) = ofBytes data + ofBytes rest * ofNat 256 ^ data.length := by
  simp only [ofBytes, ofLittleEndian_append, ofNat_eq_cast]
  push_cast
  ring

/-- Zero bytes at the end do not count. -/
theorem ofBytes_append_zeros (data : List UInt8) (n : ℕ) :
    ofBytes (data ++ List.replicate n 0) = ofBytes data := by
  rw [ofBytes, ofLittleEndian_append, ofLittleEndian_replicate_zero, mul_zero, add_zero, ofBytes]

end M31

namespace QM31

open ofBytes (word)

variable {data : List UInt8} {x : QM31}

/-- The coordinates of the element that is read are those that are read from the words. -/
theorem coords_ofBytes (data : List UInt8) :
    (ofBytes data).coords = (List.range 4).map fun i => M31.ofBytes (word data i) := rfl

/-- An element of degree four has a byte form of sixteen bytes. -/
@[simp] theorem length_toBytes (x : QM31) : (toBytes x).length = 16 := by
  simp [toBytes, coords]

/-- The words of a byte form are the byte forms of the coordinates. -/
theorem words_toBytes (x : QM31) :
    (List.range 4).map (word (toBytes x)) = x.coords.map M31.toBytes := by
  -- A byte form is exhausted by four bytes.
  have htake (c : M31) : c.toBytes.take 4 = c.toBytes := List.take_of_length_le (by simp)
  have hdrop (c : M31) {n : ℕ} (hn : 4 ≤ n) : c.toBytes.drop n = [] :=
    List.drop_eq_nil_of_le (by simpa using hn)
  simp [toBytes, coords, word, List.range_succ_eq_map, List.drop_append, htake, hdrop]

/-- An element of degree four is read back from its byte form. -/
theorem ofBytes_toBytes (x : QM31) : ofBytes (toBytes x) = x := by
  have hcoords : (ofBytes (toBytes x)).coords = x.coords := by
    rw [coords_ofBytes, ← Function.comp_def M31.ofBytes, ← List.map_map, words_toBytes,
      List.map_map]
    simp only [Function.comp_def, M31.ofBytes_toBytes, List.map_id']
  simp only [coords, List.cons.injEq] at hcoords
  obtain ⟨ha, hb, hc, hd, _⟩ := hcoords
  exact Quadratic.ext (Quadratic.ext ha hb) (Quadratic.ext hc hd)

/-- Sixteen bytes are the four words in them. -/
theorem flatMap_word (hdata : data.length = 16) : (List.range 4).flatMap (word data) = data := by
  have hlast : (data.drop 12).take 4 = data.drop 12 :=
    List.take_of_length_le (by rw [List.length_drop, hdata])
  have hstep (n : ℕ) : (data.drop n).take 4 ++ data.drop (n + 4) = data.drop n := by
    rw [← List.drop_drop, List.take_append_drop]
  simp only [List.range_succ_eq_map, List.range_zero, List.map_cons, List.map_nil,
    List.flatMap_cons, List.flatMap_nil, word, hlast, List.append_nil]
  rw [hstep, hstep]
  exact hstep 0

/-- Bytes are a byte form exactly if they are sixteen and each word writes a reduced number. -/
theorem toBytes_ofBytes_iff (data : List UInt8) :
    toBytes (ofBytes data) = data ↔
      data.length = 16 ∧ ∀ i < 4, ofLittleEndian (word data i) < modulus := by
  have hwords : toBytes (ofBytes data) =
      (List.range 4).flatMap fun i => (M31.ofBytes (word data i)).toBytes := rfl
  constructor
  · intro hdata
    have hlength : data.length = 16 := by rw [← hdata, length_toBytes]
    refine ⟨hlength, fun i hi => ?_⟩
    have hword : (M31.ofBytes (word data i)).toBytes = word data i := by
      have hall := words_toBytes (ofBytes data)
      rw [hdata, coords_ofBytes, List.map_map, List.map_inj_left] at hall
      exact (hall i (List.mem_range.mpr hi)).symm
    exact ((M31.toBytes_ofBytes_iff _).mp hword).2
  · rintro ⟨hlength, hvalues⟩
    rw [hwords]
    refine Eq.trans (List.flatMap_congr fun i hi => ?_) (flatMap_word hlength)
    have hi' := List.mem_range.mp hi
    have hword : (word data i).length = 4 := by
      rw [word, List.length_take, List.length_drop, hlength]
      omega
    exact (M31.toBytes_ofBytes_iff _).mpr ⟨hword, hvalues i hi'⟩

/-- What follows the sixteenth byte is in none of the four words. -/
theorem word_take_sixteen (data : List UInt8) {i : ℕ} (hi : i < 4) :
    word (data.take 16) i = word data i := by
  rw [word, word, List.drop_take, List.take_take, min_eq_left (by omega)]

/-- Zero bytes at the end of bytes are zero bytes at the end of a word. -/
theorem exists_word_append_zeros (data : List UInt8) (n i : ℕ) :
    ∃ m, word (data ++ List.replicate n 0) i = word data i ++ List.replicate m 0 := by
  simp only [word, List.drop_append, List.take_append, List.drop_replicate, List.take_replicate]
  exact ⟨_, rfl⟩

/-- Only sixteen bytes are read, and zeros stand for those that are missing. -/
theorem ofBytes_take_rightpad (data : List UInt8) :
    ofBytes ((data.rightpad 16 0).take 16) = ofBytes data := by
  have hword {i : ℕ} (hi : i < 4) :
      M31.ofBytes (word ((data.rightpad 16 0).take 16) i) = M31.ofBytes (word data i) := by
    obtain ⟨m, hm⟩ := exists_word_append_zeros data (16 - data.length) i
    rw [word_take_sixteen _ hi, List.rightpad, hm, M31.ofBytes_append_zeros]
  rw [ofBytes, hword (by decide), hword (by decide), hword (by decide), hword (by decide), ofBytes]

end QM31

end TowerFold
