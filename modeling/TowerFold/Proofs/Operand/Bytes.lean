import TowerFold.Operand.Bytes
import TowerFold.Proofs.Field.Bytes
import TowerFold.Proofs.Operand.Power
import TowerFold.Proofs.Operand.Slice

/-!
# Elements written to bytes and read from them

Elements are read from bytes of any length. Among these bytes those that an element is written to
are told by their length and by the numbers in their words; all others are read as an element that
is written in another way. Bytes that are missing count as zeros.
-/

namespace TowerFold

/-- Bytes are read byte by byte. -/
theorem Operand.mapM_toByte (data : List UInt8) :
    (data.map fun b => Operand.int b.toNat).mapM toByte = .ok data := by
  rw [mapM_eq_ok_iff, List.map_map]
  refine List.map_congr_left fun b _ => ?_
  have hb : (b.toNat : ℤ) < 256 := by exact_mod_cast b.toNat_lt
  simp [toByte, toIndex?, toInt?, hb]

/-- From bytes a base-field element can always be read. -/
theorem M31.readBytes_bytes (data : List UInt8) :
    readBytes (.bytes data) = .ok (ofBytes data) := by
  simp only [readBytes, Operand.byteItems, ok_bind, Operand.mapM_toByte, pure_eq_ok]

/-- From bytes an element of degree four can always be read. -/
theorem QM31.readBytes_bytes (data : List UInt8) :
    readBytes (.bytes data) = .ok (ofBytes data) := by
  have hsixteen : ofBytes (data.take 16) = ofBytes data := by
    simp [ofBytes, word_take_sixteen]
  have hindexed : (Operand.bytes data).elements?.isNone = false := rfl
  simp only [readBytes, hindexed, Bool.false_eq_true, if_false, Operand.byteItems, ok_bind,
    ← List.map_take, Operand.mapM_toByte, pure_eq_ok, hsixteen]

/-- An element of the base field has a byte form of four bytes and one of degree four has one of
sixteen bytes, from which it is read back. Read bytes have themselves as byte form exactly if they
are of this length and every four of them write, least significant first, a number below the
modulus. -/
theorem byte_forms_are_exact :
    (∀ x : M31, (do M31.readBytes (.bytes (← (Operand.m31 x).toBytes))) = .ok x ∧
        ∃ data, (Operand.m31 x).toBytes = .ok data ∧ data.length = 4) ∧
      (∀ x : QM31, (do QM31.readBytes (.bytes (← (Operand.qm31 x).toBytes))) = .ok x ∧
        ∃ data, (Operand.qm31 x).toBytes = .ok data ∧ data.length = 16) ∧
      (∀ data, (do (Operand.m31 (← M31.readBytes (.bytes data))).toBytes) = .ok data ↔
        data.length = 4 ∧ Nat.ofDigits 256 (data.map UInt8.toNat) < modulus) ∧
      ∀ data, (do (Operand.qm31 (← QM31.readBytes (.bytes data))).toBytes) = .ok data ↔
        data.length = 16 ∧ ∀ i < 4,
          Nat.ofDigits 256 ((data.extract (4 * i) (4 * i + 4)).map UInt8.toNat) < modulus := by
  refine ⟨fun x => ⟨?_, _, rfl, x.length_toBytes⟩, fun x => ⟨?_, _, rfl, QM31.length_toBytes x⟩,
    fun data => ?_, fun data => ?_⟩
  · rw [Operand.toBytes, ok_bind, M31.readBytes_bytes, M31.ofBytes_toBytes]
  · rw [Operand.toBytes, ok_bind, QM31.readBytes_bytes, QM31.ofBytes_toBytes]
  · rw [M31.readBytes_bytes, ok_bind, Operand.toBytes, Except.ok.injEq, M31.toBytes_ofBytes_iff,
      ofLittleEndian_eq_ofDigits]
  · have hword (i : ℕ) : Nat.ofDigits 256 ((data.extract (4 * i) (4 * i + 4)).map UInt8.toNat) =
        ofLittleEndian (QM31.ofBytes.word data i) := by
      rw [ofLittleEndian_eq_ofDigits, QM31.ofBytes.word, List.extract_eq_take_drop,
        Nat.add_sub_cancel_left]
    simp only [hword]
    rw [QM31.readBytes_bytes, ok_bind, Operand.toBytes, Except.ok.injEq, QM31.toBytes_ofBytes_iff]

/-- What is read from bytes that follow others counts for a power of 256 with as many of these as
exponent, so zeros at the end do not count. An element of degree four is read from any bytes, as
from those that are cut or filled up with zeros to sixteen, and its coordinates are what is read
from the slices of four bytes each. -/
theorem bytes_of_any_length_are_read :
    (∀ data rest : List UInt8, ∃ z,
        (do M31.readBytes (← (Operand.bytes data).add (.bytes rest))) = .ok z ∧
        (do let x ← M31.readBytes (.bytes data)
            let y ← M31.readBytes (.bytes rest)
            let place ← (Operand.m31 (← M31.ofOperand (.int 256))).pow (.int data.length)
            (Operand.m31 x).add (← (Operand.m31 y).mul place)) = .ok (.m31 z)) ∧
      (∀ (data : List UInt8) (n : ℕ), ∃ x, M31.readBytes (.bytes data) = .ok x ∧
        M31.readBytes (.bytes (data ++ List.replicate n 0)) = .ok x) ∧
      ∀ data : List UInt8, ∃ x, QM31.readBytes (.bytes data) = .ok x ∧
        QM31.readBytes (.bytes ((data.rightpad 16 0).take 16)) = .ok x ∧
        ((List.range 4).mapM fun i =>
          M31.readBytes ((Operand.bytes data).slice (4 * i) (4 * i + 4))) = .ok x.coords := by
  refine ⟨fun data rest => ⟨M31.ofBytes (data ++ rest), ?_, ?_⟩,
    fun data n => ⟨M31.ofBytes data, ?_, ?_⟩, fun data => ⟨QM31.ofBytes data, ?_, ?_, ?_⟩⟩
  · have hjoined : (Operand.bytes data).add (.bytes rest) = .ok (.bytes (data ++ rest)) := rfl
    rw [hjoined, ok_bind, M31.readBytes_bytes]
  · have hbase : M31.ofOperand (.int 256) = .ok (.ofNat 256) := rfl
    rw [M31.readBytes_bytes, ok_bind, M31.readBytes_bytes, ok_bind, hbase, ok_bind,
      Operand.m31_pow, ok_bind, Operand.m31_mul _ rfl, ok_bind, Operand.m31_add _ rfl,
      M31.ofBytes_append]
  · exact M31.readBytes_bytes data
  · rw [M31.readBytes_bytes, M31.ofBytes_append_zeros]
  · exact QM31.readBytes_bytes data
  · rw [QM31.readBytes_bytes, QM31.ofBytes_take_rightpad]
  · rw [mapM_eq_ok_iff, QM31.coords_ofBytes, List.map_map]
    refine List.map_congr_left fun i _ => ?_
    rw [Operand.slice, M31.readBytes_bytes, List.extract_eq_take_drop, Nat.add_sub_cancel_left]
    rfl

end TowerFold
