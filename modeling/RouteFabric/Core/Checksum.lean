import RouteFabric.Std.CyclicCode
import RouteFabric.Core.Hash

/-!
# What the checksum detects

The table-driven update of CRC-32C is one byte of the cyclic division by the Castagnoli
polynomial. Every change of an image that is confined to four consecutive bytes therefore
changes its checksum, wherever the four bytes stand and however long the image is.
-/

namespace RouteFabric

open ByteReader CyclicCode

/-- The reflected Castagnoli polynomial. -/
def castagnoli : BitVec 32 := 0x82F63B78#32

theorem castagnoli_msb : castagnoli.msb = true := by decide

theorem crc32cBit_eq (crc : BitVec 32) : crc32cBit crc = divide castagnoli crc := by
  have low : crc &&& 1#32 ≠ 0#32 ↔ crc.getLsbD 0 = true := by
    rw [BitVec.and_one_eq_setWidth_ofBool_getLsbD]
    cases crc.getLsbD 0 <;> decide
  simp only [crc32cBit, divide, low, castagnoli]

theorem crc32cTable_eq (index : BitVec 32) : crc32cTable index = steps castagnoli 8 index := by
  simp only [crc32cTable, show List.range 8 = [0, 1, 2, 3, 4, 5, 6, 7] by rfl, List.foldl_cons,
    List.foldl_nil, crc32cBit_eq, steps_succ, steps_zero]

theorem getLsbD_lowByte (index : Nat) : (0xFF#32).getLsbD index = decide (index < 8) := by
  rw [BitVec.getLsbD_ofNat, show (255 : Nat) = 2 ^ 8 - 1 by rfl, Nat.testBit_two_pow_sub_one]
  by_cases low : index < 8
  · simp [low, show index < 32 by omega]
  · simp [low]

/-- The table handles the low byte, and the rest of the register is shifted down. -/
theorem crc32cUpdate_eq (state : BitVec 32) (value : UInt8) :
    crc32cUpdate state value = absorbByte castagnoli state value := by
  have high : steps castagnoli 8 ((state >>> 8) <<< 8) = state >>> 8 := by
    apply steps_shiftLeft
    intro index above
    rw [BitVec.getLsbD_ushiftRight]
    exact BitVec.getLsbD_of_ge _ _ (by omega)
  have split : state ^^^ value.toBitVec.setWidth 32 =
      ((state ^^^ value.toBitVec.setWidth 32) &&& 0xFF#32) ^^^ ((state >>> 8) <<< 8) := by
    apply BitVec.eq_of_getLsbD_eq
    intro index inside
    rw [BitVec.getLsbD_xor, BitVec.getLsbD_xor, BitVec.getLsbD_and, BitVec.getLsbD_xor,
      BitVec.getLsbD_setWidth, BitVec.getLsbD_shiftLeft, BitVec.getLsbD_ushiftRight, getLsbD_lowByte]
    by_cases low : index < 8
    · simp [low]
    · have outside : value.toBitVec.getLsbD index = false := BitVec.getLsbD_of_ge _ _ (by omega)
      simp [low, inside, outside, show 8 + (index - 8) = index by omega]
  rw [crc32cUpdate, absorbByte, crc32cTable_eq, ← high, ← steps_xor, ← split]

theorem crc32c_eq (data : Bytes) :
    crc32c data = absorb castagnoli 0xFFFFFFFF#32 data ^^^ 0xFFFFFFFF#32 := by
  have update : crc32cUpdate = absorbByte castagnoli := by
    ext1 state
    ext1 value
    exact crc32cUpdate_eq state value
  rw [crc32c, update, absorb]

/-- Images that differ only inside four consecutive bytes have different checksums. -/
theorem crc32c_window (front back : Bytes) {window window' : Bytes}
    (length : window'.length = window.length) (short : window.length ≤ 4)
    (same : crc32c (front ++ window ++ back) = crc32c (front ++ window' ++ back)) :
    window = window' := by
  rw [crc32c_eq, crc32c_eq] at same
  have registers := congrArg (fun bits => bits ^^^ 0xFFFFFFFF#32) same
  simp only [BitVec.xor_assoc, BitVec.xor_self, BitVec.xor_zero] at registers
  exact absorb_window castagnoli_msb front back length (by omega) registers

/-- A change of up to four consecutive bytes changes the checksum. -/
theorem crc32c_ne_of_confined {first count : Nat} {image changed : Bytes}
    (change : ConfinedChange first count image changed) (short : count ≤ 4) :
    crc32c changed ≠ crc32c image := by
  obtain ⟨front, window, window', back, rfl, rfl, length, bound, differ⟩ := change.split
  intro same
  exact differ (crc32c_window front back length (by omega) same.symm)

end RouteFabric
