import RouteFabric.Std.ByteReader
import RouteFabric.Core.Status

/-!
# Checksums, digests and the identity generator

The integrity trailers and content digests are modelled bit for bit. A 128-bit digest
is the bit vector whose most significant byte is the first byte of the source's array,
so ordering digests as numbers orders them as byte arrays.

The identity generator keeps its state non-zero by construction, and `generateId`
needs no retry bound of its own: `drawValid_isSome` shows that two draws are enough.
-/

namespace RouteFabric

open ByteReader

/-- A 64-bit machine word. -/
abbrev Word := BitVec 64

/-! ## CRC-32C -/

/-- One bit of the reflected Castagnoli division. -/
def crc32cBit (crc : BitVec 32) : BitVec 32 :=
  if crc &&& 1#32 ≠ 0#32 then (crc >>> 1) ^^^ 0x82F63B78#32 else crc >>> 1

/-- The entry of the CRC table at a byte. -/
def crc32cTable (index : BitVec 32) : BitVec 32 :=
  (List.range 8).foldl (fun crc _ => crc32cBit crc) index

def crc32cUpdate (state : BitVec 32) (value : UInt8) : BitVec 32 :=
  crc32cTable ((state ^^^ value.toBitVec.setWidth 32) &&& 0xFF#32) ^^^ (state >>> 8)

/-- The checksum of a whole image. -/
def crc32c (data : Bytes) : BitVec 32 :=
  data.foldl crc32cUpdate 0xFFFFFFFF#32 ^^^ 0xFFFFFFFF#32

/-! ## FNV-1a -/

def fnvPrime : Word := 0x00000100000001B3#64
def fnvBasis : Word := 0xCBF29CE484222325#64
def fnvBasisAlt : Word := 0x9AE16A3B2F90404F#64

def fnvUpdateByte (state : Word) (value : UInt8) : Word :=
  (state ^^^ value.toBitVec.setWidth 64) * fnvPrime

def fnvUpdate (state : Word) (data : Bytes) : Word := data.foldl fnvUpdateByte state

/-- The content hash of a whole image. -/
def fnv1a64 (data : Bytes) : Word := fnvUpdate fnvBasis data

/-- The splitmix64 finalizer. -/
def mix64 (value : Word) : Word :=
  let added := value + 0x9E3779B97F4A7C15#64
  let first := (added ^^^ (added >>> 30)) * 0xBF58476D1CE4E5B9#64
  let second := (first ^^^ (first >>> 27)) * 0x94D049BB133111EB#64
  second ^^^ (second >>> 31)

/-! ## 128-bit digests -/

/-- A 128-bit content digest, first byte most significant. -/
abbrev Digest128 := BitVec 128

def digestOfPair (high low : Word) : Digest128 := high ++ low

/-- The sixteen bytes of a digest or identity, in array order. -/
def bytes128 (bits : BitVec 128) : Bytes := (leBytes 16 bits.toNat).reverse

@[simp] theorem length_bytes128 (bits : BitVec 128) : (bytes128 bits).length = 16 := by
  simp [bytes128]

/-- The value of sixteen bytes in array order. -/
def value128 (bytes : Bytes) : BitVec 128 := BitVec.ofNat 128 (leValue bytes.reverse)

@[simp] theorem value128_bytes128 (bits : BitVec 128) : value128 (bytes128 bits) = bits := by
  have fits : bits.toNat < 256 ^ 16 := by
    have := bits.isLt
    norm_num at this ⊢
    exact this
  rw [value128, bytes128, List.reverse_reverse, leValue_leBytes_of_lt fits, BitVec.ofNat_toNat,
    BitVec.setWidth_eq]

/-- Sixteen bytes are those of the value they stand for. -/
theorem bytes128_value128 {bytes : Bytes} (length : bytes.length = 16) :
    bytes128 (value128 bytes) = bytes := by
  have fits := leValue_lt bytes.reverse
  rw [List.length_reverse, length] at fits
  have small : leValue bytes.reverse < 2 ^ 128 := by
    norm_num at fits ⊢
    exact fits
  have written := leBytes_leValue bytes.reverse
  rw [List.length_reverse, length] at written
  rw [bytes128, value128, BitVec.toNat_ofNat, Nat.mod_eq_of_lt small, written, List.reverse_reverse]

/-- The bytes of an ASCII text. -/
def asciiBytes (text : String) : Bytes := text.toList.map fun char => UInt8.ofNat char.toNat

/-- Domain-separated digest: a forward and a backward FNV-1a lane. -/
def digest128 (domain : String) (data : Bytes) : Digest128 :=
  let forward := fnvUpdate (fnvUpdateByte (fnvUpdate fnvBasis (asciiBytes domain)) 0) data
  let backward := fnvUpdate (fnvUpdateByte (fnvUpdate fnvBasisAlt (asciiBytes domain)) 0) data.reverse
  let length := BitVec.ofNat 64 data.length
  digestOfPair (mix64 (forward ^^^ mix64 length))
    (mix64 (backward ^^^ (length * 0x9E3779B97F4A7C15#64)))

/-! ## The seeded identity source -/

/-- The xoshiro256** state. The constructor of the source replaces an all-zero state,
and every step keeps it non-zero. -/
structure SeededIdSource where
  s0 : Word
  s1 : Word
  s2 : Word
  s3 : Word
  nonzero : ¬ (s0 = 0#64 ∧ s1 = 0#64 ∧ s2 = 0#64 ∧ s3 = 0#64)

theorem rotate_eq_zero {word : Word} (up : Nat) (bounded : 0 < up ∧ up < 64)
    (zero : (word <<< up) ||| (word >>> (64 - up)) = 0#64) : word = 0#64 := by
  obtain ⟨left, right⟩ := BitVec.or_eq_zero_iff.mp zero
  apply BitVec.eq_of_getLsbD_eq
  intro index inRange
  rw [BitVec.getLsbD_zero]
  by_cases low : index < 64 - up
  · have bit : (word <<< up).getLsbD (index + up) = false := by rw [left, BitVec.getLsbD_zero]
    rw [BitVec.getLsbD_shiftLeft] at bit
    simpa [show index + up < 64 by omega] using bit
  · have bit : (word >>> (64 - up)).getLsbD (index - (64 - up)) = false := by
      rw [right, BitVec.getLsbD_zero]
    rw [BitVec.getLsbD_ushiftRight] at bit
    rwa [show 64 - up + (index - (64 - up)) = index by omega] at bit

/-- A word that equals its own shift has no lowest set bit. -/
theorem shift17_fixed {word : Word} (fixed : word = word <<< 17) : word = 0#64 := by
  have clear : ∀ index, word.getLsbD index = false := by
    intro index
    induction index using Nat.strong_induction_on with
    | _ index ih =>
        rw [fixed, BitVec.getLsbD_shiftLeft]
        by_cases low : index < 17
        · simp [low]
        · simp [ih (index - 17) (by omega)]
  apply BitVec.eq_of_getLsbD_eq
  intro index _
  rw [clear, BitVec.getLsbD_zero]

/-- A multiplier with an inverse loses no word. -/
theorem mul_eq_zero_of_inverse (inverse : Word) {word factor : Word} (inverts : factor * inverse = 1#64)
    (zero : word * factor = 0#64) : word = 0#64 := by
  calc word = word * (factor * inverse) := by rw [inverts, BitVec.mul_one]
    _ = word * factor * inverse := (BitVec.mul_assoc _ _ _).symm
    _ = 0#64 := by rw [zero, BitVec.zero_mul]

/-! ## No step of a hash lane loses a word -/

theorem mul_right_injective_of_inverse (inverse : Word) {left right factor : Word}
    (inverts : factor * inverse = 1#64) (same : left * factor = right * factor) : left = right := by
  calc left = left * factor * inverse := by rw [BitVec.mul_assoc, inverts, BitVec.mul_one]
    _ = right * factor * inverse := by rw [same]
    _ = right := by rw [BitVec.mul_assoc, inverts, BitVec.mul_one]

/-- A word that equals its own shift to the right has no highest set bit. -/
theorem ushiftRight_fixed {word : Word} {amount : Nat} (positive : 0 < amount)
    (fixed : word = word >>> amount) : word = 0#64 := by
  have clear : ∀ distance index, 64 ≤ index + distance → word.getLsbD index = false := by
    intro distance
    induction distance using Nat.strong_induction_on with
    | _ distance ih =>
        intro index near
        by_cases outside : 64 ≤ index
        · exact BitVec.getLsbD_of_ge _ _ outside
        · rw [fixed, BitVec.getLsbD_ushiftRight]
          exact ih (distance - amount) (by omega) (amount + index) (by omega)
  apply BitVec.eq_of_getLsbD_eq
  intro index _
  rw [clear 64 index (by omega), BitVec.getLsbD_zero]

theorem xorShift_injective {left right : Word} {amount : Nat} (positive : 0 < amount)
    (same : left ^^^ (left >>> amount) = right ^^^ (right >>> amount)) : left = right := by
  have shifted : left ^^^ right = (left ^^^ right) >>> amount := by
    rw [BitVec.ushiftRight_xor_distrib]
    calc left ^^^ right
        = (left ^^^ (left >>> amount)) ^^^ (left >>> amount) ^^^ right := by
          rw [BitVec.xor_assoc left, BitVec.xor_self, BitVec.xor_zero]
      _ = (right ^^^ (right >>> amount)) ^^^ (left >>> amount) ^^^ right := by rw [same]
      _ = (left >>> amount) ^^^ (right >>> amount) := by
          rw [BitVec.xor_comm right, BitVec.xor_assoc _ right, BitVec.xor_comm right,
            BitVec.xor_assoc _ _ right, BitVec.xor_assoc _ right right, BitVec.xor_self,
            BitVec.xor_zero, BitVec.xor_comm]
  exact BitVec.xor_eq_zero_iff.mp (ushiftRight_fixed positive shifted)

theorem mix64_injective {left right : Word} (same : mix64 left = mix64 right) : left = right := by
  have second := xorShift_injective (by omega) same
  have first := xorShift_injective (by omega)
    (mul_right_injective_of_inverse 0x319642B2D24D8EC3#64 (by decide) second)
  have added := xorShift_injective (by omega)
    (mul_right_injective_of_inverse 0x96DE1B173F119089#64 (by decide) first)
  exact (BitVec.add_left_inj _).mp added

theorem fnvUpdate_append (state : Word) (first second : Bytes) :
    fnvUpdate state (first ++ second) = fnvUpdate (fnvUpdate state first) second :=
  List.foldl_append

theorem digestOfPair_injective {high low high' low' : Word}
    (same : digestOfPair high low = digestOfPair high' low') : high = high' ∧ low = low' := by
  have upper := congrArg (BitVec.extractLsb' 64 64) same
  have lower := congrArg (BitVec.extractLsb' 0 64) same
  simp only [digestOfPair, BitVec.extractLsb'_append_eq_left, BitVec.extractLsb'_append_eq_right]
    at upper lower
  exact ⟨upper, lower⟩

namespace SeededIdSource

/-- The value returned by one step: it depends on the second word only. -/
def output (source : SeededIdSource) : Word :=
  (((source.s1 * 5#64) <<< 7) ||| ((source.s1 * 5#64) >>> 57)) * 9#64

theorem output_eq_zero {source : SeededIdSource} (zero : source.output = 0#64) :
    source.s1 = 0#64 := by
  have rotated := mul_eq_zero_of_inverse 0x8E38E38E38E38E39#64 (by decide) zero
  have scaled := rotate_eq_zero 7 (by omega) rotated
  exact mul_eq_zero_of_inverse 0xCCCCCCCCCCCCCCCD#64 (by decide) scaled

/-- The state after one step. -/
def advance (source : SeededIdSource) : SeededIdSource where
  s0 := source.s0 ^^^ (source.s3 ^^^ source.s1)
  s1 := source.s1 ^^^ (source.s2 ^^^ source.s0)
  s2 := (source.s2 ^^^ source.s0) ^^^ (source.s1 <<< 17)
  s3 := ((source.s3 ^^^ source.s1) <<< 45) ||| ((source.s3 ^^^ source.s1) >>> 19)
  nonzero := by
    -- The step is invertible: a zero successor unwinds to a zero state word by word.
    rintro ⟨first, second, third, fourth⟩
    have word3 : source.s3 ^^^ source.s1 = 0#64 := rotate_eq_zero 45 (by omega) fourth
    rw [word3, BitVec.xor_zero] at first
    rw [first, BitVec.xor_zero] at second third
    have word2 : source.s1 = source.s2 := BitVec.xor_eq_zero_iff.mp second
    rw [← word2] at third
    have word1 : source.s1 = 0#64 := shift17_fixed (BitVec.xor_eq_zero_iff.mp third)
    have word4 : source.s3 = source.s1 := BitVec.xor_eq_zero_iff.mp word3
    exact source.nonzero ⟨first, word1, word2 ▸ word1, word4.trans word1⟩

/-- The next 128 bits: two steps, high word first. -/
def nextDigest (source : SeededIdSource) : Digest128 × SeededIdSource :=
  (digestOfPair source.output source.advance.output, source.advance.advance)

theorem digestOfPair_eq_zero {high low : Word} (zero : digestOfPair high low = 0#128) :
    high = 0#64 ∧ low = 0#64 := by
  have bits : ∀ index, (high ++ low).getLsbD index = false := by
    intro index
    rw [show high ++ low = 0#128 from zero, BitVec.getLsbD_zero]
  constructor
  · apply BitVec.eq_of_getLsbD_eq
    intro index _
    have bit := bits (index + 64)
    rw [BitVec.getLsbD_append] at bit
    simpa using bit
  · apply BitVec.eq_of_getLsbD_eq
    intro index inRange
    have bit := bits index
    rw [BitVec.getLsbD_append] at bit
    simpa [inRange] using bit

/-- Two zero digests in a row would need the all-zero state. -/
theorem nextDigest_zero {source : SeededIdSource} (zero : source.nextDigest.1 = 0#128) :
    source.nextDigest.2.nextDigest.1 ≠ 0#128 := by
  intro again
  obtain ⟨high, low⟩ := digestOfPair_eq_zero zero
  obtain ⟨high', low'⟩ := digestOfPair_eq_zero again
  have a1 : source.s1 = 0#64 := output_eq_zero high
  have b1 : source.s1 ^^^ (source.s2 ^^^ source.s0) = 0#64 := output_eq_zero low
  have c1 := output_eq_zero high'
  have d1 := output_eq_zero low'
  simp only [nextDigest, advance, a1, BitVec.zero_xor, BitVec.xor_zero] at b1 c1 d1
  have same : source.s2 = source.s0 := BitVec.xor_eq_zero_iff.mp b1
  simp only [same, BitVec.xor_self, BitVec.zero_xor, BitVec.zero_shiftLeft, BitVec.xor_zero] at c1 d1
  simp only [c1, BitVec.zero_xor] at d1
  have s3Zero : source.s3 = 0#64 := rotate_eq_zero 45 (by omega) d1
  have s0Zero : source.s0 = 0#64 := (BitVec.xor_eq_zero_iff.mp c1).trans s3Zero
  exact source.nonzero ⟨s0Zero, a1, same.trans s0Zero, s3Zero⟩

/-- The retry loop of the generator, cut off after `draws` draws. -/
def drawValid : Nat → SeededIdSource → Option (Digest128 × SeededIdSource)
  | 0, _ => none
  | draws + 1, source =>
      if source.nextDigest.1 ≠ 0#128 then some source.nextDigest
      else drawValid draws source.nextDigest.2

/-- Two draws always end the retry loop. -/
theorem drawValid_isSome (source : SeededIdSource) : (drawValid 2 source).isSome := by
  unfold drawValid
  split
  · rfl
  · rename_i zero
    simp [drawValid, nextDigest_zero (not_not.mp zero)]

/-- Every identity the retry loop returns is non-zero. -/
theorem drawValid_ne_zero {draws : Nat} {source next : SeededIdSource} {digest : Digest128}
    (drawn : drawValid draws source = some (digest, next)) : digest ≠ 0#128 := by
  induction draws generalizing source with
  | zero => simp [drawValid] at drawn
  | succ draws ih =>
      unfold drawValid at drawn
      split at drawn
      · rename_i valid
        rw [Option.some.inj drawn] at valid
        exact valid
      · exact ih drawn

/-- The source seeded from a 64-bit value. -/
def ofSeed (seed : Word) : SeededIdSource :=
  if zero : mix64 seed = 0#64 ∧ mix64 (mix64 seed) = 0#64 ∧ mix64 (mix64 (mix64 seed)) = 0#64 ∧
      mix64 (mix64 (mix64 (mix64 seed))) = 0#64 then
    ⟨0x9E3779B97F4A7C15#64, 0#64, 0#64, 0#64, by decide⟩
  else
    ⟨mix64 seed, mix64 (mix64 seed), mix64 (mix64 (mix64 seed)),
      mix64 (mix64 (mix64 (mix64 seed))), zero⟩

end SeededIdSource

end RouteFabric
