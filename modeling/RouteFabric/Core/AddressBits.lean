import RouteFabric.Core.RouteKey

/-!
# The bits of addresses

An address is held in sixteen bytes, and prefixes speak of its bits from the most significant
one on. The lemmas here read the masking of host bits and the comparison of bytes as statements
about single bits.
-/

namespace RouteFabric

open ByteReader

/-! ## Host bits -/

/-- Masking keeps the bits of the prefix and clears the others. -/
theorem getMsbD_maskHostBits (address : BitVec 128) (prefixLength : Nat) {index : Nat}
    (inRange : index < 128) :
    (maskHostBits address prefixLength).getMsbD index =
      (address.getMsbD index && decide (index < prefixLength)) := by
  have fold : ∀ (bits : List Nat) (start : BitVec 128), (∀ bit ∈ bits, bit < 128) →
      (bits.foldl (fun masked bit => masked &&& ~~~(1#128 <<< (127 - bit))) start).getMsbD index =
        (start.getMsbD index && decide (index ∉ bits)) := by
    intro bits
    induction bits with
    | nil => simp
    | cons bit rest ih =>
        intro start small
        have below : bit < 128 := small bit List.mem_cons_self
        have same : 128 - (127 - bit) - 1 = bit := by omega
        rw [List.foldl_cons, ih _ fun other member => small other (List.mem_cons_of_mem _ member),
          ← BitVec.twoPow_eq, BitVec.getMsbD_and, BitVec.getMsbD_not, BitVec.getMsbD_twoPow, same]
        simp [inRange, show 127 - bit < 128 by omega, List.mem_cons, not_or, Bool.and_assoc]
  rw [maskHostBits, fold]
  · congr 2
    rw [List.mem_range']
    simp only [eq_iff_iff]
    constructor
    · intro outside
      by_contra beyond
      exact outside ⟨index - prefixLength, by omega, by omega⟩
    · rintro below ⟨offset, -, rfl⟩
      omega
  · intro bit member
    obtain ⟨offset, short, rfl⟩ := List.mem_range'.mp member
    omega

theorem maskHostBits_idem (address : BitVec 128) (prefixLength : Nat) :
    maskHostBits (maskHostBits address prefixLength) prefixLength =
      maskHostBits address prefixLength := by
  apply BitVec.eq_of_getMsbD_eq
  intro index inRange
  rw [getMsbD_maskHostBits _ _ inRange, getMsbD_maskHostBits _ _ inRange, Bool.and_assoc,
    Bool.and_self]

/-- An address without host bits has no bit beyond its prefix. -/
theorem getMsbD_of_masked {address : BitVec 128} {prefixLength index : Nat}
    (masked : maskHostBits address prefixLength = address) (beyond : prefixLength ≤ index) :
    address.getMsbD index = false := by
  by_cases inRange : index < 128
  · rw [← masked, getMsbD_maskHostBits _ _ inRange, decide_eq_false (by omega), Bool.and_false]
  · exact BitVec.getMsbD_of_ge _ _ (by omega)

/-! ## Bytes and bits -/

theorem getElem?_leBytes {count index : Nat} (value : Nat) (inRange : index < count) :
    (leBytes count value)[index]? = some (UInt8.ofNat (value / 256 ^ index)) := by
  induction count generalizing value index with
  | zero => omega
  | succ count ih =>
      cases index with
      | zero => simp [leBytes]
      | succ index =>
          rw [leBytes, List.getElem?_cons_succ, ih _ (by omega), Nat.div_div_eq_div_mul, pow_succ,
            Nat.mul_comm]

theorem getElem?_bytes128 (address : BitVec 128) {index : Nat} (inRange : index < 16) :
    (bytes128 address)[index]? = some (UInt8.ofNat (address.toNat / 256 ^ (15 - index))) := by
  rw [bytes128, List.getElem?_reverse (by simpa using inRange), length_leBytes,
    getElem?_leBytes _ (by omega)]

/-- The bits of the bytes of an address, most significant first. -/
theorem testBit_bytes128 (address : BitVec 128) {index bit : Nat} (inRange : index < 16)
    (inByte : bit < 8) :
    ((bytes128 address).getD index 0).toNat.testBit (7 - bit) =
      address.getMsbD (8 * index + bit) := by
  have power : 256 ^ (15 - index) = 2 ^ (8 * (15 - index)) := by
    rw [pow_mul]
    rfl
  rw [List.getD_eq_getElem?_getD, getElem?_bytes128 address inRange, Option.getD_some,
    UInt8.toNat_ofNat', Nat.testBit_mod_two_pow, power, Nat.testBit_div_two_pow,
    BitVec.testBit_toNat, BitVec.getMsbD_eq_getLsbD]
  rw [show 128 - 1 - (8 * index + bit) = 7 - bit + 8 * (15 - index) by omega,
    decide_eq_true (by omega), decide_eq_true (by omega)]

/-- Bytes are equal when their bits are. -/
theorem byte_eq_iff {left right : UInt8} :
    left = right ↔ ∀ bit < 8, left.toNat.testBit (7 - bit) = right.toNat.testBit (7 - bit) := by
  constructor
  · rintro rfl bit _
    rfl
  · intro same
    apply UInt8.toNat_inj.mp
    apply Nat.eq_of_testBit_eq
    intro bit
    by_cases inByte : bit < 8
    · have := same (7 - bit) (by omega)
      rwa [show 7 - (7 - bit) = bit by omega] at this
    · have beyond : ∀ byte : UInt8, byte.toNat.testBit bit = false := by
        intro byte
        exact Nat.testBit_lt_two_pow (byte.toNat_lt.trans_le (Nat.pow_le_pow_right (by omega) (by omega)))
      rw [beyond, beyond]

/-- The mask of a remainder keeps that many bits from the most significant one on. -/
theorem masked_eq_iff {left right : UInt8} {remainder : Nat} (partly : remainder < 8)
    (some : remainder ≠ 0) :
    left &&& (0xFF <<< UInt8.ofNat (8 - remainder)) = right &&& (0xFF <<< UInt8.ofNat (8 - remainder)) ↔
      ∀ bit < remainder, left.toNat.testBit (7 - bit) = right.toNat.testBit (7 - bit) := by
  have mask : ∀ remainder < 8, remainder ≠ 0 → ∀ bit < 8,
      ((0xFF : UInt8) <<< UInt8.ofNat (8 - remainder)).toNat.testBit (7 - bit) =
        decide (bit < remainder) := by decide
  rw [byte_eq_iff]
  simp only [UInt8.toNat_and, Nat.testBit_and]
  constructor
  · intro same bit inside
    have := same bit (by omega)
    rwa [mask remainder partly some bit (by omega), decide_eq_true inside, Bool.and_true,
      Bool.and_true] at this
  · intro same bit inByte
    rw [mask remainder partly some bit inByte]
    by_cases inside : bit < remainder
    · rw [same bit inside]
    · rw [decide_eq_false inside, Bool.and_false, Bool.and_false]

/-! ## Canonical prefixes -/

namespace Destination

theorem eq_of_fields {left right : Destination} (kind : left.kind = right.kind)
    (valid : left.valid = right.valid) (address : left.address = right.address)
    (prefixLength : left.prefixLength = right.prefixLength) (token : left.token = right.token) :
    left = right := by
  cases left
  cases right
  simp only at kind valid address prefixLength token
  subst kind valid address prefixLength token
  rfl

theorem kind_of_isPrefix {destination : Destination} (isPrefix : destination.isPrefix = true) :
    destination.valid = true ∧ destination.kind.isPrefixKind = true := by
  simpa [Destination.isPrefix] using isPrefix

/-- The fields of a valid prefix. -/
theorem prefix_fields {destination : Destination} (isPrefix : destination.isPrefix = true) :
    destination.prefixLength.toNat ≤ 8 * destination.kind.addressSize ∧ destination.token = [] ∧
      maskHostBits destination.address destination.prefixLength.toNat = destination.address := by
  obtain ⟨valid, kind⟩ := kind_of_isPrefix isPrefix
  have fields := destination.wellFormed valid
  rw [DestinationFields, if_pos kind] at fields
  refine ⟨?_, fields.2.1, fields.2.2.2⟩
  have bound := fields.1
  revert kind bound
  cases destination.kind <;> simp [DestinationKind.isPrefixKind, DestinationKind.maxPrefix,
    DestinationKind.addressSize]

end Destination

end RouteFabric
