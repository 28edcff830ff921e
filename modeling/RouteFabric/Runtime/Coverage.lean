import RouteFabric.Core.AddressBits
import RouteFabric.Runtime.State

/-!
# Scope coverage

A scope covers a candidate when the addresses of the candidate are among its own. The comparison
of whole bytes and of a masked remainder is that of single bits, `sameNetwork_iff`; containment
of address sets and the order on destinations follow from it.
-/

namespace RouteFabric

open ByteReader

namespace Destination

/-! ## The comparison of networks -/

theorem getD_addressBytes (destination : Destination) {index : Nat}
    (inRange : index < destination.kind.addressSize) :
    destination.addressBytes.getD index 0 = (bytes128 destination.address).getD index 0 := by
  rw [addressBytes, List.getD_eq_getElem?_getD, List.getElem?_take_of_lt inRange,
    List.getD_eq_getElem?_getD]

theorem addressSize_le (kind : DestinationKind) : kind.addressSize ≤ 16 := by
  cases kind <;> decide

theorem length_addressBytes (destination : Destination) :
    destination.addressBytes.length = destination.kind.addressSize := by
  rw [addressBytes, List.length_take, length_bytes128]
  exact Nat.min_eq_left (addressSize_le _)

/-- The bits of the significant bytes of an address. -/
theorem testBit_addressBytes (destination : Destination) {index bit : Nat}
    (inRange : index < destination.kind.addressSize) (inByte : bit < 8) :
    (destination.addressBytes.getD index 0).toNat.testBit (7 - bit) =
      destination.address.getMsbD (8 * index + bit) := by
  rw [getD_addressBytes destination inRange]
  exact testBit_bytes128 _ (inRange.trans_le (addressSize_le _)) inByte

theorem take_eq_iff {left right : Bytes} {count : Nat} (leftLong : count ≤ left.length)
    (rightLong : count ≤ right.length) :
    left.take count = right.take count ↔ ∀ index < count, left.getD index 0 = right.getD index 0 := by
  constructor
  · intro same index inRange
    have item := congrArg (fun bytes : Bytes => bytes[index]?) same
    simp only [List.getElem?_take_of_lt inRange] at item
    rw [List.getD_eq_getElem?_getD, item, List.getD_eq_getElem?_getD]
  · intro same
    apply List.ext_getElem?
    intro index
    by_cases inRange : index < count
    · have item := same index inRange
      rw [List.getElem?_take_of_lt inRange, List.getElem?_take_of_lt inRange,
        List.getElem?_eq_getElem (by omega), List.getElem?_eq_getElem (by omega)]
      rw [List.getD_eq_getElem _ _ (by omega), List.getD_eq_getElem _ _ (by omega)] at item
      rw [item]
    · rw [List.getElem?_take_eq_none (by omega), List.getElem?_take_eq_none (by omega)]

/-- The bytes of a scope and of a candidate agree on a prefix exactly when their bits do. -/
theorem sameNetwork_iff {scope candidate : Destination} (isPrefix : scope.isPrefix = true) :
    scope.sameNetwork candidate = true ↔ scope.kind = candidate.kind ∧
      scope.prefixLength.toNat ≤ candidate.prefixLength.toNat ∧
      ∀ index < scope.prefixLength.toNat,
        scope.address.getMsbD index = candidate.address.getMsbD index := by
  have bound := (prefix_fields isPrefix).1
  simp only [sameNetwork, decide_eq_true_eq, UInt8.le_iff_toNat_le, length_addressBytes]
  refine and_congr_right fun sameKind => and_congr_right fun _ => ?_
  have bits : ∀ {index bit : Nat}, index < scope.kind.addressSize → bit < 8 →
      ((scope.addressBytes.getD index 0).toNat.testBit (7 - bit) =
          (candidate.addressBytes.getD index 0).toNat.testBit (7 - bit) ↔
        scope.address.getMsbD (8 * index + bit) = candidate.address.getMsbD (8 * index + bit)) := by
    intro index bit inRange inByte
    rw [testBit_addressBytes scope inRange inByte,
      testBit_addressBytes candidate (sameKind ▸ inRange) inByte]
  rw [take_eq_iff (by rw [length_addressBytes]; omega) (by rw [length_addressBytes, ← sameKind]; omega)]
  constructor
  · rintro ⟨-, whole, part⟩ index inPrefix
    have position : 8 * (index / 8) + index % 8 = index := Nat.div_add_mod index 8
    rw [← position]
    by_cases inWhole : index / 8 < scope.prefixLength.toNat / 8
    · exact (bits (by omega) (by omega)).mp (byte_eq_iff.mp (whole _ inWhole) _ (by omega))
    · have last : index / 8 = scope.prefixLength.toNat / 8 := by omega
      have inPart : index % 8 < scope.prefixLength.toNat % 8 := by omega
      rw [last] at position ⊢
      exact (bits (by omega) (by omega)).mp
        ((masked_eq_iff (by omega) (by omega)).mp (part (by omega)) _ inPart)
  · intro same
    refine ⟨by rw [sameKind], fun index inWhole => ?_, fun partly => ?_⟩
    · exact byte_eq_iff.mpr fun bit inByte => (bits (by omega) inByte).mpr (same _ (by omega))
    · exact (masked_eq_iff (by omega) partly).mpr fun bit inPart =>
        (bits (by omega) (by omega)).mpr (same _ (by omega))

/-! ## Addresses of a prefix -/

/-- An address of a family, held in the leading bits of sixteen bytes. -/
def InFamily (kind : DestinationKind) (address : BitVec 128) : Prop :=
  ∀ index, 8 * kind.addressSize ≤ index → address.getMsbD index = false

/-- The leading bits of an address match a prefix. -/
def Matches (destination : Destination) (address : BitVec 128) : Prop :=
  ∀ index < destination.prefixLength.toNat,
    address.getMsbD index = destination.address.getMsbD index

theorem inFamily_address {destination : Destination} (isPrefix : destination.isPrefix = true) :
    InFamily destination.kind destination.address := by
  intro index beyond
  obtain ⟨bound, -, masked⟩ := prefix_fields isPrefix
  exact getMsbD_of_masked masked (by omega)

/-- The address of a prefix with one further bit set. -/
theorem getMsbD_or_twoPow (address : BitVec 128) {bit : Nat} (inRange : bit < 128) (index : Nat) :
    (address ||| BitVec.twoPow 128 (127 - bit)).getMsbD index =
      (address.getMsbD index || decide (index = bit)) := by
  rw [BitVec.getMsbD_or, BitVec.getMsbD_twoPow, decide_eq_true (by omega), Bool.true_and,
    show 128 - (127 - bit) - 1 = bit by omega]

theorem scopeCovers_of_isPrefix {scope candidate : Destination} (isPrefix : scope.isPrefix = true)
    (isPrefix' : candidate.isPrefix = true) :
    scope.scopeCovers candidate = true ↔ scope.kind = candidate.kind ∧
      scope.prefixLength.toNat ≤ candidate.prefixLength.toNat ∧
      ∀ index < scope.prefixLength.toNat,
        scope.address.getMsbD index = candidate.address.getMsbD index := by
  obtain ⟨valid, kind⟩ := kind_of_isPrefix isPrefix
  obtain ⟨valid', -⟩ := kind_of_isPrefix isPrefix'
  rw [← sameNetwork_iff isPrefix]
  simp only [scopeCovers, valid, valid', kind, Bool.true_and, if_true, Bool.and_eq_true,
    decide_eq_true_eq, and_iff_right_iff_imp]
  exact fun same => ((sameNetwork_iff isPrefix).mp same).1

/-- A prefix covers another exactly when they are of one family and every address that matches
the other matches it too. -/
theorem scopeCovers_iff_contains {scope candidate : Destination} (isPrefix : scope.isPrefix = true)
    (isPrefix' : candidate.isPrefix = true) :
    scope.scopeCovers candidate = true ↔ scope.kind = candidate.kind ∧
      ∀ address, InFamily candidate.kind address → candidate.Matches address →
        scope.Matches address := by
  rw [scopeCovers_of_isPrefix isPrefix isPrefix']
  refine and_congr_right fun sameKind => ?_
  constructor
  · rintro ⟨shorter, same⟩ address - matched index inside
    rw [matched index (by omega), same index inside]
  · intro contains
    have own := contains candidate.address (inFamily_address isPrefix') fun _ _ => rfl
    obtain ⟨bound, -, -⟩ := prefix_fields isPrefix
    obtain ⟨-, -, masked⟩ := prefix_fields isPrefix'
    have sizes := addressSize_le scope.kind
    refine ⟨?_, fun index inside => (own index inside).symm⟩
    -- a longer scope would tell two addresses of the candidate apart
    by_contra longer
    have inRange : candidate.prefixLength.toNat < 128 := by omega
    have bits := getMsbD_or_twoPow candidate.address inRange
    have other := contains (candidate.address ||| BitVec.twoPow 128 (127 - candidate.prefixLength.toNat))
      (fun index beyond => by
        rw [bits, inFamily_address isPrefix' index beyond, Bool.false_or]
        exact decide_eq_false (by rw [← sameKind] at beyond; omega))
      (fun index inside => by
        rw [bits, decide_eq_false (by omega), Bool.or_false])
    have differs := other candidate.prefixLength.toNat (by omega)
    rw [← own _ (by omega), bits, decide_eq_true rfl, Bool.or_true,
      getMsbD_of_masked masked (Nat.le_refl _)] at differs
    cases differs

/-! ## The order of coverage -/

theorem valid_of_scopeCovers {scope candidate : Destination}
    (covers : scope.scopeCovers candidate = true) :
    scope.valid = true ∧ candidate.valid = true ∧ scope.kind = candidate.kind := by
  simp only [scopeCovers, Bool.and_eq_true, decide_eq_true_eq] at covers
  exact ⟨covers.1.1.1, covers.1.1.2, covers.1.2⟩

theorem isPrefix_eq_kind {destination : Destination} (valid : destination.valid = true) :
    destination.isPrefix = destination.kind.isPrefixKind := by
  rw [Destination.isPrefix, valid, Bool.true_and]

/-- Endpoints cover themselves only. -/
theorem scopeCovers_of_endpoint {scope candidate : Destination}
    (endpoint : scope.kind.isPrefixKind = false) :
    scope.scopeCovers candidate = true ↔ scope.valid = true ∧ candidate.valid = true ∧
      scope.kind = candidate.kind ∧ scope.token = candidate.token := by
  simp [scopeCovers, endpoint, and_assoc]

theorem scopeCovers_refl {destination : Destination} (valid : destination.valid = true) :
    destination.scopeCovers destination = true := by
  cases endpoint : destination.kind.isPrefixKind with
  | false => exact (scopeCovers_of_endpoint endpoint).mpr ⟨valid, valid, rfl, rfl⟩
  | true =>
      have isPrefix := (isPrefix_eq_kind valid).trans endpoint
      exact (scopeCovers_of_isPrefix isPrefix isPrefix).mpr ⟨rfl, Nat.le_refl _, fun _ _ => rfl⟩

theorem scopeCovers_antisymm {left right : Destination} (covers : left.scopeCovers right = true)
    (covered : right.scopeCovers left = true) : left = right := by
  obtain ⟨valid, valid', sameKind⟩ := valid_of_scopeCovers covers
  cases endpoint : left.kind.isPrefixKind with
  | false =>
      obtain ⟨-, -, -, sameToken⟩ := (scopeCovers_of_endpoint endpoint).mp covers
      have fields := left.wellFormed valid
      have fields' := right.wellFormed valid'
      rw [DestinationFields, if_neg (by simp [endpoint])] at fields
      rw [DestinationFields, if_neg (by simp [← sameKind, endpoint])] at fields'
      exact eq_of_fields sameKind (valid.trans valid'.symm) (fields.2.2.trans fields'.2.2.symm)
        (fields.1.trans fields'.1.symm) sameToken
  | true =>
      have isPrefix := (isPrefix_eq_kind valid).trans endpoint
      have isPrefix' := (isPrefix_eq_kind valid').trans (sameKind ▸ endpoint)
      obtain ⟨-, shorter, same⟩ := (scopeCovers_of_isPrefix isPrefix isPrefix').mp covers
      obtain ⟨-, longer, -⟩ := (scopeCovers_of_isPrefix isPrefix' isPrefix).mp covered
      obtain ⟨-, noToken, masked⟩ := prefix_fields isPrefix
      obtain ⟨-, noToken', masked'⟩ := prefix_fields isPrefix'
      have sameLength : left.prefixLength.toNat = right.prefixLength.toNat :=
        Nat.le_antisymm shorter longer
      have sameAddress : left.address = right.address := by
        apply BitVec.eq_of_getMsbD_eq
        intro index _
        by_cases inside : index < left.prefixLength.toNat
        · exact same index inside
        · rw [getMsbD_of_masked masked (by omega), getMsbD_of_masked masked' (by omega)]
      exact eq_of_fields sameKind (valid.trans valid'.symm) sameAddress
        (UInt8.toNat_inj.mp sameLength) (noToken.trans noToken'.symm)

theorem scopeCovers_trans {first second third : Destination}
    (covers : first.scopeCovers second = true) (covers' : second.scopeCovers third = true) :
    first.scopeCovers third = true := by
  obtain ⟨valid, valid', sameKind⟩ := valid_of_scopeCovers covers
  obtain ⟨-, valid'', sameKind'⟩ := valid_of_scopeCovers covers'
  cases endpoint : first.kind.isPrefixKind with
  | false =>
      obtain ⟨-, -, -, token⟩ := (scopeCovers_of_endpoint endpoint).mp covers
      obtain ⟨-, -, -, token'⟩ := (scopeCovers_of_endpoint (sameKind ▸ endpoint)).mp covers'
      exact (scopeCovers_of_endpoint endpoint).mpr
        ⟨valid, valid'', sameKind.trans sameKind', token.trans token'⟩
  | true =>
      have isPrefix := (isPrefix_eq_kind valid).trans endpoint
      have isPrefix' := (isPrefix_eq_kind valid').trans (sameKind ▸ endpoint)
      have isPrefix'' := (isPrefix_eq_kind valid'').trans (sameKind' ▸ sameKind ▸ endpoint)
      obtain ⟨-, shorter, same⟩ := (scopeCovers_of_isPrefix isPrefix isPrefix').mp covers
      obtain ⟨-, shorter', same'⟩ := (scopeCovers_of_isPrefix isPrefix' isPrefix'').mp covers'
      refine (scopeCovers_of_isPrefix isPrefix isPrefix'').mpr
        ⟨sameKind.trans sameKind', shorter.trans shorter', fun index inside => ?_⟩
      exact (same index inside).trans (same' index (inside.trans_le shorter))

end Destination

/-! ## Publisher scopes -/

/-- Destinations that cover those of a scope keep every key that the scope covers. -/
theorem PublisherScope.covers_mono {scope : PublisherScope} {destinations : List Destination}
    (wider : ∀ destination ∈ scope.destinations,
      ∃ other ∈ destinations, other.scopeCovers destination = true)
    {key : RouteKey} (covers : scope.covers key = true) :
    ({ scope with destinations := destinations } : PublisherScope).covers key = true := by
  simp only [PublisherScope.covers, Bool.and_eq_true, Bool.or_eq_true, List.any_eq_true] at covers ⊢
  refine ⟨covers.1, covers.2.imp id ?_⟩
  rintro ⟨destination, member, covered⟩
  obtain ⟨other, inOthers, covers⟩ := wider destination member
  exact ⟨other, inOthers, Destination.scopeCovers_trans covers covered⟩

/-- Coverage of prefixes is containment of their addresses, coverage of valid destinations is a
partial order, and a scope does not shrink when its destinations are replaced by wider ones. -/
theorem Destination.scopeCovers_exact :
    (∀ scope candidate : Destination, scope.isPrefix = true → candidate.isPrefix = true →
      (scope.scopeCovers candidate = true ↔ scope.kind = candidate.kind ∧
        ∀ address, InFamily candidate.kind address → candidate.Matches address →
          scope.Matches address)) ∧
    (∀ destination : Destination, destination.valid = true →
      destination.scopeCovers destination = true) ∧
    (∀ left right : Destination, left.valid = true → right.valid = true →
      left.scopeCovers right = true → right.scopeCovers left = true → left = right) ∧
    (∀ first second third : Destination, first.valid = true → second.valid = true →
      third.valid = true → first.scopeCovers second = true → second.scopeCovers third = true →
      first.scopeCovers third = true) ∧
    ∀ (scope : PublisherScope) (destinations : List Destination),
      List.Forall₂ (fun destination other => other.scopeCovers destination = true)
        scope.destinations destinations →
      ∀ key, scope.covers key = true →
        ({ scope with destinations := destinations } : PublisherScope).covers key = true := by
  refine ⟨fun _ _ => scopeCovers_iff_contains, fun _ => scopeCovers_refl,
    fun _ _ _ _ => scopeCovers_antisymm, fun _ _ _ _ _ _ => scopeCovers_trans, ?_⟩
  intro scope destinations replaced key covers
  refine PublisherScope.covers_mono (fun destination member => ?_) covers
  obtain ⟨index, inRange, rfl⟩ := List.getElem_of_mem member
  have pair := replaced.get inRange (replaced.length_eq ▸ inRange)
  exact ⟨_, List.getElem_mem _, pair⟩

/-- An IPv4 prefix of the private network. -/
def privatePrefix (second : Nat) (prefixLength : UInt8)
    (wellFormed : DestinationFields .ipv4Prefix (BitVec.ofNat 128 ((10 * 256 + second) * 2 ^ 112))
      prefixLength [] 0) : Destination :=
  { kind := .ipv4Prefix, valid := true,
    address := BitVec.ofNat 128 ((10 * 256 + second) * 2 ^ 112), prefixLength := prefixLength,
    wellFormed := fun _ => wellFormed }

/-- Every address that matches 10.1.0.0/16 matches 10.0.0.0/8. -/
theorem Destination.scopeCovers_exact_private :
    ∀ address, InFamily .ipv4Prefix address →
      (privatePrefix 1 16 (by decide +kernel)).Matches address →
      (privatePrefix 0 8 (by decide +kernel)).Matches address :=
  ((Destination.scopeCovers_exact.1 (privatePrefix 0 8 (by decide +kernel))
    (privatePrefix 1 16 (by decide +kernel)) rfl rfl).mp (by decide +kernel)).2

end RouteFabric
