import RouteFabric.Core.AddressBits
import RouteFabric.Core.Ipv6
import RouteFabric.Core.RenderedGroups

/-!
# Destinations as text

The parsers of destinations and the text of canonical prefixes. The renderer searches the zero
groups and places the colons in two passes; `longestZeroRun_spec` and `renderGroups_eq` say what
each pass does, and the parser reads what they write, `parse_render`.
-/

namespace RouteFabric

open ByteReader Numerals

namespace Destination

/-! ## The parsers -/

def ipv4Error (detail : String) : Expected Destination :=
  makeError .invalidArgument ("invalid IPv4 destination: " ++ detail)

def ipv6Error (detail : String) : Expected Destination :=
  makeError .invalidArgument ("invalid IPv6 destination: " ++ detail)

/-- An address whose bits beyond the first four bytes are zero has zero bytes there. -/
theorem drop_bytes128 {address : BitVec 128}
    (zeros : ∀ index, 32 ≤ index → address.getMsbD index = false) :
    (bytes128 address).drop 4 = List.replicate 12 0 := by
  rw [List.eq_replicate_iff]
  refine ⟨by simp, fun byte member => ?_⟩
  obtain ⟨index, inRange, rfl⟩ := List.getElem_of_mem member
  rw [List.length_drop, length_bytes128] at inRange
  rw [List.getElem_drop, byte_eq_iff]
  intro bit inByte
  have read := testBit_bytes128 address (show 4 + index < 16 by omega) inByte
  rw [List.getD_eq_getElem _ _ (by rw [length_bytes128]; omega), zeros _ (by omega)] at read
  rw [read]
  simp

/-- The canonical prefix of an address: its host bits are cleared. -/
def ofPrefix (kind : DestinationKind) (address : BitVec 128) (prefixLength : Nat)
    (isPrefix : kind.isPrefixKind = true) (bound : prefixLength ≤ kind.maxPrefix) : Destination where
  kind := kind
  valid := true
  address := maskHostBits address prefixLength
  prefixLength := UInt8.ofNat prefixLength
  wellFormed _ := by
    have small : prefixLength ≤ 128 := bound.trans (by cases kind <;> decide)
    have length : (UInt8.ofNat prefixLength).toNat = prefixLength := by
      rw [UInt8.toNat_ofNat', Nat.mod_eq_of_lt (by omega)]
    rw [DestinationFields, if_pos isPrefix, length]
    refine ⟨bound, rfl, fun ipv4 => drop_bytes128 fun index beyond => ?_,
      maskHostBits_idem address prefixLength⟩
    subst ipv4
    exact getMsbD_of_masked (maskHostBits_idem address prefixLength) (bound.trans beyond)

def parseIpv4Prefix (text : Bytes) : Expected Destination :=
  match text.splitOn 47 with
  | [addressText, prefixText] =>
      match readOctets addressText with
      | .error detail => ipv4Error detail
      | .ok octets =>
          if octets.length ≠ 4 then ipv4Error "expected four octets"
          else if addressText.any fun char => !(isDecimalDigit char || char == 46) then
            ipv4Error "unexpected character in address"
          else match parsed : parseDecimalField prefixText 32 with
            | none =>
                ipv4Error "prefix length must be a decimal value in [0,32] without leading zeros"
            | some prefixLength =>
                .ok (ofPrefix .ipv4Prefix (value128 (octets.map UInt8.ofNat ++ List.replicate 12 0))
                  prefixLength rfl ((parseDecimalField_eq_some (by decide)).mp parsed).2)
  | _ => ipv4Error "expected exactly one '/' separating address and prefix length"

def parseIpv6Prefix (text : Bytes) : Expected Destination :=
  match text.splitOn 47 with
  | [addressText, prefixText] =>
      match parseIpv6Address addressText with
      | none => ipv6Error "malformed address"
      | some bytes =>
          match parsed : parseDecimalField prefixText 128 with
          | none =>
              ipv6Error "prefix length must be a decimal value in [0,128] without leading zeros"
          | some prefixLength =>
              .ok (ofPrefix .ipv6Prefix (value128 bytes) prefixLength rfl
                ((parseDecimalField_eq_some (by decide)).mp parsed).2)
  | _ => ipv6Error "expected exactly one '/' separating address and prefix length"

def parseEndpoint (kind : DestinationKind) (token : Bytes) (maxTokenLength : Nat) :
    Expected Destination :=
  if isPrefix : kind.isPrefixKind = true then
    makeError .invalidArgument "endpoint parser requires an endpoint destination kind"
  else if validToken : isValidTokenText token maxTokenLength = true then
    .ok { kind := kind, valid := true, token := token,
          wellFormed := fun _ => by
            rw [DestinationFields, if_neg isPrefix]
            exact ⟨rfl, ((isValidTokenText_iff _ _).mp validToken).2, rfl⟩ }
  else makeError .invalidArgument ("endpoint destination token must be 1.." ++
    toString maxTokenLength ++
    " characters from [A-Za-z0-9._-] starting with an alphanumeric character")

/-- The schemes before the first colon of a text. -/
def schemes : List (Bytes × DestinationKind) :=
  [(asciiBytes "ipv4", .ipv4Prefix), (asciiBytes "ipv6", .ipv6Prefix),
    (asciiBytes "fabric", .fabricEndpoint), (asciiBytes "service", .serviceEndpoint),
    (asciiBytes "overlay", .overlayEndpoint), (asciiBytes "logical", .logicalDestination)]

/-- The kind that a scheme names, where the text has a colon. -/
def schemeOf (text : Bytes) : Option DestinationKind :=
  if 58 ∈ text then schemes.lookup (text.takeWhile (· ≠ 58)) else none

def parse (text : Bytes) (maxTokenLength : Nat) : Expected Destination :=
  let rest := (text.dropWhile (· ≠ 58)).drop 1
  if text = [] then makeError .invalidArgument "destination must not be empty"
  else match schemeOf text with
    | some .ipv4Prefix => parseIpv4Prefix rest
    | some .ipv6Prefix => parseIpv6Prefix rest
    | some kind => parseEndpoint kind rest maxTokenLength
    | none =>
        if 47 ∈ text then if 58 ∈ text then parseIpv6Prefix text else parseIpv4Prefix text
        else makeError .invalidArgument
          ("destination requires an explicit kind prefix (fabric:, service:, overlay:, logical:) " ++
            "or an IPv4/IPv6 prefix with a length")

/-! ## Texts as bytes -/

/-- The bytes of ASCII characters. -/
def charBytes (chars : List Char) : Bytes := chars.map fun char => UInt8.ofNat char.toNat

theorem asciiBytes_append (left right : String) :
    asciiBytes (left ++ right) = asciiBytes left ++ asciiBytes right := by
  rw [asciiBytes, String.toList_append, List.map_append]
  rfl

theorem asciiBytes_ofList (chars : List Char) :
    asciiBytes (String.ofList chars) = charBytes chars := by
  rw [asciiBytes, String.toList_ofList]
  rfl

theorem charBytes_intercalate (separator : Char) (parts : List (List Char)) :
    charBytes ([separator].intercalate parts) =
      [UInt8.ofNat separator.toNat].intercalate (parts.map charBytes) := by
  induction parts with
  | nil => rfl
  | cons part rest ih =>
      cases rest with
      | nil => simp [charBytes]
      | cons next others =>
          rw [List.intercalate_cons_cons, charBytes, List.map_append, List.map_append]
          rw [charBytes] at ih
          rw [ih]
          simp [charBytes]

theorem digitChar_decimal : ∀ digit < 10, UInt8.ofNat (Nat.digitChar digit).toNat =
    decimalChar digit := by decide

/-- The digits of the core library are those of the numeral. -/
theorem asciiBytes_toString (number : Nat) : asciiBytes (toString number) = numeralText number := by
  have digits : asciiBytes (toString number) = charBytes (Nat.toDigits 10 number) :=
    asciiBytes_ofList _
  rw [digits, charBytes, toDigits_eq (by decide), numeralText, List.map_map]
  exact List.map_congr_left fun digit member => digitChar_decimal digit
    (write_lt (by decide) number digit member)

theorem not_mem_numeralText (number : Nat) {char : UInt8} (other : isDecimalDigit char = false) :
    char ∉ numeralText number := by
  intro member
  have digit := (isNumeral_numeralText number).digits char member
  rw [other] at digit
  cases digit

/-! ## The canonical form of an address -/

/-- A group in lowercase and without leading zeros. -/
structure IsCanonicalGroup (text : Bytes) (group : Nat) : Prop where
  isGroup : IsHexGroup text group
  lowercase : ∀ char ∈ text, isDecimalDigit char = true ∨ (97 ≤ char ∧ char ≤ 102)
  leading : text.head? = some 48 → text.length = 1

/-- Canonical groups between single colons. -/
def IsJoined (text : Bytes) (groups : List Nat) : Prop :=
  ∃ parts, List.Forall₂ IsCanonicalGroup parts groups ∧ text = [58].intercalate parts

/-- The canonical text of an address: the leftmost longest run of at least two zero groups is
compressed, and no other. -/
inductive IsCanonicalAddress (groups : List Nat) : Bytes → Prop
  | plain {text : Bytes} (short : ∀ start length, ZeroRun groups start length → length < 2)
      (joined : IsJoined text groups) : IsCanonicalAddress groups text
  | compressed {left right : Bytes} {start length : Nat} (long : 2 ≤ length)
      (run : LongestZeroRun groups start length) (before : IsJoined left (groups.take start))
      (after : IsJoined right (groups.drop (start + length))) :
      IsCanonicalAddress groups (left ++ 58 :: 58 :: right)

/-- The digits the renderer writes. -/
theorem digitChar_hex : ∀ digit < 16,
    hexDigit (UInt8.ofNat (Nat.digitChar digit).toNat) = some digit ∧
      (isDecimalDigit (UInt8.ofNat (Nat.digitChar digit).toNat) = true ∨
        (97 ≤ UInt8.ofNat (Nat.digitChar digit).toNat ∧
          UInt8.ofNat (Nat.digitChar digit).toNat ≤ 102)) ∧
      (UInt8.ofNat (Nat.digitChar digit).toNat = 48 → digit = 0) := by decide

theorem isCanonicalGroup_toDigits {group : Nat} (small : group < 65536) :
    IsCanonicalGroup (charBytes (Nat.toDigits 16 group)) group := by
  have digits : charBytes (Nat.toDigits 16 group) =
      (Numerals.write 16 group).map fun digit => UInt8.ofNat (Nat.digitChar digit).toNat := by
    rw [charBytes, toDigits_eq (by decide), List.map_map]
    rfl
  have below := write_lt (show 1 < 16 by decide) group
  rw [digits]
  refine ⟨⟨by simp [write_ne_nil], ?_, Numerals.write 16 group, ?_, value_write (by decide) group⟩, ?_, ?_⟩
  · rw [List.length_map]
    exact length_write_le (by decide) (show group < 16 ^ 4 from small) (by decide)
  · rw [List.forall₂_map_left_iff, List.forall₂_same]
    exact fun digit member => (digitChar_hex digit (below digit member)).1
  · intro char member
    obtain ⟨digit, written, rfl⟩ := List.mem_map.mp member
    exact (digitChar_hex digit (below digit written)).2.1
  · intro zero
    rw [List.head?_map, Option.map_eq_some_iff] at zero
    obtain ⟨digit, first, zero⟩ := zero
    have := (digitChar_hex digit (below digit (List.mem_of_head? first))).2.2 zero
    rw [this] at first
    rw [List.length_map]
    exact (canonical_write (by decide) group).leading first

theorem isJoined_joinGroups {groups : List Nat} (small : ∀ group ∈ groups, group < 65536) :
    IsJoined (charBytes (joinGroups groups)) groups := by
  refine ⟨(groups.map (Nat.toDigits 16)).map charBytes, ?_, charBytes_intercalate ':' _⟩
  rw [List.map_map, List.forall₂_map_left_iff, List.forall₂_same]
  exact fun group member => isCanonicalGroup_toDigits (small group member)

/-- The renderer writes the canonical text. -/
theorem isCanonicalAddress_render {groups : List Nat} (small : ∀ group ∈ groups, group < 65536) :
    IsCanonicalAddress groups (charBytes (renderGroups (longestZeroRun groups) groups)) := by
  rcases longestZeroRun_spec groups with ⟨none, short⟩ | ⟨start, length, found, long, run⟩
  · rw [none, renderGroups_plain]
    exact .plain short (isJoined_joinGroups small)
  · rw [found, renderGroups_compressed (by omega) run.run.inRange, charBytes, List.map_append,
      List.map_append, List.append_assoc]
    exact .compressed long run
      (isJoined_joinGroups fun group member => small group (List.mem_of_mem_take member))
      (isJoined_joinGroups fun group member => small group (List.mem_of_mem_drop member))

theorem IsJoined.groupSide {text : Bytes} {groups : List Nat} (joined : IsJoined text groups)
    (tail : Bool) : GroupSide tail text groups := by
  obtain ⟨parts, pairs, rfl⟩ := joined
  induction pairs with
  | nil => exact .nil
  | @cons part group rest groups canonical pairs ih =>
      cases pairs with
      | nil =>
          rw [List.intercalate_singleton]
          exact .run (.group canonical.isGroup)
      | @cons next _ others _ nextCanonical pairs =>
          have run := ih.run_of_ne_nil (List.cons_ne_nil _ _)
          rw [List.intercalate_cons_cons, List.append_assoc]
          exact .run (.cons canonical.isGroup run)

theorem IsJoined.chars {text : Bytes} {groups : List Nat} (joined : IsJoined text groups) :
    ∀ char ∈ text, char = 58 ∨ (hexDigit char).isSome = true := by
  obtain ⟨parts, pairs, rfl⟩ := joined
  intro char member
  refine (mem_intercalate member).imp id ?_
  rintro ⟨part, inParts, inPart⟩
  obtain ⟨group, canonical⟩ := exists_of_forall₂ pairs part inParts
  obtain ⟨digits, read, -⟩ := canonical.isGroup.digits
  obtain ⟨digit, read⟩ := exists_of_forall₂ read char inPart
  rw [read]
  rfl

theorem IsCanonicalAddress.chars {text : Bytes} {groups : List Nat}
    (canonical : IsCanonicalAddress groups text) :
    ∀ char ∈ text, char = 58 ∨ (hexDigit char).isSome = true := by
  cases canonical with
  | plain _ joined => exact joined.chars
  | compressed _ _ before after =>
      intro char member
      simp only [List.mem_append, List.mem_cons] at member
      rcases member with inLeft | rfl | rfl | inRight
      · exact before.chars char inLeft
      · exact .inl rfl
      · exact .inl rfl
      · exact after.chars char inRight

/-- The canonical text of eight groups is in the grammar of addresses. -/
theorem IsCanonicalAddress.ipv6Text {text : Bytes} {groups : List Nat} (eight : groups.length = 8)
    (canonical : IsCanonicalAddress groups text) : Ipv6Text text groups := by
  cases canonical with
  | plain _ joined =>
      have nonempty : groups ≠ [] := by
        rintro rfl
        cases eight
      exact .full ((joined.groupSide true).run_of_ne_nil nonempty) eight
  | @compressed left right start length long run before after =>
      have inRange := run.run.inRange
      have sizes : (groups.take start).length + (groups.drop (start + length)).length = 8 - length := by
        rw [List.length_take, List.length_drop]
        omega
      have zeros : (groups.drop start).take length = List.replicate length 0 := by
        apply List.ext_getElem?
        intro index
        by_cases inside : index < length
        · rw [List.getElem?_take_of_lt inside, List.getElem?_drop,
            run.run.zeros (start + index) (by omega) (by omega), List.getElem?_replicate, if_pos inside]
        · rw [List.getElem?_take_eq_none (by omega), List.getElem?_replicate, if_neg inside]
      have parts : groups.take start ++ List.replicate length 0 ++ groups.drop (start + length) =
          groups := by
        rw [← zeros, List.append_assoc, ← List.drop_drop, List.take_append_drop,
          List.take_append_drop]
      have address := Ipv6Text.elided (before.groupSide false) (after.groupSide true) (by omega)
      rw [sizes, show 8 - (8 - length) = length by omega, parts] at address
      exact address

/-! ## Reading what was rendered -/

/-- The groups of an address, as the renderer takes them. -/
def addressGroups (address : BitVec 128) : List Nat :=
  (List.range 8).map fun index => (address >>> (112 - 16 * index)).toNat % 65536

theorem addressGroups_lt (address : BitVec 128) : ∀ group ∈ addressGroups address, group < 65536 := by
  intro group member
  obtain ⟨index, -, rfl⟩ := List.mem_map.mp member
  exact Nat.mod_lt _ (by decide)

/-- The groups hold the bytes of the address. -/
theorem groupBytes_addressGroups (address : BitVec 128) :
    groupBytes (addressGroups address) = bytes128 address := by
  have byte : ∀ {left right : Nat}, left % 256 = right % 256 → UInt8.ofNat left = UInt8.ofNat right := by
    intro left right same
    apply UInt8.toNat_inj.mp
    rwa [UInt8.toNat_ofNat', UInt8.toNat_ofNat']
  have shape : groupBytes (addressGroups address) =
      (List.range 8).flatMap fun index =>
        [UInt8.ofNat (address.toNat / 256 ^ (15 - 2 * index)),
          UInt8.ofNat (address.toNat / 256 ^ (15 - (2 * index + 1)))] := by
    rw [groupBytes, addressGroups, List.flatMap_map]
    refine List.flatMap_congr fun index member => ?_
    have inRange := List.mem_range.mp member
    have high : address.toNat / 256 ^ (15 - 2 * index) =
        address.toNat / 2 ^ (112 - 16 * index) / 256 := by
      rw [Nat.div_div_eq_div_mul, show 256 ^ (15 - 2 * index) = 2 ^ (112 - 16 * index) * 256 by
        rw [show (256 : Nat) = 2 ^ 8 from rfl, ← pow_mul, ← pow_add]
        congr 1
        omega]
    have low : address.toNat / 256 ^ (15 - (2 * index + 1)) =
        address.toNat / 2 ^ (112 - 16 * index) := by
      rw [show 256 ^ (15 - (2 * index + 1)) = 2 ^ (112 - 16 * index) by
        rw [show (256 : Nat) = 2 ^ 8 from rfl, ← pow_mul]
        congr 1
        omega]
    rw [high, low, BitVec.toNat_ushiftRight, Nat.shiftRight_eq_div_pow, Nat.shiftRight_eq_div_pow]
    generalize address.toNat / 2 ^ (112 - 16 * index) = number
    rw [byte (show number % 65536 / 2 ^ 8 % 256 = number / 256 % 256 by omega),
      byte (show number % 65536 % 256 = number % 256 by omega)]
  rw [shape]
  apply List.ext_getElem?
  intro index
  by_cases inRange : index < 16
  · rw [getElem?_bytes128 address inRange]
    interval_cases index <;> rfl
  · rw [List.getElem?_eq_none, List.getElem?_eq_none]
    · rw [length_bytes128]
      omega
    · rw [List.length_flatMap]
      change 16 ≤ index
      omega

theorem ofPrefix_self {destination : Destination} (isPrefix : destination.isPrefix = true)
    {kind : DestinationKind} (same : destination.kind = kind) (isKind : kind.isPrefixKind = true)
    (bound : destination.prefixLength.toNat ≤ kind.maxPrefix) :
    ofPrefix kind destination.address destination.prefixLength.toNat isKind bound = destination := by
  obtain ⟨valid, -⟩ := kind_of_isPrefix isPrefix
  obtain ⟨-, token, masked⟩ := prefix_fields isPrefix
  exact eq_of_fields same.symm valid.symm masked (UInt8.ofNat_toNat) token.symm

theorem prefixLength_le {destination : Destination} (isPrefix : destination.isPrefix = true) :
    destination.prefixLength.toNat ≤ destination.kind.maxPrefix := by
  obtain ⟨valid, kind⟩ := kind_of_isPrefix isPrefix
  have fields := destination.wellFormed valid
  rw [DestinationFields, if_pos kind] at fields
  exact fields.1

theorem splitOn_slash {address prefixText : Bytes} (noSlash : 47 ∉ address)
    (noSlash' : 47 ∉ prefixText) : (address ++ 47 :: prefixText).splitOn 47 = [address, prefixText] := by
  rw [List.splitOn_append_cons_self_of_not_mem noSlash, List.splitOn_eq_singleton noSlash']

theorem parseDecimalField_numeralText {number maxValue : Nat} (small : number ≤ maxValue)
    (bound : maxValue ≤ 999) : parseDecimalField (numeralText number) maxValue = some number :=
  (parseDecimalField_eq_some bound).mpr ⟨isNumeral_numeralText number, small⟩

theorem parseIpv6Prefix_eq {address bytes : Bytes} {prefixLength : Nat} (noSlash : 47 ∉ address)
    (read : parseIpv6Address address = some bytes) (bound : prefixLength ≤ 128) :
    parseIpv6Prefix (address ++ 47 :: numeralText prefixLength) =
      .ok (ofPrefix .ipv6Prefix (value128 bytes) prefixLength rfl bound) := by
  have field := parseDecimalField_numeralText bound (by decide)
  unfold parseIpv6Prefix
  rw [splitOn_slash noSlash (not_mem_numeralText _ (by decide))]
  simp only [read]
  split
  · rename_i refused
    rw [field] at refused
    cases refused
  · rename_i number accepted
    rw [field] at accepted
    obtain rfl := Option.some.inj accepted
    rfl

theorem parseIpv4Prefix_eq {address : Bytes} {octets : List Nat} {prefixLength : Nat}
    (quad : DottedQuad address octets) (bound : prefixLength ≤ 32) :
    parseIpv4Prefix (address ++ 47 :: numeralText prefixLength) =
      .ok (ofPrefix .ipv4Prefix (value128 (octets.map UInt8.ofNat ++ List.replicate 12 0))
        prefixLength rfl bound) := by
  have field := parseDecimalField_numeralText bound (by decide)
  have plain : (address.any fun char => !(isDecimalDigit char || char == 46)) = false := by
    rw [List.any_eq_false]
    intro char member
    rcases quad.chars char member with rfl | digit
    · decide
    · simp [digit]
  obtain ⟨read, four⟩ := readOctets_iff.mpr quad
  unfold parseIpv4Prefix
  rw [splitOn_slash (quad.not_mem (by decide)) (not_mem_numeralText _ (by decide))]
  simp only [read, four, plain]
  rw [if_neg (by simp), if_neg (by simp)]
  split
  · rename_i refused
    rw [field] at refused
    cases refused
  · rename_i number accepted
    rw [field] at accepted
    obtain rfl := Option.some.inj accepted
    rfl

/-- No scheme is spelled with hexadecimal digits alone. -/
theorem schemeOf_eq_none {text : Bytes}
    (chars : ∀ char ∈ text, char = 58 ∨ char = 47 ∨ (hexDigit char).isSome = true) :
    schemeOf text = none := by
  have spelled : ∀ scheme ∈ schemes, ∃ char ∈ scheme.1, hexDigit char = none ∧ char ≠ 47 ∧ char ≠ 58 := by
    decide
  unfold schemeOf
  split
  · rw [List.lookup_eq_none_iff]
    intro scheme member
    rw [bne_iff_ne]
    intro same
    obtain ⟨char, inScheme, noDigit, noSlash, noColon⟩ := spelled scheme member
    rw [← same] at inScheme
    rcases chars char ((List.takeWhile_subset _) inScheme) with colon | slash | digit
    · exact noColon colon
    · exact noSlash slash
    · rw [noDigit] at digit
      cases digit
  · rfl

/-- The text of an IPv6 prefix is its canonical address and its length. -/
theorem render_ipv6 {destination : Destination} (isPrefix : destination.isPrefix = true)
    (kind : destination.kind = .ipv6Prefix) : ∃ address,
      IsCanonicalAddress (addressGroups destination.address) address ∧
      asciiBytes destination.render =
        address ++ 47 :: numeralText destination.prefixLength.toNat := by
  refine ⟨_, isCanonicalAddress_render (addressGroups_lt destination.address), ?_⟩
  rw [render, if_neg (by simp [(kind_of_isPrefix isPrefix).1]), kind]
  simp only
  rw [asciiBytes_append, asciiBytes_append, asciiBytes_ofList, asciiBytes_toString,
    List.append_assoc]
  rfl

/-- The text of an IPv4 prefix is a dotted quad and its length. -/
theorem render_ipv4 {destination : Destination} (isPrefix : destination.isPrefix = true)
    (kind : destination.kind = .ipv4Prefix) : ∃ address,
      DottedQuad address (destination.addressBytes.map UInt8.toNat) ∧
      asciiBytes destination.render =
        address ++ 47 :: numeralText destination.prefixLength.toNat := by
  have four : destination.addressBytes.length = 4 := by
    rw [addressBytes, kind, List.length_take, length_bytes128]
    rfl
  have octets : (asciiBytes (".".intercalate (destination.addressBytes.map fun byte =>
      toString byte.toNat))) =
      [46].intercalate (destination.addressBytes.map fun byte => numeralText byte.toNat) := by
    rw [asciiBytes, String.toList_intercalate, List.map_map]
    refine (charBytes_intercalate '.' _).trans ?_
    rw [List.map_map]
    congr 1
    exact List.map_congr_left fun byte _ => asciiBytes_toString byte.toNat
  refine ⟨[46].intercalate (destination.addressBytes.map fun byte => numeralText byte.toNat),
    ⟨?_, by rw [List.length_map, four]⟩, ?_⟩
  · rw [List.splitOn_intercalate]
    · rw [List.forall₂_map_left_iff, List.forall₂_map_right_iff, List.forall₂_same]
      exact fun byte _ => ⟨isNumeral_numeralText _, Nat.le_of_lt_succ byte.toNat_lt⟩
    · intro part member
      obtain ⟨byte, -, rfl⟩ := List.mem_map.mp member
      exact not_mem_numeralText _ (by decide)
    · intro empty
      rw [List.map_eq_nil_iff] at empty
      rw [empty] at four
      cases four
  · rw [render, if_neg (by simp [(kind_of_isPrefix isPrefix).1]), kind]
    simp only
    rw [asciiBytes_append, asciiBytes_append, octets, asciiBytes_toString, List.append_assoc]
    rfl

theorem hexDigit_numeralText (number : Nat) :
    ∀ char ∈ numeralText number, (hexDigit char).isSome = true := by
  intro char member
  have digit := isDecimalDigit_iff.mp ((isNumeral_numeralText number).digits char member)
  rw [hexDigit, if_pos (by simpa [UInt8.le_iff_toNat_le] using digit)]
  rfl

/-- The value of the bytes of an IPv4 prefix, filled up with zeros. -/
theorem value128_addressBytes {destination : Destination} (isPrefix : destination.isPrefix = true)
    (kind : destination.kind = .ipv4Prefix) :
    value128 ((destination.addressBytes.map UInt8.toNat).map UInt8.ofNat ++ List.replicate 12 0) =
      destination.address := by
  obtain ⟨valid, isKind⟩ := kind_of_isPrefix isPrefix
  have fields := destination.wellFormed valid
  rw [DestinationFields, if_pos isKind] at fields
  have same : (destination.addressBytes.map UInt8.toNat).map UInt8.ofNat =
      (bytes128 destination.address).take 4 := by
    rw [List.map_map, addressBytes, kind]
    exact (List.map_congr_left fun byte _ => UInt8.ofNat_toNat).trans (List.map_id _)
  rw [same, ← fields.2.2.1 kind, List.take_append_drop, value128_bytes128]

theorem parse_render_ipv4 {destination : Destination} (isPrefix : destination.isPrefix = true)
    (kind : destination.kind = .ipv4Prefix) (maxTokenLength : Nat) :
    parse (asciiBytes destination.render) maxTokenLength = .ok destination := by
  obtain ⟨address, quad, text⟩ := render_ipv4 isPrefix kind
  have bound := prefixLength_le isPrefix
  rw [kind] at bound
  have noColon : 58 ∉ asciiBytes destination.render := by
    rw [text, List.mem_append, List.mem_cons, not_or, not_or]
    exact ⟨quad.not_mem (by decide), by decide, not_mem_numeralText _ (by decide)⟩
  have slash : 47 ∈ asciiBytes destination.render := by
    rw [text]
    simp
  have scheme : schemeOf (asciiBytes destination.render) = none := if_neg noColon
  rw [parse]
  simp only [scheme, if_neg (List.ne_nil_of_mem slash), if_pos slash, if_neg noColon]
  rw [text, parseIpv4Prefix_eq quad bound]
  simp only [value128_addressBytes isPrefix kind]
  rw [ofPrefix_self isPrefix kind rfl bound]

theorem parse_render_ipv6 {destination : Destination} (isPrefix : destination.isPrefix = true)
    (kind : destination.kind = .ipv6Prefix) (maxTokenLength : Nat) :
    parse (asciiBytes destination.render) maxTokenLength = .ok destination := by
  obtain ⟨address, canonical, text⟩ := render_ipv6 isPrefix kind
  have bound := prefixLength_le isPrefix
  rw [kind] at bound
  have read := canonical.ipv6Text (by simp [addressGroups])
  have noSlash : 47 ∉ address := by
    intro member
    rcases canonical.chars 47 member with colon | digit
    · exact absurd colon (by decide)
    · exact absurd digit (by decide)
  have colon : 58 ∈ asciiBytes destination.render := by
    rw [text]
    exact List.mem_append_left _ read.chars.1
  have slash : 47 ∈ asciiBytes destination.render := by
    rw [text]
    simp
  have scheme : schemeOf (asciiBytes destination.render) = none := by
    apply schemeOf_eq_none
    rw [text]
    intro char member
    rcases List.mem_append.mp member with inAddress | inRest
    · exact (canonical.chars char inAddress).imp id .inr
    · rcases List.mem_cons.mp inRest with slash | digit
      · exact .inr (.inl slash)
      · exact .inr (.inr (hexDigit_numeralText _ char digit))
  rw [parse]
  simp only [scheme, if_neg (List.ne_nil_of_mem slash), if_pos slash, if_pos colon]
  rw [text, parseIpv6Prefix_eq noSlash read.parse bound]
  simp only [groupBytes_addressGroups, value128_bytes128]
  rw [ofPrefix_self isPrefix kind rfl bound]

/-- A valid prefix is read back from its text. -/
theorem parse_render {destination : Destination} (isPrefix : destination.isPrefix = true)
    (maxTokenLength : Nat) :
    parse (asciiBytes destination.render) maxTokenLength = .ok destination := by
  obtain ⟨-, isKind⟩ := kind_of_isPrefix isPrefix
  cases kind : destination.kind with
  | ipv4Prefix => exact parse_render_ipv4 isPrefix kind maxTokenLength
  | ipv6Prefix => exact parse_render_ipv6 isPrefix kind maxTokenLength
  | _ =>
      rw [kind] at isKind
      cases isKind

/-- Both prefix parsers return valid prefixes. -/
theorem isPrefix_of_parse {text : Bytes} {destination : Destination}
    (accepted : parseIpv4Prefix text = .ok destination ∨ parseIpv6Prefix text = .ok destination) :
    destination.isPrefix = true := by
  have valid : ∀ {kind address prefixLength isPrefix bound},
      .ok (ofPrefix kind address prefixLength isPrefix bound) = (.ok destination : Expected Destination) →
      destination.isPrefix = true := by
    intro kind address prefixLength isPrefix bound same
    obtain rfl := Except.ok.inj same
    rw [Destination.isPrefix]
    exact isPrefix
  rcases accepted with accepted | accepted
  · unfold parseIpv4Prefix at accepted
    split at accepted
    · split at accepted
      · cases accepted
      · split at accepted
        · cases accepted
        · split at accepted
          · cases accepted
          · split at accepted
            · cases accepted
            · exact valid accepted
    · cases accepted
  · unfold parseIpv6Prefix at accepted
    split at accepted
    · split at accepted
      · cases accepted
      · split at accepted
        · cases accepted
        · exact valid accepted
    · cases accepted

/-- Prefixes are read back from their texts, the text of an IPv6 prefix is the canonical one,
every accepted text is that of a prefix without host bits up to its spelling, and prefixes are
rendered alike only when they are equal. -/
theorem prefixText_exact :
    (∀ destination : Destination, destination.isPrefix = true → ∀ maxTokenLength,
      parse (asciiBytes destination.render) maxTokenLength = .ok destination) ∧
    (∀ destination : Destination, destination.isPrefix = true → destination.kind = .ipv6Prefix →
      ∃ address, IsCanonicalAddress (addressGroups destination.address) address ∧
        asciiBytes destination.render =
          address ++ 47 :: numeralText destination.prefixLength.toNat) ∧
    (∀ (text : Bytes) (destination : Destination),
      parseIpv4Prefix text = .ok destination ∨ parseIpv6Prefix text = .ok destination →
      destination.isPrefix = true ∧
        maskHostBits destination.address destination.prefixLength.toNat = destination.address ∧
        ∀ maxTokenLength,
          parse (asciiBytes destination.render) maxTokenLength = .ok destination) ∧
    ∀ left right : Destination, left.isPrefix = true → right.isPrefix = true →
      (left.render = right.render ↔ left = right) := by
  refine ⟨fun _ isPrefix => parse_render isPrefix, fun _ => render_ipv6, ?_, ?_⟩
  · intro text destination accepted
    have isPrefix := isPrefix_of_parse accepted
    exact ⟨isPrefix, (prefix_fields isPrefix).2.2, parse_render isPrefix⟩
  · intro left right isPrefix isPrefix'
    refine ⟨fun same => ?_, fun same => by rw [same]⟩
    have read := parse_render isPrefix 0
    rw [same, parse_render isPrefix' 0] at read
    exact (Except.ok.inj read).symm

/-- The prefix 2001:db8::/32 is read back from its text. -/
theorem prefixText_exact_documentation :
    parse (asciiBytes (ofPrefix .ipv6Prefix (0x20010db8#128 <<< 96) 32 rfl (by decide)).render) 256 =
      .ok (ofPrefix .ipv6Prefix (0x20010db8#128 <<< 96) 32 rfl (by decide)) :=
  prefixText_exact.1 _ rfl 256

end Destination

end RouteFabric
