import RouteFabric.Core.Decimal
import Mathlib.Data.List.Forall2
import Mathlib.Data.List.TakeWhile

/-!
# IPv6 addresses as text

The scanner of an IPv6 address keeps the groups it has read and the place of the double colon.
The grammar is stated apart from it: runs of groups between single colons, at most one double
colon, and a dotted quad in place of the last two groups. The scanner reads the grammar and one
kind of text besides, a third colon after the double one; `parseIpv6Address_exact_iff` says so.
-/

namespace RouteFabric

open ByteReader Numerals

/-! ## Decimal fields -/

def decimalFieldStep (maxValue value : Nat) (char : UInt8) : Option Nat :=
  if isDecimalDigit char = false then none
  else
    let value := value * 10 + (char.toNat - 48)
    if maxValue < value then none else some value

def parseDecimalField (text : Bytes) (maxValue : Nat) : Option Nat :=
  if text = [] ∨ 3 < text.length then none
  else if 1 < text.length ∧ text.head? = some 48 then none
  else text.foldlM (decimalFieldStep maxValue) 0

theorem foldlM_decimalFieldStep {text : Bytes} {maxValue start result : Nat}
    (small : start ≤ maxValue) :
    text.foldlM (decimalFieldStep maxValue) start = some result ↔
      (∀ char ∈ text, isDecimalDigit char = true) ∧ result ≤ maxValue ∧
        text.foldl (fun number char => number * 10 + (char.toNat - 48)) start = result := by
  induction text generalizing start with
  | nil =>
      simp only [List.foldlM_nil, List.foldl_nil, List.not_mem_nil, false_implies, implies_true,
        true_and]
      constructor
      · intro same
        obtain rfl := Option.some.inj same
        exact ⟨small, rfl⟩
      · rintro ⟨-, rfl⟩
        rfl
  | cons char rest ih =>
      rw [List.foldlM_cons, Option.bind_eq_bind, Option.bind_eq_some_iff, List.forall_mem_cons,
        List.foldl_cons]
      constructor
      · rintro ⟨next, taken, others⟩
        unfold decimalFieldStep at taken
        split at taken
        · cases taken
        · rename_i digit
          simp only at taken
          split at taken
          · cases taken
          · rename_i fits
            obtain rfl := Option.some.inj taken
            obtain ⟨digits, bounded, value⟩ := (ih (by omega)).mp others
            exact ⟨⟨by simpa using digit, digits⟩, bounded, value⟩
      · rintro ⟨⟨digit, digits⟩, bounded, value⟩
        have fits := le_foldl_digits rest (start * 10 + (char.toNat - 48))
        refine ⟨start * 10 + (char.toNat - 48), ?_, (ih (by omega)).mpr ⟨digits, bounded, value⟩⟩
        rw [decimalFieldStep, if_neg (by simp [digit])]
        exact if_neg (by omega)

/-- A field is the canonical numeral of a number up to the bound. -/
theorem parseDecimalField_eq_some {text : Bytes} {maxValue result : Nat} (bound : maxValue ≤ 999) :
    parseDecimalField text maxValue = some result ↔ IsNumeral text result ∧ result ≤ maxValue := by
  unfold parseDecimalField
  constructor
  · intro accepted
    split at accepted
    · cases accepted
    · rename_i sized
      split at accepted
      · cases accepted
      · rename_i leading
        obtain ⟨digits, bounded, value⟩ := (foldlM_decimalFieldStep (Nat.zero_le _)).mp accepted
        have nonempty : text ≠ [] := fun empty => sized (.inl empty)
        refine ⟨⟨digits, (leadingZero_iff digits nonempty).mp leading, ?_⟩, bounded⟩
        rw [← foldl_digits, value]
  · rintro ⟨numeral, bounded⟩
    have nonempty : text ≠ [] := fun empty => numeral.canonical.nonempty (by rw [empty]; rfl)
    have short : text.length ≤ 3 := by
      rw [isNumeral_iff.mp numeral, numeralText, List.length_map]
      exact length_write_le (by omega) (show result < 10 ^ 3 by omega) (by omega)
    rw [if_neg (by simp [nonempty]; omega),
      if_neg ((leadingZero_iff numeral.digits nonempty).mpr numeral.canonical),
      foldlM_decimalFieldStep (Nat.zero_le _), foldl_digits]
    exact ⟨numeral.digits, bounded, numeral.value⟩

/-! ## Dotted quads -/

/-- One part of a dotted address; the text of a refusal is the one of the IPv4 parser. -/
def octetStep (octets : List Nat) (part : Bytes) : Except String (List Nat) :=
  if 4 ≤ octets.length then .error "too many octets"
  else match parseDecimalField part 255 with
    | none => .error "each octet must be a decimal value in [0,255] without leading zeros"
    | some value => .ok (octets ++ [value])

/-- The loop over the parts between dots, shared by both address parsers. -/
def readOctets (text : Bytes) : Except String (List Nat) :=
  (text.splitOn 46).foldlM octetStep []

/-- A number up to 255 in decimal, without leading zeros. -/
structure IsOctet (text : Bytes) (octet : Nat) : Prop where
  numeral : IsNumeral text octet
  bounded : octet ≤ 255

/-- Four octets between dots. -/
structure DottedQuad (text : Bytes) (octets : List Nat) : Prop where
  parts : List.Forall₂ IsOctet (text.splitOn 46) octets
  four : octets.length = 4

theorem octetStep_eq_ok {octets result : List Nat} {part : Bytes} :
    octetStep octets part = .ok result ↔
      octets.length < 4 ∧ ∃ octet, IsOctet part octet ∧ result = octets ++ [octet] := by
  unfold octetStep
  split
  · simp
    omega
  · rename_i room
    split
    · rename_i refused
      simp only [reduceCtorEq, false_iff, not_and, not_exists]
      intro _ octet isOctet _
      rw [(parseDecimalField_eq_some (by decide)).mpr ⟨isOctet.numeral, isOctet.bounded⟩] at refused
      cases refused
    · rename_i value accepted
      obtain ⟨numeral, bounded⟩ := (parseDecimalField_eq_some (by decide)).mp accepted
      constructor
      · intro same
        obtain rfl := Except.ok.inj same
        exact ⟨by omega, value, ⟨numeral, bounded⟩, rfl⟩
      · rintro ⟨-, octet, isOctet, rfl⟩
        have same : octet = value := by
          rw [← isOctet.numeral.value, ← numeral.value]
        rw [same]

theorem foldlM_octetStep {parts : List Bytes} {start result : List Nat} :
    parts.foldlM octetStep start = .ok result ↔ (parts = [] ∨ result.length ≤ 4) ∧
      ∃ octets, List.Forall₂ IsOctet parts octets ∧ result = start ++ octets := by
  induction parts generalizing start with
  | nil =>
      constructor
      · intro same
        obtain rfl := Except.ok.inj same
        exact ⟨.inl rfl, [], .nil, (List.append_nil _).symm⟩
      · rintro ⟨-, octets, pairs, rfl⟩
        cases pairs
        rw [List.append_nil]
        rfl
  | cons part rest ih =>
      constructor
      · intro folded
        cases stepped : octetStep start part with
        | error refused =>
            rw [List.foldlM_cons, stepped] at folded
            cases folded
        | ok next =>
            rw [List.foldlM_cons, stepped] at folded
            obtain ⟨short, octets, pairs, rfl⟩ := ih.mp folded
            obtain ⟨room, octet, isOctet, rfl⟩ := octetStep_eq_ok.mp stepped
            refine ⟨.inr ?_, octet :: octets, .cons isOctet pairs, by simp⟩
            rcases short with rfl | short
            · cases pairs
              simp
              omega
            · exact short
      · rintro ⟨short, octets, pairs, rfl⟩
        cases pairs with
        | @cons _ octet _ others isOctet pairs =>
            have short : (start ++ octet :: others).length ≤ 4 := by simpa using short
            have stepped : octetStep start part = .ok (start ++ [octet]) :=
              octetStep_eq_ok.mpr ⟨by simp at short; omega, octet, isOctet, rfl⟩
            rw [List.foldlM_cons, stepped]
            exact ih.mpr ⟨.inr short, others, pairs, by simp⟩

/-- The loop accepts four octets exactly where the text is a dotted quad. -/
theorem readOctets_iff {text : Bytes} {octets : List Nat} :
    readOctets text = .ok octets ∧ octets.length = 4 ↔ DottedQuad text octets := by
  rw [readOctets, foldlM_octetStep]
  constructor
  · rintro ⟨⟨-, read, pairs, rfl⟩, four⟩
    exact ⟨pairs, four⟩
  · intro quad
    exact ⟨⟨.inr quad.four.le, octets, quad.parts, rfl⟩, quad.four⟩

/-! ## Groups -/

def hexDigit (char : UInt8) : Option Nat :=
  if 48 ≤ char ∧ char ≤ 57 then some (char.toNat - 48)
  else if 97 ≤ char ∧ char ≤ 102 then some (char.toNat - 97 + 10)
  else if 65 ≤ char ∧ char ≤ 70 then some (char.toNat - 65 + 10)
  else none

/-- A field without a dot; four digits fit the 16 bits of a group. -/
def parseHexField (field : Bytes) : Option Nat :=
  if field = [] ∨ 4 < field.length then none
  else field.foldlM (fun value char => (hexDigit char).map fun digit => value <<< 4 ||| digit) 0

/-- One to four hexadecimal digits of either case. -/
structure IsHexGroup (text : Bytes) (group : Nat) : Prop where
  nonempty : text ≠ []
  short : text.length ≤ 4
  digits : ∃ digits, List.Forall₂ (fun char digit => hexDigit char = some digit) text digits ∧
    value 16 digits = group

/-- A dotted quad in the place of two groups. -/
def IsQuadTail (text : Bytes) (groups : List Nat) : Prop :=
  ∃ first second third fourth, DottedQuad text [first, second, third, fourth] ∧
    groups = [first * 256 + second, third * 256 + fourth]

theorem hexDigit_lt {char : UInt8} {digit : Nat} (read : hexDigit char = some digit) :
    digit < 16 := by
  simp only [hexDigit, UInt8.le_iff_toNat_le, UInt8.reduceToNat] at read
  split at read
  · cases read
    omega
  · split at read
    · cases read
      omega
    · split at read
      · cases read
        omega
      · cases read

/-- The characters of the grammar that are no hexadecimal digits. -/
theorem hexDigit_separators : hexDigit 58 = none ∧ hexDigit 46 = none ∧ hexDigit 37 = none := by
  decide

theorem parseHexField_eq_some {field : Bytes} {group : Nat} :
    parseHexField field = some group ↔ IsHexGroup field group := by
  have fold : ∀ (text : Bytes) (start : Nat),
      text.foldlM (fun value char => (hexDigit char).map fun digit => value <<< 4 ||| digit) start =
          some group ↔
        ∃ digits, List.Forall₂ (fun char digit => hexDigit char = some digit) text digits ∧
          digits.foldl (fun number digit => number * 16 + digit) start = group := by
    intro text
    induction text with
    | nil =>
        intro start
        simp
    | cons char rest ih =>
        intro start
        rw [List.foldlM_cons, Option.bind_eq_bind, Option.bind_eq_some_iff]
        constructor
        · rintro ⟨next, read, others⟩
          obtain ⟨digit, isDigit, rfl⟩ := Option.map_eq_some_iff.mp read
          obtain ⟨digits, pairs, total⟩ := (ih _).mp others
          refine ⟨digit :: digits, .cons isDigit pairs, ?_⟩
          rw [List.foldl_cons, ← total, ← Nat.shiftLeft_add_eq_or_of_lt (hexDigit_lt isDigit),
            Nat.shiftLeft_eq]
        · rintro ⟨digits, pairs, total⟩
          cases pairs with
          | @cons _ digit _ others isDigit pairs =>
              refine ⟨start <<< 4 ||| digit, by rw [isDigit]; rfl, (ih _).mpr ⟨others, pairs, ?_⟩⟩
              rw [← total, ← Nat.shiftLeft_add_eq_or_of_lt (hexDigit_lt isDigit), Nat.shiftLeft_eq]
              rfl
  unfold parseHexField
  constructor
  · intro accepted
    split at accepted
    · cases accepted
    · rename_i sized
      exact ⟨fun empty => sized (.inl empty), Nat.le_of_not_lt fun long => sized (.inr long),
        (fold field 0).mp accepted⟩
  · intro isGroup
    rw [if_neg (by simp [isGroup.nonempty, isGroup.short])]
    exact (fold field 0).mpr isGroup.digits

theorem exists_of_forall₂ {α β : Type} {relation : α → β → Prop} {items : List α}
    {others : List β} (pairs : List.Forall₂ relation items others) :
    ∀ item ∈ items, ∃ other, relation item other := by
  induction pairs with
  | nil => simp
  | cons related _ ih => exact List.forall_mem_cons.mpr ⟨⟨_, related⟩, ih⟩

theorem IsHexGroup.not_mem {text : Bytes} {group : Nat} (isGroup : IsHexGroup text group)
    {char : UInt8} (separator : hexDigit char = none) : char ∉ text := by
  intro member
  obtain ⟨digits, pairs, -⟩ := isGroup.digits
  obtain ⟨digit, read⟩ := exists_of_forall₂ pairs char member
  rw [separator] at read
  cases read

theorem mem_intercalate {separator char : UInt8} {parts : List Bytes}
    (member : char ∈ [separator].intercalate parts) :
    char = separator ∨ ∃ part ∈ parts, char ∈ part := by
  induction parts with
  | nil => cases member
  | cons part rest ih =>
      cases rest with
      | nil =>
          rw [List.intercalate_singleton] at member
          exact .inr ⟨part, List.mem_singleton_self _, member⟩
      | cons next others =>
          rw [List.intercalate_cons_cons] at member
          rcases List.mem_append.mp member with first | later
          · rcases List.mem_append.mp first with inPart | same
            · exact .inr ⟨part, List.mem_cons_self, inPart⟩
            · exact .inl (List.mem_singleton.mp same)
          · rcases ih later with same | ⟨other, inRest, inPart⟩
            · exact .inl same
            · exact .inr ⟨other, List.mem_cons_of_mem _ inRest, inPart⟩

/-- A dotted quad has digits and dots only. -/
theorem DottedQuad.chars {text : Bytes} {octets : List Nat} (quad : DottedQuad text octets) :
    ∀ char ∈ text, char = 46 ∨ isDecimalDigit char = true := by
  intro char member
  rw [← @List.intercalate_splitOn _ text _ _ 46] at member
  rcases mem_intercalate member with dot | ⟨part, inText, inPart⟩
  · exact .inl dot
  · obtain ⟨octet, isOctet⟩ := exists_of_forall₂ quad.parts part inText
    exact .inr (isOctet.numeral.digits char inPart)

theorem DottedQuad.dot_mem {text : Bytes} {octets : List Nat} (quad : DottedQuad text octets) :
    46 ∈ text := by
  by_contra missing
  have long := quad.parts.length_eq
  rw [List.splitOn_eq_singleton missing, quad.four] at long
  cases long

theorem DottedQuad.not_mem {text : Bytes} {octets : List Nat} (quad : DottedQuad text octets)
    {char : UInt8} (other : char ≠ 46 ∧ isDecimalDigit char = false) : char ∉ text := by
  intro member
  rcases quad.chars char member with dot | digit
  · exact other.1 dot
  · rw [other.2] at digit
    cases digit

/-! ## The scanner -/

/-- What the scanner has read: the groups, and how many of them stood before the double colon. -/
structure Ipv6Scan where
  groups : List Nat := []
  double : Option Nat := none
deriving DecidableEq

/-- The two groups of a dotted quad; it is accepted only where the text ends. -/
def readQuadTail (field : Bytes) : Option (List Nat) :=
  match readOctets field with
  | .ok [first, second, third, fourth] => some [first <<< 8 ||| second, third <<< 8 ||| fourth]
  | _ => none

/-- The loop over the text. A single colon asks for a group before it and for more text after it,
but not for a group right before it. -/
def scanIpv6 : Bytes → Ipv6Scan → Option Ipv6Scan
  | [], scan => some scan
  | char :: rest, scan =>
      if char = 58 then
        if rest.head? = some 58 then
          if scan.double.isSome then none
          else scanIpv6 (rest.drop 1) { scan with double := some scan.groups.length }
        else if scan.groups = [] ∨ rest = [] then none
        else scanIpv6 rest scan
      else
        let field := char :: rest.takeWhile (· ≠ 58)
        let after := rest.dropWhile (· ≠ 58)
        if 46 ∈ field then
          if after ≠ [] then none
          else (readQuadTail field).map fun groups => { scan with groups := scan.groups ++ groups }
        else match parseHexField field with
          | none => none
          | some group =>
              if 8 < scan.groups.length + 1 then none
              else scanIpv6 after { scan with groups := scan.groups ++ [group] }
termination_by text => text.length
decreasing_by
  · simp only [List.length_drop, List.length_cons]
    omega
  · exact Nat.lt_succ_self _
  · exact Nat.lt_succ_of_le (List.dropWhile_sublist _).length_le

/-- The bytes of the groups, most significant first. -/
def groupBytes (groups : List Nat) : Bytes :=
  groups.flatMap fun group => [UInt8.ofNat (group >>> 8), UInt8.ofNat group]

def parseIpv6Address (text : Bytes) : Option Bytes :=
  if text = [] ∨ 58 ∉ text then none
  else if 37 ∈ text then none
  else match scanIpv6 text {} with
    | none => none
    | some scan =>
        if 8 < scan.groups.length then none
        else match scan.double with
          | none => if scan.groups.length ≠ 8 then none else some (groupBytes scan.groups)
          | some double =>
              if 8 ≤ scan.groups.length then none
              else some (groupBytes (scan.groups.take double ++
                List.replicate (8 - scan.groups.length) 0 ++ scan.groups.drop double))

/-! ## The grammar -/

/-- Groups between single colons; the last may be a dotted quad where `tail` allows it. -/
inductive GroupRun (tail : Bool) : Bytes → List Nat → Prop
  | group {text : Bytes} {group : Nat} (isGroup : IsHexGroup text group) : GroupRun tail text [group]
  | quad {text : Bytes} {groups : List Nat} (allowed : tail = true)
      (isQuad : IsQuadTail text groups) : GroupRun tail text groups
  | cons {text rest : Bytes} {group : Nat} {groups : List Nat} (isGroup : IsHexGroup text group)
      (run : GroupRun tail rest groups) : GroupRun tail (text ++ 58 :: rest) (group :: groups)

/-- One side of a double colon: nothing, or a run of groups. -/
inductive GroupSide (tail : Bool) : Bytes → List Nat → Prop
  | nil : GroupSide tail [] []
  | run {text : Bytes} {groups : List Nat} (run : GroupRun tail text groups) :
      GroupSide tail text groups

/-- An address: eight groups, or fewer with a double colon in the place of zero groups. -/
inductive Ipv6Text : Bytes → List Nat → Prop
  | full {text : Bytes} {groups : List Nat} (run : GroupRun true text groups)
      (eight : groups.length = 8) : Ipv6Text text groups
  | elided {left right : Bytes} {before after : List Nat} (leading : GroupSide false left before)
      (trailing : GroupSide true right after) (fewer : before.length + after.length < 8) :
      Ipv6Text (left ++ 58 :: 58 :: right)
        (before ++ List.replicate (8 - (before.length + after.length)) 0 ++ after)

/-- The one kind of text outside of the grammar that the scanner reads: a third colon between the
double colon and the groups after it. -/
def ExtraColon (text : Bytes) : Prop :=
  ∃ left right before after, GroupRun false left before ∧ GroupRun true right after ∧
    before.length + after.length < 8 ∧ text = left ++ 58 :: 58 :: 58 :: right

theorem readQuadTail_eq_some {field : Bytes} {groups : List Nat} :
    readQuadTail field = some groups ↔ IsQuadTail field groups := by
  have join : ∀ high low : Nat, low ≤ 255 → high <<< 8 ||| low = high * 256 + low := by
    intro high low small
    rw [← Nat.shiftLeft_add_eq_or_of_lt (by omega), Nat.shiftLeft_eq]
  have bounded : ∀ {text : Bytes} {octets : List Nat}, DottedQuad text octets →
      ∀ octet ∈ octets, octet ≤ 255 := by
    intro text octets quad octet member
    obtain ⟨part, isOctet⟩ := exists_of_forall₂ quad.parts.flip octet member
    exact isOctet.bounded
  unfold readQuadTail
  constructor
  · intro accepted
    split at accepted
    · rename_i first second third fourth read
      obtain rfl := Option.some.inj accepted
      have quad := readOctets_iff.mp ⟨read, rfl⟩
      refine ⟨first, second, third, fourth, quad, ?_⟩
      rw [join _ _ (bounded quad second (by simp)), join _ _ (bounded quad fourth (by simp))]
    · cases accepted
  · rintro ⟨first, second, third, fourth, quad, rfl⟩
    rw [(readOctets_iff.mpr quad).1]
    simp only [join _ _ (bounded quad second (by simp)), join _ _ (bounded quad fourth (by simp))]

/-! ## Steps of the scanner -/

/-- Where a field ends: at the end of the text or before a colon. -/
theorem takeWhile_field {field after : Bytes} (noColon : 58 ∉ field)
    (ends : after = [] ∨ after.head? = some 58) :
    (field ++ after).takeWhile (· ≠ 58) = field ∧ (field ++ after).dropWhile (· ≠ 58) = after := by
  have inside : ∀ char ∈ field, decide (char ≠ 58) = true := by
    intro char member
    exact decide_eq_true fun colon => noColon (colon ▸ member)
  rw [List.takeWhile_append_of_pos inside, List.dropWhile_append_of_pos inside]
  cases after with
  | nil => simp
  | cons head rest =>
      obtain rfl : head = 58 := by simpa using ends
      simp

/-- What the scanner does with a field. -/
theorem scanIpv6_field {field after : Bytes} {scan : Ipv6Scan} (nonempty : field ≠ [])
    (noColon : 58 ∉ field) (ends : after = [] ∨ after.head? = some 58) :
    scanIpv6 (field ++ after) scan =
      if 46 ∈ field then
        if after ≠ [] then none
        else (readQuadTail field).map fun groups => { scan with groups := scan.groups ++ groups }
      else match parseHexField field with
        | none => none
        | some group =>
            if 8 < scan.groups.length + 1 then none
            else scanIpv6 after { scan with groups := scan.groups ++ [group] } := by
  cases field with
  | nil => exact absurd rfl nonempty
  | cons char rest =>
      have first : char ≠ 58 := fun colon => noColon (colon ▸ List.mem_cons_self)
      have others : 58 ∉ rest := fun member => noColon (List.mem_cons_of_mem _ member)
      obtain ⟨taken, dropped⟩ := takeWhile_field others ends
      rw [List.cons_append, scanIpv6, if_neg first]
      simp only [taken, dropped]

theorem scanIpv6_group {field after : Bytes} {scan : Ipv6Scan} {group : Nat}
    (isGroup : IsHexGroup field group) (ends : after = [] ∨ after.head? = some 58)
    (room : scan.groups.length < 8) :
    scanIpv6 (field ++ after) scan =
      scanIpv6 after { scan with groups := scan.groups ++ [group] } := by
  rw [scanIpv6_field isGroup.nonempty (isGroup.not_mem hexDigit_separators.1) ends,
    if_neg (isGroup.not_mem hexDigit_separators.2.1), parseHexField_eq_some.mpr isGroup]
  exact if_neg (by omega)

theorem scanIpv6_quad {field : Bytes} {scan : Ipv6Scan} {groups : List Nat}
    (isQuad : IsQuadTail field groups) :
    scanIpv6 field scan = some { scan with groups := scan.groups ++ groups } := by
  have ⟨_, _, _, _, quad, _⟩ := isQuad
  have dot := quad.dot_mem
  have step := @scanIpv6_field field [] scan (List.ne_nil_of_mem dot) (quad.not_mem (by decide))
    (.inl rfl)
  rw [List.append_nil, if_pos dot, if_neg (by simp), readQuadTail_eq_some.mpr isQuad] at step
  exact step

theorem scanIpv6_double (after : Bytes) {scan : Ipv6Scan} (first : scan.double = none) :
    scanIpv6 (58 :: 58 :: after) scan =
      scanIpv6 after { scan with double := some scan.groups.length } := by
  rw [scanIpv6]
  simp [first]

theorem scanIpv6_colon {after : Bytes} {scan : Ipv6Scan} (read : scan.groups ≠ [])
    (more : after ≠ []) (single : after.head? ≠ some 58) :
    scanIpv6 (58 :: after) scan = scanIpv6 after scan := by
  rw [scanIpv6]
  simp [read, more, single]

/-- A text that starts at a field: the field is a group before the end or a colon, or it is a
dotted quad and ends the text. -/
theorem scanIpv6_field_cases {char : UInt8} {rest : Bytes} {scan result : Ipv6Scan}
    (atField : char ≠ 58) (accepted : scanIpv6 (char :: rest) scan = some result) :
    (∃ field after group, char :: rest = field ++ after ∧ IsHexGroup field group ∧
      (after = [] ∨ after.head? = some 58) ∧ scan.groups.length < 8 ∧
      scanIpv6 after { scan with groups := scan.groups ++ [group] } = some result) ∨
    ∃ groups, IsQuadTail (char :: rest) groups ∧
      result = { scan with groups := scan.groups ++ groups } := by
  have parts : char :: rest = (char :: rest.takeWhile (· ≠ 58)) ++ rest.dropWhile (· ≠ 58) := by
    rw [List.cons_append, List.takeWhile_append_dropWhile]
  have ends : rest.dropWhile (· ≠ 58) = [] ∨ (rest.dropWhile (· ≠ 58)).head? = some 58 := by
    cases left : rest.dropWhile (· ≠ 58) with
    | nil => exact .inl rfl
    | cons head more =>
        have stop := List.head?_dropWhile_not (· ≠ (58 : UInt8)) rest
        rw [left] at stop
        simpa using stop
  have noColon : 58 ∉ char :: rest.takeWhile (· ≠ 58) := by
    intro member
    rcases List.mem_cons.mp member with colon | member
    · exact atField colon.symm
    · exact absurd (List.mem_takeWhile_imp member) (by simp)
  rw [parts, scanIpv6_field (List.cons_ne_nil _ _) noColon ends] at accepted
  split at accepted
  · split at accepted
    · cases accepted
    · rename_i last
      have whole : char :: rest.takeWhile (· ≠ 58) = char :: rest := by
        rw [parts, not_not.mp last, List.append_nil]
      obtain ⟨groups, read, rfl⟩ := Option.map_eq_some_iff.mp accepted
      rw [whole] at read
      exact .inr ⟨groups, readQuadTail_eq_some.mp read, rfl⟩
  · split at accepted
    · cases accepted
    · rename_i group read
      split at accepted
      · cases accepted
      · exact .inl ⟨_, _, group, parts, parseHexField_eq_some.mp read, ends, by omega, accepted⟩

/-! ## Runs of groups -/

namespace GroupRun

/-- A run starts with a character that is no colon. -/
theorem starts {tail : Bool} {text : Bytes} {groups : List Nat} (run : GroupRun tail text groups) :
    text ≠ [] ∧ text.head? ≠ some 58 := by
  have field : ∀ {part : Bytes}, part ≠ [] → 58 ∉ part → ∀ rest : Bytes,
      part ++ rest ≠ [] ∧ (part ++ rest).head? ≠ some 58 := by
    intro part nonempty noColon rest
    cases part with
    | nil => exact absurd rfl nonempty
    | cons head others =>
        refine ⟨by simp, fun colon => noColon ?_⟩
        rw [← Option.some.inj colon]
        exact List.mem_cons_self
  cases run with
  | group isGroup =>
      simpa using field isGroup.nonempty (isGroup.not_mem hexDigit_separators.1) []
  | quad _ isQuad =>
      obtain ⟨_, _, _, _, quad, -⟩ := isQuad
      simpa using field (List.ne_nil_of_mem quad.dot_mem) (quad.not_mem (by decide)) []
  | cons isGroup _ => exact field isGroup.nonempty (isGroup.not_mem hexDigit_separators.1) _

theorem groups_ne_nil {tail : Bool} {text : Bytes} {groups : List Nat}
    (run : GroupRun tail text groups) : groups ≠ [] := by
  cases run with
  | group _ => exact List.cons_ne_nil _ _
  | quad _ isQuad =>
      obtain ⟨_, _, _, _, _, rfl⟩ := isQuad
      exact List.cons_ne_nil _ _
  | cons _ _ => exact List.cons_ne_nil _ _

/-- The scanner reads a run, at the end of the text or, without a quad, before a colon. -/
theorem scan {tail : Bool} {text after : Bytes} {groups : List Nat}
    (run : GroupRun tail text groups)
    (ends : after = [] ∨ (tail = false ∧ after.head? = some 58)) {scan : Ipv6Scan}
    (room : scan.groups.length + groups.length ≤ 8) :
    scanIpv6 (text ++ after) scan =
      scanIpv6 after { scan with groups := scan.groups ++ groups } := by
  induction run generalizing scan with
  | group isGroup =>
      exact scanIpv6_group isGroup (ends.imp id And.right) (by simp at room; omega)
  | quad allowed isQuad =>
      rcases ends with rfl | ⟨noQuad, -⟩
      · rw [List.append_nil, scanIpv6_quad isQuad, scanIpv6]
      · rw [allowed] at noQuad
        cases noQuad
  | @cons field rest group groups isGroup run ih =>
      rw [List.length_cons] at room
      have colon : (58 :: (rest ++ after)).head? = some 58 := rfl
      obtain ⟨nonempty, single⟩ := run.starts
      have single : (rest ++ after).head? ≠ some 58 := by
        rwa [List.head?_append_of_ne_nil _ nonempty]
      rw [List.append_assoc, List.cons_append, scanIpv6_group isGroup (.inr colon) (by omega),
        scanIpv6_colon (by simp) (by simp [nonempty]) single,
        ih (by simp only [List.length_append, List.length_singleton]; omega)]
      simp

end GroupRun

/-! ## What the scanner accepts -/

theorem scanIpv6_colon_cases {rest : Bytes} {scan result : Ipv6Scan}
    (accepted : scanIpv6 (58 :: rest) scan = some result) :
    (∃ more, rest = 58 :: more ∧ scan.double = none ∧
      scanIpv6 more { scan with double := some scan.groups.length } = some result) ∨
    ∃ char more, rest = char :: more ∧ char ≠ 58 ∧ scan.groups ≠ [] ∧
      scanIpv6 (char :: more) scan = some result := by
  rw [scanIpv6, if_pos rfl] at accepted
  cases rest with
  | nil => simp at accepted
  | cons char more =>
      by_cases double : char = 58
      · subst double
        rw [List.head?_cons, if_pos rfl] at accepted
        split at accepted
        · cases accepted
        · rename_i first
          exact .inl ⟨more, rfl, by simpa using first, accepted⟩
      · rw [List.head?_cons, if_neg (by simpa using double)] at accepted
        split at accepted
        · cases accepted
        · rename_i allowed
          exact .inr ⟨char, more, rfl, double, fun empty => allowed (.inl empty), accepted⟩

/-- From a field on, the scanner reads a run up to the end of the text or the first double colon. -/
theorem scanIpv6_run_cases {char : UInt8} {rest : Bytes} {scan result : Ipv6Scan}
    (atField : char ≠ 58) (accepted : scanIpv6 (char :: rest) scan = some result) :
    (∃ groups, GroupRun true (char :: rest) groups ∧
      result = { scan with groups := scan.groups ++ groups }) ∨
    ∃ text groups more, char :: rest = text ++ 58 :: 58 :: more ∧ GroupRun false text groups ∧
      scan.double = none ∧
      scanIpv6 more ⟨scan.groups ++ groups, some (scan.groups ++ groups).length⟩ = some result := by
  induction length : (char :: rest).length using Nat.strong_induction_on
    generalizing char rest scan with
  | _ length ih =>
      subst length
      rcases scanIpv6_field_cases atField accepted with
        ⟨field, after, group, parts, isGroup, ends, room, continued⟩ | ⟨groups, isQuad, rfl⟩
      · cases after with
        | nil =>
            rw [scanIpv6] at continued
            rw [parts, List.append_nil]
            exact .inl ⟨[group], .group isGroup, (Option.some.inj continued).symm⟩
        | cons colon tail =>
            obtain rfl : colon = 58 := by simpa using ends
            rcases scanIpv6_colon_cases continued with
              ⟨more, rfl, first, continued⟩ | ⟨next, more, rfl, nextField, -, continued⟩
            · exact .inr ⟨field, [group], more, parts, .group isGroup, first, continued⟩
            · have shorter : (next :: more).length < (char :: rest).length := by
                rw [parts]
                simp only [List.length_append, List.length_cons]
                omega
              rcases ih _ shorter nextField continued rfl with
                ⟨groups, run, rfl⟩ | ⟨text, groups, others, split, run, first, continued⟩
              · refine .inl ⟨group :: groups, ?_, by simp⟩
                rw [parts]
                exact .cons isGroup run
              · refine .inr ⟨field ++ 58 :: text, group :: groups, others, ?_, .cons isGroup run,
                  first, ?_⟩
                · rw [parts, split]
                  simp
                · simpa using continued
      · exact .inl ⟨groups, .quad rfl isQuad, rfl⟩

/-- After the double colon: one side of it, or a further colon and a run. -/
theorem scanIpv6_after_double {more : Bytes} {before : List Nat} {result : Ipv6Scan}
    (accepted : scanIpv6 more ⟨before, some before.length⟩ = some result) :
    ∃ right after, result = ⟨before ++ after, some before.length⟩ ∧
      ((more = right ∧ GroupSide true right after) ∨
        (more = 58 :: right ∧ before ≠ [] ∧ GroupRun true right after)) := by
  have field : ∀ {char : UInt8} {rest : Bytes}, char ≠ 58 →
      scanIpv6 (char :: rest) ⟨before, some before.length⟩ = some result →
      ∃ after, GroupRun true (char :: rest) after ∧ result = ⟨before ++ after, some before.length⟩ := by
    intro char rest atField read
    rcases scanIpv6_run_cases atField read with ⟨after, run, rfl⟩ | ⟨_, _, _, _, _, first, _⟩
    · exact ⟨after, run, rfl⟩
    · cases first
  cases more with
  | nil =>
      rw [scanIpv6] at accepted
      exact ⟨[], [], by simpa using (Option.some.inj accepted).symm, .inl ⟨rfl, .nil⟩⟩
  | cons char rest =>
      by_cases colon : char = 58
      · subst colon
        rcases scanIpv6_colon_cases accepted with
          ⟨_, _, first, _⟩ | ⟨next, others, rfl, nextField, read, continued⟩
        · cases first
        · obtain ⟨after, run, rfl⟩ := field nextField continued
          exact ⟨_, after, rfl, .inr ⟨rfl, read, run⟩⟩
      · obtain ⟨after, run, rfl⟩ := field colon accepted
        exact ⟨_, after, rfl, .inl ⟨rfl, .run run⟩⟩

/-- Every text the scanner reads is a run, two sides of a double colon, or two runs around three
colons. -/
theorem scanIpv6_accepts {text : Bytes} {result : Ipv6Scan} (nonempty : text ≠ [])
    (accepted : scanIpv6 text {} = some result) :
    (GroupRun true text result.groups ∧ result.double = none) ∨
    ∃ left right before after, result = ⟨before ++ after, some before.length⟩ ∧
      ((GroupSide false left before ∧ GroupSide true right after ∧ text = left ++ 58 :: 58 :: right) ∨
        (GroupRun false left before ∧ GroupRun true right after ∧
          text = left ++ 58 :: 58 :: 58 :: right)) := by
  cases text with
  | nil => exact absurd rfl nonempty
  | cons char rest =>
      by_cases colon : char = 58
      · subst colon
        rcases scanIpv6_colon_cases accepted with ⟨more, rfl, -, continued⟩ | ⟨_, _, _, _, read, _⟩
        · obtain ⟨right, after, rfl, ⟨rfl, side⟩ | ⟨rfl, read, run⟩⟩ :=
            @scanIpv6_after_double more [] result continued
          · exact .inr ⟨[], more, [], after, rfl, .inl ⟨.nil, side, rfl⟩⟩
          · exact absurd rfl read
        · exact absurd rfl read
      · rcases scanIpv6_run_cases colon accepted with
          ⟨groups, run, rfl⟩ | ⟨left, before, more, parts, run, -, continued⟩
        · exact .inl ⟨run, rfl⟩
        · obtain ⟨right, after, rfl, ⟨rfl, side⟩ | ⟨rfl, -, trailing⟩⟩ :=
            scanIpv6_after_double continued
          · exact .inr ⟨left, more, before, after, rfl, .inl ⟨.run run, side, parts⟩⟩
          · exact .inr ⟨left, right, before, after, rfl, .inr ⟨run, trailing, parts⟩⟩

/-! ## The parser and the grammar -/

theorem GroupRun.not_mem_percent {tail : Bool} {text : Bytes} {groups : List Nat}
    (run : GroupRun tail text groups) : 37 ∉ text := by
  induction run with
  | group isGroup => exact isGroup.not_mem hexDigit_separators.2.2
  | quad _ isQuad =>
      obtain ⟨_, _, _, _, quad, -⟩ := isQuad
      exact quad.not_mem (by decide)
  | cons isGroup _ ih =>
      simp [isGroup.not_mem hexDigit_separators.2.2, ih]

/-- No part of a run between colons is empty. -/
theorem GroupRun.parts {tail : Bool} {text : Bytes} {groups : List Nat}
    (run : GroupRun tail text groups) : [] ∉ text.splitOn 58 := by
  induction run with
  | group isGroup =>
      rw [List.splitOn_eq_singleton (isGroup.not_mem hexDigit_separators.1), List.mem_singleton]
      exact isGroup.nonempty.symm
  | quad _ isQuad =>
      obtain ⟨_, _, _, _, quad, -⟩ := isQuad
      rw [List.splitOn_eq_singleton (quad.not_mem (by decide)), List.mem_singleton]
      exact (List.ne_nil_of_mem quad.dot_mem).symm
  | cons isGroup _ ih =>
      rw [List.splitOn_append_cons_self_of_not_mem (isGroup.not_mem hexDigit_separators.1),
        List.mem_cons, not_or]
      exact ⟨isGroup.nonempty.symm, ih⟩

theorem GroupRun.ends {tail : Bool} {text : Bytes} {groups : List Nat}
    (run : GroupRun tail text groups) : text.getLast? ≠ some 58 := by
  intro colon
  obtain ⟨front, rfl⟩ := List.getLast?_eq_some_iff.mp colon
  apply run.parts
  rw [List.splitOn_append_cons_self]
  simp

/-- Eight groups need a colon. -/
theorem GroupRun.colon_mem {tail : Bool} {text : Bytes} {groups : List Nat}
    (run : GroupRun tail text groups) (several : 2 < groups.length) : 58 ∈ text := by
  cases run with
  | group _ => simp at several
  | quad _ isQuad =>
      obtain ⟨_, _, _, _, _, rfl⟩ := isQuad
      simp at several
  | cons _ _ => simp

theorem GroupSide.run_of_ne_nil {tail : Bool} {text : Bytes} {groups : List Nat}
    (side : GroupSide tail text groups) (nonempty : groups ≠ []) : GroupRun tail text groups := by
  cases side with
  | nil => exact absurd rfl nonempty
  | run run => exact run

theorem GroupSide.not_mem_percent {tail : Bool} {text : Bytes} {groups : List Nat}
    (side : GroupSide tail text groups) : 37 ∉ text := by
  cases side with
  | nil => exact List.not_mem_nil
  | run run => exact run.not_mem_percent

/-- The grammar meets the checks before the scanner. -/
theorem Ipv6Text.chars {text : Bytes} {groups : List Nat} (address : Ipv6Text text groups) :
    58 ∈ text ∧ 37 ∉ text := by
  cases address with
  | full run eight => exact ⟨run.colon_mem (by omega), run.not_mem_percent⟩
  | elided leading trailing fewer =>
      simp [leading.not_mem_percent, trailing.not_mem_percent]

/-- What the parser does with a text that the scanner reads. -/
theorem parseIpv6Address_of_scan {text : Bytes} {scan : Ipv6Scan}
    (chars : 58 ∈ text ∧ 37 ∉ text) (accepted : scanIpv6 text {} = some scan) :
    parseIpv6Address text =
      match scan.double with
      | none => if scan.groups.length ≠ 8 then none else some (groupBytes scan.groups)
      | some double =>
          if 8 ≤ scan.groups.length then none
          else some (groupBytes (scan.groups.take double ++
            List.replicate (8 - scan.groups.length) 0 ++ scan.groups.drop double)) := by
  rw [parseIpv6Address, if_neg (by simp [chars.1, List.ne_nil_of_mem chars.1]), if_neg chars.2,
    accepted]
  simp only
  split
  · rename_i long
    split
    · rw [if_pos (by omega)]
    · rw [if_pos (by omega)]
  · rfl

/-- The scanner reads the left side of a double colon. -/
theorem GroupSide.scan_left {left after : Bytes} {before : List Nat}
    (side : GroupSide false left before) (room : before.length ≤ 8) :
    scanIpv6 (left ++ 58 :: 58 :: after) {} = scanIpv6 after ⟨before, some before.length⟩ := by
  cases side with
  | nil => exact scanIpv6_double after rfl
  | run run =>
      rw [run.scan (.inr ⟨rfl, rfl⟩) (by simpa using room), scanIpv6_double after rfl]
      simp

theorem GroupSide.scan_right {right : Bytes} {after : List Nat} {scan : Ipv6Scan}
    (side : GroupSide true right after) (room : scan.groups.length + after.length ≤ 8) :
    scanIpv6 right scan = some { scan with groups := scan.groups ++ after } := by
  cases side with
  | nil => rw [scanIpv6, List.append_nil]
  | run run =>
      have read := run.scan (.inl rfl) room
      rwa [List.append_nil, scanIpv6] at read

/-- The parser accepts the grammar and gives each text the value of the grammar. -/
theorem Ipv6Text.parse {text : Bytes} {groups : List Nat} (address : Ipv6Text text groups) :
    parseIpv6Address text = some (groupBytes groups) := by
  have chars := address.chars
  cases address with
  | full run eight =>
      have read := @GroupSide.scan_right _ _ {} (.run run) (by simp [eight])
      rw [parseIpv6Address_of_scan chars read]
      simp [eight]
  | elided leading trailing fewer =>
      rw [parseIpv6Address_of_scan chars ((leading.scan_left (by omega)).trans
        (trailing.scan_right (by simp only; omega)))]
      simp only [List.length_append, List.take_left, List.drop_left]
      exact if_neg (by omega)

/-- The parser accepts a third colon, and reads the text as if it were not there. -/
theorem ExtraColon.parse {text : Bytes} (extra : ExtraColon text) :
    (parseIpv6Address text).isSome = true := by
  obtain ⟨left, right, before, after, leading, trailing, fewer, rfl⟩ := extra
  have chars : 58 ∈ left ++ 58 :: 58 :: 58 :: right ∧ 37 ∉ left ++ 58 :: 58 :: 58 :: right := by
    simp [leading.not_mem_percent, trailing.not_mem_percent]
  have colon : scanIpv6 (58 :: right) ⟨before, some before.length⟩ =
      scanIpv6 right ⟨before, some before.length⟩ :=
    scanIpv6_colon leading.groups_ne_nil trailing.starts.1 trailing.starts.2
  rw [parseIpv6Address_of_scan chars (((GroupSide.run leading).scan_left (by omega)).trans
    (colon.trans ((GroupSide.run trailing).scan_right (by simp only; omega))))]
  simp only
  rw [if_neg (by simp; omega)]
  rfl

/-- A text with a third colon is outside of the grammar: two of its parts between colons are
empty, and neither is the first or the last. -/
theorem ExtraColon.not_ipv6Text {text : Bytes} (extra : ExtraColon text) (groups : List Nat) :
    ¬ Ipv6Text text groups := by
  obtain ⟨left, right, before, after, leading, trailing, -, same⟩ := extra
  have two : (text.splitOn 58).count [] = 2 := by
    have colons : left ++ 58 :: 58 :: 58 :: right = left ++ 58 :: ([] ++ 58 :: ([] ++ 58 :: right)) := rfl
    rw [same, colons, List.splitOn_append_cons_self, List.splitOn_append_cons_self,
      List.splitOn_append_cons_self, List.splitOn_nil]
    simp [List.count_eq_zero.mpr leading.parts, List.count_eq_zero.mpr trailing.parts]
  intro address
  cases address with
  | full run _ =>
      rw [List.count_eq_zero.mpr run.parts] at two
      cases two
  | @elided first last _ _ opening closing _ =>
      cases opening with
      | nil =>
          have head := congrArg List.head? same
          rw [List.head?_append_of_ne_nil _ leading.starts.1] at head
          exact leading.starts.2 head.symm
      | run opening =>
          cases closing with
          | nil =>
              have final := congrArg List.getLast? same
              have tail : (left ++ 58 :: 58 :: 58 :: right).getLast? = right.getLast? := by
                rw [show left ++ 58 :: 58 :: 58 :: right = (left ++ [58, 58, 58]) ++ right by simp]
                exact List.getLast?_append_of_ne_nil _ trailing.starts.1
              rw [tail] at final
              exact trailing.ends (by rw [← final]; simp)
          | run closing =>
              have colons : first ++ 58 :: 58 :: last = first ++ 58 :: ([] ++ 58 :: last) := rfl
              rw [colons, List.splitOn_append_cons_self, List.splitOn_append_cons_self,
                List.splitOn_nil] at two
              simp [List.count_eq_zero.mpr opening.parts,
                List.count_eq_zero.mpr closing.parts] at two

/-- Every text the parser accepts is in the grammar or has the third colon. -/
theorem ipv6Text_of_parse {text bytes : Bytes} (accepted : parseIpv6Address text = some bytes) :
    (∃ groups, Ipv6Text text groups) ∨ ExtraColon text := by
  have chars : 58 ∈ text ∧ 37 ∉ text := by
    unfold parseIpv6Address at accepted
    split at accepted
    · cases accepted
    · rename_i colon
      split at accepted
      · cases accepted
      · rename_i zone
        exact ⟨not_not.mp fun missing => colon (.inr missing), zone⟩
  cases read : scanIpv6 text {} with
  | none =>
      simp only [parseIpv6Address, read] at accepted
      split at accepted <;> (try split at accepted) <;> cases accepted
  | some scan =>
      rw [parseIpv6Address_of_scan chars read] at accepted
      rcases scanIpv6_accepts (List.ne_nil_of_mem chars.1) read with
        ⟨run, single⟩ | ⟨left, right, before, after, rfl, sides⟩
      · rw [single] at accepted
        simp only at accepted
        split at accepted
        · cases accepted
        · rename_i eight
          exact .inl ⟨_, .full run (not_not.mp eight)⟩
      · simp only at accepted
        split at accepted
        · cases accepted
        · rename_i fewer
          rw [List.length_append] at fewer
          rcases sides with ⟨leading, trailing, rfl⟩ | ⟨leading, trailing, rfl⟩
          · exact .inl ⟨_, .elided leading trailing (by omega)⟩
          · exact .inr ⟨left, right, before, after, leading, trailing, by omega, rfl⟩

/-- The parser reads a text as the grammar says exactly where no third colon follows a double
colon between two runs of groups. -/
theorem parseIpv6Address_exact_iff (text : Bytes) :
    (∀ bytes, parseIpv6Address text = some bytes ↔
      ∃ groups, Ipv6Text text groups ∧ bytes = groupBytes groups) ↔ ¬ ExtraColon text := by
  constructor
  · intro exact extra
    obtain ⟨bytes, accepted⟩ := Option.isSome_iff_exists.mp extra.parse
    obtain ⟨groups, address, -⟩ := (exact bytes).mp accepted
    exact extra.not_ipv6Text groups address
  · intro plain bytes
    constructor
    · intro accepted
      obtain ⟨groups, address⟩ := (ipv6Text_of_parse accepted).resolve_right plain
      rw [address.parse] at accepted
      exact ⟨groups, address, (Option.some.inj accepted).symm⟩
    · rintro ⟨groups, address, rfl⟩
      exact address.parse

/-- The text "1:::2" is outside of the grammar, and the parser reads it as "1::2". -/
theorem parseIpv6Address_extra_colon :
    parseIpv6Address [49, 58, 58, 58, 50] =
        some [0, 1, 0, 0, 0, 0, 0, 0, 0, 0, 0, 0, 0, 0, 0, 2] ∧
      ∀ groups, ¬ Ipv6Text [49, 58, 58, 58, 50] groups := by
  have digit : ∀ (char : UInt8) (number : Nat), hexDigit char = some number →
      GroupRun true [char] [number] ∧ GroupRun false [char] [number] := by
    intro char number read
    have isGroup : IsHexGroup [char] number :=
      ⟨by simp, by simp, [number], .cons read .nil, value_singleton number⟩
    exact ⟨.group isGroup, .group isGroup⟩
  have extra : ExtraColon [49, 58, 58, 58, 50] :=
    ⟨[49], [50], [1], [2], (digit 49 1 rfl).2, (digit 50 2 rfl).1, by decide, rfl⟩
  exact ⟨by decide +kernel, extra.not_ipv6Text⟩

end RouteFabric
