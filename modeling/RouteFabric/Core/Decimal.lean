import RouteFabric.Std.ByteReader
import RouteFabric.Std.Numerals

/-!
# Decimal texts

The reader and the writer of decimal numbers work on 64-bit words. The guard of the reader is a
division that rounds down; `decimalStep_eq_some` says that it refuses exactly the steps that
would wrap, and `parseU64Decimal_exact` follows by induction over the digits.
-/

namespace RouteFabric

open ByteReader Numerals

/-! ## Digits -/

def isDecimalDigit (char : UInt8) : Bool := 48 ≤ char && char ≤ 57

/-- The byte of a decimal digit. -/
def decimalChar (digit : Nat) : UInt8 := UInt8.ofNat (48 + digit)

theorem toNat_decimalChar {digit : Nat} (small : digit < 10) :
    (decimalChar digit).toNat = 48 + digit := by
  simp only [decimalChar, UInt8.toNat_ofNat']
  omega

theorem isDecimalDigit_iff {char : UInt8} :
    isDecimalDigit char = true ↔ 48 ≤ char.toNat ∧ char.toNat ≤ 57 := by
  simp [isDecimalDigit, UInt8.le_iff_toNat_le]

theorem isDecimalDigit_decimalChar {digit : Nat} (small : digit < 10) :
    isDecimalDigit (decimalChar digit) = true := by
  rw [isDecimalDigit_iff, toNat_decimalChar small]
  omega

theorem decimalChar_sub {char : UInt8} (digit : isDecimalDigit char = true) :
    decimalChar (char.toNat - 48) = char := by
  have bounds := isDecimalDigit_iff.mp digit
  apply UInt8.toNat_inj.mp
  rw [toNat_decimalChar (by omega)]
  omega

/-- A canonical decimal numeral: digits only, at least one, and no leading zero. -/
structure IsNumeral (text : Bytes) (number : Nat) : Prop where
  digits : ∀ char ∈ text, isDecimalDigit char = true
  canonical : Canonical (text.map fun char => char.toNat - 48)
  value : value 10 (text.map fun char => char.toNat - 48) = number

/-- The text of the canonical numeral of a number. -/
def numeralText (number : Nat) : Bytes := (write 10 number).map decimalChar

theorem digits_numeralText (number : Nat) :
    (numeralText number).map (fun char => char.toNat - 48) = write 10 number := by
  rw [numeralText, List.map_map]
  conv_rhs => rw [← List.map_id (write 10 number)]
  refine List.map_congr_left fun digit member => ?_
  have small := write_lt (by omega) number digit member
  rw [Function.comp_apply, toNat_decimalChar small]
  exact Nat.add_sub_cancel_left ..

theorem isNumeral_numeralText (number : Nat) : IsNumeral (numeralText number) number where
  digits char member := by
    obtain ⟨digit, written, rfl⟩ := List.mem_map.mp member
    exact isDecimalDigit_decimalChar (write_lt (by omega) number digit written)
  canonical := by
    rw [digits_numeralText]
    exact canonical_write (by omega) number
  value := by
    rw [digits_numeralText]
    exact value_write (by omega) number

/-- Every number has one canonical numeral. -/
theorem isNumeral_iff {text : Bytes} {number : Nat} :
    IsNumeral text number ↔ text = numeralText number := by
  constructor
  · intro numeral
    have small : ∀ digit ∈ text.map (fun char => char.toNat - 48), digit < 10 := by
      intro digit member
      obtain ⟨char, inText, rfl⟩ := List.mem_map.mp member
      have bounds := isDecimalDigit_iff.mp (numeral.digits char inText)
      omega
    rw [numeralText, ← numeral.value, write_value (by omega) small numeral.canonical, List.map_map]
    conv_lhs => rw [← List.map_id text]
    exact List.map_congr_left fun char member => (decimalChar_sub (numeral.digits char member)).symm
  · rintro rfl
    exact isNumeral_numeralText number

/-! ## 64-bit numbers -/

/-- The largest 64-bit word. -/
def maxWord : UInt64 := 0xFFFFFFFFFFFFFFFF

/-- One character of the loop, with the guard against wrapping. -/
def decimalStep (number : UInt64) (char : UInt8) : Option UInt64 :=
  if isDecimalDigit char = false then none
  else
    let digit := (char - 48).toUInt64
    if (maxWord - digit) / 10 < number then none else some (number * 10 + digit)

def parseU64Decimal (text : Bytes) (maxValue : UInt64) : Option UInt64 :=
  if text = [] ∨ 20 < text.length then none
  else if 1 < text.length ∧ text.head? = some 48 then none
  else match text.foldlM decimalStep 0 with
    | none => none
    | some number => if maxValue < number then none else some number

/-- The loop of the writer: it fills a buffer from the end. -/
def toDecimalFrom : Nat → UInt64 → Bytes → Bytes
  | 0, _, out => out
  | room + 1, number, out =>
      if number = 0 then out
      else toDecimalFrom room (number / 10) (decimalChar (number % 10).toNat :: out)

def toDecimal (number : UInt64) : Bytes :=
  if number = 0 then [48] else toDecimalFrom 24 number []

/-- A step is taken exactly when the character is a digit and the next number fits the word, and
it computes that number without wrapping. -/
theorem decimalStep_eq_some {number next : UInt64} {char : UInt8} :
    decimalStep number char = some next ↔ isDecimalDigit char = true ∧
      number.toNat * 10 + (char.toNat - 48) < 2 ^ 64 ∧
      next.toNat = number.toNat * 10 + (char.toNat - 48) := by
  unfold decimalStep
  by_cases digit : isDecimalDigit char = true
  · have bounds := isDecimalDigit_iff.mp digit
    have ten : char.toNat - 48 ≤ maxWord.toNat := by
      have : maxWord.toNat = 18446744073709551615 := by decide
      omega
    have lower : (48 : UInt8) ≤ char := UInt8.le_iff_toNat_le.mpr bounds.1
    have exact : (char - 48).toUInt64.toNat = char.toNat - 48 := by
      rw [UInt8.toNat_toUInt64, UInt8.toNat_sub_of_le _ _ lower]
      rfl
    have room : (maxWord - (char - 48).toUInt64).toNat = 18446744073709551615 - (char.toNat - 48) := by
      rw [UInt64.toNat_sub_of_le _ _ (UInt64.le_iff_toNat_le.mpr (by rw [exact]; exact ten)), exact]
      rfl
    have guard : (maxWord - (char - 48).toUInt64) / 10 < number ↔
        2 ^ 64 ≤ number.toNat * 10 + (char.toNat - 48) := by
      rw [UInt64.lt_iff_toNat_lt, UInt64.toNat_div, room]
      change (18446744073709551615 - (char.toNat - 48)) / 10 < number.toNat ↔ _
      omega
    rw [if_neg (by simp [digit])]
    simp only [digit, true_and, guard]
    split
    · rename_i wraps
      constructor
      · exact fun taken => nomatch taken
      · exact fun fits => absurd fits.1 (by omega)
    · rename_i fits
      have sum : (number * 10 + (char - 48).toUInt64).toNat =
          number.toNat * 10 + (char.toNat - 48) := by
        rw [UInt64.toNat_add, UInt64.toNat_mul, exact]
        change (number.toNat * 10 % 2 ^ 64 + (char.toNat - 48)) % 2 ^ 64 = _
        omega
      rw [Option.some.injEq, ← UInt64.toNat_inj, sum]
      constructor
      · exact fun same => ⟨by omega, same.symm⟩
      · exact fun same => same.2.symm
  · rw [if_pos (by simpa using digit)]
    simp [digit]

theorem le_foldl_digits (text : Bytes) (number : Nat) :
    number ≤ text.foldl (fun number char => number * 10 + (char.toNat - 48)) number := by
  induction text generalizing number with
  | nil => exact Nat.le_refl number
  | cons head rest ih =>
      have step : number ≤ number * 10 + (head.toNat - 48) := by omega
      exact step.trans (ih _)

theorem foldl_digits (text : Bytes) :
    text.foldl (fun number char => number * 10 + (char.toNat - 48)) 0 =
      value 10 (text.map fun char => char.toNat - 48) := by
  rw [value, List.foldl_map]

/-- The loop reads the digits of any text whose value fits the word, and no other. -/
theorem foldlM_decimalStep {text : Bytes} {start result : UInt64} :
    text.foldlM decimalStep start = some result ↔ (∀ char ∈ text, isDecimalDigit char = true) ∧
      (text.foldl (fun number char => number * 10 + (char.toNat - 48)) start.toNat) = result.toNat := by
  induction text generalizing start with
  | nil => simp [UInt64.toNat_inj]
  | cons char rest ih =>
      rw [List.foldlM_cons, Option.bind_eq_bind, Option.bind_eq_some_iff, List.forall_mem_cons,
        List.foldl_cons]
      constructor
      · rintro ⟨next, taken, others⟩
        obtain ⟨digit, -, value⟩ := decimalStep_eq_some.mp taken
        obtain ⟨digits, total⟩ := ih.mp others
        exact ⟨⟨digit, digits⟩, by rw [← value]; exact total⟩
      · rintro ⟨⟨digit, digits⟩, total⟩
        have fits : start.toNat * 10 + (char.toNat - 48) < 2 ^ 64 := by
          have := le_foldl_digits rest (start.toNat * 10 + (char.toNat - 48))
          have := result.toNat_lt
          omega
        have exact : (UInt64.ofNat (start.toNat * 10 + (char.toNat - 48))).toNat =
            start.toNat * 10 + (char.toNat - 48) := by
          rw [UInt64.toNat_ofNat', Nat.mod_eq_of_lt fits]
        exact ⟨_, decimalStep_eq_some.mpr ⟨digit, fits, exact⟩, ih.mpr ⟨digits, by rw [exact]; exact total⟩⟩

/-- The check against a leading zero, on the digits. -/
theorem leadingZero_iff {text : Bytes} (digits : ∀ char ∈ text, isDecimalDigit char = true)
    (nonempty : text ≠ []) :
    ¬ (1 < text.length ∧ text.head? = some 48) ↔
      Canonical (text.map fun char => char.toNat - 48) := by
  cases text with
  | nil => exact absurd rfl nonempty
  | cons head rest =>
      have bounds := isDecimalDigit_iff.mp (digits head List.mem_cons_self)
      have zero : head = 48 ↔ head.toNat - 48 = 0 := by
        rw [← UInt8.toNat_inj]
        change head.toNat = 48 ↔ _
        omega
      simp only [List.length_cons, List.head?_cons, Option.some.injEq, zero, List.map_cons]
      constructor
      · intro allowed
        refine ⟨by simp, fun starts => ?_⟩
        rw [List.head?_cons, Option.some.injEq] at starts
        simp only [List.length_cons, List.length_map]
        by_contra long
        exact allowed ⟨by omega, starts⟩
      · rintro canonical ⟨long, starts⟩
        have short := canonical.leading (by rw [List.head?_cons, starts])
        simp only [List.length_cons, List.length_map] at short
        omega

theorem parseU64Decimal_eq_some {text : Bytes} {maxValue result : UInt64} :
    parseU64Decimal text maxValue = some result ↔
      IsNumeral text result.toNat ∧ result.toNat ≤ maxValue.toNat := by
  unfold parseU64Decimal
  constructor
  · intro accepted
    split at accepted
    · cases accepted
    · rename_i sized
      split at accepted
      · cases accepted
      · rename_i leading
        split at accepted
        · cases accepted
        · rename_i number read
          split at accepted
          · cases accepted
          · rename_i bounded
            obtain rfl := Option.some.inj accepted
            obtain ⟨digits, value⟩ := foldlM_decimalStep.mp read
            refine ⟨⟨digits, (leadingZero_iff digits fun empty => sized (.inl empty)).mp leading, ?_⟩, ?_⟩
            · rw [← foldl_digits]
              exact value
            · rwa [UInt64.lt_iff_toNat_lt, Nat.not_lt] at bounded
  · rintro ⟨numeral, bounded⟩
    have nonempty : text ≠ [] := fun empty => numeral.canonical.nonempty (by rw [empty]; rfl)
    have short : text.length ≤ 20 := by
      rw [isNumeral_iff.mp numeral, numeralText, List.length_map]
      exact length_write_le (by omega) (result.toNat_lt.trans (by decide)) (by omega)
    have read : text.foldlM decimalStep 0 = some result :=
      foldlM_decimalStep.mpr ⟨numeral.digits, by
        change text.foldl _ 0 = _
        rw [foldl_digits]
        exact numeral.value⟩
    rw [if_neg (by simp [nonempty]; omega),
      if_neg ((leadingZero_iff numeral.digits nonempty).mpr numeral.canonical), read]
    simp only [ite_eq_right_iff, reduceCtorEq, imp_false, UInt64.lt_iff_toNat_lt]
    omega

/-- The writer fills in the digits of the number. -/
theorem toDecimalFrom_eq (room : Nat) {number : UInt64} (out : Bytes) (positive : number ≠ 0)
    (fits : number.toNat < 10 ^ room) :
    toDecimalFrom room number out = numeralText number.toNat ++ out := by
  induction room generalizing number out with
  | zero =>
      rw [pow_zero] at fits
      exact absurd (UInt64.toNat_inj.mp (show number.toNat = (0 : UInt64).toNat from by
        change number.toNat = 0
        omega)) positive
  | succ room ih =>
      rw [toDecimalFrom, if_neg positive]
      have last : (number % 10).toNat = number.toNat % 10 := UInt64.toNat_mod _ _
      have front : (number / 10).toNat = number.toNat / 10 := UInt64.toNat_div _ _
      by_cases single : number.toNat < 10
      · have done : number / 10 = 0 := by
          apply UInt64.toNat_inj.mp
          rw [front]
          change number.toNat / 10 = 0
          omega
        have stop : ∀ (room : Nat) (out : Bytes), toDecimalFrom room 0 out = out := by
          intro room out
          cases room <;> rfl
        rw [done, stop, numeralText, write_of_lt single, last, Nat.mod_eq_of_lt single]
        rfl
      · have more : number / 10 ≠ 0 := by
          intro zero
          have := congrArg UInt64.toNat zero
          rw [front] at this
          change number.toNat / 10 = 0 at this
          omega
        have shorter : (number / 10).toNat < 10 ^ room := by
          rw [front, Nat.div_lt_iff_lt_mul (by omega), ← pow_succ]
          exact fits
        rw [ih _ more shorter, front, last, numeralText, numeralText,
          write_of_le (by omega) (show 10 ≤ number.toNat by omega), List.map_append,
          List.append_assoc]
        rfl

/-- The writer writes the canonical numeral. -/
theorem toDecimal_eq (number : UInt64) : toDecimal number = numeralText number.toNat := by
  unfold toDecimal
  split
  · rename_i zero
    subst zero
    rw [numeralText, write_of_lt (by decide)]
    rfl
  · rename_i positive
    rw [toDecimalFrom_eq 24 [] positive (number.toNat_lt.trans (by decide)), List.append_nil]

/-- The reader accepts exactly the canonical numerals up to its bound, no number of its loop
wraps, and it reads back what the writer writes. -/
theorem parseU64Decimal_exact (text : Bytes) (maxValue : UInt64) :
    (∀ number : Nat, (∃ result, parseU64Decimal text maxValue = some result ∧ result.toNat = number) ↔
      IsNumeral text number ∧ number ≤ maxValue.toNat) ∧
    (∀ front char rest number next, text = front ++ char :: rest →
      front.foldlM decimalStep 0 = some number → decimalStep number char = some next →
      next.toNat = number.toNat * 10 + (char.toNat - 48)) ∧
    ∀ number : UInt64, parseU64Decimal (toDecimal number) maxWord = some number := by
  refine ⟨?_, ?_, ?_⟩
  · intro number
    constructor
    · rintro ⟨result, accepted, rfl⟩
      exact parseU64Decimal_eq_some.mp accepted
    · rintro ⟨numeral, bounded⟩
      have exact : (UInt64.ofNat number).toNat = number := by
        rw [UInt64.toNat_ofNat', Nat.mod_eq_of_lt (bounded.trans_lt maxValue.toNat_lt)]
      exact ⟨UInt64.ofNat number, parseU64Decimal_eq_some.mpr (by rw [exact]; exact ⟨numeral, bounded⟩),
        exact⟩
  · intro front char rest number next _ _ taken
    exact (decimalStep_eq_some.mp taken).2.2
  · intro number
    rw [parseU64Decimal_eq_some, toDecimal_eq]
    exact ⟨isNumeral_numeralText _, Nat.le_of_lt_succ number.toNat_lt⟩

/-- The step to the largest word takes its last digit and does not wrap. -/
theorem parseU64Decimal_exact_largest :
    maxWord.toNat = (1844674407370955161 : UInt64).toNat * 10 + ((53 : UInt8).toNat - 48) :=
  (parseU64Decimal_exact (numeralText 1844674407370955161 ++ [53]) maxWord).2.1
    (numeralText 1844674407370955161) 53 [] 1844674407370955161 maxWord rfl
    (foldlM_decimalStep.mpr ⟨(isNumeral_numeralText _).digits, by
      change List.foldl _ 0 _ = _
      rw [foldl_digits]
      exact (isNumeral_numeralText _).value⟩) (by decide)

end RouteFabric
