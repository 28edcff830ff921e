import Mathlib.Data.List.Basic
import Mathlib.Data.List.Induction
import Mathlib.Algebra.Order.Ring.Nat

/-!
# Positional numerals

Numerals over any base, most significant digit first, as readers and writers meet them. Every
number has exactly one canonical numeral, the one without a leading zero.
-/

namespace Numerals

/-- The number that digits stand for. -/
def value (base : Nat) (digits : List Nat) : Nat :=
  digits.foldl (fun number digit => number * base + digit) 0

/-- Digits that are not empty and start with a zero only when there is no other digit. -/
structure Canonical (digits : List Nat) : Prop where
  nonempty : digits ≠ []
  leading : digits.head? = some 0 → digits.length = 1

/-- The digits of a number, without a leading zero. -/
def write (base number : Nat) : List Nat :=
  if 1 < base ∧ base ≤ number then write base (number / base) ++ [number % base] else [number]
termination_by number
decreasing_by exact Nat.div_lt_self (by omega) (by omega)

section

variable {base : Nat}

@[simp] theorem value_nil : value base [] = 0 := rfl

@[simp] theorem value_singleton (digit : Nat) : value base [digit] = digit := by
  simp [value]

@[simp] theorem value_concat (digits : List Nat) (digit : Nat) :
    value base (digits ++ [digit]) = value base digits * base + digit := by
  simp [value]

theorem write_of_lt {number : Nat} (small : number < base) : write base number = [number] := by
  rw [write, if_neg (by omega)]

theorem write_ne_nil (number : Nat) : write base number ≠ [] := by
  rw [write]
  split <;> simp

variable (large : 1 < base)

include large

theorem write_of_le {number : Nat} (big : base ≤ number) :
    write base number = write base (number / base) ++ [number % base] := by
  rw [write, if_pos ⟨large, big⟩]

/-- Writing a number and reading the digits gives the number. -/
theorem value_write (number : Nat) : value base (write base number) = number := by
  induction number using Nat.strong_induction_on with
  | _ number ih =>
      by_cases small : number < base
      · rw [write_of_lt small, value_singleton]
      · have shorter : number / base < number := Nat.div_lt_self (by omega) large
        rw [write_of_le large (by omega), value_concat, ih _ shorter, Nat.mul_comm,
          Nat.div_add_mod]

theorem write_lt (number : Nat) : ∀ digit ∈ write base number, digit < base := by
  induction number using Nat.strong_induction_on with
  | _ number ih =>
      intro digit member
      by_cases small : number < base
      · rw [write_of_lt small, List.mem_singleton] at member
        omega
      · rw [write_of_le large (by omega), List.mem_append, List.mem_singleton] at member
        rcases member with front | rfl
        · exact ih _ (Nat.div_lt_self (by omega) large) digit front
        · exact Nat.mod_lt _ (by omega)

/-- The first digit that is written is zero only for zero. -/
theorem head?_write {number : Nat} (positive : 0 < number) :
    (write base number).head? ≠ some 0 := by
  induction number using Nat.strong_induction_on with
  | _ number ih =>
      by_cases small : number < base
      · rw [write_of_lt small, List.head?_cons, ne_eq, Option.some.injEq]
        omega
      · rw [write_of_le large (by omega), List.head?_append]
        have shorter : number / base < number := Nat.div_lt_self positive large
        have left : 0 < number / base := Nat.div_pos (by omega) (by omega)
        cases front : (write base (number / base)).head? with
        | none => exact absurd (List.head?_eq_none_iff.mp front) (write_ne_nil _)
        | some digit =>
            rw [Option.some_or, ← front]
            exact ih _ shorter left

theorem canonical_write (number : Nat) : Canonical (write base number) where
  nonempty := write_ne_nil number
  leading starts := by
    by_cases zero : number = 0
    · rw [write_of_lt (by omega), List.length_singleton]
    · exact absurd starts (head?_write large (by omega))

theorem length_write_le {number bound : Nat} (small : number < base ^ bound) (positive : 0 < bound) :
    (write base number).length ≤ bound := by
  induction bound generalizing number with
  | zero => omega
  | succ bound ih =>
      by_cases digit : number < base
      · rw [write_of_lt digit]
        simp
      · rw [write_of_le large (by omega), List.length_append, List.length_singleton]
        have fits : number / base < base ^ bound := by
          rw [Nat.div_lt_iff_lt_mul (by omega), ← pow_succ]
          exact small
        have more : 0 < bound := by
          rcases Nat.eq_zero_or_pos bound with rfl | more
          · simp at fits
            omega
          · exact more
        have := ih fits more
        omega

/-- Canonical digits are the ones that writing their value gives. -/
theorem write_value {digits : List Nat} (small : ∀ digit ∈ digits, digit < base)
    (canonical : Canonical digits) : write base (value base digits) = digits := by
  induction digits using List.reverseRecOn with
  | nil => exact absurd rfl canonical.nonempty
  | append_singleton front last ih =>
      have lastSmall : last < base := small last (by simp)
      rw [value_concat]
      by_cases only : front = []
      · subst only
        rw [value_nil, Nat.zero_mul, Nat.zero_add, write_of_lt lastSmall]
        rfl
      · have frontSmall : ∀ digit ∈ front, digit < base := fun digit member =>
          small digit (List.mem_append_left _ member)
        have starts : front.head? ≠ some 0 := by
          intro zero
          have long := canonical.leading (by rw [List.head?_append, zero, Option.some_or])
          have := List.length_pos_iff.mpr only
          rw [List.length_append, List.length_singleton] at long
          omega
        have written := ih frontSmall ⟨only, fun zero => absurd zero starts⟩
        have positive : 0 < value base front := by
          rcases Nat.eq_zero_or_pos (value base front) with zero | positive
          · rw [zero, write_of_lt (by omega)] at written
            exact absurd (by rw [← written]; rfl) starts
          · exact positive
        have atLeast : base ≤ value base front * base + last := by
          have := Nat.le_mul_of_pos_left base positive
          omega
        have quotient : (value base front * base + last) / base = value base front := by
          rw [Nat.mul_comm, Nat.mul_add_div (by omega), Nat.div_eq_of_lt lastSmall, Nat.add_zero]
        have remainder : (value base front * base + last) % base = last := by
          rw [Nat.mul_comm, Nat.mul_add_mod, Nat.mod_eq_of_lt lastSmall]
        rw [write_of_le large atLeast, quotient, remainder, written]

/-- The digits that the core library writes. -/
theorem toDigits_eq (number : Nat) :
    Nat.toDigits base number = (write base number).map Nat.digitChar := by
  induction number using Nat.strong_induction_on with
  | _ number ih =>
      by_cases small : number < base
      · rw [Nat.toDigits_of_lt_base small, write_of_lt small, List.map_singleton]
      · rw [Nat.toDigits_of_base_le large (by omega), write_of_le large (by omega),
          ih _ (Nat.div_lt_self (by omega) large), List.map_append, List.map_singleton]

end

end Numerals
