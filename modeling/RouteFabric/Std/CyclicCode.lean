import RouteFabric.Std.ByteReader
import Mathlib.Logic.Function.Iterate

/-!
# Reflected cyclic redundancy codes

A register of `w` bits is divided, bit by bit and least significant bit first, by the
polynomial whose low coefficients are `poly`. One division step is linear over exclusive
or. When the top bit of `poly` is set the step loses nothing either: the bit it shifts out
of the register is the bit that appears at the top.

`absorb_eq` gives the register after a run of bytes no longer than itself in closed form,
and `absorb_window` draws the consequence for error detection: two messages that differ
only inside such a run leave different registers, whatever precedes and follows it.
-/

namespace CyclicCode

open ByteReader

variable {w : Nat} {poly : BitVec w}

/-! ## One division step -/

/-- One bit of the division. -/
def divide (poly register : BitVec w) : BitVec w :=
  if register.getLsbD 0 then (register >>> 1) ^^^ poly else register >>> 1

theorem divide_eq (register : BitVec w) :
    divide poly register = (register >>> 1) ^^^ (if register.getLsbD 0 then poly else 0#w) := by
  unfold divide
  split <;> simp

theorem divide_xor (left right : BitVec w) :
    divide poly (left ^^^ right) = divide poly left ^^^ divide poly right := by
  -- The polynomial is added once, twice or not at all, and twice is not at all.
  have carried : ∀ first second : Bool, (if first ^^ second then poly else 0#w) =
      (if first then poly else 0#w) ^^^ (if second then poly else 0#w) := by
    intro first second
    cases first <;> cases second <;> simp
  rw [divide_eq, divide_eq, divide_eq, BitVec.ushiftRight_xor_distrib, BitVec.getLsbD_xor, carried]
  ac_rfl

/-- A register whose low bit is clear is only shifted. -/
theorem divide_of_even {register : BitVec w} (even : register.getLsbD 0 = false) :
    divide poly register = register >>> 1 := by
  simp [divide, even]

/-- The bit shifted out is read off the top of the result. -/
theorem divide_msb (top : poly.msb = true) (register : BitVec w) :
    (divide poly register).msb = register.getLsbD 0 := by
  have shifted : (register >>> 1).msb = false := by
    rw [BitVec.msb_eq_getLsbD_last, BitVec.getLsbD_ushiftRight]
    exact BitVec.getLsbD_of_ge _ _ (by omega)
  cases low : register.getLsbD 0 with
  | false => rw [divide_of_even low, shifted]
  | true => simp [divide, low, BitVec.msb_xor, shifted, top]

theorem divide_eq_zero (top : poly.msb = true) {register : BitVec w}
    (zero : divide poly register = 0#w) : register = 0#w := by
  have low : register.getLsbD 0 = false := by
    rw [← divide_msb top register, zero, BitVec.msb_zero]
  rw [divide_of_even low] at zero
  apply BitVec.eq_of_getLsbD_eq
  intro index _
  rw [BitVec.getLsbD_zero]
  cases index with
  | zero => exact low
  | succ index =>
      have bit := congrArg (fun bits => bits.getLsbD index) zero
      simpa [Nat.add_comm] using bit

/-! ## Several steps -/

/-- `count` steps of the division. -/
def steps (poly : BitVec w) (count : Nat) (register : BitVec w) : BitVec w :=
  (divide poly)^[count] register

theorem steps_zero (register : BitVec w) : steps poly 0 register = register := rfl

theorem steps_succ (count : Nat) (register : BitVec w) :
    steps poly (count + 1) register = steps poly count (divide poly register) :=
  Function.iterate_succ_apply _ _ _

theorem steps_add (first second : Nat) (register : BitVec w) :
    steps poly (first + second) register = steps poly first (steps poly second register) :=
  Function.iterate_add_apply _ _ _ _

theorem steps_xor (count : Nat) (left right : BitVec w) :
    steps poly count (left ^^^ right) = steps poly count left ^^^ steps poly count right := by
  induction count generalizing left right with
  | zero => rfl
  | succ count ih => rw [steps_succ, steps_succ, steps_succ, divide_xor, ih]

theorem steps_eq_zero (top : poly.msb = true) (count : Nat) {register : BitVec w}
    (zero : steps poly count register = 0#w) : register = 0#w := by
  induction count generalizing register with
  | zero => exact zero
  | succ count ih =>
      rw [steps_succ] at zero
      exact divide_eq_zero top (ih zero)

theorem steps_injective (top : poly.msb = true) (count : Nat) {left right : BitVec w}
    (same : steps poly count left = steps poly count right) : left = right := by
  apply BitVec.xor_eq_zero_iff.mp
  apply steps_eq_zero top count
  rw [steps_xor, same, BitVec.xor_self]

/-- Steps undo a shift to the left that lost no bit. -/
theorem steps_shiftLeft (count : Nat) {register : BitVec w}
    (clear : ∀ index, w ≤ index + count → register.getLsbD index = false) :
    steps poly count (register <<< count) = register := by
  induction count with
  | zero => rw [steps_zero, BitVec.shiftLeft_zero]
  | succ count ih =>
      have even : (register <<< (count + 1)).getLsbD 0 = false := by
        simp [BitVec.getLsbD_shiftLeft]
      have halved : (register <<< (count + 1)) >>> 1 = register <<< count := by
        apply BitVec.eq_of_getLsbD_eq
        intro index inside
        rw [BitVec.getLsbD_ushiftRight, BitVec.getLsbD_shiftLeft, BitVec.getLsbD_shiftLeft,
          show 1 + index - (count + 1) = index - count by omega]
        -- Only the top bit was lost on the way up, and it is clear.
        by_cases last : 1 + index < w
        · have sameSide : (1 + index < count + 1) ↔ index < count := by omega
          simp [last, inside, sameSide]
        · rw [clear (index - count) (by omega)]
          simp
      rw [steps_succ, divide_of_even even, halved]
      exact ih fun index high => clear index (by omega)

/-! ## Absorbing bytes -/

/-- A byte is added to the low end of the register and divided out. -/
def absorbByte (poly register : BitVec w) (value : UInt8) : BitVec w :=
  steps poly 8 (register ^^^ value.toBitVec.setWidth w)

/-- The register after a run of bytes. -/
def absorb (poly register : BitVec w) (bytes : Bytes) : BitVec w :=
  bytes.foldl (absorbByte poly) register

theorem absorb_append (register : BitVec w) (front back : Bytes) :
    absorb poly register (front ++ back) = absorb poly (absorb poly register front) back :=
  List.foldl_append

theorem absorbByte_injective (top : poly.msb = true) {left right : BitVec w} {value : UInt8}
    (same : absorbByte poly left value = absorbByte poly right value) : left = right := by
  have added := steps_injective top 8 same
  simpa using congrArg (fun bits => bits ^^^ value.toBitVec.setWidth w) added

/-- What follows two different registers keeps them different. -/
theorem absorb_injective (top : poly.msb = true) {left right : BitVec w} (bytes : Bytes)
    (same : absorb poly left bytes = absorb poly right bytes) : left = right := by
  induction bytes generalizing left right with
  | nil => exact same
  | cons value rest ih => exact absorbByte_injective top (ih same)

/-- The first byte of a little-endian word is its low end. -/
theorem ofNat_leValue_cons (value : UInt8) (rest : Bytes) :
    BitVec.ofNat w (leValue (value :: rest)) =
      value.toBitVec.setWidth w ^^^ (BitVec.ofNat w (leValue rest) <<< 8) := by
  have small : value.toNat < 2 ^ 8 := value.toNat_lt
  apply BitVec.eq_of_getLsbD_eq
  intro index inside
  rw [BitVec.getLsbD_ofNat, leValue, Nat.add_comm, show (256 : Nat) = 2 ^ 8 by rfl,
    Nat.testBit_two_pow_mul_add _ small, BitVec.getLsbD_xor, BitVec.getLsbD_setWidth,
    BitVec.getLsbD_shiftLeft, BitVec.getLsbD_ofNat]
  by_cases low : index < 8
  · simp [low, inside, BitVec.getLsbD, UInt8.toNat_toBitVec]
  · have high : value.toBitVec.getLsbD index = false := BitVec.getLsbD_of_ge _ _ (by omega)
    simp [low, inside, high, show index - 8 < w by omega]

/-- A run no longer than the register is added as one little-endian word. -/
theorem absorb_eq (register : BitVec w) (bytes : Bytes) (fits : 8 * bytes.length ≤ w) :
    absorb poly register bytes =
      steps poly (8 * bytes.length) (register ^^^ BitVec.ofNat w (leValue bytes)) := by
  induction bytes generalizing register with
  | nil => simp [absorb, leValue, steps_zero]
  | cons value rest ih =>
      simp only [List.length_cons] at fits
      have small := leValue_lt rest
      have bound : leValue rest < 2 ^ (8 * rest.length) := by
        rw [pow_mul]
        exact small
      have tail : steps poly 8 (BitVec.ofNat w (leValue rest) <<< 8) = BitVec.ofNat w (leValue rest) := by
        apply steps_shiftLeft
        intro index high
        rw [BitVec.getLsbD_ofNat]
        rw [Nat.testBit_lt_two_pow (lt_of_lt_of_le bound (Nat.pow_le_pow_right (by omega) (by omega)))]
        simp
      have word : BitVec.ofNat w (leValue (value :: rest)) =
          value.toBitVec.setWidth w ^^^ (BitVec.ofNat w (leValue rest) <<< 8) :=
        ofNat_leValue_cons value rest
      calc absorb poly register (value :: rest)
          = absorb poly (absorbByte poly register value) rest := rfl
        _ = steps poly (8 * rest.length)
              (steps poly 8 (register ^^^ value.toBitVec.setWidth w) ^^^
                steps poly 8 (BitVec.ofNat w (leValue rest) <<< 8)) := by
              rw [ih _ (by omega), tail, absorbByte]
        _ = steps poly (8 * rest.length + 8) (register ^^^ BitVec.ofNat w (leValue (value :: rest))) := by
              rw [← steps_xor, ← steps_add, word, BitVec.xor_assoc]
        _ = _ := by rw [List.length_cons, Nat.mul_succ]

/-- Two runs of one length that fits the register, with the same bytes before and after them,
leave the same register only when they are equal. -/
theorem absorb_window (top : poly.msb = true) {register : BitVec w} (front : Bytes)
    {window window' : Bytes} (back : Bytes) (length : window'.length = window.length)
    (fits : 8 * window.length ≤ w)
    (same : absorb poly register (front ++ window ++ back) =
      absorb poly register (front ++ window' ++ back)) : window = window' := by
  simp only [absorb_append] at same
  have closed := absorb_injective top back same
  rw [absorb_eq _ window fits, absorb_eq _ window' (by omega), length] at closed
  have added := steps_injective top _ closed
  have words : BitVec.ofNat w (leValue window) = BitVec.ofNat w (leValue window') := by
    have cancelled := congrArg (fun bits => absorb poly register front ^^^ bits) added
    simpa [← BitVec.xor_assoc] using cancelled
  have small : ∀ bytes : Bytes, bytes.length = window.length → leValue bytes < 2 ^ w := by
    intro bytes bytesLength
    calc leValue bytes < 256 ^ bytes.length := leValue_lt bytes
      _ = 2 ^ (8 * window.length) := by
        rw [bytesLength, pow_mul]
        rfl
      _ ≤ 2 ^ w := Nat.pow_le_pow_right (by omega) fits
  have values : leValue window = leValue window' := by
    have numbers := congrArg BitVec.toNat words
    rwa [BitVec.toNat_ofNat, BitVec.toNat_ofNat, Nat.mod_eq_of_lt (small window rfl),
      Nat.mod_eq_of_lt (small window' length)] at numbers
  rw [← leBytes_leValue window, ← leBytes_leValue window', length, values]

end CyclicCode

/-! ## Changes confined to a window -/

namespace ByteReader

/-- The second image is the first with some of the `count` bytes from `first` on changed. -/
structure ConfinedChange (first count : Nat) (image changed : Bytes) : Prop where
  length : changed.length = image.length
  outside : ∀ index, index < first ∨ first + count ≤ index → changed[index]? = image[index]?
  differs : changed ≠ image

namespace ConfinedChange

variable {first count : Nat} {image changed : Bytes}

/-- A slice clear of the window is as it was. -/
theorem slice (change : ConfinedChange first count image changed) {start size : Nat}
    (clear : start + size ≤ first ∨ first + count ≤ start) :
    (changed.drop start).take size = (image.drop start).take size := by
  apply List.ext_getElem?
  intro index
  rw [List.getElem?_take, List.getElem?_take, List.getElem?_drop, List.getElem?_drop]
  split
  · exact change.outside (start + index) (by omega)
  · rfl

theorem take_eq (change : ConfinedChange first count image changed) {size : Nat}
    (clear : size ≤ first) : changed.take size = image.take size := by
  have same := @slice first count image changed change 0 size (by omega)
  simpa using same

theorem drop_eq (change : ConfinedChange first count image changed) {start : Nat}
    (clear : first + count ≤ start) : changed.drop start = image.drop start := by
  have same := @slice first count image changed change start image.length (by omega)
  have length := change.length
  rwa [List.take_of_length_le (by rw [List.length_drop]; omega),
    List.take_of_length_le (by rw [List.length_drop]; omega)] at same

/-- Restricted to what begins before the window, the change is still a change. -/
theorem drop (change : ConfinedChange first count image changed) {start : Nat}
    (before : start ≤ first) :
    ConfinedChange (first - start) count (image.drop start) (changed.drop start) where
  length := by simp [change.length]
  outside := by
    intro index clear
    rw [List.getElem?_drop, List.getElem?_drop]
    exact change.outside (start + index) (by omega)
  differs := by
    intro same
    apply change.differs
    rw [← List.take_append_drop start changed, ← List.take_append_drop start image, same,
      change.take_eq before]

/-- Restricted to what ends after the window, the change is still a change. -/
theorem take (change : ConfinedChange first count image changed) {size : Nat}
    (after : first + count ≤ size) :
    ConfinedChange first count (image.take size) (changed.take size) where
  length := by simp [change.length]
  outside := by
    intro index clear
    rw [List.getElem?_take, List.getElem?_take]
    split
    · exact change.outside index clear
    · rfl
  differs := by
    intro same
    apply change.differs
    rw [← List.take_append_drop size changed, ← List.take_append_drop size image, same,
      change.drop_eq after]

/-- The image and the change of it, cut at the ends of the window. -/
theorem split (change : ConfinedChange first count image changed) :
    ∃ front window window' back : Bytes, image = front ++ window ++ back ∧
      changed = front ++ window' ++ back ∧ window'.length = window.length ∧
      window.length ≤ count ∧ window ≠ window' := by
  have front := change.take_eq (le_refl first)
  have back := change.drop_eq (le_refl (first + count))
  have cut : ∀ bytes : Bytes, bytes = bytes.take first ++ (bytes.drop first).take count ++
      bytes.drop (first + count) := by
    intro bytes
    rw [List.append_assoc, ← List.drop_drop, List.take_append_drop, List.take_append_drop]
  refine ⟨image.take first, (image.drop first).take count, (changed.drop first).take count,
    image.drop (first + count), cut image, ?_, ?_, ?_, ?_⟩
  · rw [← front, ← back]
    exact cut changed
  · simp [change.length]
  · exact List.length_take_le _ _
  · intro same
    apply change.differs
    rw [cut changed, cut image, front, back, same]

/-- There is a byte to change. -/
theorem first_lt (change : ConfinedChange first count image changed) : first < image.length := by
  by_contra beyond
  apply change.differs
  apply List.ext_getElem?
  intro index
  by_cases before : index < first
  · exact change.outside index (by omega)
  · have length := change.length
    rw [List.getElem?_eq_none (by omega), List.getElem?_eq_none (by omega)]

/-- A little-endian word around the window reads differently. -/
theorem leValue_ne (change : ConfinedChange first count image changed) {start size : Nat}
    (inside : start ≤ first ∧ first + count ≤ start + size) :
    leValue ((changed.drop start).take size) ≠ leValue ((image.drop start).take size) := by
  intro same
  have restricted := (change.drop inside.1).take (show first - start + count ≤ size by omega)
  apply restricted.differs
  rw [← leBytes_leValue ((changed.drop start).take size), restricted.length, same,
    leBytes_leValue]

theorem append (change : ConfinedChange first count image changed) (front back : Bytes) :
    ConfinedChange (front.length + first) count (front ++ image ++ back)
      (front ++ changed ++ back) where
  length := by simp [change.length]
  outside := by
    intro index clear
    by_cases before : index < front.length
    · simp [List.getElem?_append, before]
    · have middle := change.outside (index - front.length) (by omega)
      simp only [List.getElem?_append, List.length_append, before, change.length, if_false, middle]
  differs := by
    intro same
    apply change.differs
    have cancelled := List.append_cancel_right same
    exact List.append_cancel_left cancelled

end ConfinedChange

end ByteReader
