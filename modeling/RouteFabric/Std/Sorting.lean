import Mathlib.Data.List.Basic
import Mathlib.Data.List.Nodup
import Mathlib.Data.List.TakeWhile

/-!
# Sorting by a key and searching in what was sorted

A list sorted by a numeric key depends on its items only, not on the order they came in, when
the key tells them apart. `lowerBound` is the halving search of the standard library; on a list
where nothing that belongs before the target follows anything that does not, it finds the end of
the leading part.
-/

namespace Sorting

variable {α : Type}

/-! ## Sorting -/

/-- Items in the order of their keys. -/
def sortBy (key : α → Nat) (items : List α) : List α :=
  items.mergeSort fun left right => decide (key left ≤ key right)

theorem sortBy_perm (key : α → Nat) (items : List α) : (sortBy key items).Perm items :=
  List.mergeSort_perm items _

theorem pairwise_sortBy (key : α → Nat) (items : List α) :
    (sortBy key items).Pairwise fun left right => key left ≤ key right := by
  have sorted := @List.pairwise_mergeSort _ (fun left right => decide (key left ≤ key right))
    (fun first second third => by simpa using Nat.le_trans)
    (fun first second => by simpa using Nat.le_total (key first) (key second)) items
  exact sorted.imp fun ordered => of_decide_eq_true ordered

/-- Two arrangements of the same items are sorted alike when the key tells the items apart. -/
theorem sortBy_congr {key : α → Nat} {items others : List α} (same : items.Perm others)
    (apart : ∀ left ∈ items, ∀ right ∈ items, key left = key right → left = right) :
    sortBy key items = sortBy key others := by
  refine List.Perm.eq_of_pairwise ?_ (pairwise_sortBy key items) (pairwise_sortBy key others)
    ((sortBy_perm key items).trans (same.trans (sortBy_perm key others).symm))
  intro left right inItems inOthers below above
  refine apart left ?_ right ?_ (Nat.le_antisymm below above)
  · exact (sortBy_perm key items).mem_iff.mp inItems
  · exact same.mem_iff.mpr ((sortBy_perm key others).mem_iff.mp inOthers)

/-- Keys that are pairwise different are strictly increasing once sorted. -/
theorem pairwise_sortBy_lt {key : α → Nat} {items : List α} (apart : (items.map key).Nodup) :
    (sortBy key items).Pairwise fun left right => key left < key right := by
  have unique : (sortBy key items).Pairwise fun left right => key left ≠ key right := by
    rw [← List.pairwise_map (f := key) (R := (· ≠ ·))]
    exact (((sortBy_perm key items).map key).nodup_iff).mpr apart
  exact ((pairwise_sortBy key items).and unique).imp fun both => Nat.lt_of_le_of_ne both.1 both.2

/-! ## Searching -/

/-- What is found by a key that tells the items apart. -/
theorem find?_key_iff {κ : Type} [DecidableEq κ] {key : α → κ} {items : List α}
    (apart : (items.map key).Nodup) {target : κ} {item : α} :
    items.find? (fun other => decide (key other = target)) = some item ↔
      item ∈ items ∧ key item = target := by
  constructor
  · intro found
    exact ⟨List.mem_of_find?_eq_some found, by simpa using List.find?_some found⟩
  · rintro ⟨member, rfl⟩
    cases found : items.find? fun other => decide (key other = key item) with
    | none => exact absurd (decide_eq_true rfl) (List.find?_eq_none.mp found item member)
    | some other =>
        have same : key other = key item := by simpa using List.find?_some found
        rw [List.inj_on_of_nodup_map apart (List.mem_of_find?_eq_some found) member same]

/-- Which item has a key does not depend on the order of the items. -/
theorem find?_key_perm {κ : Type} [DecidableEq κ] {key : α → κ} {items others : List α}
    (same : items.Perm others) (apart : (items.map key).Nodup) (target : κ) :
    items.find? (fun item => decide (key item = target)) =
      others.find? fun item => decide (key item = target) := by
  have apart' : (others.map key).Nodup := ((same.map key).nodup_iff).mp apart
  ext item
  rw [find?_key_iff apart, find?_key_iff apart', same.mem_iff]

/-- The search between `first` and the `count` items from there on. -/
def lowerBoundFrom (before : α → Bool) (items : List α) (first count : Nat) : Nat :=
  if count = 0 then first
  else
    let half := count / 2
    if (items[first + half]?).any before then
      lowerBoundFrom before items (first + half + 1) (count - half - 1)
    else lowerBoundFrom before items first half
termination_by count
decreasing_by all_goals omega

/-- The position of the first item that does not belong before the target, or the end. -/
def lowerBound (before : α → Bool) (items : List α) : Nat :=
  lowerBoundFrom before items 0 items.length

/-- Nothing that belongs before the target follows anything that does not. -/
def Partitioned (before : α → Bool) (items : List α) : Prop :=
  items.Pairwise fun left right => before right = true → before left = true

/-- In a partitioned list the leading part is made of all items that belong before. -/
theorem Partitioned.before_iff {before : α → Bool} {items : List α}
    (partitioned : Partitioned before items) {position : Nat} {item : α}
    (at_ : items[position]? = some item) :
    before item = true ↔ position < (items.takeWhile before).length := by
  induction items generalizing position with
  | nil => simp at at_
  | cons head rest ih =>
      obtain ⟨first, others⟩ := List.pairwise_cons.mp partitioned
      by_cases leading : before head = true
      · rw [List.takeWhile_cons_of_pos leading, List.length_cons]
        cases position with
        | zero =>
            obtain rfl := Option.some.inj at_
            simp [leading]
        | succ position =>
            rw [ih others at_]
            omega
      · rw [List.takeWhile_cons_of_neg leading]
        have member : item ∈ head :: rest := List.mem_of_getElem? at_
        simp only [List.length_nil, Nat.not_lt_zero, iff_false]
        rcases List.mem_cons.mp member with rfl | inRest
        · exact leading
        · exact fun holds => leading (first item inRest holds)

/-- The search keeps the end of the leading part between its bounds. -/
theorem lowerBoundFrom_eq {before : α → Bool} {items : List α}
    (partitioned : Partitioned before items) (first count : Nat)
    (low : first ≤ (items.takeWhile before).length)
    (high : (items.takeWhile before).length ≤ first + count)
    (inside : first + count ≤ items.length) :
    lowerBoundFrom before items first count = (items.takeWhile before).length := by
  induction count using Nat.strong_induction_on generalizing first with
  | _ count ih =>
      unfold lowerBoundFrom
      by_cases empty : count = 0
      · rw [if_pos empty]
        omega
      · rw [if_neg empty]
        have middle : first + count / 2 < items.length := by omega
        have found : items[first + count / 2]? = some items[first + count / 2] :=
          List.getElem?_eq_getElem middle
        have side := partitioned.before_iff found
        simp only [found, Option.any_some]
        split
        · rename_i leading
          have beyond := side.mp leading
          exact ih (count - count / 2 - 1) (by omega) (first + count / 2 + 1) (by omega) (by omega)
            (by omega)
        · rename_i trailing
          have within := mt side.mpr trailing
          exact ih (count / 2) (by omega) first (by omega) (by omega) (by omega)

theorem lowerBound_eq {before : α → Bool} {items : List α} (partitioned : Partitioned before items) :
    lowerBound before items = (items.takeWhile before).length :=
  lowerBoundFrom_eq partitioned 0 items.length (Nat.zero_le _)
    (by simpa using (List.takeWhile_prefix before).length_le) (by omega)

/-- The item at the end of the leading part is the first one that does not belong before. -/
theorem getElem?_lowerBound {before : α → Bool} {items : List α}
    (partitioned : Partitioned before items) :
    items[lowerBound before items]? = items.find? fun item => !before item := by
  rw [lowerBound_eq partitioned]
  clear partitioned
  induction items with
  | nil => rfl
  | cons head rest ih =>
      by_cases leading : before head = true
      · rw [List.takeWhile_cons_of_pos leading, List.find?_cons_of_neg (by simp [leading])]
        simpa using ih
      · rw [List.takeWhile_cons_of_neg leading, List.find?_cons_of_pos (by simpa using leading)]
        rfl

end Sorting
