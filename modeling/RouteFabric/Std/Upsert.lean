import RouteFabric.Std.OrderedMap

/-!
# Upserts by key and rank

An item replaces the item of its key unless that one has a higher rank. What a list of
upserts leaves under a key is the last of the items of highest rank, so upserting the same
list again changes nothing, although a single upsert of the list may undo a later one.
-/

namespace OrderedMap

/-! ## Under one key -/

section Ranked

variable {α : Type} {rank : α → Nat} {edits : List α}

/-- What is held under one key after an item of that key was placed. -/
def newer (rank : α → Nat) : Option α → α → Option α
  | none, item => some item
  | some old, item => if rank old ≤ rank item then some item else some old

theorem newer_cases (held : Option α) (item : α) :
    (newer rank held item = some item ∧ ∀ old ∈ held, rank old ≤ rank item) ∨
      ∃ old, held = some old ∧ rank item < rank old ∧ newer rank held item = held := by
  cases held with
  | none => exact .inl ⟨rfl, fun _ isHeld => by cases isHeld⟩
  | some old =>
      by_cases replaces : rank old ≤ rank item
      · refine .inl ⟨if_pos replaces, fun other isHeld => ?_⟩
        obtain rfl := Option.mem_some_iff.mp isHeld
        exact replaces
      · exact .inr ⟨old, rfl, Nat.lt_of_not_le replaces, if_neg replaces⟩

/-- Two lists of placements that start differently end alike when one of the items ranks
no lower than either start. -/
theorem foldl_newer_agree {left right : Option α}
    (decisive : ∃ item ∈ edits, (∀ old ∈ left, rank old ≤ rank item) ∧ ∀ old ∈ right, rank old ≤ rank item) :
    edits.foldl (newer rank) left = edits.foldl (newer rank) right := by
  induction edits generalizing left right with
  | nil => obtain ⟨item, member, -⟩ := decisive; cases member
  | cons first rest ih =>
      rw [List.foldl_cons, List.foldl_cons]
      rcases newer_cases left first with ⟨replaced, -⟩ | ⟨old, rfl, lower, kept⟩
      · rcases newer_cases right first with ⟨alsoReplaced, -⟩ | ⟨other, rfl, lower, kept⟩
        · rw [replaced, alsoReplaced]
        · rw [replaced, kept]
          obtain ⟨item, member, -, ranks⟩ := decisive
          have above := ranks other rfl
          rcases List.mem_cons.mp member with rfl | inRest
          · omega
          · refine ih ⟨item, inRest, fun held isFirst => ?_, ranks⟩
            obtain rfl := Option.mem_some_iff.mp isFirst
            omega
      · obtain ⟨item, member, ranks, others⟩ := decisive
        have above := ranks old rfl
        rcases List.mem_cons.mp member with rfl | inRest
        · omega
        rw [kept]
        refine ih ⟨item, inRest, ranks, fun held isNewer => ?_⟩
        rcases newer_cases right first with ⟨replaced, -⟩ | ⟨other, rfl, -, same⟩
        · rw [replaced] at isNewer
          obtain rfl := Option.mem_some_iff.mp isNewer
          omega
        · rw [same] at isNewer
          exact others held isNewer

/-- What placements leave was held before, and outranks all of them, or is one of them. -/
theorem foldl_newer_cases (held : Option α) :
    edits.foldl (newer rank) held = held ∧ (∀ item ∈ edits, ∃ old ∈ held, rank item < rank old) ∨
      ∃ item ∈ edits, edits.foldl (newer rank) held = some item ∧ ∀ old ∈ held, rank old ≤ rank item := by
  induction edits generalizing held with
  | nil => exact .inl ⟨rfl, fun _ member => absurd member List.not_mem_nil⟩
  | cons first rest ih =>
      rw [List.foldl_cons]
      rcases ih (newer rank held first) with ⟨same, outranks⟩ | ⟨item, member, last, ranks⟩
      · rcases newer_cases held first with ⟨replaced, below⟩ | ⟨old, rfl, lower, kept⟩
        · exact .inr ⟨first, List.mem_cons_self, same.trans replaced, below⟩
        · left
          refine ⟨same.trans kept, fun item member => ?_⟩
          rcases List.mem_cons.mp member with rfl | inRest
          · exact ⟨old, rfl, lower⟩
          · exact kept ▸ outranks item inRest
      · right
        refine ⟨item, List.mem_cons_of_mem _ member, last, fun old isHeld => ?_⟩
        rcases newer_cases held first with ⟨replaced, below⟩ | ⟨other, rfl, -, kept⟩
        · exact (below old isHeld).trans (ranks first (replaced ▸ rfl))
        · exact ranks old (kept.symm ▸ isHeld)

/-- Placing the same items again leaves the same. -/
theorem foldl_newer_again (held : Option α) :
    edits.foldl (newer rank) (edits.foldl (newer rank) held) = edits.foldl (newer rank) held := by
  rcases foldl_newer_cases held with ⟨same, -⟩ | ⟨item, member, last, ranks⟩
  · rw [same, same]
  · refine foldl_newer_agree ⟨item, member, fun old isLast => ?_, ranks⟩
    rw [last] at isLast
    obtain rfl := Option.mem_some_iff.mp isLast
    exact Nat.le_refl _

end Ranked

/-! ## On lists -/

/-- A list without repeated keys is given by its keys and what is found under each. -/
theorem eq_of_find? {κ α : Type} [DecidableEq κ] {keyOf : α → κ} {left right : List α}
    (keys : left.map keyOf = right.map keyOf)
    (unique : (left.map keyOf).Nodup)
    (found : ∀ key, (left.find? fun item => decide (keyOf item = key)) =
      right.find? fun item => decide (keyOf item = key)) : left = right := by
  induction left generalizing right with
  | nil => simpa using keys.symm
  | cons first rest ih =>
      cases right with
      | nil => simp at keys
      | cons other others =>
          obtain ⟨sameKey, restKeys⟩ := List.cons_eq_cons.mp keys
          have head := found (keyOf first)
          simp only [List.find?_cons, decide_true] at head
          rw [decide_eq_true sameKey.symm] at head
          obtain rfl := Option.some.inj head
          have absent := (List.nodup_cons.mp unique).1
          refine congrArg (first :: ·) (ih restKeys (List.nodup_cons.mp unique).2 fun key => ?_)
          by_cases same : keyOf first = key
          · subst same
            have leftNone : (rest.find? fun item => decide (keyOf item = keyOf first)) = none := by
              simpa using fun item member equal => absent (List.mem_map.mpr ⟨item, member, equal⟩)
            have rightNone : (others.find? fun item => decide (keyOf item = keyOf first)) = none := by
              rw [restKeys] at absent
              simpa using fun item member equal => absent (List.mem_map.mpr ⟨item, member, equal⟩)
            rw [leftNone, rightNone]
          · have tails := found key
            simpa only [List.find?_cons, decide_eq_false same] using tails

section Placed

variable {κ α : Type} [Ord κ] [Std.TransOrd κ] [Std.LawfulEqOrd κ] [DecidableEq κ] {keyOf : α → κ}
  {rank : α → Nat} {items edits : List α}

/-- Puts an item in the place of the one with its key, unless that one has a higher rank. -/
def place (keyOf : α → κ) (rank : α → Nat) (items : List α) (item : α) : List α :=
  upsert (fun other => decide (keyOf other = keyOf item)) (fun old => decide (rank old ≤ rank item)) item items

theorem find?_place (items : List α) (item : α) (key : κ) :
    ((place keyOf rank items item).find? fun other => decide (keyOf other = key)) =
      if keyOf item = key then newer rank (items.find? fun other => decide (keyOf other = key)) item
      else items.find? fun other => decide (keyOf other = key) := by
  rw [place, find?_upsert]
  split
  · cases items.find? fun other => decide (keyOf other = key) with
    | none => rfl
    | some old => simp [newer]
  · rfl

theorem find?_foldl_place (key : κ) :
    ((edits.foldl (place keyOf rank) items).find? fun other => decide (keyOf other = key)) =
      (edits.filter fun item => decide (keyOf item = key)).foldl (newer rank)
        (items.find? fun other => decide (keyOf other = key)) := by
  induction edits generalizing items with
  | nil => rfl
  | cons first rest ih =>
      rw [List.foldl_cons, ih, find?_place]
      by_cases same : keyOf first = key
      · rw [if_pos same, List.filter_cons_of_pos (by simpa using same), List.foldl_cons]
      · rw [if_neg same, List.filter_cons_of_neg (by simpa using same)]

theorem map_place (items : List α) (item : α) : (place keyOf rank items item).map keyOf =
    if keyOf item ∈ items.map keyOf then items.map keyOf else items.map keyOf ++ [keyOf item] :=
  map_upsert keyOf items item _

theorem nodup_foldl_place (unique : (items.map keyOf).Nodup) :
    ((edits.foldl (place keyOf rank) items).map keyOf).Nodup := by
  induction edits generalizing items with
  | nil => exact unique
  | cons first rest ih => exact ih (nodup_map_upsert unique)

/-- Placements of keys that are there add no key. -/
theorem map_foldl_place (present : ∀ item ∈ edits, keyOf item ∈ items.map keyOf) :
    (edits.foldl (place keyOf rank) items).map keyOf = items.map keyOf := by
  induction edits generalizing items with
  | nil => rfl
  | cons first rest ih =>
      have same : (place keyOf rank items first).map keyOf = items.map keyOf := by
        rw [map_place, if_pos (present first List.mem_cons_self)]
      rw [List.foldl_cons, ih, same]
      intro item member
      rw [same]
      exact present item (List.mem_cons_of_mem _ member)

/-- After the placements every key of theirs is there. -/
theorem mem_map_foldl_place {key : κ} (member : key ∈ items.map keyOf ∨ key ∈ edits.map keyOf) :
    key ∈ (edits.foldl (place keyOf rank) items).map keyOf := by
  induction edits generalizing items with
  | nil => simpa using member
  | cons first rest ih =>
      apply ih
      rw [map_place]
      rcases member with held | placed
      · left
        split
        · exact held
        · exact List.mem_append_left _ held
      · rcases List.mem_cons.mp placed with rfl | inRest
        · left
          split
          · assumption
          · exact List.mem_append_right _ List.mem_cons_self
        · exact .inr inRest

/-- Upserts are absorbed by every list that holds what they lead to, in whatever order. -/
theorem foldl_place_absorbed {held : List α} (unique : (items.map keyOf).Nodup)
    (heldUnique : (held.map keyOf).Nodup)
    (same : index keyOf held = index keyOf (edits.foldl (place keyOf rank) items)) :
    edits.foldl (place keyOf rank) held = held := by
  have found : ∀ key, (held.find? fun item => decide (keyOf item = key)) =
      (edits.foldl (place keyOf rank) items).find? fun item => decide (keyOf item = key) := by
    intro key
    rw [← lookup_index_of_nodup heldUnique, same, lookup_index_of_nodup (nodup_foldl_place unique)]
  have present : ∀ item ∈ edits, keyOf item ∈ held.map keyOf := by
    intro item member
    obtain ⟨placed, inPlaced, own⟩ := List.mem_map.mp
      (@mem_map_foldl_place κ α _ _ _ _ keyOf rank items edits _ (.inr (List.mem_map_of_mem member)))
    have there : ((edits.foldl (place keyOf rank) items).find? fun other =>
        decide (keyOf other = keyOf item)).isSome = true :=
      List.find?_isSome.mpr ⟨placed, inPlaced, decide_eq_true own⟩
    rw [← found, List.find?_isSome] at there
    obtain ⟨other, inHeld, sameKey⟩ := there
    exact List.mem_map.mpr ⟨other, inHeld, of_decide_eq_true sameKey⟩
  refine eq_of_find? (map_foldl_place present) (nodup_foldl_place heldUnique) fun key => ?_
  rw [find?_foldl_place, found, find?_foldl_place, foldl_newer_again]

end Placed

end OrderedMap
