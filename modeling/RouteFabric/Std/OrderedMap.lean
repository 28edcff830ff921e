import Mathlib

/-!
# Ordered maps

Finite maps and sets iterated in key order, as an ordered tree map is. Equality is
extensional, so two maps are equal exactly when they answer every lookup alike. The
lemmas restate lookups through equality of keys rather than through comparison, and
bound the number of keys of a map by a finite set that contains them.
-/

namespace OrderedMap

open Std

set_option linter.unusedSectionVars false

/-- A finite map iterated in key order. -/
abbrev Map (κ α : Type) [Ord κ] := ExtTreeMap κ α

/-- A finite set iterated in order. -/
abbrev FinSet (κ : Type) [Ord κ] := ExtTreeSet κ

/-! ## Orders through an injective key -/

/-- A type ordered through a key is ordered transitively when the keys are. -/
theorem transOrd_of_key {α β : Type} [Ord α] [Ord β] [TransOrd β] (key : α → β)
    (through : ∀ left right : α, compare left right = compare (key left) (key right)) :
    TransOrd α where
  eq_swap := by
    intro left right
    rw [through, through]
    exact OrientedOrd.eq_swap
  isLE_trans := by
    intro first second third
    rw [through, through, through]
    exact TransOrd.isLE_trans

/-- When the key is injective, comparing equal means being equal. -/
theorem lawfulEqOrd_of_key {α β : Type} [Ord α] [Ord β] [LawfulEqOrd β] (key : α → β)
    (through : ∀ left right : α, compare left right = compare (key left) (key right))
    (injective : ∀ left right, key left = key right → left = right) : LawfulEqOrd α where
  compare_self := by
    intro value
    rw [through]
    exact ReflOrd.compare_self
  eq_of_compare := by
    intro left right same
    rw [through] at same
    exact injective left right (LawfulEqOrd.eq_of_compare same)

/-! ## Lookups -/

variable {κ α : Type} [Ord κ] [TransOrd κ] [LawfulEqOrd κ] [DecidableEq κ]

@[simp] theorem lookup_insert (map : Map κ α) (key other : κ) (value : α) :
    (map.insert key value)[other]? = if key = other then some value else map[other]? := by
  rw [ExtTreeMap.getElem?_insert]
  simp only [Std.compare_eq_iff_eq]

@[simp] theorem lookup_erase (map : Map κ α) (key other : κ) :
    (map.erase key)[other]? = if key = other then none else map[other]? := by
  rw [ExtTreeMap.getElem?_erase]
  simp only [Std.compare_eq_iff_eq]

theorem lookup_insert_self (map : Map κ α) (key : κ) (value : α) :
    (map.insert key value)[key]? = some value := by
  simp

theorem lookup_insert_of_ne (map : Map κ α) {key other : κ} (value : α) (different : key ≠ other) :
    (map.insert key value)[other]? = map[other]? := by
  simp [different]

@[simp] theorem mem_set_insert (set : FinSet κ) (key other : κ) :
    other ∈ set.insert key ↔ key = other ∨ other ∈ set := by
  rw [ExtTreeSet.mem_insert, Std.compare_eq_iff_eq]

@[simp] theorem mem_set_erase (set : FinSet κ) (key other : κ) :
    other ∈ set.erase key ↔ key ≠ other ∧ other ∈ set := by
  rw [ExtTreeSet.mem_erase, ne_eq, Std.compare_eq_iff_eq]

theorem nodup_toList (set : FinSet κ) : set.toList.Nodup := by
  have distinct := ExtTreeSet.distinct_toList (t := set)
  simpa only [List.Nodup, Std.compare_eq_iff_eq] using distinct

/-- A key is present exactly when its lookup answers. -/
theorem mem_iff_lookup (map : Map κ α) (key : κ) : key ∈ map ↔ ∃ value, map[key]? = some value := by
  rw [← ExtTreeMap.isSome_getElem?_iff_mem, Option.isSome_iff_exists]

theorem not_mem_iff_lookup (map : Map κ α) (key : κ) : key ∉ map ↔ map[key]? = none := by
  rw [mem_iff_lookup, Option.eq_none_iff_forall_ne_some]
  simp

/-- The keys of a map as a finite set. -/
def keySet (map : Map κ α) : Finset κ := map.keys.toFinset

@[simp] theorem mem_keySet (map : Map κ α) (key : κ) : key ∈ keySet map ↔ key ∈ map := by
  simp [keySet]

theorem card_keySet (map : Map κ α) : (keySet map).card = map.size := by
  rw [keySet, List.toFinset_card_of_nodup ExtTreeMap.nodup_keys, ExtTreeMap.length_keys]

/-- A map whose keys all occur in another map is no larger. -/
theorem size_le_size {β : Type} {map : Map κ α} {other : Map κ β}
    (contained : ∀ key, key ∈ map → key ∈ other) : map.size ≤ other.size := by
  rw [← card_keySet, ← card_keySet]
  apply Finset.card_le_card
  intro key member
  rw [mem_keySet] at member ⊢
  exact contained key member

/-- The keys whose value has a property. -/
def keysWhere (map : Map κ α) (holds : α → Bool) : Finset κ :=
  (keySet map).filter fun key => map[key]?.any holds = true

theorem mem_keysWhere {map : Map κ α} {holds : α → Bool} {key : κ} :
    key ∈ keysWhere map holds ↔ ∃ value, map[key]? = some value ∧ holds value = true := by
  rw [keysWhere, Finset.mem_filter, mem_keySet, mem_iff_lookup]
  constructor
  · rintro ⟨⟨value, found⟩, any⟩
    exact ⟨value, found, by simpa [found] using any⟩
  · rintro ⟨value, found, has⟩
    exact ⟨⟨value, found⟩, by simp [found, has]⟩

theorem keysWhere_insert (map : Map κ α) (holds : α → Bool) (key : κ) (value : α) :
    keysWhere (map.insert key value) holds =
      if holds value then insert key (keysWhere map holds) else (keysWhere map holds).erase key := by
  ext other
  by_cases same : key = other
  · subst same
    by_cases has : holds value = true <;> simp [mem_keysWhere, has]
  · have different : ¬ other = key := fun equal => same equal.symm
    by_cases has : holds value = true <;> simp [mem_keysWhere, has, same, different]

theorem keysWhere_erase (map : Map κ α) (holds : α → Bool) (key : κ) :
    keysWhere (map.erase key) holds = (keysWhere map holds).erase key := by
  ext other
  by_cases same : key = other
  · subst same
    simp [mem_keysWhere]
  · have different : ¬ other = key := fun equal => same equal.symm
    simp [mem_keysWhere, same, different]

/-- The values of a map in key order. -/
def values (map : Map κ α) : List α := map.toList.map Prod.snd

theorem mem_values (map : Map κ α) (value : α) :
    value ∈ values map ↔ ∃ key : κ, map[key]? = some value := by
  simp only [values, List.mem_map, Prod.exists, exists_eq_right]
  exact exists_congr fun key => ExtTreeMap.mem_toList_iff_getElem?_eq_some

@[simp] theorem length_values (map : Map κ α) : (values map).length = map.size := by
  simp [values, ExtTreeMap.length_toList]

/-- When every value carries its own key, reading the keys off the values lists each once. -/
theorem nodup_map_values {map : Map κ α} {keyOf : α → κ}
    (keyed : ∀ (key : κ) value, map[key]? = some value → keyOf value = key) :
    ((values map).map keyOf).Nodup := by
  have same : (values map).map keyOf = map.keys := by
    rw [values, List.map_map, ← ExtTreeMap.map_fst_toList_eq_keys]
    apply List.map_congr_left
    rintro ⟨key, value⟩ member
    exact keyed key value (ExtTreeMap.mem_toList_iff_getElem?_eq_some.mp member)
  rw [same]
  exact ExtTreeMap.nodup_keys

/-! ## Lists of keyed items -/

/-- Replaces the first match when it admits the item, and appends an unmatched item. -/
def upsert (matching admits : α → Bool) (item : α) : List α → List α
  | [] => [item]
  | head :: rest =>
      if matching head then (if admits head then item else head) :: rest
      else head :: upsert matching admits item rest

/-- The map from keys to items that a list of items stands for. -/
def index (keyOf : α → κ) (items : List α) : Map κ α :=
  items.foldl (fun map item => map.insert (keyOf item) item) ∅

variable {keyOf : α → κ} {items : List α} {item : α}

/-- Later items shadow earlier ones of the same key. -/
theorem lookup_foldl_insert (map : Map κ α) (key : κ) :
    (items.foldl (fun map item => map.insert (keyOf item) item) map)[key]? =
      (items.reverse.find? fun item => decide (keyOf item = key)).or map[key]? := by
  induction items generalizing map with
  | nil => simp
  | cons head rest ih =>
      rw [List.foldl_cons, ih, List.reverse_cons, List.find?_append, Option.or_assoc, lookup_insert]
      by_cases same : keyOf head = key <;> simp [same]

/-- What a lookup finds after insertions was inserted, or was there and kept. -/
theorem lookup_foldl_insert_some {map : Map κ α} {key : κ}
    (found : (items.foldl (fun map item => map.insert (keyOf item) item) map)[key]? = some item) :
    (item ∈ items ∧ keyOf item = key) ∨ (∀ other ∈ items, keyOf other ≠ key) ∧ map[key]? = some item := by
  rw [lookup_foldl_insert] at found
  cases inserted : items.reverse.find? fun item => decide (keyOf item = key) with
  | some other =>
      rw [inserted, Option.some_or, Option.some.injEq] at found
      subst found
      exact .inl ⟨List.mem_reverse.mp (List.mem_of_find?_eq_some inserted),
        by simpa using List.find?_some inserted⟩
  | none =>
      rw [inserted, Option.none_or] at found
      exact .inr ⟨by simpa using inserted, found⟩

/-- Insertions under other keys keep a lookup. -/
theorem lookup_foldl_insert_of_ne {map : Map κ α} {key : κ} (other : ∀ item ∈ items, keyOf item ≠ key) :
    (items.foldl (fun map item => map.insert (keyOf item) item) map)[key]? = map[key]? := by
  have absent : (items.reverse.find? fun item => decide (keyOf item = key)) = none := by
    simpa using other
  rw [lookup_foldl_insert, absent, Option.none_or]

/-- Insertions drop no key. -/
theorem mem_foldl_insert {map : Map κ α} {key : κ} :
    key ∈ items.foldl (fun map item => map.insert (keyOf item) item) map ↔
      (∃ item ∈ items, keyOf item = key) ∨ key ∈ map := by
  simp only [mem_iff_lookup, lookup_foldl_insert]
  cases inserted : items.reverse.find? fun item => decide (keyOf item = key) with
  | some other =>
      have member := List.mem_reverse.mp (List.mem_of_find?_eq_some inserted)
      simp only [Option.some_or, Option.some.injEq, exists_eq', true_iff]
      exact .inl ⟨other, member, by simpa using List.find?_some inserted⟩
  | none =>
      rw [List.find?_eq_none] at inserted
      simp only [Option.none_or]
      constructor
      · exact .inr
      · rintro (⟨item, member, same⟩ | present)
        · exact absurd (decide_eq_true same) (inserted item (List.mem_reverse.mpr member))
        · exact present

/-- Inserting the same items again changes nothing. -/
theorem foldl_insert_again (map : Map κ α) :
    items.foldl (fun map item => map.insert (keyOf item) item)
        (items.foldl (fun map item => map.insert (keyOf item) item) map) =
      items.foldl (fun map item => map.insert (keyOf item) item) map := by
  apply ExtTreeMap.ext_getElem?
  intro key
  rw [lookup_foldl_insert, lookup_foldl_insert, ← Option.or_assoc, Option.or_self]

theorem lookup_index (key : κ) :
    (index keyOf items)[key]? = items.reverse.find? fun item => decide (keyOf item = key) := by
  rw [index, lookup_foldl_insert]
  simp

/-- What a lookup finds is an item of the list under its own key. -/
theorem lookup_index_some {key : κ} (found : (index keyOf items)[key]? = some item) :
    item ∈ items ∧ keyOf item = key := by
  rw [lookup_index] at found
  refine ⟨List.mem_reverse.mp (List.mem_of_find?_eq_some found), ?_⟩
  simpa using List.find?_some found

/-- When keys are not repeated, every item is found under its key. -/
theorem lookup_index_of_mem (unique : (items.map keyOf).Nodup) (member : item ∈ items) :
    (index keyOf items)[keyOf item]? = some item := by
  induction items using List.reverseRecOn with
  | nil => simp at member
  | append_singleton front last ih =>
      rw [lookup_index, List.reverse_append, List.reverse_singleton, List.singleton_append,
        List.find?_cons]
      rw [List.map_append, List.nodup_append] at unique
      obtain ⟨uniqueFront, -, apart⟩ := unique
      by_cases same : keyOf last = keyOf item
      · rcases List.mem_append.mp member with inFront | isLast
        · exact absurd same.symm (apart _ (List.mem_map_of_mem inFront) _ (by simp))
        · simp [List.mem_singleton.mp isLast]
      · have inFront : item ∈ front := by
          rcases List.mem_append.mp member with inFront | isLast
          · exact inFront
          · exact absurd (congrArg keyOf (List.mem_singleton.mp isLast).symm) same
        have found := ih uniqueFront inFront
        rw [lookup_index] at found
        simp [same, found]

/-- Insertions without a repeated key are all found. -/
theorem lookup_foldl_insert_of_mem {map : Map κ α} (unique : (items.map keyOf).Nodup)
    (member : item ∈ items) :
    (items.foldl (fun map item => map.insert (keyOf item) item) map)[keyOf item]? = some item := by
  have found := lookup_index_of_mem unique member
  rw [lookup_index] at found
  rw [lookup_foldl_insert, found, Option.some_or]

/-- A key is present in the index exactly when an item carries it. -/
theorem lookup_index_eq_none {key : κ} :
    (index keyOf items)[key]? = none ↔ ∀ item ∈ items, keyOf item ≠ key := by
  rw [lookup_index, List.find?_eq_none]
  simp

/-- When keys are not repeated, the index has one entry for each item. -/
theorem size_index (unique : (items.map keyOf).Nodup) : (index keyOf items).size = items.length := by
  have keys : keySet (index keyOf items) = (items.map keyOf).toFinset := by
    ext key
    rw [mem_keySet, index, mem_foldl_insert, List.mem_toFinset, List.mem_map]
    simp
  rw [← card_keySet, keys, List.toFinset_card_of_nodup unique, List.length_map]

/-- A list of distinct keys of a map is no longer than the map. -/
theorem length_le_size {map : Map κ α} {keys : List κ} (unique : keys.Nodup)
    (contained : ∀ key ∈ keys, key ∈ map) : keys.length ≤ map.size := by
  rw [← card_keySet, ← List.toFinset_card_of_nodup unique]
  apply Finset.card_le_card
  intro key member
  rw [mem_keySet]
  exact contained key (List.mem_toFinset.mp member)

/-- When keys are not repeated, lookups find the first item of a key. -/
theorem lookup_index_of_nodup (unique : (items.map keyOf).Nodup) (key : κ) :
    (index keyOf items)[key]? = items.find? fun item => decide (keyOf item = key) := by
  cases found : items.find? fun item => decide (keyOf item = key) with
  | none =>
      rw [lookup_index_eq_none]
      simpa using found
  | some item =>
      have same : keyOf item = key := by simpa using List.find?_some found
      rw [← same]
      exact lookup_index_of_mem unique (List.mem_of_find?_eq_some found)

/-- The values of a map whose values carry their own keys stand for the map. -/
theorem index_values {map : Map κ α} (keyed : ∀ (key : κ) value, map[key]? = some value → keyOf value = key) :
    index keyOf (values map) = map := by
  apply ExtTreeMap.ext_getElem?
  intro key
  cases found : map[key]? with
  | none =>
      rw [lookup_index_eq_none]
      rintro value member rfl
      obtain ⟨other, present⟩ := (mem_values map value).mp member
      rw [keyed other value present, present] at found
      simp at found
  | some value =>
      have member := (mem_values map value).mpr ⟨key, found⟩
      rw [← keyed key value found]
      exact lookup_index_of_mem (nodup_map_values keyed) member

section Upsert

variable {admits : α → Bool}

theorem mem_upsert {matching : α → Bool} {other : α} (member : other ∈ upsert matching admits item items) :
    other = item ∨ other ∈ items := by
  induction items with
  | nil => exact .inl (List.mem_singleton.mp member)
  | cons head rest ih =>
      unfold upsert at member
      split at member
      · rcases List.mem_cons.mp member with same | inRest
        · split at same
          · exact .inl same
          · exact .inr (same ▸ List.mem_cons_self)
        · exact .inr (List.mem_cons_of_mem _ inRest)
      · rcases List.mem_cons.mp member with same | inRest
        · exact .inr (same ▸ List.mem_cons_self)
        · exact (ih inRest).imp_right (List.mem_cons_of_mem _)

/-- Upserting by key keeps every other key and does not repeat any. -/
theorem map_upsert (keyOf : α → κ) (items : List α) (item : α) (admits : α → Bool) :
    (upsert (fun other => decide (keyOf other = keyOf item)) admits item items).map keyOf =
      if keyOf item ∈ items.map keyOf then items.map keyOf else items.map keyOf ++ [keyOf item] := by
  induction items with
  | nil => simp [upsert]
  | cons head rest ih =>
      by_cases same : keyOf head = keyOf item
      · by_cases admitted : admits head = true <;> simp [upsert, same, admitted]
      · have other : ¬ keyOf item = keyOf head := fun equal => same equal.symm
        simp only [upsert, same, decide_false, Bool.false_eq_true, if_false, List.map_cons, ih,
          List.mem_cons, other, false_or]
        split <;> rfl

theorem nodup_map_upsert (unique : (items.map keyOf).Nodup) :
    ((upsert (fun other => decide (keyOf other = keyOf item)) admits item items).map keyOf).Nodup := by
  rw [map_upsert]
  split
  · exact unique
  · rename_i absent
    exact List.nodup_append.mpr ⟨unique, by simp, by
      rintro key member other isItem rfl
      exact absent (List.mem_singleton.mp isItem ▸ member)⟩

theorem find?_upsert (keyOf : α → κ) (items : List α) (item : α) (admits : α → Bool) (key : κ) :
    ((upsert (fun other => decide (keyOf other = keyOf item)) admits item items).find?
        fun other => decide (keyOf other = key)) =
      if keyOf item = key then
        match items.find? fun other => decide (keyOf other = key) with
        | none => some item
        | some old => if admits old then some item else some old
      else items.find? fun other => decide (keyOf other = key) := by
  induction items with
  | nil => by_cases same : keyOf item = key <;> simp [upsert, same]
  | cons head rest ih =>
      by_cases replaces : keyOf head = keyOf item
      · by_cases admitted : admits head = true <;> by_cases same : keyOf item = key <;>
          simp [upsert, replaces, admitted, same]
      · rw [upsert, if_neg (by simpa using replaces), List.find?_cons, ih, List.find?_cons]
        by_cases same : keyOf item = key
        · have different : ¬ keyOf head = key := fun equal => replaces (equal.trans same.symm)
          simp [same, different]
        · by_cases other : keyOf head = key <;> simp [same, other]

/-- Upserting by key inserts the item unless the item it would replace does not admit it. -/
theorem lookup_index_upsert (unique : (items.map keyOf).Nodup) (key : κ) :
    (index keyOf (upsert (fun other => decide (keyOf other = keyOf item)) admits item items))[key]? =
      if keyOf item = key then
        match (index keyOf items)[key]? with
        | none => some item
        | some old => if admits old then some item else some old
      else (index keyOf items)[key]? := by
  rw [lookup_index_of_nodup (nodup_map_upsert unique), lookup_index_of_nodup unique, find?_upsert]

/-- Upserts that always replace are plain insertions on the index. -/
theorem index_upsert_replacing (unique : (items.map keyOf).Nodup) (item : α) :
    index keyOf (upsert (fun other => decide (keyOf other = keyOf item)) (fun _ => true) item items) =
      (index keyOf items).insert (keyOf item) item := by
  apply ExtTreeMap.ext_getElem?
  intro key
  rw [lookup_index_upsert unique, lookup_insert]
  split
  · split <;> simp
  · rfl

/-- After edits item by item, everything was there or is one of the edits. -/
theorem mem_foldl_edit {edit : List α → α → List α} {edits : List α} {other : α}
    (adds : ∀ {items item}, other ∈ edit items item → other = item ∨ other ∈ items)
    (member : other ∈ edits.foldl edit items) : other ∈ edits ∨ other ∈ items := by
  induction edits generalizing items with
  | nil => exact .inr member
  | cons first rest ih =>
      rcases ih member with inRest | inEdited
      · exact .inl (List.mem_cons_of_mem _ inRest)
      · rcases adds inEdited with rfl | kept
        · exact .inl List.mem_cons_self
        · exact .inr kept

/-- A list edited item by item stands for the map edited item by item. -/
theorem index_foldl (edit : List α → α → List α) (step : Map κ α → α → Map κ α)
    (keeps : ∀ {items} item, (items.map keyOf).Nodup → ((edit items item).map keyOf).Nodup)
    (indexes : ∀ {items} item, (items.map keyOf).Nodup →
      index keyOf (edit items item) = step (index keyOf items) item)
    (edits : List α) (unique : (items.map keyOf).Nodup) :
    ((edits.foldl edit items).map keyOf).Nodup ∧
      index keyOf (edits.foldl edit items) = edits.foldl step (index keyOf items) := by
  induction edits generalizing items with
  | nil => exact ⟨unique, rfl⟩
  | cons first rest ih =>
      have later := ih (keeps first unique)
      rwa [indexes first unique] at later

end Upsert

end OrderedMap
