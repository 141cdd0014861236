/-
**Insertion-ordered dictionaries.**

A `Dict κ ν` is a list of items whose keys are pairwise distinct: the distinctness is a field, so a
dictionary with a repeated key cannot be built. The operations keep the order of a mutable ordered
mapping:

* `set` overwrites the value in place, or appends a new key at the end;
* `pop` removes a key and leaves the others where they are;
* `update` writes every item of a second dictionary, in that dictionary's order.

What a dictionary *means* is its lookup function `get?`. Every operation has one lemma that says
what it does to `get?` (`get?_set`, `get?_pop`, `get?_mapVals`, `get?_update`, ...), and
`perm_of_get?_eq` says that lookups determine the items up to their order; so a result that does
not depend on the order, such as a sorted list, depends on the lookups only (`sortedItems_congr`).
-/

import Mathlib.Data.List.Sort
import Mathlib.Data.List.Lookmap

set_option linter.unusedSectionVars false

namespace Opendps.Lib

/-- An ordered dictionary: items with pairwise distinct keys. -/
structure Dict (κ ν : Type*) where
  items : List (κ × ν)
  nodup : (items.map Prod.fst).Nodup

namespace Dict

variable {κ ν μ : Type*}

instance [DecidableEq κ] [DecidableEq ν] : DecidableEq (Dict κ ν) := fun first second =>
  decidable_of_iff (first.items = second.items) <| by
    cases first
    cases second
    simp

/-- A dictionary is its items. -/
theorem eq_of_items {first second : Dict κ ν} (same : first.items = second.items) :
    first = second := by
  cases first
  cases second
  simpa using same

/-- The empty dictionary. -/
def empty : Dict κ ν := ⟨[], List.nodup_nil⟩

instance : Inhabited (Dict κ ν) := ⟨empty⟩

/-- The keys, in order. -/
def keys (dict : Dict κ ν) : List κ := dict.items.map Prod.fst

/-- The values, in order of their keys. -/
def values (dict : Dict κ ν) : List ν := dict.items.map Prod.snd

/-- The number of items. -/
def size (dict : Dict κ ν) : ℕ := dict.items.length

/-- Apply a function to every value, in place. -/
def mapVals (f : κ → ν → μ) (dict : Dict κ ν) : Dict κ μ where
  items := dict.items.map fun item => (item.1, f item.1 item.2)
  nodup := by
    rw [List.map_map]
    exact dict.nodup

/-- Keep the values a function is defined on, mapped by it. -/
def filterMapVals (f : κ → ν → Option μ) (dict : Dict κ ν) : Dict κ μ where
  items := dict.items.filterMap fun item => (f item.1 item.2).map fun value => (item.1, value)
  nodup := by
    refine List.Nodup.sublist ?_ dict.nodup
    induction dict.items with
    | nil => exact List.Sublist.slnil
    | cons item rest ih =>
      rw [List.filterMap_cons, List.map_cons]
      cases f item.1 item.2 with
      | none => exact ih.cons _
      | some value => exact ih.cons_cons _

@[simp] theorem keys_mapVals (f : κ → ν → μ) (dict : Dict κ ν) :
    (dict.mapVals f).keys = dict.keys := by
  simp only [keys, mapVals, List.map_map]
  rfl

@[simp] theorem values_mapVals (f : ν → μ) (dict : Dict κ ν) :
    (dict.mapVals fun _ value => f value).values = dict.values.map f := by
  simp only [values, mapVals, List.map_map]
  rfl

theorem keys_nodup (dict : Dict κ ν) : dict.keys.Nodup := dict.nodup

@[simp] theorem length_keys (dict : Dict κ ν) : dict.keys.length = dict.size := by
  simp [keys, size]

@[simp] theorem items_empty : (empty : Dict κ ν).items = [] := rfl

@[simp] theorem keys_empty : (empty : Dict κ ν).keys = [] := rfl

section Lookup

variable [DecidableEq κ]

/-- The value stored under a key. -/
def get? (dict : Dict κ ν) (key : κ) : Option ν := dict.items.lookup key

/-- The value stored under a key, or a default. -/
def getD (dict : Dict κ ν) (key : κ) (default : ν) : ν := (dict.get? key).getD default

/-- Membership of a key. -/
def contains (dict : Dict κ ν) (key : κ) : Bool := (dict.get? key).isSome

/-- Overwrite in place, or append. -/
def setItems (key : κ) (value : ν) : List (κ × ν) → List (κ × ν)
  | [] => [(key, value)]
  | item :: rest => if item.1 = key then (key, value) :: rest else item :: setItems key value rest

theorem map_fst_setItems (key : κ) (value : ν) (items : List (κ × ν)) :
    (setItems key value items).map Prod.fst =
      if key ∈ items.map Prod.fst then items.map Prod.fst else items.map Prod.fst ++ [key] := by
  induction items with
  | nil => simp [setItems]
  | cons item rest ih =>
    by_cases same : item.1 = key
    · simp [setItems, same]
    · have other : key ≠ item.1 := fun equal => same equal.symm
      simp only [setItems, same, if_false, List.map_cons, ih, List.mem_cons, other, false_or]
      split <;> simp

/-- Store a value under a key. -/
def set (dict : Dict κ ν) (key : κ) (value : ν) : Dict κ ν where
  items := setItems key value dict.items
  nodup := by
    rw [map_fst_setItems]
    split
    · exact dict.nodup
    · next absent =>
      exact List.nodup_append.mpr ⟨dict.nodup, List.nodup_singleton key, by
        rintro present member _ (_ | ⟨_, ⟨⟩⟩) rfl
        exact absent member⟩

/-- Remove a key; a missing key is ignored. -/
def pop (dict : Dict κ ν) (key : κ) : Dict κ ν where
  items := dict.items.filter fun item => item.1 ≠ key
  nodup := dict.nodup.sublist (List.filter_sublist.map Prod.fst)

/-- Write a list of items one after the other. -/
def setAll (dict : Dict κ ν) (items : List (κ × ν)) : Dict κ ν :=
  items.foldl (fun current item => current.set item.1 item.2) dict

/-- Write every item of a second dictionary. -/
def update (dict other : Dict κ ν) : Dict κ ν := dict.setAll other.items

/-- The dictionary of a list of items; a later item overwrites an earlier one of the same key. -/
def ofList (items : List (κ × ν)) : Dict κ ν := empty.setAll items

/-- One value for each key of a list. -/
def ofKeys (keys : List κ) (f : κ → ν) : Dict κ ν := ofList (keys.map fun key => (key, f key))

/-- Same keys with the same values, in whatever order. -/
def same [DecidableEq ν] (first second : Dict κ ν) : Bool :=
  decide (first.size = second.size) &&
    first.items.all fun item => decide (second.get? item.1 = some item.2)

/-! ### Lookups of each operation -/

theorem lookup_eq_some_iff {items : List (κ × ν)} (nodup : (items.map Prod.fst).Nodup) {key : κ}
    {value : ν} : items.lookup key = some value ↔ (key, value) ∈ items := by
  induction items with
  | nil => simp
  | cons item rest ih =>
    obtain ⟨first, stored⟩ := item
    rw [List.map_cons, List.nodup_cons] at nodup
    by_cases same : key = first
    · subst same
      have fresh : (key, value) ∉ rest := fun member =>
        nodup.1 (List.mem_map.mpr ⟨(key, value), member, rfl⟩)
      simp [fresh, eq_comm]
    · rw [List.lookup_cons, beq_false_of_ne same]
      simp [ih nodup.2, same]

theorem get?_eq_some_iff {dict : Dict κ ν} {key : κ} {value : ν} :
    dict.get? key = some value ↔ (key, value) ∈ dict.items :=
  lookup_eq_some_iff dict.nodup

theorem mem_keys_iff {dict : Dict κ ν} {key : κ} :
    key ∈ dict.keys ↔ ∃ value, dict.get? key = some value := by
  simp [keys, get?_eq_some_iff]

theorem get?_eq_none_iff {dict : Dict κ ν} {key : κ} :
    dict.get? key = none ↔ key ∉ dict.keys := by
  rw [mem_keys_iff, Option.eq_none_iff_forall_ne_some]
  push Not
  rfl

@[simp] theorem get?_empty (key : κ) : (empty : Dict κ ν).get? key = none := rfl

theorem lookup_setItems (key other : κ) (value : ν) (items : List (κ × ν)) :
    (setItems key value items).lookup other =
      if other = key then some value else items.lookup other := by
  induction items with
  | nil =>
    by_cases same : other = key
    · simp [setItems, same]
    · simp [setItems, List.lookup_cons, beq_false_of_ne same, same]
  | cons item rest ih =>
    obtain ⟨first, stored⟩ := item
    by_cases here : first = key
    · subst here
      by_cases same : other = first
      · simp [setItems, same]
      · simp [setItems, List.lookup_cons, beq_false_of_ne same, same]
    · by_cases same : other = first
      · subst same
        simp [setItems, here]
      · simp [setItems, List.lookup_cons, here, beq_false_of_ne same, ih]

@[simp] theorem get?_set (dict : Dict κ ν) (key other : κ) (value : ν) :
    (dict.set key value).get? other = if other = key then some value else dict.get? other :=
  lookup_setItems key other value dict.items

theorem get?_set_self (dict : Dict κ ν) (key : κ) (value : ν) :
    (dict.set key value).get? key = some value := by
  simp

theorem get?_set_of_ne (dict : Dict κ ν) {key other : κ} (value : ν) (different : other ≠ key) :
    (dict.set key value).get? other = dict.get? other := by
  simp [different]

@[simp] theorem get?_pop (dict : Dict κ ν) (key other : κ) :
    (dict.pop key).get? other = if other = key then none else dict.get? other := by
  refine Option.ext fun value => ?_
  rw [get?_eq_some_iff]
  simp only [pop, List.mem_filter, decide_eq_true_eq, ← get?_eq_some_iff]
  by_cases same : other = key <;> simp [same]

theorem get?_foldl_pop (dict : Dict κ ν) (keys : List κ) (other : κ) :
    (keys.foldl pop dict).get? other = if other ∈ keys then none else dict.get? other := by
  induction keys generalizing dict with
  | nil => simp
  | cons key rest ih =>
    rw [List.foldl_cons, ih, get?_pop]
    by_cases later : other ∈ rest
    · simp [later]
    · by_cases same : other = key <;> simp [later, same]

@[simp] theorem get?_mapVals (f : κ → ν → μ) (dict : Dict κ ν) (key : κ) :
    (dict.mapVals f).get? key = (dict.get? key).map (f key) := by
  refine Option.ext fun value => ?_
  rw [get?_eq_some_iff, Option.map_eq_some_iff]
  simp only [mapVals, List.mem_map, Prod.mk.injEq, Prod.exists, get?_eq_some_iff]
  constructor
  · rintro ⟨other, stored, member, rfl, rfl⟩
    exact ⟨stored, member, rfl⟩
  · rintro ⟨stored, member, rfl⟩
    exact ⟨key, stored, member, rfl, rfl⟩

@[simp] theorem get?_filterMapVals (f : κ → ν → Option μ) (dict : Dict κ ν) (key : κ) :
    (dict.filterMapVals f).get? key = (dict.get? key).bind (f key) := by
  refine Option.ext fun value => ?_
  rw [get?_eq_some_iff, Option.bind_eq_some_iff]
  simp only [filterMapVals, List.mem_filterMap, Option.map_eq_some_iff, Prod.mk.injEq, Prod.exists,
    get?_eq_some_iff]
  constructor
  · rintro ⟨other, stored, member, kept, defined, rfl, rfl⟩
    exact ⟨stored, member, defined⟩
  · rintro ⟨stored, member, defined⟩
    exact ⟨key, stored, member, value, defined, rfl, rfl⟩

/-- A written list with distinct keys answers first, the old dictionary behind it. -/
theorem get?_setAll (dict : Dict κ ν) {items : List (κ × ν)}
    (nodup : (items.map Prod.fst).Nodup) (key : κ) :
    (dict.setAll items).get? key = (items.lookup key).or (dict.get? key) := by
  induction items generalizing dict with
  | nil => simp [setAll]
  | cons item rest ih =>
    obtain ⟨first, stored⟩ := item
    rw [List.map_cons, List.nodup_cons] at nodup
    show ((dict.set first stored).setAll rest).get? key = _
    rw [ih _ nodup.2, get?_set, List.lookup_cons]
    by_cases same : key = first
    · subst same
      have fresh : rest.lookup key = none := by
        rw [Option.eq_none_iff_forall_ne_some]
        intro value found
        exact nodup.1 (List.mem_map.mpr ⟨(key, value), (lookup_eq_some_iff nodup.2).mp found, rfl⟩)
      simp [fresh]
    · simp [same, beq_false_of_ne same]

@[simp] theorem get?_update (dict other : Dict κ ν) (key : κ) :
    (dict.update other).get? key = (other.get? key).or (dict.get? key) :=
  get?_setAll dict other.nodup key

theorem get?_ofList {items : List (κ × ν)} (nodup : (items.map Prod.fst).Nodup) (key : κ) :
    (ofList items).get? key = items.lookup key := by
  rw [ofList, get?_setAll _ nodup, get?_empty, Option.or_none]

/-- Writing a list adds its keys and no other. -/
theorem mem_keys_setAll {dict : Dict κ ν} {items : List (κ × ν)} {key : κ} :
    key ∈ (dict.setAll items).keys ↔ key ∈ dict.keys ∨ key ∈ items.map Prod.fst := by
  induction items generalizing dict with
  | nil => simp [setAll]
  | cons item rest ih =>
    show key ∈ ((dict.set item.1 item.2).setAll rest).keys ↔ _
    have here : key ∈ (dict.set item.1 item.2).keys ↔ key ∈ dict.keys ∨ key = item.1 := by
      simp only [mem_keys_iff, get?_set]
      by_cases same : key = item.1 <;> simp [same]
    rw [ih, here, List.map_cons, List.mem_cons, or_assoc]

theorem mem_keys_ofList {items : List (κ × ν)} {key : κ} :
    key ∈ (ofList items).keys ↔ key ∈ items.map Prod.fst := by
  rw [ofList, mem_keys_setAll, keys_empty]
  simp

theorem contains_iff {dict : Dict κ ν} {key : κ} : dict.contains key = true ↔ key ∈ dict.keys := by
  rw [contains, Option.isSome_iff_exists, mem_keys_iff]

/-- Mapping the values after storing one, or storing a mapped one. -/
theorem mapVals_set (f : κ → ν → μ) (dict : Dict κ ν) (key : κ) (value : ν) :
    (dict.set key value).mapVals f = (dict.mapVals f).set key (f key value) := by
  refine eq_of_items ?_
  show (setItems key value dict.items).map _ = setItems key (f key value) (dict.items.map _)
  induction dict.items with
  | nil => rfl
  | cons item rest ih =>
    by_cases same : item.1 = key
    · simp [setItems, same]
    · simp only [setItems, same, if_false, List.map_cons, ih]

theorem mapVals_setAll (f : κ → ν → μ) (dict : Dict κ ν) (items : List (κ × ν)) :
    (dict.setAll items).mapVals f =
      (dict.mapVals f).setAll (items.map fun item => (item.1, f item.1 item.2)) := by
  induction items generalizing dict with
  | nil => rfl
  | cons item rest ih =>
    show ((dict.set item.1 item.2).setAll rest).mapVals f = _
    rw [ih, mapVals_set]
    rfl

/-- What was written is one of the items, or was there before. -/
theorem mem_of_get?_setAll {dict : Dict κ ν} {items : List (κ × ν)} {key : κ} {value : ν}
    (found : (dict.setAll items).get? key = some value) :
    (key, value) ∈ items ∨ dict.get? key = some value := by
  induction items generalizing dict with
  | nil => exact .inr found
  | cons item rest ih =>
    have later : ((dict.set item.1 item.2).setAll rest).get? key = some value := found
    rcases ih later with inside | stored
    · exact .inl (List.mem_cons_of_mem item inside)
    · rw [get?_set] at stored
      split at stored
      · next same =>
        cases stored
        exact .inl (List.mem_cons.mpr (.inl (Prod.ext same rfl)))
      · exact .inr stored

/-! ### Storing in a loop -/

section Loops

variable {α : Type*} (key : α → κ) (value : α → Option ν → ν)

/-- A loop that stores one value for each element, which may depend on what was stored there. -/
def storeEach (elements : List α) (dict : Dict κ ν) : Dict κ ν :=
  elements.foldl (fun dict element =>
    dict.set (key element) (value element (dict.get? (key element)))) dict

/-- A key that no element has keeps its value. -/
theorem get?_storeEach_of_not_mem {elements : List α} (dict : Dict κ ν) {other : κ}
    (absent : other ∉ elements.map key) :
    (storeEach key value elements dict).get? other = dict.get? other := by
  induction elements generalizing dict with
  | nil => rfl
  | cons element rest ih =>
    rw [List.map_cons, List.mem_cons, not_or] at absent
    show (storeEach key value rest (dict.set _ _)).get? other = _
    rw [ih _ absent.2, get?_set_of_ne _ _ absent.1]

/-- With different keys every element reads what was there before the loop. -/
theorem get?_storeEach_of_mem {elements : List α} (nodup : (elements.map key).Nodup)
    (dict : Dict κ ν) {element : α} (member : element ∈ elements) :
    (storeEach key value elements dict).get? (key element) =
      some (value element (dict.get? (key element))) := by
  induction elements generalizing dict with
  | nil => cases member
  | cons first rest ih =>
    rw [List.map_cons, List.nodup_cons] at nodup
    show (storeEach key value rest (dict.set _ _)).get? (key element) = _
    rcases List.mem_cons.mp member with rfl | inside
    · rw [get?_storeEach_of_not_mem key value _ nodup.1, get?_set_self]
    · have different : key element ≠ key first := fun same =>
        nodup.1 (same ▸ List.mem_map_of_mem inside)
      rw [ih nodup.2 _ inside, get?_set_of_ne _ _ different]

/-- With different keys the loop writes what every element makes of the dictionary before the loop. -/
theorem storeEach_eq_setAll {elements : List α} (nodup : (elements.map key).Nodup)
    (dict : Dict κ ν) :
    storeEach key value elements dict =
      dict.setAll (elements.map fun element => (key element, value element (dict.get? (key element)))) := by
  induction elements generalizing dict with
  | nil => rfl
  | cons first rest ih =>
    rw [List.map_cons, List.nodup_cons] at nodup
    show storeEach key value rest (dict.set _ _) = (dict.set _ _).setAll (rest.map _)
    rw [ih nodup.2]
    refine congrArg _ (List.map_congr_left fun element member => ?_)
    have different : key element ≠ key first := fun same =>
      nodup.1 (same ▸ List.mem_map_of_mem member)
    rw [get?_set_of_ne _ _ different]

theorem mem_keys_storeEach {elements : List α} (dict : Dict κ ν) {other : κ} :
    other ∈ (storeEach key value elements dict).keys ↔
      other ∈ dict.keys ∨ other ∈ elements.map key := by
  induction elements generalizing dict with
  | nil => simp [storeEach]
  | cons element rest ih =>
    show other ∈ (storeEach key value rest (dict.set _ _)).keys ↔ _
    have here : other ∈ (dict.set (key element) (value element (dict.get? (key element)))).keys ↔
        other ∈ dict.keys ∨ other = key element := by
      simp only [mem_keys_iff, get?_set]
      by_cases same : other = key element <;> simp [same]
    rw [ih, here, List.map_cons, List.mem_cons, or_assoc]

end Loops

/-! ### Items of each operation -/

theorem setItems_of_not_mem {key : κ} {items : List (κ × ν)} (value : ν)
    (absent : key ∉ items.map Prod.fst) : setItems key value items = items ++ [(key, value)] := by
  induction items with
  | nil => rfl
  | cons item rest ih =>
    rw [List.map_cons, List.mem_cons, not_or] at absent
    have different : item.1 ≠ key := fun equal => absent.1 equal.symm
    simp only [setItems, different, if_false, ih absent.2, List.cons_append]

theorem setItems_of_lookup {key : κ} {value : ν} {items : List (κ × ν)}
    (stored : items.lookup key = some value) : setItems key value items = items := by
  induction items with
  | nil => cases stored
  | cons item rest ih =>
    obtain ⟨first, held⟩ := item
    by_cases same : first = key
    · subst same
      rw [List.lookup_cons_self, Option.some.injEq] at stored
      rw [setItems, if_pos rfl, stored]
    · rw [List.lookup_cons, beq_false_of_ne (Ne.symm same)] at stored
      rw [setItems, if_neg same, ih stored]

theorem setItems_setItems (key : κ) (value other : ν) (items : List (κ × ν)) :
    setItems key value (setItems key other items) = setItems key value items := by
  induction items with
  | nil => simp [setItems]
  | cons item rest ih =>
    by_cases same : item.1 = key
    · rw [setItems, if_pos same, setItems, if_pos rfl, setItems, if_pos same]
    · rw [setItems, if_neg same, setItems, if_neg same, ih, setItems, if_neg same]

/-- Only the last value written under a key counts. -/
theorem set_set (dict : Dict κ ν) (key : κ) (value other : ν) :
    (dict.set key other).set key value = dict.set key value :=
  eq_of_items (setItems_setItems key value other dict.items)

/-- Writing what is stored changes nothing. -/
theorem set_of_get? {dict : Dict κ ν} {key : κ} {value : ν} (stored : dict.get? key = some value) :
    dict.set key value = dict :=
  eq_of_items (setItems_of_lookup stored)

theorem setAll_of_mem (dict : Dict κ ν) {items : List (κ × ν)}
    (stored : ∀ item ∈ items, item ∈ dict.items) : dict.setAll items = dict := by
  induction items with
  | nil => rfl
  | cons item rest ih =>
    have here : dict.set item.1 item.2 = dict :=
      set_of_get? (get?_eq_some_iff.mpr (stored item List.mem_cons_self))
    show (dict.set item.1 item.2).setAll rest = dict
    rw [here]
    exact ih fun other member => stored other (List.mem_cons_of_mem item member)

/-- Writing fresh keys appends their items. -/
theorem items_setAll_of_disjoint (dict : Dict κ ν) {items : List (κ × ν)}
    (nodup : (items.map Prod.fst).Nodup) (fresh : ∀ key ∈ items.map Prod.fst, key ∉ dict.keys) :
    (dict.setAll items).items = dict.items ++ items := by
  induction items generalizing dict with
  | nil => simp [setAll]
  | cons item rest ih =>
    rw [List.map_cons, List.nodup_cons] at nodup
    have here : (dict.set item.1 item.2).items = dict.items ++ [item] :=
      setItems_of_not_mem item.2 (fresh item.1 (by simp))
    show ((dict.set item.1 item.2).setAll rest).items = _
    rw [ih _ nodup.2, here, List.append_assoc, List.singleton_append]
    intro key member
    rw [keys, here, List.map_append, List.mem_append, not_or]
    refine ⟨fresh key (List.mem_cons_of_mem _ member), ?_⟩
    rintro (_ | ⟨_, ⟨⟩⟩)
    exact nodup.1 member

theorem items_update_of_disjoint (dict other : Dict κ ν)
    (fresh : ∀ key ∈ other.keys, key ∉ dict.keys) :
    (dict.update other).items = dict.items ++ other.items :=
  items_setAll_of_disjoint dict other.nodup fresh

theorem items_ofKeys {keys : List κ} (nodup : keys.Nodup) (f : κ → ν) :
    (ofKeys keys f).items = keys.map fun key => (key, f key) := by
  have distinct : ((keys.map fun key => (key, f key)).map Prod.fst).Nodup := by
    simpa [List.map_map, Function.comp_def] using nodup
  rw [ofKeys, ofList, items_setAll_of_disjoint empty distinct (by simp), items_empty,
    List.nil_append]

theorem keys_ofKeys {keys : List κ} (nodup : keys.Nodup) (f : κ → ν) :
    (ofKeys keys f).keys = keys := by
  simp [Dict.keys, items_ofKeys nodup, List.map_map, Function.comp_def]

theorem values_ofKeys {keys : List κ} (nodup : keys.Nodup) (f : κ → ν) :
    (ofKeys keys f).values = keys.map f := by
  simp [values, items_ofKeys nodup, List.map_map, Function.comp_def]

theorem get?_ofKeys {keys : List κ} (nodup : keys.Nodup) (f : κ → ν) (key : κ) :
    (ofKeys keys f).get? key = if key ∈ keys then some (f key) else none := by
  refine Option.ext fun value => ?_
  rw [get?_eq_some_iff, items_ofKeys nodup]
  by_cases member : key ∈ keys
  · simp [member, Prod.mk.injEq, eq_comm]
  · simp only [member, if_false, List.mem_map, Prod.mk.injEq, reduceCtorEq, iff_false]
    rintro ⟨other, inside, rfl, _⟩
    exact member inside

theorem mem_keys_ofKeys {keys : List κ} {f : κ → ν} {key : κ} :
    key ∈ (ofKeys keys f).keys ↔ key ∈ keys := by
  rw [ofKeys, mem_keys_ofList, List.map_map]
  simp

/-- A key of the list has its value, however often it is listed. -/
theorem get?_ofKeys_of_mem {keys : List κ} (f : κ → ν) {key : κ} (member : key ∈ keys) :
    (ofKeys keys f).get? key = some (f key) := by
  obtain ⟨value, found⟩ := mem_keys_iff.mp (mem_keys_ofKeys.mpr member)
  rcases mem_of_get?_setAll found with inside | stored
  · obtain ⟨other, _, same⟩ := List.mem_map.mp inside
    cases same
    exact found
  · cases stored

/-! ### Lookups with a default -/

theorem getD_of_some {dict : Dict κ ν} {key : κ} {value : ν} (stored : dict.get? key = some value)
    (default : ν) : dict.getD key default = value := by
  rw [getD, stored]
  rfl

theorem getD_of_none {dict : Dict κ ν} {key : κ} (absent : dict.get? key = none) (default : ν) :
    dict.getD key default = default := by
  rw [getD, absent]
  rfl

theorem getD_congr {first second : Dict κ ν} {key : κ} (same : first.get? key = second.get? key)
    (default : ν) : first.getD key default = second.getD key default := by
  unfold getD
  rw [same]

theorem getD_set_self (dict : Dict κ ν) (key : κ) (value default : ν) :
    (dict.set key value).getD key default = value :=
  getD_of_some (get?_set_self dict key value) default

theorem getD_set_of_ne (dict : Dict κ ν) {key other : κ} (value default : ν)
    (different : other ≠ key) : (dict.set key value).getD other default = dict.getD other default :=
  getD_congr (get?_set_of_ne dict value different) default

/-- What holds of the default and of the entry holds of the lookup. -/
theorem getD_induction {holds : ν → Prop} {dict : Dict κ ν} {key : κ} {default : ν}
    (whenAbsent : holds default)
    (whenStored : ∀ value, dict.get? key = some value → holds value) :
    holds (dict.getD key default) := by
  cases found : dict.get? key with
  | none =>
    rw [getD_of_none found]
    exact whenAbsent
  | some value =>
    rw [getD_of_some found]
    exact whenStored value found

/-- A dictionary's values are the values of its lookups. -/
theorem values_eq_map_getD (dict : Dict κ ν) (default : ν) :
    dict.values = dict.keys.map fun key => dict.getD key default := by
  rw [values, keys, List.map_map]
  refine List.map_congr_left fun item member => ?_
  exact (getD_of_some (get?_eq_some_iff.mpr member) default).symm

/-! ### Lookups determine the items up to order -/

theorem nodup_items (dict : Dict κ ν) : dict.items.Nodup := dict.nodup.of_map

theorem perm_of_get?_eq {first second : Dict κ ν}
    (same : ∀ key, first.get? key = second.get? key) : first.items.Perm second.items := by
  refine (List.perm_ext_iff_of_nodup first.nodup_items second.nodup_items).mpr ?_
  rintro ⟨key, value⟩
  rw [← get?_eq_some_iff, ← get?_eq_some_iff, same]

/-- Lookups that are those of a function on a list give its values, up to order. -/
theorem values_perm_of_get? {dict : Dict κ ν} {keys : List κ} (nodup : keys.Nodup) {f : κ → ν}
    (lookups : ∀ key, dict.get? key = if key ∈ keys then some (f key) else none) :
    dict.values.Perm (keys.map f) := by
  have items : dict.items.Perm (ofKeys keys f).items :=
    perm_of_get?_eq fun key => by rw [lookups, get?_ofKeys nodup]
  rw [← values_ofKeys nodup f]
  exact items.map Prod.snd

/-- The same for lookups that are those of another dictionary, rewritten. -/
theorem values_perm_of_get?_map {dict : Dict κ μ} {before : Dict κ ν} {f : κ → ν → μ}
    (lookups : ∀ key, dict.get? key = (before.get? key).map (f key)) (default : ν) :
    dict.values.Perm (before.keys.map fun key => f key (before.getD key default)) := by
  refine values_perm_of_get? before.keys_nodup fun key => ?_
  rw [lookups]
  by_cases present : key ∈ before.keys
  · obtain ⟨value, stored⟩ := mem_keys_iff.mp present
    rw [if_pos present, getD_of_some stored, stored]
    rfl
  · rw [if_neg present, get?_eq_none_iff.mpr present]
    rfl

/-- And it has the same keys. -/
theorem mem_keys_of_get?_map {dict : Dict κ μ} {before : Dict κ ν} {f : κ → ν → μ}
    (lookups : ∀ key, dict.get? key = (before.get? key).map (f key)) {key : κ} :
    key ∈ dict.keys ↔ key ∈ before.keys := by
  rw [← not_iff_not, ← get?_eq_none_iff, ← get?_eq_none_iff, lookups, Option.map_eq_none_iff]

/-- What holds of all entries that one key has before and after such a change. -/
theorem forall_get?_map_iff {dict : Dict κ μ} {before : Dict κ ν} {f : κ → ν → μ}
    {holds : κ → ν → μ → Prop} (lookups : ∀ key, dict.get? key = (before.get? key).map (f key)) :
    (∀ key old new, before.get? key = some old → dict.get? key = some new → holds key old new) ↔
      ∀ key old, before.get? key = some old → holds key old (f key old) := by
  constructor
  · intro all key old stored
    exact all key old (f key old) stored (by rw [lookups, stored, Option.map_some])
  · intro all key old new stored found
    rw [lookups, stored, Option.map_some, Option.some.injEq] at found
    exact found ▸ all key old stored

theorem same_iff [DecidableEq ν] {first second : Dict κ ν} :
    first.same second = true ↔ ∀ key, first.get? key = second.get? key := by
  simp only [same, Bool.and_eq_true, decide_eq_true_eq, List.all_eq_true]
  constructor
  · rintro ⟨sizes, every⟩
    have inside : first.items ⊆ second.items := fun item member =>
      get?_eq_some_iff.mp (every item member)
    have perm : first.items.Perm second.items :=
      (List.subperm_of_subset first.nodup_items inside).perm_of_length_le (le_of_eq sizes.symm)
    intro key
    refine Option.ext fun value => ?_
    rw [get?_eq_some_iff, get?_eq_some_iff]
    exact perm.mem_iff
  · intro lookups
    exact ⟨(perm_of_get?_eq lookups).length_eq, fun item member => by
      rw [← lookups]
      exact get?_eq_some_iff.mpr member⟩

/-- Writing a list keeps the items of other keys and adds the list. -/
theorem items_setAll_perm (dict : Dict κ ν) {items : List (κ × ν)}
    (nodup : (items.map Prod.fst).Nodup) :
    (dict.setAll items).items.Perm
      ((dict.items.filter fun item => item.1 ∉ items.map Prod.fst) ++ items) := by
  have apart : ((dict.items.filter fun item => item.1 ∉ items.map Prod.fst) ++ items).Nodup := by
    refine List.nodup_append.mpr ⟨dict.nodup_items.filter _, nodup.of_map, ?_⟩
    rintro item kept other listed rfl
    have free := (List.mem_filter.mp kept).2
    rw [decide_eq_true_eq] at free
    exact free (List.mem_map_of_mem listed)
  refine (List.perm_ext_iff_of_nodup (dict.setAll items).nodup_items apart).mpr ?_
  rintro ⟨key, value⟩
  rw [← get?_eq_some_iff, get?_setAll dict nodup, List.mem_append, List.mem_filter,
    decide_eq_true_eq, ← get?_eq_some_iff]
  cases written : items.lookup key with
  | some stored =>
    have member := (lookup_eq_some_iff nodup).mp written
    have listed : key ∈ items.map Prod.fst := List.mem_map_of_mem (f := Prod.fst) member
    rw [← lookup_eq_some_iff nodup, written]
    simp [listed]
  | none =>
    have absent : key ∉ items.map Prod.fst := by
      intro listed
      obtain ⟨item, member, same⟩ := List.mem_map.mp listed
      have found := (lookup_eq_some_iff nodup).mpr (same ▸ member : (key, item.2) ∈ items)
      rw [written] at found
      cases found
    rw [← lookup_eq_some_iff nodup, written]
    simp [absent]

/-- A stored item, split off from the rest. -/
theorem items_perm_cons_pop {dict : Dict κ ν} {key : κ} {value : ν}
    (found : dict.get? key = some value) :
    dict.items.Perm ((key, value) :: (dict.pop key).items) := by
  have absent : (key, value) ∉ (dict.pop key).items := by
    rw [← get?_eq_some_iff, get?_pop, if_pos rfl]
    simp
  refine (List.perm_ext_iff_of_nodup dict.nodup_items
    (List.nodup_cons.mpr ⟨absent, (dict.pop key).nodup_items⟩)).mpr ?_
  rintro ⟨other, stored⟩
  rw [List.mem_cons, ← get?_eq_some_iff, ← get?_eq_some_iff, get?_pop, Prod.mk.injEq]
  by_cases same : other = key
  · subst same
    rw [found, if_pos rfl, Option.some.injEq]
    simp [eq_comm]
  · simp [same]

theorem values_perm_cons_pop {dict : Dict κ ν} {key : κ} {value : ν}
    (found : dict.get? key = some value) :
    dict.values.Perm (value :: (dict.pop key).values) :=
  (items_perm_cons_pop found).map Prod.snd

/-- Overwriting a value leaves the rest as it is. -/
theorem values_set_perm_cons_pop (dict : Dict κ ν) (key : κ) (value : ν) :
    (dict.set key value).values.Perm (value :: (dict.pop key).values) := by
  refine (values_perm_cons_pop (get?_set_self dict key value)).trans (List.Perm.cons value ?_)
  refine (perm_of_get?_eq fun other => ?_).map Prod.snd
  by_cases same : other = key <;> simp [same]

end Lookup

section Matches

variable [DecidableEq κ] {related : κ → ν → μ → Prop} {first : Dict κ ν} {second : Dict κ μ}

/-- Two dictionaries with the same keys, whose values are related key by key. -/
def Matches (related : κ → ν → μ → Prop) (first : Dict κ ν) (second : Dict κ μ) : Prop :=
  ∀ key, Option.Rel (related key) (first.get? key) (second.get? key)

theorem matches_empty : Matches related empty empty := fun _ => .none

theorem Matches.set (both : Matches related first second) {key : κ} {value : ν} {other : μ}
    (holds : related key value other) : Matches related (first.set key value) (second.set key other) := by
  intro place
  rw [get?_set, get?_set]
  by_cases same : place = key
  · rw [if_pos same, if_pos same, same]
    exact .some holds
  · rw [if_neg same, if_neg same]
    exact both place

theorem Matches.exists_right (both : Matches related first second) {key : κ} {value : ν}
    (present : first.get? key = some value) :
    ∃ other, second.get? key = some other ∧ related key value other := by
  have here := both key
  rw [present] at here
  cases stored : second.get? key with
  | none =>
    rw [stored] at here
    cases here
  | some other =>
    rw [stored] at here
    cases here with
    | some holds => exact ⟨other, rfl, holds⟩

theorem Matches.exists_left (both : Matches related first second) {key : κ} {other : μ}
    (present : second.get? key = some other) :
    ∃ value, first.get? key = some value ∧ related key value other := by
  have here := both key
  rw [present] at here
  cases stored : first.get? key with
  | none =>
    rw [stored] at here
    cases here
  | some value =>
    rw [stored] at here
    cases here with
    | some holds => exact ⟨value, rfl, holds⟩

theorem Matches.mem_keys_iff (both : Matches related first second) {key : κ} :
    key ∈ first.keys ↔ key ∈ second.keys := by
  rw [Dict.mem_keys_iff, Dict.mem_keys_iff]
  constructor
  · rintro ⟨value, present⟩
    obtain ⟨other, stored, _⟩ := both.exists_right present
    exact ⟨other, stored⟩
  · rintro ⟨other, present⟩
    obtain ⟨value, stored, _⟩ := both.exists_left present
    exact ⟨value, stored⟩

end Matches

section Sorted

variable [LinearOrder κ]

/-- The items in increasing order of their keys. -/
def sortedItems (dict : Dict κ ν) : List (κ × ν) :=
  dict.items.insertionSort fun first second => first.1 ≤ second.1

theorem sortedItems_perm (dict : Dict κ ν) : dict.sortedItems.Perm dict.items :=
  List.perm_insertionSort _ _

/-- Two sorted lists of items with distinct keys are equal when they have the same items. -/
theorem eq_of_perm_of_sorted {first second : List (κ × ν)} (perm : first.Perm second)
    (nodup : (first.map Prod.fst).Nodup)
    (firstSorted : first.Pairwise fun a b => a.1 ≤ b.1)
    (secondSorted : second.Pairwise fun a b => a.1 ≤ b.1) : first = second := by
  refine List.Perm.eq_of_pairwise (fun a b inFirst inSecond less more => ?_)
    firstSorted secondSorted perm
  have sameKey : a.1 = b.1 := le_antisymm less more
  exact List.inj_on_of_nodup_map nodup inFirst (perm.mem_iff.mpr inSecond) sameKey

theorem pairwise_sortedItems (dict : Dict κ ν) :
    dict.sortedItems.Pairwise fun a b => a.1 ≤ b.1 := by
  have : Std.Total fun (a b : κ × ν) => a.1 ≤ b.1 := ⟨fun a b => le_total a.1 b.1⟩
  have : IsTrans (κ × ν) fun a b => a.1 ≤ b.1 := ⟨fun _ _ _ => le_trans⟩
  exact List.pairwise_insertionSort _ _

/-- Sorting by key forgets the insertion order. -/
theorem sortedItems_congr {first second : Dict κ ν}
    (same : ∀ key, first.get? key = second.get? key) :
    first.sortedItems = second.sortedItems := by
  have perm : first.sortedItems.Perm second.sortedItems :=
    first.sortedItems_perm.trans ((perm_of_get?_eq same).trans second.sortedItems_perm.symm)
  refine eq_of_perm_of_sorted perm ?_ first.pairwise_sortedItems second.pairwise_sortedItems
  exact ((first.sortedItems_perm.map Prod.fst).nodup_iff).mpr first.nodup

theorem lookup_sortedItems (dict : Dict κ ν) (key : κ) :
    dict.sortedItems.lookup key = dict.get? key := by
  have nodup : (dict.sortedItems.map Prod.fst).Nodup :=
    (dict.sortedItems_perm.map Prod.fst).nodup_iff.mpr dict.nodup
  refine Option.ext fun value => ?_
  rw [lookup_eq_some_iff nodup, dict.sortedItems_perm.mem_iff, ← get?_eq_some_iff]

theorem sortedItems_pop (dict : Dict κ ν) (key : κ) :
    (dict.pop key).sortedItems = dict.sortedItems.filter fun item => item.1 ≠ key := by
  have perm : (dict.pop key).sortedItems.Perm
      (dict.sortedItems.filter fun item => item.1 ≠ key) :=
    (dict.pop key).sortedItems_perm.trans (dict.sortedItems_perm.symm.filter _)
  refine eq_of_perm_of_sorted perm ?_ (pairwise_sortedItems _)
    ((pairwise_sortedItems dict).sublist List.filter_sublist)
  exact ((dict.pop key).sortedItems_perm.map Prod.fst).nodup_iff.mpr (dict.pop key).nodup

end Sorted

end Dict

end Opendps.Lib
