import AdapterWiring.NameSet

/-!
# Finite maps keyed by name

A `NameMap` is a list of entries in increasing order of their keys, so its
entries come out sorted by code point and a key occurs once.

* **insert** — a later entry for a key replaces the earlier one.
* **get?** — the entry of a key.
* **ofList** — the map that a list of entries describes, the last one winning.
-/

namespace AdapterWiring

/-! ## Increasing lists of entries -/

namespace SortedEntries

variable {α : Type}

/-- Put an entry at the place of its key, over an entry that is there already. -/
def insert (name : String) (value : α) : List (String × α) → List (String × α)
  | [] => [(name, value)]
  | head :: rest =>
    if name < head.1 then (name, value) :: head :: rest
    else if name = head.1 then (name, value) :: rest
    else head :: insert name value rest

theorem map_fst_insert (name : String) (value : α) (entries : List (String × α)) :
    (insert name value entries).map Prod.fst = SortedNames.insert name (entries.map Prod.fst) := by
  induction entries with
  | nil => rfl
  | cons head rest ih =>
    simp only [insert, List.map_cons, SortedNames.insert]
    split
    · rfl
    split
    next same => simp [same]
    next => simp [ih]

/-- The value of the first entry for `name`. -/
def find? (name : String) : List (String × α) → Option α
  | [] => none
  | head :: rest => if head.1 = name then some head.2 else find? name rest

theorem find?_insert (name other : String) (value : α) (entries : List (String × α)) :
    find? other (insert name value entries) =
      if other = name then some value else find? other entries := by
  induction entries with
  | nil => grind [insert, find?]
  | cons head rest ih => grind [insert, find?]

theorem find?_isSome {name : String} {entries : List (String × α)} :
    (find? name entries).isSome = true ↔ name ∈ entries.map Prod.fst := by
  induction entries with
  | nil => simp [find?]
  | cons head rest ih => grind [find?]

theorem mem_of_find?_eq_some {name : String} {value : α} {entries : List (String × α)}
    (found : find? name entries = some value) : (name, value) ∈ entries := by
  induction entries with
  | nil => simp [find?] at found
  | cons head rest ih => grind [find?]

theorem find?_eq_some_of_mem {name : String} {value : α} {entries : List (String × α)}
    (sorted : (entries.map Prod.fst).Pairwise (· < ·)) (member : (name, value) ∈ entries) :
    find? name entries = some value := by
  induction entries with
  | nil => simp at member
  | cons head rest ih =>
    rw [List.map_cons, List.pairwise_cons] at sorted
    obtain ⟨below, sortedRest⟩ := sorted
    rw [find?]
    rcases List.mem_cons.1 member with rfl | later
    · rw [if_pos rfl]
    · have before : head.1 < name := below name (List.mem_map.2 ⟨_, later, rfl⟩)
      have different : head.1 ≠ name := fun same =>
        String.lt_irrefl _ (same ▸ before)
      rw [if_neg different]
      exact ih sortedRest later

end SortedEntries

/-! ## Maps -/

/-- A finite map keyed by name, its entries in increasing order of their keys. -/
structure NameMap (α : Type) where
  /-- The entries, in increasing order of their keys. -/
  entries : List (String × α)
  /-- The order that makes the representation unique. -/
  sorted : (entries.map Prod.fst).Pairwise (· < ·)

namespace NameMap

variable {α β : Type}

instance [DecidableEq α] : DecidableEq (NameMap α) := fun first second =>
  decidable_of_iff (first.entries = second.entries) <| by
    cases first; cases second; simp

/-- The map without entries. -/
def empty : NameMap α := ⟨[], SortedNames.pairwise_nil⟩

instance : EmptyCollection (NameMap α) := ⟨empty⟩
instance : Inhabited (NameMap α) := ⟨∅⟩

/-- The value under `name`. -/
def get? (map : NameMap α) (name : String) : Option α :=
  SortedEntries.find? name map.entries

/-- Whether there is an entry for `name`. -/
def contains (map : NameMap α) (name : String) : Bool :=
  (map.get? name).isSome

/-- The map with `value` under `name`, in place of what was there. -/
def insert (map : NameMap α) (name : String) (value : α) : NameMap α :=
  ⟨SortedEntries.insert name value map.entries, by
    rw [SortedEntries.map_fst_insert]
    exact SortedNames.pairwise_insert map.sorted⟩

/-- The map without an entry for `name`. -/
def erase (map : NameMap α) (name : String) : NameMap α :=
  ⟨map.entries.filter (·.1 ≠ name),
    map.sorted.sublist (List.filter_sublist.map Prod.fst)⟩

/-- The map of a list of entries; a later entry replaces an earlier one of its key. -/
def ofList (entries : List (String × α)) : NameMap α :=
  entries.foldl (fun map entry => map.insert entry.1 entry.2) ∅

/-- The keys. -/
def keys (map : NameMap α) : NameSet :=
  ⟨map.entries.map Prod.fst, map.sorted⟩

/-- The values, in the order of their keys. -/
def values (map : NameMap α) : List α :=
  map.entries.map Prod.snd

/-- The number of entries. -/
def size (map : NameMap α) : Nat := map.entries.length

/-- Whether the map has no entry. -/
def isEmpty (map : NameMap α) : Bool := map.entries.isEmpty

/-- The map with each value replaced. -/
def map (change : α → β) (source : NameMap α) : NameMap β :=
  ⟨source.entries.map fun entry => (entry.1, change entry.2), by
    rw [List.map_map]
    exact source.sorted⟩

@[simp]
theorem get?_empty (name : String) : (∅ : NameMap α).get? name = none := rfl

@[simp]
theorem get?_insert (map : NameMap α) (name other : String) (value : α) :
    (map.insert name value).get? other = if other = name then some value else map.get? other :=
  SortedEntries.find?_insert name other value map.entries

/-- In the map of a list of entries the last entry for a key counts. -/
theorem get?_ofList (entries : List (String × α)) (name : String) :
    (ofList entries).get? name = SortedEntries.find? name entries.reverse := by
  rw [ofList, List.foldl_eq_foldr_reverse]
  induction entries.reverse with
  | nil => rfl
  | cons head rest ih =>
    rw [List.foldr_cons, get?_insert, ih, SortedEntries.find?]
    simp only [eq_comm]

theorem mem_keys {map : NameMap α} {name : String} :
    name ∈ map.keys ↔ (map.get? name).isSome = true :=
  SortedEntries.find?_isSome.symm

theorem mem_entries_of_get?_eq_some {map : NameMap α} {name : String} {value : α}
    (found : map.get? name = some value) : (name, value) ∈ map.entries :=
  SortedEntries.mem_of_find?_eq_some found

/-- The entries are the values under the keys. -/
theorem mem_entries_iff {map : NameMap α} {name : String} {value : α} :
    (name, value) ∈ map.entries ↔ map.get? name = some value :=
  ⟨SortedEntries.find?_eq_some_of_mem map.sorted, mem_entries_of_get?_eq_some⟩

theorem mem_values {map : NameMap α} {value : α} :
    value ∈ map.values ↔ ∃ name, map.get? name = some value := by
  simp [values, ← mem_entries_iff]

end NameMap

end AdapterWiring
