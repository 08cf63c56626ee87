/-!
# Finite sets of names

A `NameSet` is a list of names in increasing order, so a set has one
representation and its elements come out sorted by code point.

* **insert, erase** — the two updates; both keep the order.
* **ofList, union, diff** — sets built from other collections.
* **ext** — sets with the same members are equal.
-/

namespace AdapterWiring

/-! ## Increasing lists of names -/

namespace SortedNames

/-- Put `name` at its place in an increasing list, unless it is there already. -/
def insert (name : String) : List String → List String
  | [] => [name]
  | head :: rest =>
    if name < head then name :: head :: rest
    else if name = head then head :: rest
    else head :: insert name rest

/-- No names are in order. -/
theorem pairwise_nil : ([] : List String).Pairwise (· < ·) := .nil

theorem nodup {names : List String} (sorted : names.Pairwise (· < ·)) : names.Nodup := by
  apply sorted.imp
  intro first second before same
  subst same
  exact String.lt_irrefl _ before

theorem mem_insert {name other : String} {names : List String} :
    other ∈ insert name names ↔ other = name ∨ other ∈ names := by
  induction names with
  | nil => simp [insert]
  | cons head rest ih => grind [insert]

theorem pairwise_insert {name : String} {names : List String}
    (sorted : names.Pairwise (· < ·)) : (insert name names).Pairwise (· < ·) := by
  induction names with
  | nil => simp [insert]
  | cons head rest ih =>
    obtain ⟨below, sortedRest⟩ := List.pairwise_cons.1 sorted
    rw [insert]
    split
    next before =>
      exact List.pairwise_cons.2 ⟨fun other member => by
        rcases List.mem_cons.1 member with rfl | later
        · exact before
        · exact String.lt_trans before (below _ later), sorted⟩
    next notBefore =>
      split
      next => exact sorted
      next different =>
        refine List.pairwise_cons.2 ⟨fun other member => ?_, ih sortedRest⟩
        rcases mem_insert.1 member with rfl | later
        · exact Std.lt_of_le_of_ne notBefore (Ne.symm different)
        · exact below _ later

/-- Increasing lists with the same members are equal. -/
theorem eq_of_mem_iff {first second : List String} (sortedFirst : first.Pairwise (· < ·))
    (sortedSecond : second.Pairwise (· < ·))
    (same : ∀ name, name ∈ first ↔ name ∈ second) : first = second := by
  induction first generalizing second with
  | nil =>
    cases second with
    | nil => rfl
    | cons head rest => exact absurd ((same head).2 (List.mem_cons_self ..)) List.not_mem_nil
  | cons head rest ih =>
    cases second with
    | nil => exact absurd ((same head).1 (List.mem_cons_self ..)) List.not_mem_nil
    | cons head' rest' =>
      obtain ⟨below, sortedRest⟩ := List.pairwise_cons.1 sortedFirst
      obtain ⟨below', sortedRest'⟩ := List.pairwise_cons.1 sortedSecond
      have heads : head = head' := by
        rcases List.mem_cons.1 ((same head).1 (List.mem_cons_self ..)) with eq | later
        · exact eq
        rcases List.mem_cons.1 ((same head').2 (List.mem_cons_self ..)) with eq | later'
        · exact eq.symm
        exact absurd (below' _ later) (String.lt_asymm (below _ later'))
      subst heads
      congr 1
      refine ih sortedRest sortedRest' fun name => ⟨fun member => ?_, fun member => ?_⟩
      · rcases List.mem_cons.1 ((same name).1 (List.mem_cons_of_mem _ member)) with rfl | later
        · exact absurd (below _ member) (String.lt_irrefl _)
        · exact later
      · rcases List.mem_cons.1 ((same name).2 (List.mem_cons_of_mem _ member)) with rfl | later
        · exact absurd (below' _ member) (String.lt_irrefl _)
        · exact later

end SortedNames

/-! ## Sets -/

/-- A finite set of names, held in increasing order. -/
structure NameSet where
  /-- The members, in increasing order. -/
  toList : List String
  /-- The order that makes the representation unique. -/
  sorted : toList.Pairwise (· < ·)
deriving DecidableEq

namespace NameSet

/-- The set without members. -/
def empty : NameSet := ⟨[], SortedNames.pairwise_nil⟩

instance : EmptyCollection NameSet := ⟨empty⟩
instance : Inhabited NameSet := ⟨∅⟩

instance : Membership String NameSet := ⟨fun set name => name ∈ set.toList⟩

instance (name : String) (set : NameSet) : Decidable (name ∈ set) :=
  inferInstanceAs (Decidable (name ∈ set.toList))

/-- The number of members. -/
def size (set : NameSet) : Nat := set.toList.length

/-- Whether the set has no member. -/
def isEmpty (set : NameSet) : Bool := set.toList.isEmpty

/-- The set with `name` added. -/
def insert (set : NameSet) (name : String) : NameSet :=
  ⟨SortedNames.insert name set.toList, SortedNames.pairwise_insert set.sorted⟩

/-- The members that satisfy `keep`. -/
def filter (set : NameSet) (keep : String → Bool) : NameSet :=
  ⟨set.toList.filter keep, set.sorted.filter keep⟩

/-- The set without `name`. -/
def erase (set : NameSet) (name : String) : NameSet :=
  set.filter (· ≠ name)

/-- The set of the names in a list, whatever their order and repetitions. -/
def ofList (names : List String) : NameSet :=
  names.foldl insert ∅

/-- The set with one member. -/
def singleton (name : String) : NameSet :=
  ⟨[name], List.pairwise_singleton ..⟩

/-- The names in either set. -/
def union (first second : NameSet) : NameSet :=
  second.toList.foldl insert first

/-- The names of `set` that are not in `other`. -/
def diff (set other : NameSet) : NameSet :=
  set.filter (· ∉ other)

/-- Whether the sets share a member. -/
def meets (first second : NameSet) : Bool :=
  first.toList.any (· ∈ second)

theorem mem_def {name : String} {set : NameSet} : name ∈ set ↔ name ∈ set.toList := .rfl

/-- Sets with the same members are equal. -/
@[ext]
theorem ext {first second : NameSet} (same : ∀ name, name ∈ first ↔ name ∈ second) :
    first = second := by
  cases first with
  | mk names sorted =>
    cases second with
    | mk names' sorted' =>
      congr
      exact SortedNames.eq_of_mem_iff sorted sorted' same

@[simp]
theorem not_mem_empty (name : String) : name ∉ (∅ : NameSet) := List.not_mem_nil

@[simp]
theorem mem_insert {set : NameSet} {name other : String} :
    other ∈ set.insert name ↔ other = name ∨ other ∈ set :=
  SortedNames.mem_insert

@[simp]
theorem mem_filter {set : NameSet} {keep : String → Bool} {name : String} :
    name ∈ set.filter keep ↔ name ∈ set ∧ keep name :=
  List.mem_filter

@[simp]
theorem mem_erase {set : NameSet} {name other : String} :
    other ∈ set.erase name ↔ other ∈ set ∧ other ≠ name := by
  simp [erase]

@[simp]
theorem mem_singleton {name other : String} : other ∈ singleton name ↔ other = name :=
  List.mem_singleton

theorem mem_foldl_insert {set : NameSet} {names : List String} {name : String} :
    name ∈ names.foldl insert set ↔ name ∈ set ∨ name ∈ names := by
  induction names generalizing set with
  | nil => simp
  | cons head rest ih =>
    rw [List.foldl_cons, ih, mem_insert, List.mem_cons]
    grind

@[simp]
theorem mem_ofList {names : List String} {name : String} : name ∈ ofList names ↔ name ∈ names := by
  simp [ofList, mem_foldl_insert]

@[simp]
theorem mem_union {first second : NameSet} {name : String} :
    name ∈ first.union second ↔ name ∈ first ∨ name ∈ second :=
  mem_foldl_insert

theorem mem_foldl_union {sets : List NameSet} {first : NameSet} {name : String} :
    name ∈ sets.foldl union first ↔ name ∈ first ∨ ∃ set ∈ sets, name ∈ set := by
  induction sets generalizing first with
  | nil => simp
  | cons head rest ih =>
    rw [List.foldl_cons, ih, mem_union, or_assoc]
    simp

@[simp]
theorem mem_diff {set other : NameSet} {name : String} :
    name ∈ set.diff other ↔ name ∈ set ∧ name ∉ other := by
  simp [diff]

/-- Names in increasing order are the members of their set as they are listed. -/
theorem toList_ofList {names : List String} (sorted : names.Pairwise (· < ·)) :
    (ofList names).toList = names :=
  SortedNames.eq_of_mem_iff (ofList names).sorted sorted fun _ => mem_ofList

theorem meets_iff {first second : NameSet} :
    first.meets second = true ↔ ∃ name, name ∈ first ∧ name ∈ second := by
  simp [meets, mem_def]

theorem isEmpty_iff {set : NameSet} : set.isEmpty = true ↔ set = ∅ := by
  cases set with
  | mk names sorted => simp [isEmpty, EmptyCollection.emptyCollection, empty]

theorem exists_mem {set : NameSet} (nonempty : set ≠ ∅) : ∃ name, name ∈ set := by
  cases listed : set.toList with
  | nil => exact absurd (isEmpty_iff.1 (by simp [isEmpty, listed])) nonempty
  | cons head rest => exact ⟨head, by simp [mem_def, listed]⟩

/-- Taking a member out makes the set smaller. -/
theorem size_erase_lt {set : NameSet} {name : String} (member : name ∈ set) :
    (set.erase name).size < set.size :=
  List.length_filter_lt_length_iff_exists.2 ⟨name, member, by simp⟩

end NameSet

end AdapterWiring
