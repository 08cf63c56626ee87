import AdapterWiring.NameMap

/-!
# Supertypes in levels

A type hierarchy is known by looking up direct supertypes. The levels of a
type hold its ancestors by their distance: level zero the direct supertypes,
each later level the names that no earlier level holds.

* **Lookup** — direct supertypes; **FiniteFrom** says that finitely many names
  can be reached from a type.
* **walk** — the breadth-first walk over the ancestors of a type, with the
  names it asks for in order. Cycles are no harm: a name is looked at once.
* **Oracle** — a lookup from which every walk is finite.
* **Oracle.levels** — the levels of a type, or the type that is not known.
-/

namespace AdapterWiring

/-- A type that is not known. -/
structure UnknownType where
  /-- Its name. -/
  name : String
deriving DecidableEq, Inhabited

/-- The wording of the error. -/
def UnknownType.message (error : UnknownType) : String := "unknown type '" ++ error.name ++ "'"

/-- The ancestors of a type by distance: level zero holds its direct supertypes, each later level
only names that no earlier one holds. -/
abbrev Levels := List NameSet

/-- The direct supertypes of types; none at all for a type that is not known. -/
abbrev Lookup := String → Option NameSet

namespace Lookup

/-! ## Finite hierarchies -/

/-- Whether names are closed under direct supertypes. -/
def Closed (lookup : Lookup) (names : List String) : Prop :=
  ∀ name ∈ names, ∀ supertypes, lookup name = some supertypes →
    ∀ supertype ∈ supertypes, supertype ∈ names

/-- Whether finitely many names can be reached from a type. -/
def FiniteFrom (lookup : Lookup) (start : String) : Prop :=
  ∃ names : List String, start ∈ names ∧ lookup.Closed names

/-- Names that hold a type and all that can be reached from it. -/
noncomputable def reachBound {lookup : Lookup} {start : String}
    (finite : lookup.FiniteFrom start) : List String :=
  Classical.choose finite

theorem start_mem_reachBound {lookup : Lookup} {start : String}
    (finite : lookup.FiniteFrom start) : start ∈ reachBound finite :=
  (Classical.choose_spec finite).1

theorem closed_reachBound {lookup : Lookup} {start : String}
    (finite : lookup.FiniteFrom start) : lookup.Closed (reachBound finite) :=
  (Classical.choose_spec finite).2

/-! ## Asking for several types -/

/-- Look up each of several types until one is not known: the names asked for, and the union of the
answers. -/
def gather (lookup : Lookup) : List String → List String × Except UnknownType NameSet
  | [] => ([], .ok ∅)
  | name :: rest =>
    match lookup name with
    | none => ([name], .error ⟨name⟩)
    | some supertypes =>
      let (asked, outcome) := gather lookup rest
      (name :: asked, outcome.map supertypes.union)

/-- The answers stay within names closed under direct supertypes. -/
theorem mem_of_mem_gather {lookup : Lookup} {names asked : List String} {found : NameSet}
    (closed : lookup.Closed names) (inside : ∀ name ∈ asked, name ∈ names)
    (ok : (lookup.gather asked).2 = .ok found) : ∀ name ∈ found, name ∈ names := by
  induction asked generalizing found with
  | nil =>
    simp only [gather, Except.ok.injEq] at ok
    simp [← ok]
  | cons head rest ih =>
    rw [gather] at ok
    split at ok
    · simp at ok
    next supertypes known =>
      cases outcome : (lookup.gather rest).2 with
      | error failure => simp [outcome, Except.map] at ok
      | ok inner =>
        simp only [outcome, Except.map, Except.ok.injEq] at ok
        intro name member
        rw [← ok, NameSet.mem_union] at member
        rcases member with direct | later
        · exact closed head (inside head (List.mem_cons_self ..)) supertypes known name direct
        · exact ih (fun other isOther => inside other (List.mem_cons_of_mem _ isOther)) outcome
            name later

/-! ## Walks -/

/-- A walk over ancestors: the names asked for in order, and the levels found. -/
structure Walk where
  /-- The names asked for. -/
  asked : List String
  /-- The levels, or the type that is not known. -/
  outcome : Except UnknownType Levels
deriving Inhabited

/-- How many of some names are not in a set. -/
def unseen (names : List String) (seen : NameSet) : Nat := names.countP (· ∉ seen)

/-- There are fewer unseen names after a frontier with a fresh one. -/
theorem unseen_union_lt {names : List String} {seen fresh : NameSet}
    (someFresh : ¬ fresh.isEmpty = true) (inside : ∀ name ∈ fresh, name ∈ names)
    (isFresh : ∀ name ∈ fresh, name ∉ seen) :
    unseen names (seen.union fresh) < unseen names seen := by
  obtain ⟨name, member⟩ := NameSet.exists_mem (mt NameSet.isEmpty_iff.2 someFresh)
  have listed := inside name member
  have outside := isFresh name member
  have covered : name ∈ seen.union fresh := NameSet.mem_union.2 (.inr member)
  have monotone : ∀ others : List String, unseen others (seen.union fresh) ≤ unseen others seen :=
    fun others => List.countP_mono_left fun other _ => by
      simp only [decide_eq_true_eq, NameSet.mem_union]
      exact fun absent present => absent (.inl present)
  clear inside
  induction names with
  | nil => simp at listed
  | cons head rest ih =>
    have head_le := monotone [head]
    have rest_le := monotone rest
    simp only [unseen, List.countP_cons, List.countP_nil] at head_le rest_le ⊢
    rcases List.mem_cons.1 listed with rfl | later
    · simp only [covered, outside, not_true_eq_false, not_false_eq_true, decide_true,
        decide_false, Bool.false_eq_true, if_false, if_true]
      omega
    · have := ih later
      simp only [unseen] at this
      omega

/-- Walk on from a frontier, after the names in `seen`. -/
def walkFrom (lookup : Lookup) {start : String} (finite : lookup.FiniteFrom start)
    (seen frontier : NameSet) (inside : ∀ name ∈ frontier, name ∈ reachBound finite) : Walk :=
  let fresh := frontier.diff seen
  have freshInside : ∀ name ∈ fresh, name ∈ reachBound finite := fun name member =>
    inside name (NameSet.mem_diff.1 member).1
  if done : fresh.isEmpty = true then ⟨[], .ok []⟩
  else
    match found : lookup.gather fresh.toList with
    | (asked, .error failure) => ⟨asked, .error failure⟩
    | (asked, .ok next) =>
      have : unseen (reachBound finite) (seen.union fresh) < unseen (reachBound finite) seen :=
        unseen_union_lt done freshInside fun _ member => (NameSet.mem_diff.1 member).2
      let rest := walkFrom lookup finite (seen.union fresh) next
        (mem_of_mem_gather (closed_reachBound finite) freshInside (congrArg Prod.snd found))
      ⟨asked ++ rest.asked, rest.outcome.map (fresh :: ·)⟩
termination_by unseen (reachBound finite) seen

/-- Walk over the ancestors of a type. -/
def walk (lookup : Lookup) (name : String) (finite : lookup.FiniteFrom name) : Walk :=
  match known : lookup name with
  | none => ⟨[name], .error ⟨name⟩⟩
  | some supertypes =>
    let rest := lookup.walkFrom finite ∅ supertypes
      (closed_reachBound finite name (start_mem_reachBound finite) supertypes known)
    ⟨name :: rest.asked, rest.outcome⟩

end Lookup

/-! ## Oracles -/

/-- A lookup from which every walk is finite. -/
structure Oracle where
  /-- The direct supertypes of a type. -/
  lookup : Lookup
  /-- From each type finitely many names can be reached. -/
  finite : ∀ name, lookup.FiniteFrom name

namespace Oracle

/-- The oracle of a table. -/
def ofTable (table : NameMap NameSet) : Oracle where
  lookup := table.get?
  finite name := by
    refine ⟨name :: table.values.flatMap NameSet.toList, List.mem_cons_self .., ?_⟩
    intro other _ supertypes found supertype member
    refine List.mem_cons_of_mem _ (List.mem_flatMap.2 ⟨supertypes, ?_, member⟩)
    exact List.mem_map.2 ⟨_, NameMap.mem_entries_of_get?_eq_some found, rfl⟩

/-- The direct supertypes of a type. -/
def supertypes (oracle : Oracle) (name : String) : Except UnknownType NameSet :=
  match oracle.lookup name with
  | some found => .ok found
  | none => .error ⟨name⟩

/-- Walk over the ancestors of a type. -/
def walk (oracle : Oracle) (name : String) : Lookup.Walk :=
  oracle.lookup.walk name (oracle.finite name)

/-- The levels of a type. -/
def levels (oracle : Oracle) (name : String) : Except UnknownType Levels :=
  (oracle.walk name).outcome

end Oracle

end AdapterWiring
