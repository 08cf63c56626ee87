import AdapterWiring.Proofs.Hierarchy.Reach
import AdapterWiring.Proofs.Session.Recall
import Mathlib.Data.Set.Finite.Basic

/-!
# Levels are layers of distance

A walk goes up one supertype at a time and drops what it has seen, so the names
at a place among the levels are those whose shortest path has that length. A
path of length zero does not count: a type may be its own ancestor.

* **Path** — paths of a given length; **Layer**, **Distance** the shortest ones,
  with and without the empty path.
* **AtDepth** — what a walk knows when it has gone up a number of levels; kept by
  each round (`AtDepth.next`).
* **Layered** — levels that are exactly the layers.
* **FirstUnknown** — the nearest type that is not known, the least of several.
* **levels_layered** — what the walk and a session that remembers nothing give.
-/

namespace AdapterWiring

namespace Lookup

variable {lookup : Lookup} {start : String}

/-! ## Distances -/

/-- A path of so many declared supertypes. -/
inductive Path (lookup : Lookup) (start : String) : Nat → String → Prop
  | here : Path lookup start 0 start
  | up {length : Nat} {lower upper : String} :
    Path lookup start length lower → lookup.Direct lower upper →
    Path lookup start (length + 1) upper

/-- The names whose shortest path that is not empty has length `depth + 1`. -/
def Layer (lookup : Lookup) (start : String) (depth : Nat) (name : String) : Prop :=
  lookup.Path start (depth + 1) name ∧ ∀ less < depth, ¬ lookup.Path start (less + 1) name

/-- The length of the shortest path. -/
def Distance (lookup : Lookup) (start : String) (length : Nat) (name : String) : Prop :=
  lookup.Path start length name ∧ ∀ less < length, ¬ lookup.Path start less name

theorem path_zero_iff {name : String} : lookup.Path start 0 name ↔ name = start := by
  constructor
  · intro path
    cases path
    rfl
  · rintro rfl
    exact .here

theorem path_succ_iff {length : Nat} {upper : String} :
    lookup.Path start (length + 1) upper ↔
      ∃ lower, lookup.Path start length lower ∧ lookup.Direct lower upper := by
  constructor
  · rintro (_ | ⟨path, direct⟩)
    exact ⟨_, path, direct⟩
  · rintro ⟨lower, path, direct⟩
    exact .up path direct

theorem reaches_iff_exists_path {name : String} :
    lookup.Reaches start name ↔ ∃ length, lookup.Path start length name := by
  constructor
  · intro reached
    induction reached with
    | refl => exact ⟨0, .here⟩
    | tail _ direct ih =>
      obtain ⟨length, path⟩ := ih
      exact ⟨length + 1, .up path direct⟩
  · rintro ⟨length, path⟩
    induction path with
    | here => exact .refl
    | up _ direct ih => exact .tail ih direct

/-- What is reached is at some distance. -/
theorem exists_distance {name : String} (reached : lookup.Reaches start name) :
    ∃ length, lookup.Distance start length name := by
  classical
  have some := reaches_iff_exists_path.1 reached
  exact ⟨Nat.find some, Nat.find_spec some, fun less before => Nat.find_min some before⟩

/-- Away from the start the empty path makes no difference. -/
theorem layer_iff_distance {depth : Nat} {name : String} (other : name ≠ start) :
    lookup.Layer start depth name ↔ lookup.Distance start (depth + 1) name := by
  have empty : ¬ lookup.Path start 0 name := fun path => other (path_zero_iff.1 path)
  constructor
  · rintro ⟨path, shortest⟩
    refine ⟨path, fun less before => ?_⟩
    cases less with
    | zero => exact empty
    | succ less => exact shortest less (by omega)
  · rintro ⟨path, shortest⟩
    exact ⟨path, fun less before => shortest (less + 1) (by omega)⟩

/-- A shortest path goes through the layer below. -/
theorem Layer.exists_below {depth : Nat} {name : String}
    (layer : lookup.Layer start (depth + 1) name) :
    ∃ lower, lookup.Layer start depth lower ∧ lookup.Direct lower name := by
  obtain ⟨lower, path, direct⟩ := path_succ_iff.1 layer.1
  refine ⟨lower, ⟨path, fun less before shorter => ?_⟩, direct⟩
  exact layer.2 (less + 1) (by omega) (.up shorter direct)

/-- Finitely many names are reached just if names closed under supertypes can be listed. -/
theorem finiteFrom_iff : lookup.FiniteFrom start ↔ {name | lookup.Reaches start name}.Finite := by
  constructor
  · rintro ⟨names, member, closed⟩
    refine names.finite_toSet.subset fun name reached => ?_
    induction reached with
    | refl => exact member
    | tail _ direct ih =>
      obtain ⟨supertypes, known, isSupertype⟩ := direct
      exact closed _ ih supertypes known _ isSupertype
  · intro finite
    have self : lookup.Reaches start start := .refl
    refine ⟨finite.toFinset.toList, by simpa using self, ?_⟩
    intro name member supertypes known supertype isSupertype
    simp only [Finset.mem_toList, Set.Finite.mem_toFinset, Set.mem_ofPred_eq] at member ⊢
    exact member.tail ⟨supertypes, known, isSupertype⟩

/-! ## One round of a walk -/

/-- A walk has gone up `depth` levels: it has seen what shorter paths lead to, and what is fresh in
its frontier is the next layer. -/
structure AtDepth (lookup : Lookup) (start : String) (depth : Nat) (seen frontier : NameSet) :
    Prop where
  seen_iff : ∀ name, name ∈ seen ↔ ∃ less < depth, lookup.Path start (less + 1) name
  fresh_iff : ∀ name, name ∈ frontier.diff seen ↔ lookup.Layer start depth name

theorem AtDepth.first {supertypes : NameSet} (known : lookup start = some supertypes) :
    lookup.AtDepth start 0 ∅ supertypes where
  seen_iff name := by simp
  fresh_iff name := by
    have direct : lookup.Direct start name ↔ name ∈ supertypes := by simp [Direct, known]
    simp [Layer, path_succ_iff, path_zero_iff, direct]

/-- The supertypes of a layer hold the next one. -/
theorem AtDepth.next {depth : Nat} {seen frontier next : NameSet}
    (here : lookup.AtDepth start depth seen frontier)
    (found : (lookup.gather (frontier.diff seen).toList).2 = .ok next) :
    lookup.AtDepth start (depth + 1) (seen.union (frontier.diff seen)) next := by
  have seen_iff (name : String) : name ∈ seen.union (frontier.diff seen) ↔
      ∃ less < depth + 1, lookup.Path start (less + 1) name := by
    rw [NameSet.mem_union, here.seen_iff, here.fresh_iff]
    constructor
    · rintro (⟨less, before, path⟩ | layer)
      · exact ⟨less, by omega, path⟩
      · exact ⟨depth, by omega, layer.1⟩
    · rintro ⟨less, before, path⟩
      by_cases shorter : ∃ less < depth, lookup.Path start (less + 1) name
      · exact .inl shorter
      · have same : less = depth := by
          by_contra different
          exact shorter ⟨less, by omega, path⟩
        exact .inr ⟨same ▸ path, fun less before path => shorter ⟨less, before, path⟩⟩
  refine ⟨seen_iff, fun name => ?_⟩
  rw [NameSet.mem_diff, mem_gather found, seen_iff]
  constructor
  · rintro ⟨⟨lower, isFresh, direct⟩, unseen⟩
    have layer := (here.fresh_iff lower).1 isFresh
    exact ⟨.up layer.1 direct, fun less before path => unseen ⟨less, before, path⟩⟩
  · intro layer
    obtain ⟨lower, below, direct⟩ := layer.exists_below
    refine ⟨⟨lower, (here.fresh_iff lower).2 below, direct⟩, ?_⟩
    rintro ⟨less, before, path⟩
    exact layer.2 less before path

/-- Asking for several types in order fails at the first that is not known. -/
theorem gather_error_least {names : List String} {failure : UnknownType}
    (sorted : names.Pairwise (· < ·)) (error : (lookup.gather names).2 = .error failure) :
    ∀ other ∈ names, lookup other = none → failure.name ≤ other := by
  induction names with
  | nil => simp
  | cons head rest ih =>
    obtain ⟨below, sortedRest⟩ := List.pairwise_cons.1 sorted
    rw [gather] at error
    split at error
    next unknown =>
      simp only [Except.error.injEq] at error
      subst error
      intro other member _
      rcases List.mem_cons.1 member with rfl | later
      · exact String.le_refl _
      · exact Std.le_of_lt (below other later)
    next supertypes known =>
      cases outcome : (lookup.gather rest).2 with
      | ok inner => simp [outcome, Except.map] at error
      | error inner =>
        simp only [outcome, Except.map, Except.error.injEq] at error
        subst error
        intro other member unknown
        rcases List.mem_cons.1 member with rfl | later
        · simp [known] at unknown
        · exact ih sortedRest outcome other later unknown

/-! ## All rounds -/

variable {finite : lookup.FiniteFrom start}

/-- The levels that a walk finds are the layers from its depth on. -/
theorem AtDepth.mem_walkFrom_iff {depth : Nat} {seen frontier : NameSet}
    {inside : ∀ name ∈ frontier, name ∈ reachBound finite} {levels : Levels}
    (here : lookup.AtDepth start depth seen frontier)
    (ok : (lookup.walkFrom finite seen frontier inside).outcome = .ok levels) :
    (∀ place (bound : place < levels.length) name,
      name ∈ levels[place] ↔ lookup.Layer start (depth + place) name) ∧
    ∀ level ∈ levels, level ≠ ∅ := by
  fun_induction lookup.walkFrom finite seen frontier inside generalizing depth levels
  case case1 =>
    simp only [Except.ok.injEq] at ok
    subst ok
    exact ⟨fun place bound => absurd bound (Nat.not_lt_zero _), by simp⟩
  case case2 => simp at ok
  case case3 seen frontier inside fresh _ some asked next found _ rest ih =>
    cases outcome : rest.outcome with
    | error failure => simp [outcome, Except.map] at ok
    | ok others =>
      simp only [outcome, Except.map, Except.ok.injEq] at ok
      subst ok
      obtain ⟨layers, nonempty⟩ := ih (here.next (congrArg Prod.snd found)) outcome
      constructor
      · intro place bound name
        cases place with
        | zero => exact here.fresh_iff name
        | succ place =>
          have later := layers place (by simpa using bound) name
          rw [List.getElem_cons_succ, later, Nat.add_right_comm, Nat.add_assoc]
      · intro level member
        rcases List.mem_cons.1 member with rfl | later
        · exact fun none => some (NameSet.isEmpty_iff.2 none)
        · exact nonempty level later

/-- A walk fails at the first layer with a type that is not known, and at the least of these. -/
theorem AtDepth.walkFrom_error {depth : Nat} {seen frontier : NameSet}
    {inside : ∀ name ∈ frontier, name ∈ reachBound finite} {failure : UnknownType}
    (here : lookup.AtDepth start depth seen frontier)
    (error : (lookup.walkFrom finite seen frontier inside).outcome = .error failure) :
    ∃ place, lookup.Layer start (depth + place) failure.name ∧
      (∀ less < place, ∀ name, lookup.Layer start (depth + less) name → lookup name ≠ none) ∧
      ∀ other, lookup.Layer start (depth + place) other → lookup other = none →
        failure.name ≤ other := by
  fun_induction lookup.walkFrom finite seen frontier inside generalizing depth failure
  case case1 => simp at error
  case case2 seen frontier inside fresh _ _ asked inner found =>
    simp only [Except.error.injEq] at error
    subst error
    have failed := congrArg Prod.snd found
    refine ⟨0, (here.fresh_iff _).1 (gather_error failed).1, by simp, fun other layer unknown => ?_⟩
    exact gather_error_least fresh.sorted failed other ((here.fresh_iff other).2 layer) unknown
  case case3 seen frontier inside fresh _ _ asked next found _ rest ih =>
    cases outcome : rest.outcome with
    | ok others => simp [outcome, Except.map] at error
    | error inner =>
      simp only [outcome, Except.map, Except.error.injEq] at error
      subst error
      have answered := congrArg Prod.snd found
      obtain ⟨place, layer, before, least⟩ := ih (here.next answered) outcome
      have shift (further : Nat) : depth + 1 + further = depth + (further + 1) := by omega
      simp only [shift] at layer before least
      refine ⟨place + 1, layer, fun less bound name atLess => ?_, least⟩
      cases less with
      | zero => exact known_of_gather answered name ((here.fresh_iff name).2 atLess)
      | succ less => exact before less (by omega) name atLess

/-! ## The levels of a type -/

/-- Levels that are the layers above a type, all of them. -/
structure Layered (lookup : Lookup) (start : String) (levels : Levels) : Prop where
  mem_iff : ∀ depth (bound : depth < levels.length) name,
    name ∈ levels[depth] ↔ lookup.Layer start depth name
  nonempty : ∀ level ∈ levels, level ≠ ∅
  disjoint : levels.Pairwise fun first second => ∀ name ∈ first, name ∉ second
  exists_mem_iff : ∀ name, (∃ level ∈ levels, name ∈ level) ↔ lookup.Above start name

/-- Of the types reached that are not known, the nearest, and of several the least name. -/
structure FirstUnknown (lookup : Lookup) (start unknown : String) : Prop where
  notKnown : lookup unknown = none
  nearest : ∃ length, lookup.Distance start length unknown ∧
    ∀ other, lookup.Reaches start other → lookup other = none →
      ∃ further, lookup.Distance start further other ∧
        (length < further ∨ length = further ∧ unknown ≤ other)

theorem layered_of_walk {levels : Levels}
    (ok : (lookup.walk start finite).outcome = .ok levels) : lookup.Layered start levels := by
  have all := mem_walk_iff ok
  rcases walk_cases finite with ⟨_, failed⟩ | ⟨supertypes, inside, known, walked⟩
  · simp [failed] at ok
  rw [walked] at ok
  obtain ⟨layers, nonempty⟩ := (AtDepth.first known).mem_walkFrom_iff ok
  simp only [Nat.zero_add] at layers
  refine ⟨layers, nonempty, ?_, fun name => Levels.mem_all.symm.trans (all name)⟩
  rw [List.pairwise_iff_getElem]
  intro first second bound bound' before name inFirst inSecond
  have shorter := (layers first bound name).1 inFirst
  exact ((layers second bound' name).1 inSecond).2 first before shorter.1

theorem firstUnknown_of_walk {failure : UnknownType}
    (error : (lookup.walk start finite).outcome = .error failure) :
    lookup.FirstUnknown start failure.name := by
  rcases walk_cases finite with ⟨unknown, failed⟩ | ⟨supertypes, inside, known, walked⟩
  · simp only [failed, Except.error.injEq] at error
    subst error
    refine ⟨unknown, 0, ⟨.here, by simp⟩, fun other reached _ => ?_⟩
    obtain ⟨further, distance⟩ := exists_distance reached
    refine ⟨further, distance, ?_⟩
    rcases Nat.eq_zero_or_pos further with rfl | positive
    · exact .inr ⟨rfl, path_zero_iff.1 distance.1 ▸ String.le_refl _⟩
    · exact .inl positive
  · rw [walked] at error
    have away (other : String) (unknown : lookup other = none) : other ≠ start := by
      rintro rfl
      simp [known] at unknown
    obtain ⟨unknown, _⟩ := reaches_of_walkFrom_error error
    obtain ⟨place, layer, before, least⟩ := (AtDepth.first known).walkFrom_error error
    simp only [Nat.zero_add] at layer before least
    refine ⟨unknown, place + 1, (layer_iff_distance (away _ unknown)).1 layer, ?_⟩
    intro other reached unknown'
    obtain ⟨further, distance⟩ := exists_distance reached
    refine ⟨further, distance, ?_⟩
    -- the start is known, so the other type is at least one step away
    obtain ⟨depth, rfl⟩ : ∃ depth, further = depth + 1 := by
      cases further with
      | zero => exact absurd (path_zero_iff.1 distance.1) (away other unknown')
      | succ depth => exact ⟨depth, rfl⟩
    have layer' := (layer_iff_distance (away other unknown')).2 distance
    rcases Nat.lt_trichotomy place depth with less | rfl | greater
    · exact .inl (by omega)
    · exact .inr ⟨rfl, least other layer' unknown'⟩
    · exact absurd unknown' (before depth greater other layer')

/-- **Layers.** Let finitely many names be reached from a type. If all of them are known, the walk
gives the layers above it, and the type is in one of them just if it is above itself. Otherwise it
fails at the first unknown type. A session that remembers nothing answers the same, whatever its
oracle says of types that are not reached. -/
theorem levels_layered (lookup : Lookup) (start : String)
    (finite : {name | lookup.Reaches start name}.Finite) :
    (lookup.KnownFrom start → ∃ levels,
      (lookup.walk start (finiteFrom_iff.2 finite)).outcome = .ok levels ∧
      lookup.Layered start levels ∧
      ((∃ level ∈ levels, start ∈ level) ↔ lookup.Above start start)) ∧
    (¬ lookup.KnownFrom start → ∃ unknown,
      (lookup.walk start (finiteFrom_iff.2 finite)).outcome = .error ⟨unknown⟩ ∧
      lookup.FirstUnknown start unknown) ∧
    ∀ oracle : Oracle,
      (∀ name, lookup.Reaches start name → oracle.lookup name = lookup name) →
      ((Session.levels oracle start).run Session.start).1 =
        (lookup.walk start (finiteFrom_iff.2 finite)).outcome := by
  refine ⟨fun known => ?_, fun missing => ?_, fun oracle agree => ?_⟩
  · obtain ⟨levels, ok⟩ := (exists_walk_iff (finiteFrom_iff.2 finite)).2 known
    have layered := layered_of_walk ok
    exact ⟨levels, ok, layered, layered.exists_mem_iff start⟩
  · cases outcome : (lookup.walk start (finiteFrom_iff.2 finite)).outcome with
    | ok levels =>
      exact absurd ((exists_walk_iff (finiteFrom_iff.2 finite)).1 ⟨levels, outcome⟩) missing
    | error failure => exact ⟨failure.name, rfl, firstUnknown_of_walk outcome⟩
  · have fresh : Session.start.Faithful oracle := .start
    have answered := (Session.Answers.levels start _ fresh).1
    rw [answered]
    exact congrArg Walk.outcome
      (walk_congr (finiteFrom_iff.2 finite) (oracle.finite start) agree)

/-- Two types each of which is declared above the other, and one below them with supertypes that are
not declared. -/
def entangled : Oracle :=
  .ofTable (.ofList [("A", .singleton "B"), ("B", .singleton "A"), ("D", .ofList ["A", "N", "M"])])

theorem levels_layered_entangled :
    {name | entangled.lookup.Reaches "A" name}.Finite ∧ entangled.lookup.KnownFrom "A" ∧
    {name | entangled.lookup.Reaches "D" name}.Finite ∧ ¬ entangled.lookup.KnownFrom "D" ∧
    (∃ levels, entangled.lookup.Layered "A" levels ∧ ∃ level ∈ levels, "A" ∈ level) ∧
    ∃ unknown, entangled.lookup.FirstUnknown "D" unknown := by
  have finite (name : String) : {other | entangled.lookup.Reaches name other}.Finite :=
    finiteFrom_iff.1 (entangled.finite name)
  have declared : entangled.lookup "A" = some (.singleton "B") ∧
      entangled.lookup "B" = some (.singleton "A") ∧
      entangled.lookup "D" = some (.ofList ["A", "N", "M"]) ∧
      entangled.lookup "M" = none := by decide
  have up : entangled.lookup.Direct "A" "B" := ⟨_, declared.1, by decide⟩
  have back : entangled.lookup.Direct "B" "A" := ⟨_, declared.2.1, by decide⟩
  have dangling : entangled.lookup.Direct "D" "M" := ⟨_, declared.2.2.1, by decide⟩
  have closed : entangled.lookup.Closed ["A", "B"] := by
    intro name member supertypes found supertype isSupertype
    simp only [List.mem_cons, List.not_mem_nil, or_false] at member ⊢
    rcases member with rfl | rfl
    · cases declared.1.symm.trans found
      exact .inr (NameSet.mem_singleton.1 isSupertype)
    · cases declared.2.1.symm.trans found
      exact .inl (NameSet.mem_singleton.1 isSupertype)
  have known := knownFrom_of_closed closed (by decide) (List.mem_cons_self ..)
  have missing : ¬ entangled.lookup.KnownFrom "D" := fun known =>
    known "M" (.single dangling) declared.2.2.2
  obtain ⟨levels, _, layered, cyclic⟩ := (levels_layered _ "A" (finite "A")).1 known
  obtain ⟨unknown, _, first⟩ := (levels_layered _ "D" (finite "D")).2.1 missing
  exact ⟨finite "A", known, finite "D", missing,
    ⟨levels, layered, cyclic.2 (.head up (.single back))⟩, unknown, first⟩

end Lookup

end AdapterWiring
