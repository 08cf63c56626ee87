import AdapterWiring.Proofs.Hierarchy.Layers
import Mathlib.Data.List.Permutation

/-!
# Levels by full expansion

A walk drops what it has seen before it goes on. In a hierarchy without cycles
the same levels come out if nothing is dropped on the way: each level is then
expanded in full, names that were seen on shorter paths included, until a level
is empty, and only the finished levels are stripped of what earlier ones hold.

* **AcyclicFrom** — no type that is reached is above itself, so paths are
  shorter than the list of what is reached (`Path.length_lt`).
* **AtLength** — the ends of the paths of one length, which is what a full
  level holds; kept by each round (`AtLength.next`).
* **expand** — the expansion in full; **Levels.stripped** — what is left of its
  levels.
* **stripped_of_layered** — stripping empties no level before the last layer.
* **levels_eq_stripped** — walks and sessions give the stripped expansion.
-/

namespace AdapterWiring

/-- Levels without the names that an earlier level holds, and without the levels that this leaves
empty. -/
def Levels.stripped (levels : Levels) : Levels :=
  (levels.mapIdx fun place level => level.diff (Levels.all (levels.take place))).filter
    (!·.isEmpty)

namespace Lookup

variable {lookup : Lookup} {start : String}

/-! ## Hierarchies without cycles -/

/-- No type that is reached from `start` is above itself. -/
def AcyclicFrom (lookup : Lookup) (start : String) : Prop :=
  ∀ name, lookup.Reaches start name → ¬ lookup.Above name name

theorem mem_reachBound (finite : lookup.FiniteFrom start) {name : String}
    (reached : lookup.Reaches start name) : name ∈ reachBound finite := by
  induction reached with
  | refl => exact start_mem_reachBound finite
  | tail _ direct ih =>
    obtain ⟨supertypes, known, isSupertype⟩ := direct
    exact closed_reachBound finite _ ih supertypes known _ isSupertype

/-- The names on a path without cycles are different. -/
theorem Path.exists_trail (acyclic : lookup.AcyclicFrom start) {length : Nat} {name : String}
    (path : lookup.Path start length name) :
    ∃ trail : List String, trail.length = length + 1 ∧ trail.Nodup ∧
      ∀ other ∈ trail, lookup.Reaches start other ∧ lookup.Reaches other name := by
  induction path with
  | here =>
    refine ⟨[start], rfl, List.nodup_singleton _, ?_⟩
    intro other member
    rw [List.mem_singleton.1 member]
    exact ⟨.refl, .refl⟩
  | @up length lower upper path direct ih =>
    obtain ⟨trail, long, nodup, between⟩ := ih
    have reached : lookup.Reaches start upper := reaches_iff_exists_path.2 ⟨_, path.up direct⟩
    -- a name that comes again would be above itself
    have fresh : upper ∉ trail := by
      intro again
      exact acyclic upper reached (.tail' (between upper again).2 direct)
    refine ⟨upper :: trail, by rw [List.length_cons, long], nodup.cons fresh, ?_⟩
    intro other member
    rcases List.mem_cons.1 member with rfl | earlier
    · exact ⟨reached, .refl⟩
    · obtain ⟨fromStart, below⟩ := between other earlier
      exact ⟨fromStart, below.tail direct⟩

/-- So there are fewer steps on it than there are names to reach. -/
theorem Path.length_lt (finite : lookup.FiniteFrom start) (acyclic : lookup.AcyclicFrom start)
    {length : Nat} {name : String} (path : lookup.Path start length name) :
    length < (reachBound finite).length := by
  obtain ⟨trail, long, nodup, between⟩ := path.exists_trail acyclic
  have inside : trail ⊆ reachBound finite := by
    intro other member
    exact mem_reachBound finite (between other member).1
  have fits := (List.subperm_of_subset nodup inside).length_le
  omega

/-! ## Full levels -/

/-- A set holds the ends of the paths of one length. -/
def AtLength (lookup : Lookup) (start : String) (length : Nat) (level : NameSet) : Prop :=
  ∀ name, name ∈ level ↔ lookup.Path start length name

theorem AtLength.first {supertypes : NameSet} (known : lookup start = some supertypes) :
    lookup.AtLength start 1 supertypes := by
  intro name
  rw [path_succ_iff]
  constructor
  · intro member
    exact ⟨start, .here, supertypes, known, member⟩
  · rintro ⟨lower, path, direct⟩
    obtain rfl := path_zero_iff.1 path
    obtain ⟨found, known', member⟩ := direct
    rwa [Option.some.inj (known.symm.trans known')]

theorem AtLength.next {length : Nat} {level next : NameSet}
    (here : lookup.AtLength start length level)
    (found : (lookup.gather level.toList).2 = .ok next) :
    lookup.AtLength start (length + 1) next := by
  intro name
  rw [mem_gather found, path_succ_iff]
  constructor
  · rintro ⟨lower, member, direct⟩
    exact ⟨lower, (here lower).1 member, direct⟩
  · rintro ⟨lower, path, direct⟩
    exact ⟨lower, (here lower).2 path, direct⟩

theorem AtLength.lt_of_nonempty {length : Nat} {level : NameSet} (finite : lookup.FiniteFrom start)
    (acyclic : lookup.AcyclicFrom start) (here : lookup.AtLength start length level)
    (some : ¬ level.isEmpty = true) : length < (reachBound finite).length := by
  obtain ⟨name, member⟩ := NameSet.exists_mem (mt NameSet.isEmpty_iff.2 some)
  exact ((here name).1 member).length_lt finite acyclic

/-! ## Expansion -/

/-- Expand a level in full, and the levels above it until one is empty. -/
def expandFrom (lookup : Lookup) {start : String} (finite : lookup.FiniteFrom start)
    (acyclic : lookup.AcyclicFrom start) (length : Nat) (level : NameSet)
    (here : lookup.AtLength start length level) : Except UnknownType Levels :=
  if done : level.isEmpty = true then .ok []
  else
    match found : (lookup.gather level.toList).2 with
    | .error failure => .error failure
    | .ok next =>
      have : length < (reachBound finite).length := here.lt_of_nonempty finite acyclic done
      (lookup.expandFrom finite acyclic (length + 1) next (here.next found)).map (level :: ·)
termination_by (reachBound finite).length - length

/-- Expand the direct supertypes of a type, and all levels above them, in full. -/
def expand (lookup : Lookup) (start : String) (finite : lookup.FiniteFrom start)
    (acyclic : lookup.AcyclicFrom start) : Except UnknownType Levels :=
  match known : lookup start with
  | none => .error ⟨start⟩
  | some supertypes => lookup.expandFrom finite acyclic 1 supertypes (.first known)

/-- Levels that hold the ends of the paths of each length, from one length on and up to the
greatest. -/
structure Exhausts (lookup : Lookup) (start : String) (length : Nat) (levels : Levels) : Prop where
  mem_iff : ∀ place (bound : place < levels.length) name,
    name ∈ levels[place] ↔ lookup.Path start (length + place) name
  ended : ∀ place ≥ levels.length, ∀ name, ¬ lookup.Path start (length + place) name
  known : ∀ level ∈ levels, ∀ name ∈ level, lookup name ≠ none

section Rounds

variable {finite : lookup.FiniteFrom start} {acyclic : lookup.AcyclicFrom start} {length : Nat}
  {level : NameSet} {here : lookup.AtLength start length level}

/-- Where no path has one length, none is longer. -/
theorem not_path_of_le {place : Nat} (none : ∀ name, ¬ lookup.Path start length name)
    (name : String) : ¬ lookup.Path start (length + place) name := by
  induction place generalizing name with
  | zero => exact none name
  | succ place ih =>
    intro path
    obtain ⟨lower, shorter, _⟩ := path_succ_iff.1 path
    exact ih lower shorter

theorem exhausts_of_expandFrom {levels : Levels}
    (ok : lookup.expandFrom finite acyclic length level here = .ok levels) :
    lookup.Exhausts start length levels := by
  fun_induction lookup.expandFrom finite acyclic length level here generalizing levels
  case case1 length level here done =>
    obtain rfl := Except.ok.inj ok
    have nowhere (name : String) : ¬ lookup.Path start length name := by
      rw [← here name, NameSet.isEmpty_iff.1 done]
      exact NameSet.not_mem_empty name
    refine ⟨fun place bound => absurd bound (Nat.not_lt_zero _), ?_, by simp⟩
    intro place _ name
    exact not_path_of_le nowhere name
  case case2 => cases ok
  case case3 length level here _ next found _ ih =>
    cases outcome : lookup.expandFrom finite acyclic (length + 1) next (here.next found) with
    | error failure => rw [outcome] at ok; cases ok
    | ok others =>
      rw [outcome] at ok
      obtain rfl := Except.ok.inj ok
      have above := ih outcome
      have shift (place : Nat) : length + 1 + place = length + (place + 1) := by omega
      refine ⟨?_, ?_, ?_⟩
      · intro place bound name
        cases place with
        | zero => exact here name
        | succ place =>
          have later := above.mem_iff place (by simpa using bound) name
          rwa [shift] at later
      · intro place beyond name
        rw [List.length_cons] at beyond
        obtain ⟨further, rfl⟩ : ∃ further, place = further + 1 := ⟨place - 1, by omega⟩
        have ended := above.ended further (by omega) name
        rwa [shift] at ended
      · intro found isLevel
        rcases List.mem_cons.1 isLevel with rfl | later
        · exact known_of_gather ‹_›
        · exact above.known found later

/-- An expansion fails at the first length of paths that leads to a type that is not known, and at
the least of these. -/
theorem expandFrom_error {failure : UnknownType}
    (error : lookup.expandFrom finite acyclic length level here = .error failure) :
    lookup failure.name = none ∧ ∃ place, lookup.Path start (length + place) failure.name ∧
      (∀ less < place, ∀ name, lookup.Path start (length + less) name → lookup name ≠ none) ∧
      ∀ other, lookup.Path start (length + place) other → lookup other = none →
        failure.name ≤ other := by
  fun_induction lookup.expandFrom finite acyclic length level here
  case case1 => cases error
  case case2 length level here _ inner found =>
    obtain rfl := Except.error.inj error
    obtain ⟨member, unknown⟩ := gather_error found
    refine ⟨unknown, 0, (here _).1 member, by simp, ?_⟩
    intro other path missing
    exact gather_error_least level.sorted found other ((here other).2 path) missing
  case case3 length level here _ next found _ ih =>
    cases outcome : lookup.expandFrom finite acyclic (length + 1) next (here.next found) with
    | ok others => rw [outcome] at error; cases error
    | error inner =>
      rw [outcome] at error
      obtain rfl := Except.error.inj error
      obtain ⟨unknown, place, path, before, least⟩ := ih outcome
      have shift (further : Nat) : length + 1 + further = length + (further + 1) := by omega
      simp only [shift] at path before least
      refine ⟨unknown, place + 1, path, ?_, least⟩
      intro less bound name shorter
      cases less with
      | zero => exact known_of_gather found name ((here name).2 shorter)
      | succ less => exact before less (by omega) name shorter

end Rounds

/-! ## The outcome of an expansion -/

variable {finite : lookup.FiniteFrom start} {acyclic : lookup.AcyclicFrom start}

theorem expand_cases (finite : lookup.FiniteFrom start) (acyclic : lookup.AcyclicFrom start) :
    (lookup start = none ∧ lookup.expand start finite acyclic = .error ⟨start⟩) ∨
    ∃ supertypes, ∃ known : lookup start = some supertypes,
      lookup.expand start finite acyclic =
        lookup.expandFrom finite acyclic 1 supertypes (.first known) := by
  unfold expand
  split
  next unknown => exact .inl ⟨unknown, rfl⟩
  next supertypes known => exact .inr ⟨supertypes, known, rfl⟩

/-- Where an expansion succeeds, all that is reached is known, and its levels hold the ends of all
paths that are not empty. -/
theorem exhausts_of_expand {levels : Levels}
    (ok : lookup.expand start finite acyclic = .ok levels) :
    lookup.KnownFrom start ∧ lookup.Exhausts start 1 levels := by
  rcases expand_cases finite acyclic with ⟨_, failed⟩ | ⟨supertypes, known, expanded⟩
  · rw [failed] at ok
    cases ok
  rw [expanded] at ok
  have exhausts := exhausts_of_expandFrom ok
  refine ⟨?_, exhausts⟩
  intro name reached
  obtain ⟨length, path⟩ := reaches_iff_exists_path.1 reached
  cases length with
  | zero =>
    rw [path_zero_iff.1 path, known]
    exact Option.some_ne_none _
  | succ place =>
    rw [Nat.add_comm] at path
    by_cases bound : place < levels.length
    · have member := (exhausts.mem_iff place bound name).2 path
      exact exhausts.known _ (List.getElem_mem bound) name member
    · exact absurd path (exhausts.ended place (by omega) name)

/-- Where it fails, it fails at the nearest type that is not known. -/
theorem firstUnknown_of_expand {failure : UnknownType}
    (error : lookup.expand start finite acyclic = .error failure) :
    lookup.FirstUnknown start failure.name := by
  rcases expand_cases finite acyclic with ⟨unknown, failed⟩ | ⟨supertypes, known, expanded⟩
  · have walked : (lookup.walk start finite).outcome = .error failure := by
      rcases walk_cases finite with ⟨_, walk⟩ | ⟨supertypes, _, known, _⟩
      · rw [walk, ← error, failed]
      · cases unknown.symm.trans known
    exact firstUnknown_of_walk walked
  rw [expanded] at error
  obtain ⟨unknown, place, path, before, least⟩ := expandFrom_error error
  have away {other : String} {length : Nat} (missing : lookup other = none)
      (path : lookup.Path start length other) : ∃ place, length = 1 + place := by
    cases length with
    | zero => rw [path_zero_iff.1 path, known] at missing; cases missing
    | succ place => exact ⟨place, Nat.add_comm _ _⟩
  refine ⟨unknown, 1 + place, ⟨path, ?_⟩, ?_⟩
  · intro less bound shorter
    obtain ⟨further, rfl⟩ := away unknown shorter
    exact before further (by omega) _ shorter unknown
  · intro other reached missing
    obtain ⟨length, distance⟩ := exists_distance reached
    obtain ⟨further, rfl⟩ := away missing distance.1
    refine ⟨1 + further, distance, ?_⟩
    rcases Nat.lt_trichotomy place further with less | rfl | greater
    · exact .inl (by omega)
    · exact .inr ⟨rfl, least other distance.1 missing⟩
    · exact absurd missing (before further greater other distance.1)

theorem Distance.unique {name : String} {length other : Nat}
    (distance : lookup.Distance start length name)
    (otherDistance : lookup.Distance start other name) : length = other := by
  rcases Nat.lt_trichotomy length other with less | same | greater
  · exact absurd distance.1 (otherDistance.2 length less)
  · exact same
  · exact absurd otherDistance.1 (distance.2 other greater)

/-- There is one nearest type that is not known. -/
theorem FirstUnknown.unique {unknown other : String} (first : lookup.FirstUnknown start unknown)
    (otherFirst : lookup.FirstUnknown start other) : unknown = other := by
  obtain ⟨missing, length, distance, nearest⟩ := first
  obtain ⟨otherMissing, otherLength, otherDistance, otherNearest⟩ := otherFirst
  have reached := reaches_iff_exists_path.2 ⟨_, distance.1⟩
  have otherReached := reaches_iff_exists_path.2 ⟨_, otherDistance.1⟩
  obtain ⟨_, toOther, before⟩ := nearest other otherReached otherMissing
  obtain ⟨_, fromOther, after⟩ := otherNearest unknown reached missing
  obtain rfl := toOther.unique otherDistance
  obtain rfl := fromOther.unique distance
  rcases before with less | ⟨_, le⟩
  · omega
  rcases after with less | ⟨_, ge⟩
  · omega
  exact String.le_antisymm le ge

/-! ## Stripping -/

/-- What is left of a full level is the layer of its place. -/
theorem mem_strip_iff {levels : Levels} (exhausts : lookup.Exhausts start 1 levels) {place : Nat}
    (bound : place < levels.length) (name : String) :
    name ∈ levels[place].diff (Levels.all (levels.take place)) ↔ lookup.Layer start place name := by
  have earlier : name ∈ Levels.all (levels.take place) ↔
      ∃ less < place, lookup.Path start (less + 1) name := by
    rw [Levels.mem_all]
    constructor
    · rintro ⟨level, isLevel, member⟩
      obtain ⟨less, before, rfl⟩ := List.mem_iff_getElem.1 isLevel
      rw [List.length_take] at before
      rw [List.getElem_take, exhausts.mem_iff, Nat.add_comm] at member
      exact ⟨less, by omega, member⟩
    · rintro ⟨less, before, path⟩
      rw [Nat.add_comm, ← exhausts.mem_iff less (by omega)] at path
      refine ⟨_, ?_, path⟩
      rw [List.mem_iff_getElem]
      exact ⟨less, by rw [List.length_take]; omega, List.getElem_take⟩
  rw [NameSet.mem_diff, earlier, exhausts.mem_iff place bound, Nat.add_comm 1 place]
  unfold Layer
  refine and_congr_right fun _ => ?_
  constructor
  · intro none less before path
    exact none ⟨less, before, path⟩
  · rintro shortest ⟨less, before, path⟩
    exact shortest less before path

/-- **Stripping.** What stripping leaves of full levels are the layers: as long as there are layers
none of the levels is left empty, and after them all are. -/
theorem stripped_of_layered {levels layers : Levels} (exhausts : lookup.Exhausts start 1 levels)
    (layered : lookup.Layered start layers) : levels.stripped = layers := by
  let strips := levels.mapIdx fun place level => level.diff (Levels.all (levels.take place))
  have count : strips.length = levels.length := List.length_mapIdx
  have mem_iff {place : Nat} (bound : place < strips.length) (name : String) :
      name ∈ strips[place] ↔ lookup.Layer start place name := by
    rw [List.getElem_mapIdx]
    exact mem_strip_iff exhausts (count ▸ bound) name
  -- a layer is the end of some path, so the expansion goes at least as far
  have enough : layers.length ≤ strips.length := by
    by_contra short
    have bound : strips.length < layers.length := by omega
    have some := layered.nonempty _ (List.getElem_mem bound)
    apply some
    ext name
    rw [layered.mem_iff]
    constructor
    · rintro ⟨path, _⟩
      rw [count, Nat.add_comm] at path
      exact absurd path (exhausts.ended levels.length (Nat.le_refl _) name)
    · intro member
      exact absurd member (NameSet.not_mem_empty name)
  have front : strips.take layers.length = layers := by
    apply List.ext_getElem (by rw [List.length_take]; omega)
    intro place _ bound
    ext name
    rw [List.getElem_take, mem_iff, layered.mem_iff]
  have back : ∀ level ∈ strips.drop layers.length, level.isEmpty = true := by
    intro level isLevel
    obtain ⟨place, bound, rfl⟩ := List.mem_iff_getElem.1 isLevel
    rw [NameSet.isEmpty_iff, List.getElem_drop]
    ext name
    rw [mem_iff]
    refine iff_of_false (fun layer => ?_) (NameSet.not_mem_empty name)
    have above : lookup.Above start name := by
      obtain ⟨lower, path, direct⟩ := path_succ_iff.1 layer.1
      exact .tail' (reaches_iff_exists_path.2 ⟨_, path⟩) direct
    obtain ⟨found, isLayer, member⟩ := (layered.exists_mem_iff name).2 above
    obtain ⟨less, before, rfl⟩ := List.mem_iff_getElem.1 isLayer
    exact layer.2 less (by omega) ((layered.mem_iff less before name).1 member).1
  have keepsFront : layers.filter (!·.isEmpty) = layers := by
    rw [List.filter_eq_self]
    intro level isLevel
    have some := layered.nonempty level isLevel
    simpa [← NameSet.isEmpty_iff] using some
  have dropsBack : (strips.drop layers.length).filter (!·.isEmpty) = [] := by
    rw [List.filter_eq_nil_iff]
    intro level isLevel
    simp [back level isLevel]
  show strips.filter (!·.isEmpty) = layers
  rw [← List.take_append_drop layers.length strips, List.filter_append, front, keepsFront,
    dropsBack, List.append_nil]

/-! ## Levels -/

/-- **Expansion.** From a type without cycles above it let finitely many names be reached, some of
them perhaps not known. A walk that drops at each level what it has seen then gives what is left
when all levels are expanded in full first and stripped afterwards: the same levels, or a failure at
the same unknown type. So does a session after any queries, whatever its oracle says of types that
are not reached. -/
theorem levels_eq_stripped (lookup : Lookup) (start : String)
    (finite : {name | lookup.Reaches start name}.Finite) (acyclic : lookup.AcyclicFrom start) :
    (lookup.walk start (finiteFrom_iff.2 finite)).outcome =
      (lookup.expand start (finiteFrom_iff.2 finite) acyclic).map Levels.stripped ∧
    ∀ (oracle : Oracle) (queries : List Query),
      (∀ name, lookup.Reaches start name → oracle.lookup name = lookup name) →
      ((Session.levels oracle start).run (Session.start.asking oracle queries)).1 =
        (lookup.expand start (finiteFrom_iff.2 finite) acyclic).map Levels.stripped := by
  have walked : (lookup.walk start (finiteFrom_iff.2 finite)).outcome =
      (lookup.expand start (finiteFrom_iff.2 finite) acyclic).map Levels.stripped := by
    cases expanded : lookup.expand start (finiteFrom_iff.2 finite) acyclic with
    | ok levels =>
      obtain ⟨known, exhausts⟩ := exhausts_of_expand expanded
      obtain ⟨layers, ok⟩ := (exists_walk_iff (finiteFrom_iff.2 finite)).2 known
      rw [ok, Except.map, stripped_of_layered exhausts (layered_of_walk ok)]
    | error failure =>
      have first := firstUnknown_of_expand expanded
      cases outcome : (lookup.walk start (finiteFrom_iff.2 finite)).outcome with
      | ok layers =>
        obtain ⟨length, distance, _⟩ := first.nearest
        have known := (exists_walk_iff (finiteFrom_iff.2 finite)).1 ⟨layers, outcome⟩
        have reached := reaches_iff_exists_path.2 ⟨length, distance.1⟩
        exact absurd first.notKnown (known failure.name reached)
      | error other =>
        have same : other.name = failure.name := (firstUnknown_of_walk outcome).unique first
        obtain ⟨name⟩ := other
        obtain rfl : name = failure.name := same
        rfl
  refine ⟨walked, ?_⟩
  intro oracle queries agree
  have faithful : Session.Faithful oracle (Session.start.asking oracle queries) :=
    Session.Faithful.start.asking queries
  rw [(Session.Answers.levels start _ faithful).1, ← walked]
  exact congrArg Walk.outcome (walk_congr (finiteFrom_iff.2 finite) (oracle.finite start) agree)

/-- A type from which others are reached on paths of several lengths. -/
def shortcut : Oracle :=
  .ofTable (.ofList [("A", ∅), ("B", .singleton "A"), ("C", .singleton "A"),
    ("D", .ofList ["B", "C"]), ("E", .ofList ["B", "D"])])

theorem levels_eq_stripped_shortcut :
    ∃ (finite : {name | shortcut.lookup.Reaches "E" name}.Finite)
      (acyclic : shortcut.lookup.AcyclicFrom "E"),
      (shortcut.lookup.expand "E" (finiteFrom_iff.2 finite) acyclic).map Levels.stripped =
        .ok [.ofList ["B", "D"], .ofList ["A", "C"]] ∧
      ((Session.levels shortcut "E").run (Session.start.asking shortcut [.levels "D"])).1 =
        .ok [.ofList ["B", "D"], .ofList ["A", "C"]] := by
  have finite : {name | shortcut.lookup.Reaches "E" name}.Finite :=
    finiteFrom_iff.1 (shortcut.finite "E")
  -- supertypes come before their subtypes in the alphabet
  have falls : ∀ lower upper, shortcut.lookup.Direct lower upper → upper < lower := by
    have each : ∀ entry ∈ [("A", ∅), ("B", NameSet.singleton "A"), ("C", .singleton "A"),
        ("D", .ofList ["B", "C"]), ("E", .ofList ["B", "D"])],
        ∀ upper ∈ entry.2.toList, upper < entry.1 := by decide
    rintro lower upper ⟨supertypes, known, member⟩
    exact each (lower, supertypes) (NameMap.mem_entries_of_get?_eq_some known) upper member
  have acyclic : shortcut.lookup.AcyclicFrom "E" := by
    intro name _ above
    have falls' : ∀ lower upper, shortcut.lookup.Above lower upper → upper < lower := by
      intro lower upper above
      induction above with
      | single direct => exact falls _ _ direct
      | tail _ direct ih => exact String.lt_trans (falls _ _ direct) ih
    exact String.lt_irrefl _ (falls' name name above)
  obtain ⟨walked, inSession⟩ := levels_eq_stripped shortcut.lookup "E" finite acyclic
  have expanded : (shortcut.lookup.expand "E" (finiteFrom_iff.2 finite) acyclic).map
      Levels.stripped = .ok [.ofList ["B", "D"], .ofList ["A", "C"]] := by
    rw [← walked]
    cbv
  exact ⟨finite, acyclic, expanded, (inSession shortcut _ fun _ _ => rfl).trans expanded⟩

end Lookup

end AdapterWiring
