import AdapterWiring.Proofs.Check.TypeSafety
import Mathlib

/-!
# Eligible adapters of a universe

An adapter of a universe is eligible where the type given fits one of its
constructors and the adapter has the wanted type above it. The levels of an
adapter hold what is above it and not the adapter itself, so an adapter is not
eligible for its own type, although it can be assigned to it.

* **isSubtypeOrEqual_iff** — what is found to be a subtype of a declared type.
* **mem_eligible_iff_adapts** — the eligible adapters are those that adapt.
* **own_type_not_eligible** — an adapter that is not eligible for its own type.
* **eligible_iff_assignable** — it is so for every adapter that is not above
  itself; for all other types eligibility is assignability on both sides.
-/

namespace AdapterWiring

namespace Universe

variable {world : Universe}

/-! ## Assignable types -/

/-- A declared type is found to be a subtype of exactly the types that it reaches. -/
theorem isSubtypeOrEqual_iff {lower upper : String} {declaration : ClassDeclaration}
    (declared : world.class? lower = some declaration) :
    (world.oracle.ancestry.isSubtypeOrEqual lower upper).run = .ok true ↔
      Relation.ReflTransGen world.Extends lower upper := by
  rw [Oracle.isSubtypeOrEqual_iff, ← reaches_iff, Lookup.reaches_iff_eq_or_above,
    and_iff_right (knownFrom declared), eq_comm]

/-- A type that another is assignable to is above it, unless the two are the same. -/
theorem above_iff_assignable {lower upper : String} :
    Relation.TransGen world.Extends lower upper ↔
      Relation.ReflTransGen world.Extends lower upper ∧
        (upper = lower → Relation.TransGen world.Extends lower lower) := by
  constructor
  · intro above
    exact ⟨above.to_reflTransGen, fun same => same ▸ above⟩
  · rintro ⟨reached, ownAbove⟩
    rcases Relation.reflTransGen_iff_eq_or_transGen.1 reached with same | above
    · exact same ▸ ownAbove same
    · exact above

/-! ## Eligible adapters -/

/-- An adapter filed for a universe that adapts is among those that fit. -/
theorem mem_fitting_of_adapts {library : Library} (files : world.Files library) {name : String}
    {adapter : Descriptor} (filed : library.get? name = some adapter) {source wanted : String}
    (adapts : world.Adapts name source wanted) :
    adapter ∈ library.fitting world.oracle.lookup source wanted := by
  obtain ⟨declaration, declared, _, ⟨parameter, isConstructor, reached⟩, above⟩ := adapts
  obtain ⟨named, declaration', declared', _, describes⟩ := (files.get?_iff name adapter).1 filed
  obtain rfl := Option.some.inj (declared.symm.trans declared')
  refine ⟨NameMap.mem_values.2 ⟨name, filed⟩, ⟨parameter, ?_, reaches_iff.2 reached⟩, ?_⟩
  · rw [describes.adaptsFrom, NameSet.mem_ofList]
    exact ClassDeclaration.mem_singleParameters.2 isConstructor
  · rw [← named] at above
    exact Levels.mem_all.1 ((Oracle.mem_levels_iff describes.adaptsTo wanted).2 (above_iff.2 above))

/-- The eligible adapters of a universe's library are those that adapt. -/
theorem mem_eligible_iff_adapts {library : Library} (files : world.Files library)
    {source : String} {declaration : ClassDeclaration}
    (declared : world.class? source = some declaration) (wanted : String) :
    ∃ found, (library.queryEligible world.oracle.ancestry source wanted).run = .ok found ∧
      ∀ name adapter, library.get? name = some adapter →
        (adapter ∈ found ↔ world.Adapts name source wanted) := by
  obtain ⟨levels, levelsOk⟩ := Oracle.exists_levels_iff.2 (knownFrom declared)
  refine ⟨_, Library.queryEligible_of_levels levelsOk, fun name adapter filed => ?_⟩
  rw [← Library.mem_fitting_iff levelsOk]
  obtain ⟨named, _⟩ := (files.get?_iff name adapter).1 filed
  exact ⟨fun fits => named ▸ adapts_of_mem_fitting files fits, mem_fitting_of_adapts files filed⟩

/-! ## Assignability on both sides -/

/-- The library of a universe is there after any history of queries, and the session still goes by
the universe then. -/
theorem adapterLibrary_inSession (world : Universe) (queries : List Query) :
    ∃ library session,
      (world.adapterLibrary (Session.ancestry world.oracle)).run
        (Session.start.asking world.oracle queries) = (.ok library, session) ∧
      session.Faithful world.oracle ∧ world.Files library := by
  obtain ⟨library, ok, files⟩ := world.adapterLibrary_ok
  obtain ⟨answer, kept⟩ := Session.Answers.adapterLibrary world _
    (Session.Faithful.start.asking queries)
  exact ⟨library, _, Prod.ext (answer.trans ok) rfl, kept, files⟩

/-- **Eligibility.** After any history of queries the library of a universe is there, and after any
further queries the adapters eligible between a declared type and another are found. An adapter is
among them exactly if the type given is a subtype of the parameter of one of its constructors for a
single object, its own type is a subtype of the one wanted and, where that is its own type, above
itself. -/
theorem eligible_iff_assignable (world : Universe) (before between : List Query)
    {source : String} (declared : ∃ declaration, world.class? source = some declaration)
    (wanted : String) :
    let types := Session.ancestry world.oracle
    ∃ library session,
      (world.adapterLibrary types).run (Session.start.asking world.oracle before) =
        (.ok library, session) ∧
      let later := session.asking world.oracle between
      ∃ found, ((library.queryEligible types source wanted).run later).1 = .ok found ∧
        ∀ name adapter, library.get? name = some adapter →
          (adapter ∈ found ↔
            (∃ declaration parameter, world.class? name = some declaration ∧
              [parameter] ∈ declaration.constructors ∧
              ((types.isSubtypeOrEqual source parameter).run later).1 = .ok true) ∧
            ((types.isSubtypeOrEqual name wanted).run later).1 = .ok true ∧
            (wanted = name → Relation.TransGen world.Extends name name)) := by
  intro types
  obtain ⟨library, session, made, kept, files⟩ := world.adapterLibrary_inSession before
  have later := kept.asking between
  obtain ⟨sourceClass, isSource⟩ := declared
  obtain ⟨found, eligible, adapts⟩ := mem_eligible_iff_adapts files isSource wanted
  refine ⟨library, session, made, found, ?_, fun name adapter filed => ?_⟩
  · exact (Session.Answers.eligible library source wanted _ later).1.trans eligible
  -- questions about subtypes are answered as by the oracle itself
  have asked (lower upper : String) :
      ((types.isSubtypeOrEqual lower upper).run (session.asking world.oracle between)).1 =
        (world.oracle.ancestry.isSubtypeOrEqual lower upper).run :=
    (Session.Answers.isSubtypeOrEqual lower upper _ later).1
  obtain ⟨_, declaration, isClass, isAdapter, _⟩ := (files.get?_iff name adapter).1 filed
  rw [adapts name adapter filed, Adapts, above_iff_assignable]
  simp only [asked, isSubtypeOrEqual_iff isSource, isSubtypeOrEqual_iff isClass]
  constructor
  · rintro ⟨declaration, isClass, _, ⟨parameter, isConstructor, accepted⟩, assignable⟩
    exact ⟨⟨declaration, parameter, isClass, isConstructor, accepted⟩, assignable⟩
  · rintro ⟨⟨other, parameter, isOther, isConstructor, accepted⟩, assignable⟩
    obtain rfl := Option.some.inj (isClass.symm.trans isOther)
    exact ⟨declaration, isClass, isAdapter, ⟨parameter, isConstructor, accepted⟩, assignable⟩

/-- Two adapters for objects of one type; the second one is above itself. -/
def workshop : Universe where
  classes := .ofList [("A", ⟨[], ∅, ∅, [], false⟩), ("B", ⟨["Object"], ∅, ∅, [], false⟩),
    ("BtoA", ⟨["A"], ∅, ∅, [["B"], ["B", "B"]], true⟩), ("Object", ⟨[], ∅, ∅, [], false⟩),
    ("Loop", ⟨["Ring"], ∅, ∅, [["Object"]], true⟩), ("Ring", ⟨["Loop"], ∅, ∅, [], false⟩)]
  closed := by decide +kernel

/-- Their descriptors. -/
def workshopLibrary : Library :=
  .ofList [⟨"BtoA", .singleton "B", [.singleton "A"]⟩,
    ⟨"Loop", .singleton "Object", [.singleton "Ring", .singleton "Loop"]⟩]

theorem eligible_iff_assignable_loop :
    (∃ declaration, workshop.class? "B" = some declaration) ∧
    let types := Session.ancestry workshop.oracle
    ∃ library session,
      (workshop.adapterLibrary types).run
        (Session.start.asking workshop.oracle [.levels "Loop"]) = (.ok library, session) ∧
      let later := session.asking workshop.oracle [.subtypeOrEqual "Loop" "Loop"]
      ∃ found, ((library.queryEligible types "B" "Loop").run later).1 = .ok found ∧
        ∀ name adapter, library.get? name = some adapter →
          (adapter ∈ found ↔
            (∃ declaration parameter, workshop.class? name = some declaration ∧
              [parameter] ∈ declaration.constructors ∧
              ((types.isSubtypeOrEqual "B" parameter).run later).1 = .ok true) ∧
            ((types.isSubtypeOrEqual name "Loop").run later).1 = .ok true ∧
            ("Loop" = name → Relation.TransGen workshop.Extends name name)) := by
  have declared : ∃ declaration, workshop.class? "B" = some declaration := ⟨_, by cbv⟩
  exact ⟨declared,
    eligible_iff_assignable workshop [.levels "Loop"] [.subtypeOrEqual "Loop" "Loop"] declared
      "Loop"⟩

/-- An object that an adapter is built from can be passed to its constructor, and the adapter be
assigned to its own type, yet the adapter is not eligible for that type. -/
theorem own_type_not_eligible :
    let types := Session.ancestry workshop.oracle
    ∃ session adapter,
      (workshop.adapterLibrary types).run .start = (.ok workshopLibrary, session) ∧
      workshopLibrary.get? "BtoA" = some adapter ∧
      (∃ declaration, workshop.class? "B" = some declaration) ∧
      (∃ declaration, workshop.class? "BtoA" = some declaration ∧
        ["B"] ∈ declaration.constructors ∧
        ((types.isSubtypeOrEqual "B" "B").run session).1 = .ok true) ∧
      ((types.isSubtypeOrEqual "BtoA" "BtoA").run session).1 = .ok true ∧
      ((workshopLibrary.queryEligible types "B" "BtoA").run session).1 = .ok [] := by
  intro types
  refine ⟨_, ⟨"BtoA", .singleton "B", [.singleton "A"]⟩, Prod.ext (by cbv) rfl, by cbv,
    ⟨_, by cbv⟩, ⟨_, by cbv, by decide, ?_⟩, ?_, ?_⟩
  · cbv
  · cbv
  · cbv

end Universe

end AdapterWiring
