import AdapterWiring.Proofs.Adapter.Explicit
import AdapterWiring.Proofs.Session.Check
import AdapterWiring.Proofs.Universe.Eligibility

/-!
# What loading a universe promises

Loading looks at the supertypes of each class, one step at a time. This is
enough for all that is worked out later: a walk over supertypes starts from a
declared class and stays among declared classes, in a circle if need be.

* **exists_ofClasses_iff** — the classes that make up a universe.
* **levels_error_iff** — levels are missing exactly for types that are not
  declared.
* **Files.mem_names_iff, reports_iff** — the two ways to go over the classes
  marked as adapters: some are filed, the others are reported.
* **Divides** — each of them is dealt with in one of the two ways.
* **loaded_adapters** — what holds of every universe that is loaded.
-/

namespace AdapterWiring

namespace Universe

/-! ## Loading -/

/-- Classes make up a universe exactly if their supertypes are declared. -/
theorem exists_ofClasses_iff {classes : NameMap ClassDeclaration} :
    (∃ world, ofClasses classes = .ok world) ↔
      ∀ name declaration, classes.get? name = some declaration →
        ∀ supertype ∈ declaration.supertypes, classes.contains supertype = true := by
  constructor
  · rintro ⟨world, loaded⟩ name declaration declared
    obtain rfl := ofClasses_ok_iff.1 loaded
    exact world.closed _ (NameMap.mem_entries_iff.2 declared)
  · intro declared
    have closed : ∀ entry ∈ classes.entries, ∀ supertype ∈ entry.2.supertypes,
        classes.contains supertype = true :=
      fun entry member => declared entry.1 entry.2 (NameMap.mem_entries_iff.1 member)
    exact ⟨⟨classes, closed⟩, ofClasses_ok_iff.2 rfl⟩

variable {world : Universe}

/-! ## Levels -/

/-- The only type reached from one that is not declared is that type. -/
theorem eq_of_reaches_of_undeclared {lower upper : String} (undeclared : world.class? lower = none)
    (reached : world.oracle.lookup.Reaches lower upper) : upper = lower := by
  rw [reaches_iff] at reached
  rcases reached.cases_head with same | ⟨_, ⟨declaration, declared, _⟩, _⟩
  · exact same.symm
  · rw [undeclared] at declared
    cases declared

/-- The levels of a type are missing exactly if it is not declared, and it is the one to blame. -/
theorem levels_error_iff {name : String} {failure : UnknownType} :
    world.oracle.levels name = .error failure ↔
      world.class? name = none ∧ failure = ⟨name⟩ := by
  have blamed {failure : UnknownType} (failed : world.oracle.levels name = .error failure) :
      world.class? name = none ∧ failure = ⟨name⟩ := by
    obtain ⟨unknown, reached⟩ := Oracle.levels_error failed
    cases declared : world.class? name with
    | some declaration => exact absurd unknown (knownFrom declared _ reached)
    | none =>
      cases failure
      exact ⟨rfl, congrArg UnknownType.mk (eq_of_reaches_of_undeclared declared reached)⟩
  refine ⟨blamed, ?_⟩
  rintro ⟨undeclared, rfl⟩
  cases levels : world.oracle.levels name with
  | error failure => rw [(blamed levels).2]
  | ok found =>
    have known := Oracle.exists_levels_iff.1 ⟨found, levels⟩ name .refl
    simp [oracle, supertypes?, undeclared] at known

/-- Resolution fails exactly for objects of a type that is not declared. -/
theorem resolve_fails_iff {library : Library} {source wanted : String} {failure : UnknownType} :
    (library.resolve world.oracle.ancestry source wanted).run = .error failure ↔
      world.class? source = none ∧ failure = ⟨source⟩ := by
  rw [← levels_error_iff]
  cases levels : world.oracle.levels source with
  | error other => rw [Library.resolve_of_unknown levels, Except.error.injEq, Except.error.injEq]
  | ok found =>
    rw [Library.resolve_of_levels levels]
    exact iff_of_false (fun failed => nomatch failed) (fun failed => nomatch failed)

/-! ## Adapters -/

/-- A class is marked as an adapter. -/
def Marked (world : Universe) (name : String) : Prop :=
  ∃ declaration, world.class? name = some declaration ∧ declaration.isAdapter = true

/-- A class is reported to lack a constructor for a single object. -/
def Reports (world : Universe) (name : String) : Prop :=
  "adapter '" ++ name ++ "' lacks required constructor shape: no single-argument constructor" ∈
    world.shapeProblems

/-- Different classes are reported in different words. -/
theorem shapeProblem_injective : Function.Injective fun name : String =>
    "adapter '" ++ name ++
      "' lacks required constructor shape: no single-argument constructor" := by
  intro first second same
  simpa using same

theorem reports_iff {name : String} :
    world.Reports name ↔
      ∃ declaration, world.class? name = some declaration ∧ declaration.isAdapter = true ∧
        declaration.singleParameters = [] := by
  rw [Reports, shapeProblems, ← mem_shapelessAdapters]
  exact List.mem_map_of_injective shapeProblem_injective

/-- No class is reported twice. -/
theorem nodup_shapeProblems : world.shapeProblems.Nodup :=
  (nodup_adapterClasses.sublist (List.filter_sublist.map _)).map shapeProblem_injective

/-- The names filed are those of the adapters that can be built from a single object. -/
theorem Files.mem_names_iff {library : Library} (files : world.Files library) {name : String} :
    name ∈ library.names ↔
      ∃ declaration, world.class? name = some declaration ∧ declaration.isAdapter = true ∧
        declaration.singleParameters ≠ [] := by
  rw [Library.names, NameMap.mem_keys]
  constructor
  · intro filed
    obtain ⟨adapter, filed⟩ := Option.isSome_iff_exists.1 filed
    obtain ⟨_, declaration, declared, isAdapter, describes⟩ := (files.get?_iff name adapter).1 filed
    exact ⟨declaration, declared, isAdapter, describes.buildable⟩
  · rintro ⟨declaration, declared, isAdapter, buildable⟩
    obtain ⟨levels, levelsOk⟩ := Oracle.exists_levels_iff.2 (knownFrom declared)
    have filed := (files.get?_iff name ⟨name, .ofList declaration.singleParameters, levels⟩).2
      ⟨rfl, declaration, declared, isAdapter, buildable, rfl, levelsOk⟩
    exact Option.isSome_iff_exists.2 ⟨_, filed⟩

/-- A library and the reports on constructors deal with the classes marked as adapters, and with
each of them once. -/
structure Divides (world : Universe) (library : Library) : Prop where
  marked_iff : ∀ name, world.Marked name ↔ name ∈ library.names ∨ world.Reports name
  disjoint : ∀ name, ¬ (name ∈ library.names ∧ world.Reports name)
  once : world.shapeProblems.Nodup

/-- What can be built from a single object is filed, and everything else is reported. -/
theorem Files.divides {library : Library} (files : world.Files library) :
    world.Divides library where
  marked_iff name := by
    rw [files.mem_names_iff, reports_iff, ← exists_or]
    refine exists_congr fun declaration => ?_
    by_cases shapeless : declaration.singleParameters = [] <;> simp [shapeless]
  disjoint name := by
    rw [files.mem_names_iff, reports_iff]
    rintro ⟨⟨declaration, declared, _, buildable⟩, ⟨other, isOther, _, shapeless⟩⟩
    obtain rfl := Option.some.inj (declared.symm.trans isOther)
    exact buildable shapeless
  once := nodup_shapeProblems

/-- **Loading.** Classes make up a universe exactly if every supertype that they name is declared.
Then each class has its levels and the library of adapters is there, after any history of queries.
The classes marked as adapters are divided between the library and the reports; an adapter of the
library adapts from the parameters of its constructors for a single object, and to its levels. After
any further queries resolution fails exactly for a type that is not declared. -/
theorem loaded_adapters (classes : NameMap ClassDeclaration) :
    ((∃ world, ofClasses classes = .ok world) ↔
      ∀ name declaration, classes.get? name = some declaration →
        ∀ supertype ∈ declaration.supertypes, classes.contains supertype = true) ∧
    ∀ world, ofClasses classes = .ok world → ∀ before between : List Query,
      world.classes = classes ∧
      let types := Session.ancestry world.oracle
      let session := Session.start.asking world.oracle before
      (∀ name declaration, classes.get? name = some declaration →
        ∃ levels, ((types.levels name).run session).1 = .ok levels) ∧
      ∃ library filed, (world.adapterLibrary types).run session = (.ok library, filed) ∧
        world.Divides library ∧
        let later := filed.asking world.oracle between
        (∀ name adapter, library.get? name = some adapter → adapter.name = name ∧
          ∃ declaration, classes.get? name = some declaration ∧
            (∀ parameter, parameter ∈ adapter.adaptsFrom ↔
              [parameter] ∈ declaration.constructors) ∧
            ((types.levels name).run later).1 = .ok adapter.adaptsTo) ∧
        ∀ source wanted failure,
          ((library.resolve types source wanted).run later).1 = .error failure ↔
            classes.get? source = none ∧ failure = ⟨source⟩ := by
  refine ⟨exists_ofClasses_iff, fun world loaded before between => ?_⟩
  obtain rfl := ofClasses_ok_iff.1 loaded
  refine ⟨rfl, ?_⟩
  intro types session
  obtain ⟨library, filed, made, kept, files⟩ := world.adapterLibrary_inSession before
  have later := kept.asking between
  refine ⟨fun name declaration declared => ?_, library, filed, made, files.divides,
    fun name adapter isFiled => ?_, fun source wanted failure => ?_⟩
  · obtain ⟨levels, levelsOk⟩ := Oracle.exists_levels_iff.2 (knownFrom declared)
    have start : session.Faithful world.oracle := Session.Faithful.start.asking before
    exact ⟨levels, (Session.Answers.levels name _ start).1.trans levelsOk⟩
  · obtain ⟨named, declaration, declared, _, describes⟩ := (files.get?_iff name adapter).1 isFiled
    refine ⟨named, declaration, declared, fun parameter => ?_, ?_⟩
    · rw [describes.adaptsFrom, NameSet.mem_ofList, ClassDeclaration.mem_singleParameters]
    · exact (Session.Answers.levels name _ later).1.trans (named ▸ describes.adaptsTo)
  · have resolved := (Session.Answers.resolve library source wanted _ later).1
    exact (Eq.congr_left resolved).trans resolve_fails_iff

/-- The workshop with one more adapter, which cannot be built from a single object. -/
def annex : Universe where
  classes := workshop.classes.insert "Blank" ⟨["Loop"], ∅, ∅, [["B", "B"], []], true⟩
  closed := by decide +kernel

theorem loaded_adapters_annex :
    ofClasses annex.classes = .ok annex ∧
    let types := Session.ancestry annex.oracle
    let session := Session.start.asking annex.oracle [.levels "Ring", .known "Void"]
    (∃ levels, ((types.levels "Loop").run session).1 = .ok levels) ∧
    ∃ filed, (annex.adapterLibrary types).run session = (.ok workshopLibrary, filed) ∧
      annex.Divides workshopLibrary ∧ annex.Marked "Blank" ∧ annex.Reports "Blank" ∧
      let later := filed.asking annex.oracle [.subtypeOrEqual "Blank" "Ring"]
      ((types.levels "Loop").run later).1 = .ok [.singleton "Ring", .singleton "Loop"] ∧
      ((workshopLibrary.resolve types "Void" "A").run later).1 = .error ⟨"Void"⟩ := by
  have loaded : ofClasses annex.classes = .ok annex := ofClasses_ok_iff.2 rfl
  have collected : ((annex.adapterLibrary (Session.ancestry annex.oracle)).run
      (Session.start.asking annex.oracle [.levels "Ring", .known "Void"])).1 =
        .ok workshopLibrary := by cbv
  obtain ⟨_, leveled, library, filed, made, divides, described, failing⟩ :=
    (loaded_adapters annex.classes).2 annex loaded [.levels "Ring", .known "Void"]
      [.subtypeOrEqual "Blank" "Ring"]
  rw [made, Except.ok.injEq] at collected
  subst collected
  obtain ⟨_, _, _, _, levels⟩ := described "Loop" _ (by cbv)
  refine ⟨loaded, leveled "Loop" _ (by cbv), filed, made, divides, ⟨_, by cbv, rfl⟩,
    reports_iff.2 ⟨_, by cbv, rfl, rfl⟩, levels, (failing _ _ _).2 ⟨by cbv, rfl⟩⟩

end Universe

end AdapterWiring
