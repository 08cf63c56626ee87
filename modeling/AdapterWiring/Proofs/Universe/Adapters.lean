import AdapterWiring.Proofs.Adapter.Verdict
import AdapterWiring.Universe.Basic

/-!
# The adapters of a universe

Every type reached from a declared class is declared, so the levels of classes
are always there and the adapters of a universe make up a library.

* **ofClasses_ok_iff** — the universe of some classes has exactly these.
* **Extends** — one declared step between classes, which is the step of the
  universe as a type hierarchy (`direct_iff`).
* **knownFrom** — all that is reached from a class is declared.
* **Describes, Files** — what is filed of an adapter, and a library that files
  the adapters that can be built from a single object.
* **adapterLibrary_ok** — the library of a universe is there and is one.
-/

namespace AdapterWiring

theorem ClassDeclaration.mem_singleParameters {declaration : ClassDeclaration}
    {parameter : String} :
    parameter ∈ declaration.singleParameters ↔ [parameter] ∈ declaration.constructors := by
  rw [singleParameters, List.mem_filterMap]
  constructor
  · rintro ⟨constructor, member, single⟩
    split at single
    · rw [Option.some.injEq] at single
      rwa [single] at member
    · simp at single
  · intro member
    exact ⟨[parameter], member, rfl⟩

theorem ClassDeclaration.singleParameters_ne_nil_iff {declaration : ClassDeclaration} :
    declaration.singleParameters ≠ [] ↔ ∃ parameter, [parameter] ∈ declaration.constructors := by
  rw [← List.isEmpty_eq_false_iff, List.isEmpty_eq_false_iff_exists_mem]
  exact exists_congr fun _ => mem_singleParameters

namespace Universe

/-! ## Universes of classes -/

theorem firstUndeclared?_eq_none {classes : NameMap ClassDeclaration}
    {entries : List (String × ClassDeclaration)}
    (declared : ∀ entry ∈ entries, ∀ supertype ∈ entry.2.supertypes,
      classes.contains supertype = true) : firstUndeclared? classes entries = none := by
  induction entries with
  | nil => rfl
  | cons head rest ih =>
    have first : head.2.supertypes.find? (fun supertype => !classes.contains supertype) = none :=
      List.find?_eq_none.2 fun supertype member => by
        simpa using declared head (List.mem_cons_self ..) supertype member
    rw [firstUndeclared?, first]
    exact ih fun entry member => declared entry (List.mem_cons_of_mem _ member)

theorem ofClasses_ok_iff {world : Universe} {classes : NameMap ClassDeclaration} :
    ofClasses classes = .ok world ↔ classes = world.classes := by
  unfold ofClasses
  split
  next found =>
    refine ⟨fun failed => (nomatch failed), ?_⟩
    rintro rfl
    rw [firstUndeclared?_eq_none world.closed] at found
    cases found
  next =>
    rw [Except.ok.injEq]
    exact ⟨fun same => same ▸ rfl, by rintro rfl; rfl⟩

variable {world : Universe}

/-! ## Declared supertypes -/

/-- A class declares another type as a direct supertype. -/
def Extends (world : Universe) (lower upper : String) : Prop :=
  ∃ declaration, world.class? lower = some declaration ∧ upper ∈ declaration.supertypes

theorem direct_iff {lower upper : String} :
    world.oracle.lookup.Direct lower upper ↔ world.Extends lower upper := by
  show (∃ supertypes, (world.class? lower).map _ = some supertypes ∧ _) ↔ _
  cases declared : world.class? lower with
  | none => simp [Extends, declared]
  | some declaration => simp [Extends, declared]

theorem reaches_iff {lower upper : String} :
    world.oracle.lookup.Reaches lower upper ↔
      Relation.ReflTransGen world.Extends lower upper := by
  have same : world.oracle.lookup.Direct = world.Extends := by
    funext lower upper
    exact propext direct_iff
  rw [Lookup.Reaches, same]

theorem above_iff {lower upper : String} :
    world.oracle.lookup.Above lower upper ↔ Relation.TransGen world.Extends lower upper := by
  have same : world.oracle.lookup.Direct = world.Extends := by
    funext lower upper
    exact propext direct_iff
  rw [Lookup.Above, same]

/-- Every type reached from a class is declared. -/
theorem knownFrom {name : String} {declaration : ClassDeclaration}
    (declared : world.class? name = some declaration) : world.oracle.lookup.KnownFrom name := by
  have known_of_declared {other : String} (found : world.classes.contains other = true) :
      world.oracle.lookup other ≠ none := by
    obtain ⟨_, found⟩ := Option.isSome_iff_exists.1 found
    simp [oracle, supertypes?, class?, found]
  intro other reached
  refine known_of_declared ?_
  induction reached with
  | refl => exact Option.isSome_iff_exists.2 ⟨_, declared⟩
  | tail _ step ih =>
    obtain ⟨lower, found, isSupertype⟩ := direct_iff.1 step
    exact world.closed _ (NameMap.mem_entries_of_get?_eq_some found) _ isSupertype

/-! ## Adapters -/

theorem mem_adapterClasses {entry : String × ClassDeclaration} :
    entry ∈ world.adapterClasses ↔
      world.class? entry.1 = some entry.2 ∧ entry.2.isAdapter = true := by
  rw [adapterClasses, List.mem_filter, class?, NameMap.mem_entries_iff]

theorem nodup_adapterClasses : (world.adapterClasses.map Prod.fst).Nodup :=
  (SortedNames.nodup world.classes.sorted).sublist (List.filter_sublist.map _)

theorem mem_shapelessAdapters {name : String} :
    name ∈ world.shapelessAdapters ↔
      ∃ declaration, world.class? name = some declaration ∧ declaration.isAdapter = true ∧
        declaration.singleParameters = [] := by
  simp [shapelessAdapters, mem_adapterClasses, and_assoc]

/-- What is filed of an adapter: the parameters of its constructors for a single object and the
levels of its own type. -/
structure Describes (world : Universe) (declaration : ClassDeclaration) (adapter : Descriptor) :
    Prop where
  buildable : declaration.singleParameters ≠ []
  adaptsFrom : adapter.adaptsFrom = .ofList declaration.singleParameters
  adaptsTo : world.oracle.levels adapter.name = .ok adapter.adaptsTo

/-- There is at most one way to file an adapter. -/
theorem Describes.unique {declaration : ClassDeclaration} {first second : Descriptor}
    (isFirst : world.Describes declaration first) (isSecond : world.Describes declaration second)
    (same : first.name = second.name) : first = second := by
  have levels := isFirst.adaptsTo
  rw [same, isSecond.adaptsTo, Except.ok.injEq] at levels
  have accepted := isFirst.adaptsFrom.trans isSecond.adaptsFrom.symm
  cases first
  cases second
  simp_all

/-- Filing some classes under different names, all that they reach being known. -/
theorem collectAdapters_ok {classes : List (String × ClassDeclaration)}
    (distinct : (classes.map Prod.fst).Nodup)
    (known : ∀ entry ∈ classes, world.oracle.lookup.KnownFrom entry.1) (library : Library) :
    ∃ filed, (collectAdapters world.oracle.ancestry library classes).run = .ok filed ∧
      (library.Built → filed.Built) ∧
      ∀ name adapter, filed.get? name = some adapter ↔
        (adapter.name = name ∧
          ∃ declaration, (name, declaration) ∈ classes ∧ world.Describes declaration adapter) ∨
        ((∀ declaration, (name, declaration) ∈ classes → declaration.singleParameters = []) ∧
          library.get? name = some adapter) := by
  induction classes generalizing library with
  | nil => exact ⟨library, rfl, id, by simp⟩
  | cons head rest ih =>
    obtain ⟨headName, headClass⟩ := head
    rw [List.map_cons, List.nodup_cons] at distinct
    obtain ⟨headOnce, distinctRest⟩ := distinct
    have later := ih distinctRest fun entry member => known entry (List.mem_cons_of_mem _ member)
    -- names are distinct, so nothing filed later replaces the head
    have notLater {declaration : ClassDeclaration} : (headName, declaration) ∉ rest :=
      fun member => headOnce (List.mem_map.2 ⟨_, member, rfl⟩)
    rw [collectAdapters]
    split
    next none =>
      obtain ⟨filed, ok, built, files⟩ := later library
      refine ⟨filed, ok, built, fun name adapter => ?_⟩
      have notHead : ¬ world.Describes headClass adapter := fun describes =>
        describes.buildable none
      rw [files]
      grind
    next parameter parameters some =>
      obtain ⟨levels, levelsOk⟩ :=
        Oracle.exists_levels_iff.2 (known (headName, headClass) (List.mem_cons_self ..))
      let adapter : Descriptor := ⟨headName, .ofList (parameter :: parameters), levels⟩
      have discovered : (Descriptor.discover world.oracle.ancestry headName
          (.ofList (parameter :: parameters))).run = .ok adapter := by
        show (world.oracle.levels headName).map _ = _
        rw [levelsOk]
        rfl
      have describes : world.Describes headClass adapter :=
        ⟨by simp [some], by rw [some], levelsOk⟩
      obtain ⟨filed, ok, built, files⟩ := later (library.insert adapter)
      refine ⟨filed, ?_, fun isBuilt => built (isBuilt.insert _), fun name other => ?_⟩
      · rw [Id.run_bind, discovered]
        exact ok
      · rw [files, Library.get?_insert]
        by_cases same : name = headName
        · subst same
          have isHead : name = adapter.name := rfl
          simp only [notLater, if_pos isHead, List.mem_cons, Prod.mk.injEq, true_and, or_false,
            false_and, exists_false, and_false, false_or, exists_eq_left, forall_eq,
            Option.some.injEq, IsEmpty.forall_iff, implies_true]
          constructor
          · rintro rfl
            exact .inl ⟨rfl, describes⟩
          · rintro (⟨isHead, described⟩ | ⟨none, _⟩)
            · exact describes.unique described isHead.symm
            · simp [some] at none
        · have notHead : name ≠ adapter.name := same
          simp only [List.mem_cons, Prod.mk.injEq, same, false_and, false_or, if_neg notHead]

/-- A library that files exactly the adapters of a universe that can be built from a single
object. -/
structure Files (world : Universe) (library : Library) : Prop where
  built : library.Built
  get?_iff : ∀ name adapter, library.get? name = some adapter ↔
    adapter.name = name ∧ ∃ declaration, world.class? name = some declaration ∧
      declaration.isAdapter = true ∧ world.Describes declaration adapter

theorem Files.withPrecedence {library : Library} (files : world.Files library)
    (precedence : Precedence) : world.Files (library.withPrecedence precedence) :=
  ⟨files.built.withPrecedence precedence, files.get?_iff⟩

/-- **The library of a universe** is there and files exactly the adapters that can be built from a
single object. -/
theorem adapterLibrary_ok (world : Universe) :
    ∃ library, (world.adapterLibrary world.oracle.ancestry).run = .ok library ∧
      world.Files library := by
  obtain ⟨library, ok, built, filed⟩ := collectAdapters_ok nodup_adapterClasses
    (fun entry member => knownFrom (mem_adapterClasses.1 member).1) .empty
  refine ⟨library, ok, built .empty, fun name adapter => ?_⟩
  rw [filed]
  simp only [mem_adapterClasses, and_assoc]
  refine or_iff_left fun ⟨_, found⟩ => ?_
  simp at found

end Universe

end AdapterWiring
