import AdapterWiring.Proofs.Check.Wiring
import AdapterWiring.Proofs.Session.Check
import AdapterWiring.Proofs.Universe.Adapters

/-!
# Type safety

An association in the report of a check puts an object of the type it produces
where one of a declared supertype is asked for, with or without an adapter.

* **TargetHasType**, **SourceHasType** — the declared types of clauses.
* **Adapts** — an adapter that can be built from one type and stands in for
  another.
* **WellTyped** — an association whose types are the declared ones and whose
  wiring fits them.
* **associations_wellTyped** — so is each association of every report, over
  every universe, cyclic supertypes included.
-/

namespace AdapterWiring

namespace Universe

variable {world : Universe}

/-! ## Declared types -/

/-- The type declared for a target. -/
inductive TargetHasType (world : Universe) : Target → String → Prop
  | field {operand : MemberOperand} {declaration : ClassDeclaration} {field : FieldDeclaration} :
    world.class? operand.owner = some declaration →
    declaration.fields.get? operand.member = some field →
      TargetHasType world (.field operand) field.type

/-- The type declared for what a source produces: that of a static field, a class, or what a static
method without parameters returns. -/
inductive SourceHasType (world : Universe) : Source → String → Prop
  | field {operand : MemberOperand} {declaration : ClassDeclaration} {field : FieldDeclaration} :
    world.class? operand.owner = some declaration →
    declaration.fields.get? operand.member = some field → field.isStatic = true →
      SourceHasType world (.field operand) field.type
  | fresh {operand : ClassOperand} {declaration : ClassDeclaration} :
    world.class? operand.name = some declaration →
      SourceHasType world (.fresh operand) operand.name
  | call {operand : MemberOperand} {declaration : ClassDeclaration} {method : MethodDeclaration} :
    world.class? operand.owner = some declaration →
    declaration.methods.get? operand.member = some method → method.isStatic = true →
    method.parameters = [] → SourceHasType world (.call operand) method.returns
  | single {operand : ClassOperand} {declaration : ClassDeclaration} :
    world.class? operand.name = some declaration →
      SourceHasType world (.single operand) operand.name

/-- A class marked as an adapter that has a constructor for a single object, of the source type or a
supertype of it, and has the wanted type above it. -/
def Adapts (world : Universe) (adapter source wanted : String) : Prop :=
  ∃ declaration, world.class? adapter = some declaration ∧ declaration.isAdapter = true ∧
    (∃ parameter, [parameter] ∈ declaration.constructors ∧
      Relation.ReflTransGen world.Extends source parameter) ∧
    Relation.TransGen world.Extends adapter wanted

/-- A wiring that fits the types it connects. -/
inductive Fits (world : Universe) (source wanted : String) : Wiring → Prop
  | direct : Relation.ReflTransGen world.Extends source wanted → Fits world source wanted .direct
  | explicit {adapter : String} : world.Adapts adapter source wanted →
    Fits world source wanted (.explicit adapter)
  | resolved {adapter : String} : world.Adapts adapter source wanted →
    Fits world source wanted (.resolved adapter)

/-- An association whose types are the declared ones, wired in a way that fits them. -/
structure WellTyped (world : Universe) (outcome : WiredAssociation) : Prop where
  target : world.TargetHasType outcome.association.target outcome.targetType
  source : world.SourceHasType outcome.association.source outcome.sourceType
  wiring : world.Fits outcome.sourceType outcome.targetType outcome.wiring

/-! ## Clauses -/

theorem field?_eq_some_iff {owner member : String} {found : FieldInfo} :
    world.field? owner member = some found ↔
      ∃ declaration field, world.class? owner = some declaration ∧
        declaration.fields.get? member = some field ∧ found = ⟨field.type, field.isStatic⟩ := by
  unfold field?
  cases world.class? owner with
  | none => simp
  | some declaration => cases named : declaration.fields.get? member <;> simp [named, eq_comm]

theorem method?_eq_some_iff {owner member : String} {found : MethodInfo} :
    world.method? owner member = some found ↔
      ∃ declaration method, world.class? owner = some declaration ∧
        declaration.methods.get? member = some method ∧
        found = ⟨method.returns, method.isStatic, method.parameters.length⟩ := by
  unfold method?
  cases world.class? owner with
  | none => simp
  | some declaration => cases named : declaration.methods.get? member <;> simp [named, eq_comm]

theorem hasClass_iff {name : String} :
    world.hasClass name = true ↔ ∃ declaration, world.class? name = some declaration :=
  Option.isSome_iff_exists

/-- The type that a target is found to ask for is the declared one. -/
theorem targetHasType_of_type? {target : Target} {type : String}
    (found : (target.type? world.model).run = some type) : world.TargetHasType target type := by
  cases target with
  | field operand =>
    obtain ⟨info, isField, rfl⟩ := Option.map_eq_some_iff.1 found
    obtain ⟨declaration, field, declared, member, rfl⟩ := field?_eq_some_iff.1 isField
    exact .field declared member

/-- A class that a source names without problem is declared. -/
theorem type_of_class? {operand : ClassOperand} {type : String}
    (found : (if world.hasClass operand.name then some operand.name else none) = some type) :
    type = operand.name ∧ ∃ declaration, world.class? operand.name = some declaration := by
  by_cases declared : world.hasClass operand.name = true
  · rw [if_pos declared, Option.some.injEq] at found
    exact ⟨found.symm, hasClass_iff.1 declared⟩
  · rw [if_neg declared] at found
    cases found

/-- The type that a source without problems is found to produce is the declared one. -/
theorem sourceHasType_of_type? {source : Source} {type : String}
    (clean : (source.problems world.model).run = [])
    (found : (source.type? world.model).run = some type) : world.SourceHasType source type := by
  cases source with
  | field operand =>
    obtain ⟨info, isField, rfl⟩ := Option.map_eq_some_iff.1 found
    obtain ⟨declaration, field, declared, member, rfl⟩ := field?_eq_some_iff.1 isField
    -- the type is read off any field, only the problems tell that it is static
    obtain ⟨_, other, isOther, static⟩ := MemberOperand.fieldProblems_eq_nil_iff.1 clean
    obtain rfl := Option.some.inj (isField.symm.trans isOther)
    exact .field declared member (static rfl)
  | fresh operand =>
    obtain ⟨rfl, declaration, declared⟩ := type_of_class? found
    exact .fresh declared
  | call operand =>
    obtain ⟨info, isMethod, rfl⟩ := Option.map_eq_some_iff.1 found
    obtain ⟨declaration, method, declared, member, rfl⟩ := method?_eq_some_iff.1 isMethod
    obtain ⟨_, other, isOther, static, none⟩ := MemberOperand.callProblems_eq_nil_iff.1 clean
    obtain rfl := Option.some.inj (isMethod.symm.trans isOther)
    exact .call declared member static (List.length_eq_zero_iff.1 none)
  | single operand =>
    obtain ⟨rfl, declaration, declared⟩ := type_of_class? found
    exact .single declared

/-! ## Routes -/

/-- What is found to be a subtype is one by declared supertypes. -/
theorem reaches_of_isSubtypeOrEqual {lower upper : String}
    (ok : (world.oracle.ancestry.isSubtypeOrEqual lower upper).run = .ok true) :
    Relation.ReflTransGen world.Extends lower upper :=
  reaches_iff.1 (Oracle.reaches_of_isSubtypeOrEqual ok)

/-- An adapter of the universe's library that fits adapts. -/
theorem adapts_of_mem_fitting {library : Library} (files : world.Files library)
    {adapter : Descriptor} {source wanted : String}
    (fits : adapter ∈ library.fitting world.oracle.lookup source wanted) :
    world.Adapts adapter.name source wanted := by
  obtain ⟨member, ⟨type, accepted, reached⟩, level, isLevel, provided⟩ := fits
  obtain ⟨name, found⟩ := NameMap.mem_values.1 member
  obtain ⟨rfl, declaration, declared, marked, describes⟩ := (files.get?_iff name adapter).1 found
  refine ⟨declaration, declared, marked, ⟨type, ?_, reaches_iff.1 reached⟩, ?_⟩
  · rw [describes.adaptsFrom, NameSet.mem_ofList] at accepted
    exact ClassDeclaration.mem_singleParameters.1 accepted
  · have above := (Oracle.mem_levels_iff describes.adaptsTo wanted).1
      (Levels.mem_all.2 ⟨level, isLevel, provided⟩)
    exact above_iff.1 above

/-- Every route through the universe's library fits the types it connects. -/
theorem fits_of_routes {library : Library} (files : world.Files library)
    {source wanted : String} {asked : Option ClassOperand} {wiring : Wiring}
    (route : Checker.Routes world.oracle.ancestry library source wanted asked wiring) :
    world.Fits source wanted wiring := by
  cases route with
  | direct ok => exact .direct (reaches_of_isSubtypeOrEqual ok)
  | explicit ok =>
    obtain ⟨adapter, fits, named⟩ := Library.mem_fitting_of_checkExplicit ok
    rw [← named]
    exact .explicit (adapts_of_mem_fitting files fits)
  | resolved _ ok =>
    obtain ⟨adapter, fits, rfl⟩ := Library.mem_fitting_of_resolve files.built.wellFiled ok
      (NameSet.mem_singleton.2 rfl)
    exact .resolved (adapts_of_mem_fitting files fits)

/-! ## Reports -/

/-- **Type safety.** After any history of queries the library of a universe is there, and after any
further queries every association in the report of a check is one of the specification and well
typed. -/
theorem associations_wellTyped (world : Universe) (before between : List Query)
    (overlap : Overlap Id) (specification : Specification) :
    ∃ library session,
      (world.adapterLibrary (Session.ancestry world.oracle)).run
        (Session.start.asking world.oracle before) = (.ok library, session) ∧
      ∀ outcome ∈ (((Checker.inSession world.model world.oracle library overlap).check
          specification).run (session.asking world.oracle between)).1.associations,
        outcome.association ∈ specification.associations ∧ world.WellTyped outcome := by
  obtain ⟨library, ok, files⟩ := world.adapterLibrary_ok
  obtain ⟨answer, kept⟩ := Session.Answers.adapterLibrary world _
    (Session.Faithful.start.asking before)
  refine ⟨library, _, Prod.ext (answer.trans ok) rfl, fun outcome member => ?_⟩
  rw [(Session.Answers.check library overlap specification _ (kept.asking between)).1,
    Checker.mem_associations_iff] at member
  obtain ⟨association, member, wired⟩ := member
  obtain ⟨rfl, _, cleanSource, target, source, route⟩ := Checker.wire_ok_iff.1 wired
  refine ⟨member, targetHasType_of_type? target, sourceHasType_of_type? cleanSource source, ?_⟩
  exact fits_of_routes (files.withPrecedence _) route

end Universe

end AdapterWiring
