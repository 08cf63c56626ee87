import AdapterWiring.Adapter.Library
import AdapterWiring.Check.ClassModel

/-!
# Universes of classes

A universe declares the classes that a specification is checked against. Every
supertype it names is declared as well.

* **ClassDeclaration** — a class.
* **Universe** — classes by name, closed under supertypes.
* **oracle, model** — the universe as a type hierarchy and as a class model.
* **adapterLibrary** — the adapters with a constructor for a single object;
  **shapeProblems** tells of the others.
-/

namespace AdapterWiring

/-! ## Classes -/

/-- A field of a class. -/
structure FieldDeclaration where
  /-- The declared type. -/
  type : String
  /-- Whether the field belongs to the class. -/
  isStatic : Bool
deriving DecidableEq, Inhabited

/-- A method of a class. -/
structure MethodDeclaration where
  /-- The declared return type. -/
  returns : String
  /-- Whether the method belongs to the class. -/
  isStatic : Bool
  /-- The types of the parameters. -/
  parameters : List String
deriving DecidableEq, Inhabited

/-- A class. -/
structure ClassDeclaration where
  /-- The direct supertypes; a class without any is a root. -/
  supertypes : List String
  /-- The fields by name. -/
  fields : NameMap FieldDeclaration
  /-- The methods by name. -/
  methods : NameMap MethodDeclaration
  /-- The parameter types of each constructor. -/
  constructors : List (List String)
  /-- Whether the class is marked as an adapter. -/
  isAdapter : Bool
deriving DecidableEq, Inhabited

/-- The parameter types of the constructors with one parameter, in order. -/
def ClassDeclaration.singleParameters (declaration : ClassDeclaration) : List String :=
  declaration.constructors.filterMap fun
    | [only] => some only
    | _ => none

/-! ## Universes -/

/-- Classes by name, closed under supertypes. -/
structure Universe where
  /-- The classes. -/
  classes : NameMap ClassDeclaration
  /-- Every supertype of a class is declared. -/
  closed : ∀ entry ∈ classes.entries, ∀ supertype ∈ entry.2.supertypes,
    classes.contains supertype = true

/-- Why a document describes no universe. -/
inductive UniverseError where
  /-- The text is no universe document. -/
  | malformed
  /-- A class names a supertype that is not declared. -/
  | undeclaredSupertype (name supertype : String)
deriving DecidableEq, Inhabited

/-- The wording of an error. -/
def UniverseError.message : UniverseError → String
  | malformed => "invalid universe document: not a record of classes"
  | undeclaredSupertype name supertype =>
    "class '" ++ name ++ "' names undeclared supertype '" ++ supertype ++ "'"

namespace Universe

/-- The first class with an undeclared supertype, with the first such supertype. -/
def firstUndeclared? (classes : NameMap ClassDeclaration) :
    List (String × ClassDeclaration) → Option (String × String)
  | [] => none
  | (name, declaration) :: rest =>
    match declaration.supertypes.find? fun supertype => !classes.contains supertype with
    | some supertype => some (name, supertype)
    | none => firstUndeclared? classes rest

theorem contains_of_firstUndeclared?_eq_none {classes : NameMap ClassDeclaration}
    {entries : List (String × ClassDeclaration)} (none : firstUndeclared? classes entries = none) :
    ∀ entry ∈ entries, ∀ supertype ∈ entry.2.supertypes, classes.contains supertype = true := by
  induction entries with
  | nil => simp
  | cons head rest ih =>
    rw [firstUndeclared?] at none
    split at none
    · simp at none
    next found =>
      intro entry member supertype isSupertype
      rcases List.mem_cons.1 member with rfl | later
      · simpa using List.find?_eq_none.1 found supertype isSupertype
      · exact ih none entry later supertype isSupertype

/-- The universe of some classes, if every supertype is declared; classes are looked at in the
order of their names. -/
def ofClasses (classes : NameMap ClassDeclaration) : Except UniverseError Universe :=
  match found : firstUndeclared? classes classes.entries with
  | some (name, supertype) => .error (.undeclaredSupertype name supertype)
  | none => .ok ⟨classes, contains_of_firstUndeclared?_eq_none found⟩

/-- The class of a name. -/
def class? (world : Universe) (name : String) : Option ClassDeclaration :=
  world.classes.get? name

/-- The names of all classes. -/
def classNames (world : Universe) : NameSet := world.classes.keys

/-! ## Views -/

/-- The direct supertypes of a class. -/
def supertypes? (world : Universe) (name : String) : Option NameSet :=
  (world.class? name).map fun declaration => .ofList declaration.supertypes

/-- The universe as a type hierarchy. -/
def oracle (world : Universe) : Oracle where
  lookup := world.supertypes?
  finite name := by
    refine ⟨name :: world.classes.values.flatMap ClassDeclaration.supertypes,
      List.mem_cons_self .., ?_⟩
    intro other _ supertypes found supertype member
    obtain ⟨declaration, declared, rfl⟩ := Option.map_eq_some_iff.1 found
    refine List.mem_cons_of_mem _ (List.mem_flatMap.2 ⟨declaration, ?_, by simpa using member⟩)
    exact List.mem_map.2 ⟨_, NameMap.mem_entries_of_get?_eq_some declared, rfl⟩

/-- The field of a class. -/
def field? (world : Universe) (owner member : String) : Option FieldInfo := do
  let field ← (← world.class? owner).fields.get? member
  return ⟨field.type, field.isStatic⟩

/-- The method of a class. -/
def method? (world : Universe) (owner member : String) : Option MethodInfo := do
  let method ← (← world.class? owner).methods.get? member
  return ⟨method.returns, method.isStatic, method.parameters.length⟩

/-- Whether there is a class of the name. -/
def hasClass (world : Universe) (name : String) : Bool := world.classes.contains name

/-- The universe as a class model. -/
def model (world : Universe) : ClassModel Id :=
  ⟨world.hasClass, world.field?, world.method?⟩

/-! ## Adapters -/

/-- The classes marked as adapters, by name. -/
def adapterClasses (world : Universe) : List (String × ClassDeclaration) :=
  world.classes.entries.filter fun (_, declaration) => declaration.isAdapter

/-- File descriptors of the adapters among some classes that can be built from a single object. -/
def collectAdapters {m : Type → Type} [Monad m] (types : Ancestry m) (library : Library) :
    List (String × ClassDeclaration) → m (Except UnknownType Library)
  | [] => return .ok library
  | (name, declaration) :: rest =>
    match declaration.singleParameters with
    | [] => collectAdapters types library rest
    | parameter :: parameters => do
      match ← Descriptor.discover types name (.ofList (parameter :: parameters)) with
      | .error failure => return .error failure
      | .ok adapter => collectAdapters types (library.insert adapter) rest

/-- The library of the adapters that can be built from a single object. -/
def adapterLibrary {m : Type → Type} [Monad m] (world : Universe) (types : Ancestry m) :
    m (Except UnknownType Library) :=
  collectAdapters types .empty world.adapterClasses

/-- The adapters that cannot be built from a single object. -/
def shapelessAdapters (world : Universe) : List String :=
  (world.adapterClasses.filter fun (_, declaration) =>
    declaration.singleParameters.isEmpty).map Prod.fst

/-- What is wrong with the adapters that cannot be built from a single object. -/
def shapeProblems (world : Universe) : List String :=
  world.shapelessAdapters.map fun name =>
    "adapter '" ++ name ++
      "' lacks required constructor shape: no single-argument constructor"

end Universe

end AdapterWiring
