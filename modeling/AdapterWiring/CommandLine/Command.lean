import AdapterWiring.Check.Checker
import AdapterWiring.CommandLine.Arguments
import AdapterWiring.Universe.JsonForm

/-!
# Commands

What each command answers. How the answer is shown does not matter here, so
neither does it change the answer.

* **Answer** — what a command has to show.
* **Failure** — why a command has nothing to show.
* **Command.run** — carry out a command.
-/

namespace AdapterWiring

/-- What a command has to show. -/
inductive Answer where
  /-- The report of a check. -/
  | report (report : Report)
  /-- The verdict on two types. -/
  | verdict (verdict : Verdict)
  /-- The declarations of a file. -/
  | declarations (declarations : List Declaration)
  /-- The cycles of precedence. -/
  | cycles (cycles : List Cycle)
deriving DecidableEq, Inhabited

/-- Whether an answer is that all is well. -/
def Answer.isGood : Answer → Bool
  | report found => !found.hasErrors
  | verdict found => found.adapter?.isSome
  | declarations _ => true
  | cycles _ => true

/-- Why a command has nothing to show. -/
inductive Failure where
  /-- The configuration cannot be used. -/
  | config (failure : ConfigError)
  /-- No universe is given. -/
  | noUniverse
  /-- No specification is given. -/
  | noSpecs
  /-- The universe cannot be read. -/
  | unreadableUniverse (path : String) (failure : ReadError)
  /-- The document describes no universe. -/
  | unusableUniverse (failure : UniverseError)
  /-- A type is not known. -/
  | hierarchy (failure : UnknownType)
  /-- Specifications cannot be read. -/
  | specification (diagnostics : List Diagnostic)
deriving DecidableEq, Inhabited

namespace Command

variable {m : Type → Type} [Monad m]

/-! ## Inputs -/

/-- The inputs of a project, those given first. -/
def projectInputs (files : Files m) (given : Inputs) (config? : Option String) :
    ExceptT Failure m Inputs := do
  match ← ExceptT.lift (Config.find files config?) with
  | .error failure => throw (.config failure)
  | .ok config => return Config.merge given config

/-- The files of a specification, of which there must be some. -/
def requireSpecs (inputs : Inputs) : ExceptT Failure m (List String) :=
  if inputs.specs.isEmpty then throw .noSpecs else return inputs.specs

/-- The universe at a path. -/
def loadUniverse (files : Files m) (path : String) : ExceptT Failure m Universe := do
  match ← files.read path with
  | .error failure => throw (.unreadableUniverse path failure)
  | .ok text =>
    match Universe.ofText text with
    | .error failure => throw (.unusableUniverse failure)
    | .ok world => return world

/-- The adapters of a universe. -/
def adapterLibrary (world : Universe) : ExceptT Failure m Library :=
  match Id.run (world.adapterLibrary world.oracle.ancestry) with
  | .error failure => throw (.hierarchy failure)
  | .ok library => return library

/-- The specification in some files, which must all be readable. -/
def loadSpecification (files : Files m) (paths : List String) :
    ExceptT Failure m Specification := do
  let specification ← ExceptT.lift (Specification.load files.read paths)
  if specification.hasErrors then throw (.specification specification.diagnostics)
  return specification

/-! ## Answers -/

/-- The report of a check, with the problems of adapter classes at the end. -/
def report (world : Universe) (library : Library) (worldPath : String)
    (specification : Specification) : Report :=
  let checker : Checker Id :=
    { model := world.model, types := world.oracle.ancestry, library, overlap := .never }
  let report := Id.run (checker.check specification)
  { report with diagnostics := report.diagnostics ++
      world.shapeProblems.map (Diagnostic.error worldPath 0) }

/-- The precedence of rankings; given a library, of those that name two of its adapters. -/
def precedence (library? : Option Library) (rankings : List Ranking) : Precedence :=
  match library? with
  | none => .ofRankings rankings
  | some library => Checker.precedence library rankings

/-- Carry out a command. -/
def run (files : Files m) : Command → ExceptT Failure m Answer
  | check given config? => do
    let inputs ← projectInputs files given config?
    match inputs.universe? with
    | none => throw .noUniverse
    | some path =>
      let specs ← requireSpecs inputs
      let world ← loadUniverse files path
      let library ← adapterLibrary world
      let specification ← ExceptT.lift (Specification.load files.read specs)
      return .report (report world library path specification)
  | resolve path source wanted specs => do
    let world ← loadUniverse files path
    let library ← adapterLibrary world
    let specification ← loadSpecification files specs
    let library := library.withPrecedence (.ofDeclarations specification.declarations)
    match Id.run (library.resolve world.oracle.ancestry source wanted) with
    | .error failure => throw (.hierarchy failure)
    | .ok verdict => return .verdict verdict
  | parse file => do
    let specification ← loadSpecification files [file]
    return .declarations specification.declarations
  | cycles given config? => do
    let inputs ← projectInputs files given config?
    let specification ← loadSpecification files (← requireSpecs inputs)
    let library? ← inputs.universe?.mapM fun path => do
      adapterLibrary (← loadUniverse files path)
    return .cycles (precedence library? specification.rankings).cycles

end Command

end AdapterWiring
