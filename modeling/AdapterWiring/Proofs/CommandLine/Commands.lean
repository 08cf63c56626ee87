import AdapterWiring.CommandLine.Output
import AdapterWiring.Proofs.Check.Findings
import AdapterWiring.Proofs.Check.TypeSafety

/-!
# What the commands answer

Over files that stay as they are while a command runs, a command that can read
its inputs answers with what the checker, the resolver and the cycle search
make of them.

* **Specification.isError_of_mem_load** — what loading reports are errors, so a
  specification without errors has no diagnostics at all.
* **Reads** — a project whose configuration and universe can be read.
* **run_check, run_cycles, run_resolve** — the answers of the commands.
* **hasErrors_report_eq_false_iff, warnings_report** — when the report of a
  command has no error, and what it warns of.
-/

namespace AdapterWiring

/-! ## Loading -/

namespace Specification

theorem isError_of_mem_ofFile {path : String} {outcome : Except ReadError String} :
    ∀ diagnostic ∈ (ofFile path outcome).diagnostics, diagnostic.isError = true := by
  intro diagnostic member
  unfold ofFile at member
  cases outcome with
  | error failure => rw [List.mem_singleton.1 member]; rfl
  | ok text =>
    dsimp only at member
    cases parsed : Declaration.ofText path text with
    | error failure =>
      rw [parsed] at member
      rw [List.mem_singleton.1 member]
      rfl
    | ok declarations =>
      rw [parsed] at member
      cases member

/-- All that is reported of files that are loaded are errors. -/
theorem isError_of_mem_load {read : String → Id (Except ReadError String)} {paths : List String} :
    ∀ diagnostic ∈ (load read paths).run.diagnostics, diagnostic.isError = true := by
  induction paths with
  | nil => exact fun _ member => absurd member List.not_mem_nil
  | cons path rest ih =>
    intro diagnostic member
    rcases List.mem_append.1 member with first | later
    · exact isError_of_mem_ofFile diagnostic first
    · exact ih diagnostic later

theorem diagnostics_load_eq_nil {read : String → Id (Except ReadError String)}
    {paths : List String} (clean : (load read paths).run.hasErrors = false) :
    (load read paths).run.diagnostics = [] :=
  (Checker.any_isError_eq_false_iff isError_of_mem_load).1 clean

end Specification

namespace Universe

/-- A text is read as the universe of the classes that it declares. -/
theorem ofText_ok_iff {world : Universe} {text : String} :
    ofText text = .ok world ↔ (Json.parse? text).bind classesOfJson? = some world.classes := by
  unfold ofText
  cases Json.parse? text with
  | none => simp
  | some value =>
    rw [Option.bind_some]
    show ofJson value = _ ↔ _
    unfold ofJson
    cases classesOfJson? value with
    | none => simp
    | some classes => rw [Option.some.injEq]; exact ofClasses_ok_iff

/-- There are no adapters to complain about exactly if each can be built from a single object. -/
theorem shapelessAdapters_eq_nil_iff {world : Universe} :
    world.shapelessAdapters = [] ↔
      ∀ name declaration, world.class? name = some declaration → declaration.isAdapter = true →
        ∃ parameter, [parameter] ∈ declaration.constructors := by
  simp only [List.eq_nil_iff_forall_not_mem, mem_shapelessAdapters, not_exists, not_and,
    ← ClassDeclaration.singleParameters_ne_nil_iff, ne_eq]

end Universe

namespace Command

variable {files : Files Id} {given : Inputs} {config? : Option String} {path : String}
  {specs : List String} {world : Universe} {library : Library}

/-! ## Inputs -/

/-- A step that succeeds leaves a command to go on with what it gives. -/
theorem run_bind_of_ok {α β : Type} {first : ExceptT Failure Id α} {next : α → ExceptT Failure Id β}
    {value : α} (ok : first.run.run = .ok value) :
    (first >>= next).run.run = (next value).run.run := by
  show Id.run (first.run >>= ExceptT.bindCont next) = _
  rw [Id.run_bind, ok]
  rfl

/-- So does a step that cannot fail. -/
theorem run_bind_lift {m : Type → Type} [Monad m] [LawfulMonad m] {α β : Type} (first : m α)
    (next : α → ExceptT Failure m β) :
    ((liftM first : ExceptT Failure m α) >>= next).run = first >>= fun value => (next value).run :=
  ExceptT.run_bind_lift first next

/-- A project that can be checked: it names a universe, which can be read, and some files. The files
of the specification may be unreadable. -/
structure Reads (files : Files Id) (given : Inputs) (config? : Option String) (path : String)
    (specs : List String) (world : Universe) : Prop where
  inputs : (projectInputs files given config?).run.run = .ok ⟨some path, specs⟩
  nonempty : specs ≠ []
  world : (loadUniverse files path).run.run = .ok world

theorem Reads.requireSpecs (reads : Reads files given config? path specs world) :
    (Command.requireSpecs (m := Id) ⟨path, specs⟩).run.run = .ok specs := by
  unfold Command.requireSpecs
  rw [if_neg (by simpa using reads.nonempty)]
  rfl

/-- A universe can be read where a file has a text that declares its classes. -/
theorem loadUniverse_ok_iff :
    (loadUniverse files path).run.run = .ok world ↔
      ∃ text, (files.read path).run = .ok text ∧
        (Json.parse? text).bind Universe.classesOfJson? = some world.classes := by
  unfold loadUniverse
  rw [run_bind_lift, Id.run_bind]
  cases (files.read path).run with
  | error failure => exact ⟨fun failed => (nomatch failed), by rintro ⟨text, _, _⟩; contradiction⟩
  | ok text =>
    simp only [Except.ok.injEq, exists_eq_left', ← Universe.ofText_ok_iff]
    cases Universe.ofText text with
    | error failure => exact ⟨fun failed => (nomatch failed), fun failed => (nomatch failed)⟩
    | ok found =>
      show Except.ok found = Except.ok world ↔ Except.ok found = Except.ok world
      simp only [Except.ok.injEq]

theorem adapterLibrary_run
    (ok : (world.adapterLibrary world.oracle.ancestry).run = .ok library) :
    (adapterLibrary (m := Id) world).run.run = .ok library := by
  unfold adapterLibrary
  rw [ok]
  rfl

theorem loadSpecification_run {paths : List String}
    (clean : (Specification.load files.read paths).run.hasErrors = false) :
    (loadSpecification files paths).run.run = .ok (Specification.load files.read paths).run := by
  show (if (Specification.load files.read paths).run.hasErrors = true then _ else _) = _
  rw [clean]
  rfl

/-! ## Answers -/

/-- A check that can read its inputs answers with a report. -/
theorem run_check (reads : Reads files given config? path specs world)
    (ok : (world.adapterLibrary world.oracle.ancestry).run = .ok library) :
    ((check given config?).run files).run.run =
      .ok (.report (report world library path (Specification.load files.read specs).run)) := by
  unfold run
  rw [run_bind_of_ok reads.inputs]
  dsimp only
  rw [run_bind_of_ok reads.requireSpecs, run_bind_of_ok reads.world,
    run_bind_of_ok (adapterLibrary_run ok)]
  rfl

/-- The search for cycles, given a universe, looks at the precedence that a check goes by. -/
theorem run_cycles (reads : Reads files given config? path specs world)
    (ok : (world.adapterLibrary world.oracle.ancestry).run = .ok library)
    (clean : (Specification.load files.read specs).run.hasErrors = false) :
    ((cycles given config?).run files).run.run =
      .ok (.cycles (Checker.precedence library
        (Specification.load files.read specs).run.rankings).cycles) := by
  have found : (loadUniverse files path >>= adapterLibrary).run.run = .ok library := by
    rw [run_bind_of_ok reads.world, adapterLibrary_run ok]
  have given : ((some path).mapM fun path => loadUniverse files path >>= adapterLibrary).run.run =
      .ok (some library) := by
    show ((loadUniverse files path >>= adapterLibrary) >>= _).run.run = _
    rw [run_bind_of_ok found]
    rfl
  unfold run
  rw [run_bind_of_ok reads.inputs]
  dsimp only
  rw [run_bind_of_ok reads.requireSpecs, run_bind_of_ok (loadSpecification_run clean),
    run_bind_of_ok given]
  rfl

/-- A resolution goes by all rankings that are declared, adapters or not. -/
theorem run_resolve (readable : (loadUniverse files path).run.run = .ok world)
    (ok : (world.adapterLibrary world.oracle.ancestry).run = .ok library)
    (clean : (Specification.load files.read specs).run.hasErrors = false) (source wanted : String) :
    ((resolve path source wanted specs).run files).run.run =
      ((((library.withPrecedence
        (.ofDeclarations (Specification.load files.read specs).run.declarations)).resolve
          world.oracle.ancestry source wanted).run.map Answer.verdict).mapError
            Failure.hierarchy) := by
  unfold run
  rw [run_bind_of_ok readable, run_bind_of_ok (adapterLibrary_run ok),
    run_bind_of_ok (loadSpecification_run clean)]
  dsimp only
  cases ((library.withPrecedence _).resolve world.oracle.ancestry source wanted).run with
  | error failure => rfl
  | ok verdict => rfl

/-! ## Reports -/

theorem report_diagnostics (specification : Specification) :
    (report world library path specification).diagnostics =
      ((Checker.overOracle world.model world.oracle library .never).check
        specification).run.diagnostics ++
          world.shapeProblems.map (Diagnostic.error path 0) :=
  rfl

/-- What is said of adapters that cannot be built from a single object are errors. -/
theorem isError_of_mem_shapeProblems :
    ∀ diagnostic ∈ world.shapeProblems.map (Diagnostic.error path 0),
      diagnostic.isError = true := by
  intro diagnostic member
  obtain ⟨problem, _, rfl⟩ := List.mem_map.1 member
  rfl

/-- The report of a command has no error exactly if the specification has none in it and every
adapter of the universe can be built from a single object. -/
theorem hasErrors_report_eq_false_iff {specification : Specification} :
    (report world library path specification).hasErrors = false ↔
      (Checker.overOracle world.model world.oracle library .never).Clean specification ∧
        world.shapelessAdapters = [] := by
  rw [← Checker.hasErrors_eq_false_iff]
  unfold Report.hasErrors
  rw [report_diagnostics, List.any_append, Bool.or_eq_false_iff]
  refine and_congr_right fun _ => ?_
  rw [Checker.any_isError_eq_false_iff isError_of_mem_shapeProblems, Universe.shapeProblems,
    List.map_map, List.map_eq_nil_iff]

/-- If its files could be read, it warns of the cycles only. -/
theorem warnings_report {specification : Specification} (read : specification.diagnostics = []) :
    (report world library path specification).warnings =
      (Checker.precedence library specification.rankings).cycles.map
        (Checker.cycleWarning specification.rankings) := by
  have shapes : (world.shapeProblems.map (Diagnostic.error path 0)).filter
      Diagnostic.isWarning = [] :=
    Checker.filter_isWarning_eq_nil isError_of_mem_shapeProblems
  have warned := Checker.warnings_check
    (Checker.overOracle world.model world.oracle library .never) specification
  rw [Report.warnings] at warned ⊢
  rw [report_diagnostics, List.filter_append, warned, shapes, read]
  simp only [List.filter_nil, List.nil_append, List.append_nil]
  rfl

end Command

/-! ## Output -/

namespace Output

theorem run_of_command {files : Files Id} {arguments : List String} {command : Command}
    {presentation : Presentation}
    (parsed : Invocation.parse arguments = .command command presentation) :
    (run files arguments).run =
      match (command.run files).run.run with
      | .ok answer => ofAnswer presentation answer
      | .error failure => ofFailure presentation failure := by
  unfold run
  rw [parsed]
  dsimp only
  rw [Id.run_bind]
  cases (command.run files).run.run with
  | ok answer => rfl
  | error failure => rfl

/-- The exit status tells whether an answer is that all is well. -/
theorem status_ofAnswer_iff {presentation : Presentation} {answer : Answer} :
    (ofAnswer presentation answer).status = 0 ↔ answer.isGood = true := by
  unfold ofAnswer
  cases answer.isGood with
  | true => simp
  | false => simp

end Output

/-! ## A project -/

/-- A part of a shop of the type `A`, and two adapters to it for objects of the type `B`. -/
def shopWorld : Universe where
  classes := .ofList [("A", ⟨[], ∅, ∅, [], false⟩), ("B", ⟨[], ∅, ∅, [], false⟩),
    ("BtoA", ⟨["A"], ∅, ∅, [["B"]], true⟩), ("OtherBtoA", ⟨["A"], ∅, ∅, [["B"]], true⟩),
    ("Shop", ⟨[], .ofList [("part", ⟨"A", false⟩)], ∅, [], false⟩)]
  closed := by decide +kernel

/-- The library of the two adapters. -/
def shopLibrary : Library :=
  .ofList [⟨"BtoA", .singleton "B", [.singleton "A"]⟩,
    ⟨"OtherBtoA", .singleton "B", [.singleton "A"]⟩]

/-- The part of the shop is a new `B`, and one of the adapters is preferred to the other. -/
def shopSpecification : Specification where
  declarations := [
    .association ⟨.field ⟨"Shop", "part", 1⟩, .fresh ⟨"B", 1⟩, none, ⟨"main.txt", 1⟩⟩,
    .ranking ⟨⟨"OtherBtoA", 2⟩, ⟨"BtoA", 2⟩, ⟨"main.txt", 2⟩⟩]
  diagnostics := []

/-- The document of the universe. -/
def shopDocument : String :=
  "\x7b\"classes\":\x7b\"A\":\x7b\x7d,\"B\":\x7b\x7d," ++
    "\"Shop\":\x7b\"fields\":\x7b\"part\":\x7b\"type\":\"A\"\x7d\x7d\x7d," ++
    "\"BtoA\":\x7b\"supertypes\":[\"A\"],\"constructors\":[[\"B\"]],\"adapter\":true\x7d," ++
    "\"OtherBtoA\":\x7b\"supertypes\":[\"A\"],\"constructors\":[[\"B\"]]," ++
    "\"adapter\":true\x7d\x7d\x7d"

/-- The text of the specification. -/
def shopText : String :=
  "associate field Shop.part with new B\ndeclare precedence OtherBtoA over BtoA"

/-- The files of the project, which has no configuration. -/
def shopFiles : Files Id where
  read := (Store.ofList [("shop.json", shopDocument), ("main.txt", shopText)]).read
  isFile _ := false

theorem reads_shop :
    Command.Reads shopFiles ⟨some "shop.json", ["main.txt"]⟩ none "shop.json" ["main.txt"]
      shopWorld where
  inputs := rfl
  nonempty := List.cons_ne_nil _ _
  world := Command.loadUniverse_ok_iff.2 ⟨shopDocument, by cbv, by decide +kernel⟩

theorem load_shop : (Specification.load shopFiles.read ["main.txt"]).run = shopSpecification := by
  decide +kernel

theorem adapterLibrary_shop :
    (shopWorld.adapterLibrary shopWorld.oracle.ancestry).run = .ok shopLibrary := by
  cbv

end AdapterWiring
