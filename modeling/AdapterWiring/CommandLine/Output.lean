import AdapterWiring.Adapter.JsonForm
import AdapterWiring.Check.JsonForm
import AdapterWiring.CommandLine.Command
import AdapterWiring.Json.Printer

/-!
# Output

How answers and failures are shown, as text or as JSON, in full or quietly.

* **Output** — an exit status and what is written.
* **ofAnswer, ofFailure** — how a result is shown.
* **run** — carry out arguments.
-/

namespace AdapterWiring

/-- What a run of the program comes to. -/
structure Output where
  /-- The exit status. -/
  status : Nat
  /-- What is written to standard output. -/
  stdout : String
  /-- What is written to standard error. -/
  stderr : String
deriving DecidableEq, Inhabited

/-! ## Answers -/

/-- How an association is wired, in words. -/
def Wiring.describe : Wiring → String
  | direct => "direct"
  | explicit adapter => "using " ++ adapter
  | resolved adapter => "adapter " ++ adapter

/-- The line of a wired association. -/
def WiredAssociation.render (wired : WiredAssociation) : String :=
  wired.association.origin.file ++ ":" ++ toString wired.association.origin.line.toNat ++ " " ++
    wired.association.target.render ++ ": " ++ wired.wiring.describe

/-- The lines of a report. -/
def Report.lines (report : Report) (quiet : Bool) : List String :=
  let wired := report.associations.map WiredAssociation.render
  let problems := report.diagnostics.map fun found => found.severity.name ++ ": " ++ found.render
  let summary :=
    toString report.associations.length ++ " association(s) wired, " ++
      toString report.errors.length ++ " error(s), " ++
      toString report.warnings.length ++ " warning(s)"
  if quiet then problems else wired ++ problems ++ [summary]

namespace Answer

/-- The lines of an answer. -/
def lines (quiet : Bool) : Answer → List String
  | report found => found.lines quiet
  | verdict found =>
    match found.adapter? with
    | some adapter => [adapter]
    | none => if quiet then [] else [found.message]
  | declarations found => found.map fun declared =>
      declared.origin.file ++ ":" ++ toString declared.origin.line.toNat ++ " " ++ declared.render
  | cycles found =>
    let warnings := found.map fun cycle => "warning: cyclic precedence: " ++ cycle.render
    if found.isEmpty && !quiet then ["no precedence cycles"] else warnings

/-- The JSON form of an answer. -/
def toJson : Answer → Json
  | report found => found.toJson
  | verdict found => found.toJson
  | declarations found => .ofList Declaration.toJson found
  | cycles found => .record [("cycles", .ofList Cycle.toJson found)]

end Answer

/-! ## Failures -/

/-- The wording of a failure that is not told by diagnostics. -/
def Failure.message : Failure → String
  | config failure => failure.message
  | noUniverse =>
    "no type universe given (use --universe or set project.universe in " ++
      Config.defaultPath ++ ")"
  | noSpecs =>
    "no specification files given (pass them as arguments or set project.specs in " ++
      Config.defaultPath ++ ")"
  | unreadableUniverse path failure => "cannot read universe '" ++ path ++ "': " ++ failure.message
  | unusableUniverse failure => failure.message
  | hierarchy failure => failure.message
  | specification _ => "specifications cannot be read"

namespace Output

/-- Lines of text, each with its end. -/
def joinLines (lines : List String) : String := String.join (lines.map (· ++ "\n"))

/-- How an answer is shown. -/
def ofAnswer (presentation : Presentation) (answer : Answer) : Output where
  status := if answer.isGood then 0 else 1
  stdout :=
    match presentation.format with
    | .json => joinLines [answer.toJson.pretty]
    | .text => joinLines (answer.lines presentation.quiet)
  stderr := ""

/-- How a failure is shown. The diagnostics of specifications are a result where JSON is asked for;
all else goes to standard error, unless it is to be quiet. -/
def ofFailure (presentation : Presentation) (failure : Failure) : Output :=
  match presentation.format, failure with
  | .json, .specification diagnostics =>
    ⟨1, joinLines [(Json.record
      [("diagnostics", .ofList Diagnostic.toSortedJson diagnostics)]).pretty], ""⟩
  | .text, .specification diagnostics =>
    ⟨1, "", if presentation.quiet then "" else joinLines (diagnostics.map Diagnostic.render)⟩
  | .json, other =>
    ⟨1, "", if presentation.quiet then ""
      else joinLines [(Json.record [("error", .text other.message)]).compact]⟩
  | .text, other =>
    ⟨1, "", if presentation.quiet then "" else joinLines ["error: " ++ other.message]⟩

/-- The name and version of the program. -/
def versionText : String := programName ++ " 0.1.0"

/-- How to use the program. -/
def helpText : String :=
  "Usage: " ++ programName ++
    " [--output text|json] [--quiet] [--verbose] <check|resolve|parse|cycles> ..."

/-- Carry out arguments. -/
def run {m : Type → Type} [Monad m] (files : Files m) (arguments : List String) : m Output := do
  match Invocation.parse arguments with
  | .usageError => return ⟨2, "", joinLines [helpText]⟩
  | .version => return ⟨0, joinLines [versionText], ""⟩
  | .help => return ⟨0, joinLines [helpText], ""⟩
  | .command command presentation =>
    match ← (command.run files).run with
    | .ok answer => return ofAnswer presentation answer
    | .error failure => return ofFailure presentation failure

end Output

end AdapterWiring
