import AdapterWiring.Grammar.SyntaxError
import AdapterWiring.Json.Form

/-!
# Diagnostics

* **Diagnostic** — a problem of a file, at a line.
* **syntaxProblem** — the diagnostic of a syntax error; one at the end of the
  text is anchored at line zero.
* **render** — its text, `file:line message`.
* **toJson, toSortedJson** — its JSON form, the severity first or the members
  in the order of their names.
-/

namespace AdapterWiring

/-- How grave a problem is; errors come before warnings. -/
inductive Severity where
  /-- The specification cannot be used. -/
  | error
  /-- The specification can be used. -/
  | warning
deriving DecidableEq, Inhabited, Ord

namespace Severity

/-- The name of a severity. -/
def name : Severity → String
  | error => "error"
  | warning => "warning"

/-- Read a severity: its name, or an object with the name as its one member, which is null. -/
def ofJson? : Json → Option Severity
  | .string (.text "error") => some error
  | .string (.text "warning") => some warning
  | .object [(.text "error", .null)] => some error
  | .object [(.text "warning", .null)] => some warning
  | _ => none

end Severity

/-- A problem of a file. -/
structure Diagnostic where
  /-- How grave it is. -/
  severity : Severity
  /-- The file, as its path was given. -/
  file : String
  /-- The line, or zero where none can be told. -/
  line : UInt32
  /-- The wording. -/
  message : String
deriving DecidableEq, Inhabited

namespace Diagnostic

/-- An error. -/
def error (file : String) (line : UInt32) (message : String) : Diagnostic :=
  ⟨.error, file, line, message⟩

/-- A warning. -/
def warning (file : String) (line : UInt32) (message : String) : Diagnostic :=
  ⟨.warning, file, line, message⟩

/-- A syntax problem, at line zero if it has no line. -/
def syntaxProblem (file : String) (line? : Option UInt32) (message : String) : Diagnostic :=
  error file (line?.getD 0) message

/-- The diagnostic of a syntax error. -/
def ofSyntaxError (file : String) (failure : SyntaxError) : Diagnostic :=
  syntaxProblem file failure.line? failure.message

/-- Whether a diagnostic is an error. -/
def isError (diagnostic : Diagnostic) : Bool := diagnostic.severity == .error

/-- Whether a diagnostic is a warning. -/
def isWarning (diagnostic : Diagnostic) : Bool := diagnostic.severity == .warning

/-- The text of a diagnostic. -/
def render (diagnostic : Diagnostic) : String :=
  diagnostic.file ++ ":" ++ toString diagnostic.line.toNat ++ " " ++ diagnostic.message

/-- The JSON form. -/
def toJson (diagnostic : Diagnostic) : Json :=
  .record [("severity", .text diagnostic.severity.name), ("file", .text diagnostic.file),
    ("line", .ofLine diagnostic.line), ("message", .text diagnostic.message)]

/-- The JSON form with its members in the order of their names. -/
def toSortedJson (diagnostic : Diagnostic) : Json :=
  .record [("file", .text diagnostic.file), ("line", .ofLine diagnostic.line),
    ("message", .text diagnostic.message), ("severity", .text diagnostic.severity.name)]

/-- Read the JSON form. -/
def ofJson? (value : Json) : Option Diagnostic := do
  let record ← value.record? ["severity", "file", "line", "message"]
  return ⟨← record.required "severity" Severity.ofJson?, ← record.required "file" Json.text?,
    ← record.required "line" Json.line?, ← record.required "message" Json.text?⟩

end Diagnostic

end AdapterWiring
