import AdapterWiring.Files.Store
import AdapterWiring.Toml.Reader

/-!
# Project configuration

A project may say in a TOML file which universe and which specifications it
consists of:

    [project]
    universe = "universe.json"
    specs = ["wiring/main.txt", "wiring/precedence.txt"]

Relative paths start at the directory of the file.

* **Inputs** — a universe and specifications.
* **find** — the inputs that the configuration gives.
* **merge** — what is given otherwise goes first.
-/

namespace AdapterWiring

/-- A universe and the files of a specification. -/
structure Inputs where
  /-- The path of the universe. -/
  universe? : Option String
  /-- The paths of the files. -/
  specs : List String
deriving DecidableEq, Inhabited

/-- Why a configuration cannot be used. -/
inductive ConfigError where
  /-- The file cannot be read. -/
  | unreadable (path : String) (failure : ReadError)
  /-- The file is no configuration. -/
  | invalid (path : String)
deriving DecidableEq, Inhabited

/-- The wording of an error. -/
def ConfigError.message : ConfigError → String
  | unreadable path failure => "cannot read config '" ++ path ++ "': " ++ failure.message
  | invalid path => "invalid config '" ++ path ++ "': not a table with a project"

/-- The name of the program. -/
def programName : String := "gluer"

namespace Config

/-- The configuration looked for where none is named. -/
def defaultPath : String := programName ++ ".toml"

/-- The text of a TOML string. -/
def text? : Toml → Option String
  | .string text => some text
  | _ => none

/-- The texts of a TOML array of strings. -/
def texts? : Toml → Option (List String)
  | .array items => items.mapM text?
  | _ => none

/-- The inputs of a project: a table, or an array that starts with its values in order. A date or
time stands for a table without these keys. -/
def projectOfToml? : Toml → Option Inputs
  | .table entries => do
    let universe? ← match entries.lookup "universe" with
      | none => some none
      | some value => (text? value).map some
    let specs ← match entries.lookup "specs" with
      | none => some []
      | some value => texts? value
    return ⟨universe?, specs⟩
  | .array [path] => do return ⟨← text? path, []⟩
  | .array (path :: specs :: _) => do return ⟨← text? path, ← texts? specs⟩
  | .dateTime _ => some ⟨none, []⟩
  | _ => none

/-- The inputs of a document; a document without a project gives none. -/
def ofToml? : Toml → Option Inputs
  | .table entries =>
    match entries.lookup "project" with
    | none => some ⟨none, []⟩
    | some project => projectOfToml? project
  | _ => none

/-- The inputs with their paths below a directory. -/
def below (directory : String) (inputs : Inputs) : Inputs :=
  ⟨inputs.universe?.map (Path.join directory), inputs.specs.map (Path.join directory)⟩

/-- The inputs of the text of a configuration. -/
def ofText (path text : String) : Except ConfigError Inputs :=
  match (Toml.parse? text).bind ofToml? with
  | some inputs => .ok (below (Path.parent path) inputs)
  | none => .error (.invalid path)

variable {m : Type → Type} [Monad m]

/-- Read a configuration. -/
def read (files : Files m) (path : String) : m (Except ConfigError Inputs) := do
  match ← files.read path with
  | .error failure => return .error (.unreadable path failure)
  | .ok text => return ofText path text

/-- Read the configuration named, or else the default one if there is such a file. -/
def find (files : Files m) (named? : Option String) : m (Except ConfigError Inputs) := do
  match named? with
  | some path => read files path
  | none =>
    if ← files.isFile defaultPath then read files defaultPath
    else return .ok ⟨none, []⟩

/-- The inputs given otherwise, and those of the configuration where none are. -/
def merge (given config : Inputs) : Inputs :=
  ⟨given.universe?.or config.universe?, if given.specs.isEmpty then config.specs else given.specs⟩

end Config

end AdapterWiring
