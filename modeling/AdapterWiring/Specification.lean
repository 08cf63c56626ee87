import AdapterWiring.Declaration.Reader
import AdapterWiring.Diagnostic
import AdapterWiring.Files.Store

/-!
# Specifications

A specification is a list of files. Each contributes all its declarations or,
where it cannot be read or parsed, one error.

* **Specification** — declarations and errors of several files.
* **readFile** — one file.
* **load** — several files in order.
-/

namespace AdapterWiring

/-- What several files contribute. -/
structure Specification where
  /-- The declarations of the files that could be read. -/
  declarations : List Declaration
  /-- The problems of the others. -/
  diagnostics : List Diagnostic
deriving DecidableEq, Inhabited

namespace Specification

/-- The contribution of no file. -/
def empty : Specification := ⟨[], []⟩

/-- The contributions of some files and then of others. -/
def append (first second : Specification) : Specification :=
  ⟨first.declarations ++ second.declarations, first.diagnostics ++ second.diagnostics⟩

/-- Whether a file could not be read or parsed. -/
def hasErrors (specification : Specification) : Bool :=
  specification.diagnostics.any Diagnostic.isError

/-- The associations, in order. -/
def associations (specification : Specification) : List Association :=
  specification.declarations.filterMap Declaration.association?

/-- The rankings, in order. -/
def rankings (specification : Specification) : List Ranking :=
  specification.declarations.filterMap Declaration.ranking?

/-- The contribution of a file with the given outcome of reading it. -/
def ofFile (path : String) : Except ReadError String → Specification
  | .error failure =>
    ⟨[], [.error path 0 ("cannot read file '" ++ path ++ "': " ++ failure.message)]⟩
  | .ok text =>
    match Declaration.ofText path text with
    | .error failure => ⟨[], [.ofSyntaxError path failure]⟩
    | .ok declarations => ⟨declarations, []⟩

/-- The contributions of several files in order. -/
def load {m : Type → Type} [Monad m] (read : String → m (Except ReadError String)) :
    List String → m Specification
  | [] => return empty
  | path :: rest => do
    let first := ofFile path (← read path)
    return first.append (← load read rest)

end Specification

end AdapterWiring
