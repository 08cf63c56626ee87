import AdapterWiring.Text.Pieces

/-!
# Paths

Paths are lists of components between slashes.

* **components** — repeated and trailing slashes vanish, and so does `.`
  except at the start of a relative path.
* **normalize** — without `.`; `..` takes away the component before it, the
  root included, and vanishes where there is none.
* **join, parent** — a path below another, and the directory of a path.
-/

namespace AdapterWiring.Path

open Text

/-! ## Components -/

/-- A component of a path. -/
inductive Component where
  /-- The root directory. -/
  | root
  /-- The directory itself, `.`. -/
  | current
  /-- The directory above, `..`. -/
  | above
  /-- A name. -/
  | name (text : String)
deriving DecidableEq, Inhabited

/-- The component that a part between slashes is, if it counts. -/
def componentOfPart? : List Char → Option Component
  | [] => none
  | ['.'] => none
  | ['.', '.'] => some .above
  | part => some (.name (String.ofList part))

/-- The components of a path. -/
def components (path : String) : List Component :=
  let parts := pieces (· == '/') path.toList
  let leading : List Component :=
    match path.toList, parts with
    | '/' :: _, _ => [.root]
    | _, ['.'] :: _ => [.current]
    | _, _ => []
  leading ++ parts.filterMap componentOfPart?

/-! ## Normal form -/

/-- The normal form of components, after those in `kept`, the last of which comes first. -/
def normalizeFrom (kept : List Component) : List Component → List Component
  | [] => kept.reverse
  | .current :: rest => normalizeFrom kept rest
  | .above :: rest => normalizeFrom kept.tail rest
  | component :: rest => normalizeFrom (component :: kept) rest

/-- The components of a path in normal form. -/
def normalize (path : String) : List Component := normalizeFrom [] (components path)

/-- The text of a component below others. -/
def Component.render : Component → String
  | .root => "/"
  | .current => "."
  | .above => ".."
  | .name text => text

/-- The text of components. -/
def render : List Component → String
  | .root :: rest => "/" ++ "/".intercalate (rest.map Component.render)
  | rest => "/".intercalate (rest.map Component.render)

/-! ## Directories -/

/-- Whether a path starts at the root. -/
def isAbsolute (path : String) : Bool := path.toList.head? == some '/'

/-- A path below a directory; an absolute path stays itself, and so does one below no directory. -/
def join (directory path : String) : String :=
  if isAbsolute path || directory.isEmpty then path
  else if directory.toList.getLast? == some '/' then directory ++ path
  else directory ++ "/" ++ path

/-- Text in reverse without the slashes and `.` components that it starts with; something is kept
of a text that holds nothing else. -/
def trimmed : List Char → List Char
  | '/' :: c :: rest => trimmed (c :: rest)
  | '.' :: '/' :: rest => trimmed ('/' :: rest)
  | other => other

/-- The directory of a path whose last component is a name: what stands before that name. -/
def parent (path : String) : String :=
  String.ofList (trimmed ((trimmed path.toList.reverse).dropWhile (· ≠ '/'))).reverse

end AdapterWiring.Path
