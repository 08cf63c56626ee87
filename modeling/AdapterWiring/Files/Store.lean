import AdapterWiring.Files.Path

/-!
# Reading texts

* **ReadError** — why a text cannot be read.
* **Files** — a way to read texts by path.
* **Store** — texts held in memory, by the normal form of their paths.
-/

namespace AdapterWiring

/-- Why a text cannot be read. -/
inductive ReadError where
  /-- The store holds no text under the path, given in normal form. -/
  | notStored (path : List Path.Component)
  /-- There is no such file. -/
  | notFound
  /-- The path names a directory. -/
  | isDirectory
  /-- The path goes on after a file. -/
  | notDirectory
  /-- The path, or one of the names in it, is longer than the file system allows. -/
  | nameTooLong
  /-- The bytes of the file are no UTF-8. -/
  | notText
  /-- Some other cause, in the words of the file system. -/
  | other (message : String)
deriving DecidableEq, Inhabited

/-- The wording of an error. -/
def ReadError.message : ReadError → String
  | notStored path => "file not found in memory: " ++ Path.render path
  | notFound => "No such file or directory (os error 2)"
  | isDirectory => "Is a directory (os error 21)"
  | notDirectory => "Not a directory (os error 20)"
  | nameTooLong => "File name too long (os error 36)"
  | notText => "stream did not contain valid UTF-8"
  | other message => message

/-- A way to read texts, with effects in `m`. -/
structure Files (m : Type → Type) where
  /-- The text of the file at a path. -/
  read : String → m (Except ReadError String)
  /-- Whether there is a regular file at a path. -/
  isFile : String → m Bool

/-! ## Texts in memory -/

/-- Texts by the normal form of their paths. -/
structure Store where
  /-- The texts, a later one before an earlier one. -/
  entries : List (List Path.Component × String)
deriving Inhabited

namespace Store

/-- A store without texts. -/
def empty : Store := ⟨[]⟩

/-- The store with a text under a path, in place of what was there. -/
def insert (store : Store) (path text : String) : Store :=
  ⟨(Path.normalize path, text) :: store.entries⟩

/-- The store of a list of texts, the last one under a path winning. -/
def ofList (texts : List (String × String)) : Store :=
  texts.foldl (fun store (path, text) => store.insert path text) empty

/-- The store of the entries of a map from paths to texts, in the order in which the map yields
them; of paths with one normal form the last one wins. -/
def ofMap (entries : List (String × String)) : Store :=
  ⟨(entries.map fun (path, text) => (Path.normalize path, text)).reverse⟩

/-- The text under a path. -/
def read (store : Store) (path : String) : Except ReadError String :=
  match store.entries.lookup (Path.normalize path) with
  | some text => .ok text
  | none => .error (.notStored (Path.normalize path))

/-- A text is found under every path with the normal form of the path it was put under. -/
theorem read_insert (store : Store) (path text other : String) :
    (store.insert path text).read other =
      if Path.normalize other = Path.normalize path then .ok text else store.read other := by
  unfold read insert
  rw [List.lookup_cons]
  by_cases same : Path.normalize other = Path.normalize path
  · simp [same]
  · simp [same, beq_eq_false_iff_ne.2 same]

end Store

end AdapterWiring
