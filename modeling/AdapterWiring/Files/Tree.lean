import AdapterWiring.Files.Store

/-!
# Trees of files

A tree of files with their bytes, seen from a working directory. Paths are
followed part by part, as a file system does: each part but the last must be a
directory, and so must what a slash follows. A path has fewer than 4096 bytes,
and a name in it has no more than 255.

* **Tree** — the files and the working directory.
* **find** — what a path leads to.
* **files** — the tree as a way to read texts.
-/

namespace AdapterWiring

/-- Files with their bytes, seen from a working directory. -/
structure Tree where
  /-- The files, each by the names on the way to it from the top. -/
  contents : List (List String × ByteArray)
  /-- The names on the way to the working directory. -/
  workingDirectory : List String

namespace Tree

/-- What a path leads to. -/
inductive Place where
  /-- A directory of the tree, by the names on the way to it. -/
  | directory (names : List String)
  /-- A directory outside the tree, by the names on the way to it from the root if they are known.
  -/
  | outside (names : Option (List String))
  /-- A file. -/
  | file (bytes : ByteArray)

/-- The names on the way that a path describes: empty parts and `.` vanish, and `..` takes away
the name before it. -/
def namesOf (path : String) : List String :=
  (((Text.nonemptyPieces (· == '/') path.toList).map String.ofList).foldl (fun names part =>
    if part = "." then names else if part = ".." then names.tail else part :: names) []).reverse

/-- The most bytes of a name. -/
def nameLimit : Nat := 255

/-- The most bytes of a path. -/
def pathLimit : Nat := 4095

/-- The tree of files given by their paths; a later file replaces an earlier one. -/
def ofFiles (files : List (String × ByteArray)) (workingDirectory : String) : Tree :=
  ⟨(files.map fun (path, bytes) => (namesOf path, bytes)).reverse, namesOf workingDirectory⟩

/-- The entry of a directory. -/
def entry (tree : Tree) (names : List String) (name : String) : Except ReadError Place :=
  let target := names ++ [name]
  match tree.contents.lookup target with
  | some bytes => .ok (.file bytes)
  | none =>
    if tree.contents.any (fun (path, _) => target.isPrefixOf path) ||
        target.isPrefixOf tree.workingDirectory then
      .ok (.directory target)
    else .error .notFound

/-- The directories that stand at the root of every system. -/
def systemDirectories : List String :=
  ["bin", "boot", "dev", "etc", "home", "lib", "media", "mnt", "opt", "proc", "root", "run", "sbin",
    "srv", "sys", "tmp", "usr", "var"]

/-- The entry of a directory outside the tree. Only the directories at the root are known, and the
device whose text is empty. -/
def systemEntry (names : Option (List String)) (name : String) : Except ReadError Place :=
  match names with
  | some [] =>
    if systemDirectories.contains name then .ok (.outside (some [name])) else .error .notFound
  | some ["dev"] => if name = "null" then .ok (.file .empty) else .error .notFound
  | _ => .error .notFound

/-- Follow one part of a path. -/
def follow (tree : Tree) (place : Place) (part : String) : Except ReadError Place :=
  match place with
  | .file _ => .error .notDirectory
  | .outside names =>
    if part = "" ∨ part = "." then .ok place
    else if part = ".." then .ok (.outside (names.map List.dropLast))
    else if nameLimit < part.utf8ByteSize then .error .nameTooLong
    else systemEntry names part
  | .directory names =>
    if part = "" ∨ part = "." then .ok place
    else if part = ".." then
      .ok (if names.isEmpty then .outside none else .directory names.dropLast)
    else if nameLimit < part.utf8ByteSize then .error .nameTooLong
    else tree.entry names part

/-- What a path leads to. -/
def find (tree : Tree) (path : String) : Except ReadError Place :=
  if path.isEmpty then .error .notFound
  else if path.toList.contains '\x00' then
    .error (.other "file name contained an unexpected NUL byte")
  else if pathLimit < path.utf8ByteSize then .error .nameTooLong
  else
    let start : Place :=
      if Path.isAbsolute path then .outside (some []) else .directory tree.workingDirectory
    ((Text.pieces (· == '/') path.toList).map String.ofList).foldlM tree.follow start

/-- The text at a path. -/
def read (tree : Tree) (path : String) : Except ReadError String :=
  match tree.find path with
  | .error failure => .error failure
  | .ok (.file bytes) =>
    match String.fromUTF8? bytes with
    | some text => .ok text
    | none => .error .notText
  | .ok _ => .error .isDirectory

/-- Whether a path leads to a file. -/
def isFile (tree : Tree) (path : String) : Bool :=
  match tree.find path with
  | .ok (.file _) => true
  | _ => false

/-- The tree as a way to read texts. -/
def files (tree : Tree) : Files Id := ⟨tree.read, tree.isFile⟩

end Tree

end AdapterWiring
