import AdapterWiring.Toml.Scalar

/-!
# Reading TOML

A document is a list of lines: headers, keys with values, comments. Values may
nest to a fixed depth.

* **key?** — a dotted key.
* **value?** — a value.
* **parse?** — the value of a whole document.
-/

namespace AdapterWiring.Toml

/-! ## Blanks and keys -/

/-- The text without the blanks at its start. -/
def skipBlanks (text : List Char) : List Char := text.dropWhile isInlineBlank

/-- What follows a comment, if one starts here; a comment runs to the end of its line. -/
def skipComment : List Char → List Char
  | '#' :: rest => rest.dropWhile isTextChar
  | text => text

/-- What follows the end of a line. -/
def lineEnd? : List Char → Option (List Char)
  | '\n' :: rest => some rest
  | '\r' :: '\n' :: rest => some rest
  | _ => none

/-- What follows the rest of a line that holds blanks and a comment only; the last line needs no
end. -/
def endLine? (text : List Char) : Option (List Char) :=
  match skipComment (skipBlanks text) with
  | [] => some []
  | rest => lineEnd? rest

/-- The text without the blanks, comments and line ends at its start. -/
def skipLines (fuel : Nat) (text : List Char) : List Char :=
  match fuel with
  | 0 => text
  | fuel + 1 =>
    let rest := skipComment (skipBlanks text)
    match lineEnd? rest with
    | some next => skipLines fuel next
    | none => rest

/-- Whether a character can stand in a key without quotes. -/
def isBareChar (c : Char) : Bool := c.isAlphanum || c = '_' || c = '-'

/-- One part of a key. -/
def simpleKey? (text : List Char) : Option (String × List Char) :=
  match text with
  | '"' :: rest => (basicBody 0 rest).map fun (key, after) => (String.ofList key, after)
  | '\'' :: rest => (literalBody rest).map fun (key, after) => (String.ofList key, after)
  | _ =>
    match text.takeWhile isBareChar with
    | [] => none
    | bare => some (String.ofList bare, text.drop bare.length)

/-- A dotted key of at most `most` parts: the parts before the last, the last, and what follows
with its blanks gone. -/
def dottedKey? : Nat → List Char → Option ((List String × String) × List Char)
  | 0, _ => none
  | most + 1, text => do
    let (part, after) ← simpleKey? (skipBlanks text)
    match skipBlanks after with
    | '.' :: rest =>
      let ((path, last), after) ← dottedKey? most rest
      return ((part :: path, last), after)
    | rest => return (([], part), rest)

/-- How deep containers nest in each other, and how many parts a key has at most. -/
def depthLimit : Nat := 79

/-- A key with its parts, and what follows with its blanks gone. -/
def key? (text : List Char) : Option ((List String × String) × List Char) :=
  dottedKey? depthLimit text

/-! ## Values -/

/-- The items of an array after its bracket or a comma. -/
def arrayItems? (value? : List Char → Option (Toml × List Char)) :
    Nat → List Char → Option (List Toml × List Char)
  | 0, _ => none
  | fuel + 1, text =>
    match skipLines fuel text with
    | ']' :: rest => some ([], rest)
    | start => do
      let (item, after) ← value? start
      match skipLines fuel after with
      | ',' :: rest =>
        let (items, last) ← arrayItems? value? fuel rest
        return (item :: items, last)
      | ']' :: rest => return ([item], rest)
      | _ => none

/-- The entries of an inline table after its brace or a comma. -/
def inlineEntries? (value? : List Char → Option (Toml × List Char)) :
    Nat → Table → List Char → Option (Table × List Char)
  | 0, _, _ => none
  | fuel + 1, entries, text => do
    let ((path, key), after) ← key? text
    let (value, after) ← value? (skipBlanks (← after? '=' after))
    let entries ← entries.define path key value
    match skipBlanks after with
    | ',' :: rest => inlineEntries? value? fuel entries rest
    | '}' :: rest => return (entries, rest)
    | _ => none

/-- A value that is no container, and what follows it. -/
def scalar? (text : List Char) : Option (Toml × List Char) :=
  match text with
  | '"' :: _ => (string? text).map fun (content, after) => (.string content, after)
  | '\'' :: _ => (string? text).map fun (content, after) => (.string content, after)
  | _ => plainScalar? text

/-- A value whose containers nest at most `depth` deep. -/
def value? : Nat → List Char → Option (Toml × List Char)
  | 0, '[' :: _ => none
  | 0, '{' :: _ => none
  | 0, text => scalar? text
  | depth + 1, text =>
    match text with
    | '[' :: rest =>
      (arrayItems? (value? depth) (rest.length + 1) rest).map fun (items, after) =>
        (.array items, after)
    | '{' :: rest =>
      match skipBlanks rest with
      | '}' :: after => some (.table [], after)
      | inner =>
        (inlineEntries? (value? depth) (inner.length + 1) (.empty .explicit) inner).map
          fun (entries, after) => (entries.toValue, after)
    | _ => scalar? text

/-! ## Documents -/

/-- The lines of a document, those before them having made up `document`, below the header
`header`. -/
def lines? : Nat → List String → Table → List Char → Option Table
  | 0, _, _, _ => none
  | fuel + 1, header, document, text =>
    match skipLines fuel text with
    | [] => some document
    | '[' :: '[' :: rest => do
      let ((path, key), after) ← key? rest
      let after ← after? ']' (← after? ']' after)
      let document ← document.openItem path key
      lines? fuel (path ++ [key]) document (← endLine? after)
    | '[' :: rest => do
      let ((path, key), after) ← key? rest
      let document ← document.openTable path key
      lines? fuel (path ++ [key]) document (← endLine? (← after? ']' after))
    | start => do
      let ((path, key), after) ← key? start
      let (value, after) ← value? depthLimit (skipBlanks (← after? '=' after))
      let document ← document.defineBelow header path key value
      lines? fuel header document (← endLine? after)

/-- The text without a byte order mark at its start. -/
def withoutMark : List Char → List Char
  | '\uFEFF' :: rest => rest
  | text => text

/-- The table of a TOML document, if the text is one. -/
def parse? (text : String) : Option Toml :=
  let chars := withoutMark text.toList
  (lines? (chars.length + 1) [] (.empty .explicit) chars).map Table.toValue

end AdapterWiring.Toml
