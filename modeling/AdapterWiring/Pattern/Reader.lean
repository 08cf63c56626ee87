import AdapterWiring.Pattern.Class
import AdapterWiring.Pattern.Part
import AdapterWiring.Pattern.Search

/-!
# Patterns

A pattern is written as a text. A machine reads it part by part and keeps the
groups in progress on a stack.

* **Level** — a group in progress.
* **Reader** — the machine.
* **Part.parse?** — what a text writes.
* **Pattern** — a text for whole words and the expression it writes.
* **Pattern.accepts** — whether a word matches.
-/

namespace AdapterWiring

namespace Pattern

/-! ## Groups in progress -/

/-- A group in progress, its parts in reverse. -/
structure Level where
  /-- The alternatives before the last bar. -/
  alternatives : List Part
  /-- The parts since then. -/
  parts : List Part
deriving Inhabited

namespace Level

/-- A group without parts. -/
def start : Level := ⟨[], []⟩

/-- The group with one more part. -/
def add (level : Level) (part : Part) : Level := { level with parts := part :: level.parts }

/-- The group with its last part repeated, unless that makes it too deep. -/
def repeat? (level : Level) (least : Nat) (most : Option Nat) (lazy : Bool) : Option Level :=
  match level.parts with
  | [] => none
  | last :: before =>
    if last.repeatable && last.height < Part.heightLimit then
      some { level with parts := last.times least most lazy :: before }
    else none

/-- The group after a bar. -/
def nextAlternative (level : Level) : Level :=
  ⟨Part.row level.parts.reverse :: level.alternatives, []⟩

/-- The alternatives of a complete group. -/
def close (level : Level) : Part :=
  match (level.nextAlternative.alternatives).reverse with
  | [] => .empty
  | first :: rest => Part.choice first rest

end Level

/-! ## Counts -/

/-- A number with blanks around it. -/
def number? (flags : Flags) (text : List Char) : Option (Nat × List Char) :=
  let inner := text.dropWhile Text.isBlank
  let (digits, rest) := flags.gather Char.isDigit inner.length inner
  let value := digits.foldl (fun value c => 10 * value + (c.toNat - '0'.toNat)) 0
  if digits.isEmpty ∨ 0xFFFFFFFF < value then none
  else some (value, rest.dropWhile Text.isBlank)

/-- The counts of a repetition, after its opening brace. -/
def count? (flags : Flags) (text : List Char) : Option ((Nat × Option Nat) × List Char) := do
  match ← number? flags (flags.skip text) with
  | (least, '}' :: rest) => return ((least, some least), rest)
  | (least, ',' :: after) =>
    match flags.skip after with
    | '}' :: rest => return ((least, none), rest)
    | after =>
      match ← number? flags after with
      | (most, '}' :: rest) => if least ≤ most then return ((least, some most), rest) else none
      | _ => none
  | _ => none

/-! ## Names of groups -/

/-- Whether a character can start the name of a group. -/
def isNameStart (c : Char) : Bool := c = '_' || CharSet.alphabetic.contains c

/-- Whether a character can continue the name of a group. -/
def isNamePart (c : Char) : Bool :=
  isNameStart c || c = '.' || c = '[' || c = ']' || CharSet.number.contains c

/-- The name of a group, which ends with `>`. -/
def groupName? (text : List Char) : Option (String × List Char) :=
  match text.takeWhile (· ≠ '>'), text.dropWhile (· ≠ '>') with
  | first :: more, _ :: rest =>
    if isNameStart first && more.all isNamePart then some (String.ofList (first :: more), rest)
    else none
  | _, _ => none

/-! ## The machine -/

/-- A group around another. -/
structure Outer where
  /-- The group. -/
  level : Level
  /-- The flags in force where the inner group starts. -/
  flags : Flags
  /-- The number of the inner group, if its text is captured. -/
  number : Option Nat
deriving Inhabited

/-- What has been read of a pattern. -/
structure Reader where
  /-- The flags in force. -/
  flags : Flags
  /-- The innermost group. -/
  level : Level
  /-- The groups around it, from the innermost. -/
  outer : List Outer
  /-- The number of groups whose text is captured. -/
  captures : Nat
  /-- The names of groups. -/
  names : List String
deriving Inhabited

namespace Reader

/-- Nothing has been read. -/
def start : Reader := ⟨{}, .start, [], 0, []⟩

/-- One more part of the innermost group. -/
def add (reader : Reader) (part : Part) : Reader :=
  { reader with level := reader.level.add part }

/-- The start of a group in which some flags are in force. -/
def enter (reader : Reader) (flags : Flags) (number : Option Nat) : Reader :=
  { reader with
    flags := flags
    level := .start
    outer := ⟨reader.level, reader.flags, number⟩ :: reader.outer }

/-- The start of a group whose text is captured. -/
def capture (reader : Reader) : Reader :=
  { reader.enter reader.flags (some (reader.captures + 1)) with
    captures := reader.captures + 1 }

/-- The start of a group with a name that no other group has. -/
def captureNamed? (reader : Reader) (name : String) : Option Reader :=
  if reader.names.contains name then none
  else some { reader.capture with names := name :: reader.names }

/-- What follows an opening parenthesis: a group with or without a name, or flags for a group or for
what follows. -/
def open? (reader : Reader) (text : List Char) : Option (Reader × List Char) :=
  match reader.flags.skip text with
  | '?' :: 'P' :: '<' :: rest | '?' :: '<' :: rest => do
    let (name, after) ← groupName? rest
    return (← reader.captureNamed? name, after)
  | '?' :: ')' :: _ => none
  | '?' :: rest => do
    match ← reader.flags.change? [] rest with
    | (flags, ':', after) => return (reader.enter flags none, after)
    | (flags, _, after) => return ({ reader with flags := flags }.add .empty, after)
  | rest => some (reader.capture, rest)

/-- The end of a group. The flags are again those before it. -/
def close? (reader : Reader) : Option Reader :=
  match reader.outer with
  | [] => none
  | parent :: others =>
    let part := reader.level.close.group parent.number
    if part.height ≤ Part.heightLimit then
      some { reader with flags := parent.flags, level := parent.level.add part, outer := others }
    else none

/-- A repetition of the part before, and what follows its sign. A further `?` asks for few matches;
that decides which match is found first, not whether there is one. -/
def repeat? (reader : Reader) (least : Nat) (most : Option Nat) (rest : List Char) :
    Option (Reader × List Char) :=
  let (lazy, rest) := match rest with
    | '?' :: after => (true, after)
    | other => (false, other)
  (reader.level.repeat? least most (lazy != reader.flags.lazy)).map
    ({ reader with level := · }, rest)

/-- The step at a character with what follows it. -/
def step? (reader : Reader) (c : Char) (rest : List Char) : Option (Reader × List Char) :=
  match c with
  | '(' => reader.open? rest
  | ')' => reader.close?.map (·, rest)
  | '|' => some ({ reader with level := reader.level.nextAlternative }, rest)
  | '*' => reader.repeat? 0 none rest
  | '+' => reader.repeat? 1 none rest
  | '?' => reader.repeat? 0 (some 1) rest
  | '{' => do
    let ((least, most), after) ← count? reader.flags rest
    reader.repeat? least most (reader.flags.skip after)
  | '[' => do
    let (item, after) ← class? reader.flags rest
    if item.height ≤ Part.heightLimit then
      return (reader.add (.ofSet item.set item.height), after)
    else none
  | '\\' => do
    match ← escape? reader.flags rest with
    | (.char value, after) => return (reader.add (.ofChar reader.flags value), after)
    | (.set set, after) => return (reader.add (.ofSet set 0), after)
    | (.assertion condition, after) => return (reader.add (.ofAssertion condition), after)
  | '.' => reader.flags.dot?.map fun set => (reader.add (.ofSet set 0), rest)
  | '^' => some (reader.add (.ofAssertion reader.flags.caret), rest)
  | '$' => some (reader.add (.ofAssertion reader.flags.dollar), rest)
  | _ => some (reader.add (.ofChar reader.flags c), rest)

/-- The machine after a text, of which at most a number of parts are read. -/
def run? : Nat → Reader → List Char → Option Reader
  | most, reader, text =>
    match reader.flags.skip text, most with
    | [], _ => some reader
    | _ :: _, 0 => none
    | c :: rest, most + 1 =>
      match reader.step? c rest with
      | none => none
      | some (next, after) => run? most next after

end Reader

/-- What a text writes. -/
def Part.parse? (text : List Char) : Option Part := do
  let reader ← Reader.start.run? text.length text
  if reader.outer.isEmpty then some reader.level.close else none

end Pattern

/-! ## Patterns -/

/-- A pattern for whole words. -/
structure Pattern where
  /-- The text, anchored at both ends of the word. -/
  text : String
  /-- The expression that the text writes. -/
  expr : Pattern.Expr
deriving DecidableEq, Inhabited

namespace Pattern

/-- The text of a pattern anchored at both ends: the pattern stands in a group of its own between
the anchors. -/
def anchored (source : String) : String := "^(?:" ++ source ++ ")$"

/-- The pattern with a given source, if its anchored text can be read and is not too large. -/
def compile? (source : String) : Option Pattern := do
  let part ← Part.parse? (anchored source).toList
  if part.admissible then some ⟨anchored source, part.expr⟩ else none

/-- Whether a word matches. -/
def accepts (pattern : Pattern) (word : String) : Bool :=
  pattern.expr.search word.toList

end Pattern

end AdapterWiring
