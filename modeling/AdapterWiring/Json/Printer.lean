import AdapterWiring.Json.Value
import AdapterWiring.Text.Hex

/-!
# Writing JSON

* **quoted** — a string literal: the quote, the backslash and the control
  characters below U+0020 are escaped, all else stands for itself.
* **compact** — a value on one line without blanks.
* **pretty** — a value with one item or member a line, indented by two blanks;
  empty containers stay on their line.
-/

namespace AdapterWiring.Json

/-! ## Strings -/

/-- The escape of a code value by four hexadecimal digits. -/
def unitEscape (unit : Nat) : List Char :=
  ['\\', 'u', Text.hexDigitChar (unit / 4096 % 16), Text.hexDigitChar (unit / 256 % 16),
    Text.hexDigitChar (unit / 16 % 16), Text.hexDigitChar (unit % 16)]

/-- A character as it stands in a string literal. -/
def escapedChar : Char → List Char
  | '"' => ['\\', '"']
  | '\\' => ['\\', '\\']
  | '\x08' => ['\\', 'b']
  | '\t' => ['\\', 't']
  | '\n' => ['\\', 'n']
  | '\x0c' => ['\\', 'f']
  | '\r' => ['\\', 'r']
  | c => if c.toNat < 0x20 then unitEscape c.toNat else [c]

/-- A code value as it stands in a string literal. -/
def escapedUnit (unit : Nat) : List Char :=
  if 0xD800 ≤ unit ∧ unit ≤ 0xDFFF then unitEscape unit else escapedChar (Char.ofNat unit)

/-- A string literal. -/
def quoted (content : Str) : String :=
  let inner := match content with
    | .text text => text.toList.flatMap escapedChar
    | .unpaired units => units.flatMap escapedUnit
  String.ofList ('"' :: inner ++ ['"'])

/-! ## Values -/

mutual

/-- A value on one line without blanks. -/
def compact : Json → String
  | .null => "null"
  | .bool true => "true"
  | .bool false => "false"
  | .number literal => literal
  | .string content => quoted content
  | .array items => "[" ++ ",".intercalate (compactItems items) ++ "]"
  | .object members => "\x7b" ++ ",".intercalate (compactMembers members) ++ "\x7d"

/-- The items of an array, each on one line. -/
def compactItems : List Json → List String
  | [] => []
  | item :: rest => compact item :: compactItems rest

/-- The members of an object, each on one line. -/
def compactMembers : List (Str × Json) → List String
  | [] => []
  | (name, value) :: rest => (quoted name ++ ":" ++ compact value) :: compactMembers rest

end

/-- A container whose parts stand on lines of their own, indented more than its ends. -/
def block (opening closing indent : String) (parts : List String) : String :=
  let inner := indent ++ "  "
  opening ++ "\n" ++ inner ++ (",\n" ++ inner).intercalate parts ++ "\n" ++ indent ++ closing

mutual

/-- A value over several lines, all but the first of which start with `indent`. -/
def prettyAt (indent : String) : Json → String
  | .array [] => "[]"
  | .object [] => "\x7b\x7d"
  | .array (item :: rest) => block "[" "]" indent (prettyItems (indent ++ "  ") (item :: rest))
  | .object (member :: rest) =>
    block "\x7b" "\x7d" indent (prettyMembers (indent ++ "  ") (member :: rest))
  | .null => "null"
  | .bool true => "true"
  | .bool false => "false"
  | .number literal => literal
  | .string content => quoted content

/-- The items of an array over several lines. -/
def prettyItems (indent : String) : List Json → List String
  | [] => []
  | item :: rest => prettyAt indent item :: prettyItems indent rest

/-- The members of an object over several lines. -/
def prettyMembers (indent : String) : List (Str × Json) → List String
  | [] => []
  | (name, value) :: rest =>
    (quoted name ++ ": " ++ prettyAt indent value) :: prettyMembers indent rest

end

/-- A value over several lines. -/
def pretty (value : Json) : String := prettyAt "" value

end AdapterWiring.Json
