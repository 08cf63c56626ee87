import AdapterWiring.Pattern.Flags
import AdapterWiring.Pattern.Property
import AdapterWiring.Text.Hex

/-!
# Escapes

A backslash takes its meaning away from a sign, or gives one to a letter.

* **Escape** — what stands after a backslash.
* **escape?** — its reader.
-/

namespace AdapterWiring.Pattern

/-- What an escape stands for. -/
inductive Escape where
  /-- One character. -/
  | char (c : Char)
  /-- A set of characters. -/
  | set (set : CharSet)
  /-- A condition. -/
  | assertion (condition : Assertion)

/-- A code point in hexadecimal: `width` digits, or any number of them in braces. -/
def hex? (flags : Flags) (width : Nat) (text : List Char) : Option (Char × List Char) :=
  match flags.skip text with
  | '{' :: inner =>
    match flags.gather (· ≠ '}') inner.length (flags.skip inner) with
    | (digits, '}' :: rest) => (Text.charOfHex? digits).map (·, rest)
    | _ => none
  | inner =>
    let (digits, rest) := flags.gather (fun c => (Text.hexDigit? c).isSome) width inner
    if digits.length = width then (Text.charOfHex? digits).map (·, rest) else none

/-- The set of the characters with a property: a name in braces, or one letter. -/
def property? (flags : Flags) (text : List Char) : Option (CharSet × List Char) :=
  match flags.skip text with
  | '{' :: inner =>
    match flags.gather (· ≠ '}') inner.length (flags.skip inner) with
    | (name, '}' :: rest) => (Property.ofText? name).map (·, rest)
    | _ => none
  | c :: rest => (Property.ofText? [c]).map (·, rest)
  | [] => none

/-- The conditions on words that have a name. -/
def namedBoundary? (kind : WordKind) : String → Option Assertion
  | "start" => some (.wordStart kind)
  | "end" => some (.wordEnd kind)
  | "start-half" => some (.noWordBefore kind)
  | "end-half" => some (.noWordAfter kind)
  | _ => none

/-- Whether a character can stand in the name of a condition on words. -/
def isBoundaryNameChar (c : Char) : Bool := c.isAlpha || c == '-'

/-- What follows `\b`: the name of a condition in braces, or nothing of its own. -/
def boundary? (flags : Flags) (text : List Char) : Option (Assertion × List Char) :=
  match text with
  | '{' :: inner =>
    match flags.gather isBoundaryNameChar inner.length (flags.skip inner) with
    | ([], _) => some (.boundary flags.wordKind, text)
    | (name, '}' :: rest) =>
      (namedBoundary? flags.wordKind (String.ofList name)).map (·, rest)
    | _ => none
  | _ => some (.boundary flags.wordKind, text)

/-- The sets with a letter of their own, each with the name of its ASCII part. -/
def shorthand? : Char → Option (CharSet × String)
  | 'd' | 'D' => some (.digit, "digit")
  | 's' | 'S' => some (.blank, "space")
  | 'w' | 'W' => some (.word, "word")
  | _ => none

/-- The characters with a letter of their own. -/
def control? : Char → Option Char
  | 'a' => some '\x07'
  | 'f' => some '\x0c'
  | 't' => some '\t'
  | 'n' => some '\n'
  | 'r' => some '\r'
  | 'v' => some '\x0b'
  | _ => none

/-- The conditions with a sign of their own, but for `\b`. -/
def condition? (kind : WordKind) : Char → Option Assertion
  | 'A' => some .start
  | 'z' => some .stop
  | 'B' => some (.noBoundary kind)
  | '<' => some (.wordStart kind)
  | '>' => some (.wordEnd kind)
  | _ => none

/-- Whether an escape of the character stands for the character. -/
def isPlainEscape (c : Char) : Bool :=
  c.toNat < 128 && !c.isAlphanum && c != '<' && c != '>'

/-- The number of digits after the letter of a code point. -/
def hexWidth? : Char → Option Nat
  | 'x' => some 2
  | 'u' => some 4
  | 'U' => some 8
  | _ => none

/-- Whether two hexadecimal digits, and no braces, may write a character. Without characters beyond
ASCII in sets they stand for a byte, which is a character by itself only in ASCII. -/
def isByteAllowed (flags : Flags) (width : Nat) (text : List Char) (c : Char) : Bool :=
  flags.unicode || width ≠ 2 || c.toNat < 128 || (flags.skip text).head? = some '{'

/-- An escape, after its backslash. -/
def escape? (flags : Flags) : List Char → Option (Escape × List Char)
  | [] => none
  | c :: rest =>
    if let some width := hexWidth? c then do
      let (value, after) ← hex? flags width rest
      if isByteAllowed flags width rest value then return (.char value, after) else none
    else if let some (set, name) := shorthand? c then do
      let set ← if flags.unicode then some set else CharSet.ascii? name
      return (.set (← flags.negate? c.isUpper set), rest)
    else if c = 'p' ∨ c = 'P' then
      if flags.unicode then do
        let (set, after) ← property? flags rest
        return (.set (← flags.negate? (c = 'P') (flags.fold set)), after)
      else none
    else if c = 'b' then (boundary? flags rest).map fun (condition, after) =>
      (.assertion condition, after)
    else if let some condition := condition? flags.wordKind c then some (.assertion condition, rest)
    else if let some value := control? c then some (.char value, rest)
    else if isPlainEscape c then some (.char c, rest)
    else none

end AdapterWiring.Pattern
