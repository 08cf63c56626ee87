import AdapterWiring.Text.Token

/-!
# Syntax errors

* **SyntaxError** — why words could not be read.
* **line?** — the line it is anchored at; none where the text ended too early.
* **message** — its wording.
-/

namespace AdapterWiring

/-- What could have stood at a place. -/
inductive Expected where
  /-- A given word. -/
  | word (text : String)
  /-- A word that the pattern of a rule matches. -/
  | rule (name : String)
deriving DecidableEq, Inhabited

/-- The wording of what was expected. -/
def Expected.describe : Expected → String
  | word text => "'" ++ text ++ "'"
  | rule name => name

/-- Why words could not be read. -/
inductive SyntaxError where
  /-- A word stands where another was expected. -/
  | unexpected (token : Token) (expected : Expected)
  /-- The text ends where a word was expected. -/
  | unexpectedEnd (expected : Expected)
  /-- There is no rule of the name. -/
  | unknownRule (name : String)
  /-- No alternative matches; each has its own failure. -/
  | noAlternative (failures : List SyntaxError)
  /-- The text goes on after what was to be read. -/
  | trailing (line : UInt32)
  /-- The text goes on where a repetition stopped, for the given cause. -/
  | stopped (line : UInt32) (cause : SyntaxError)
  /-- A tree does not have the shape of the part that is read from it. -/
  | malformed (part : String)
  /-- A rule calls itself without reading a word. -/
  | endless
deriving Inhabited

/-- The lesser of two lines of which either may be missing. -/
def earlierLine? : Option UInt32 → Option UInt32 → Option UInt32
  | none, line => line
  | line, none => line
  | some first, some second => some (if second < first then second else first)

namespace SyntaxError

mutual

/-- The line that an error is anchored at; the first of them for several failures. -/
def line? : SyntaxError → Option UInt32
  | unexpected token _ => some token.line
  | unexpectedEnd _ => none
  | unknownRule _ => none
  | noAlternative failures => firstLine? failures
  | trailing line => some line
  | stopped line _ => some line
  | malformed _ => none
  | endless => none

/-- The first line that one of several errors is anchored at. -/
def firstLine? : List SyntaxError → Option UInt32
  | [] => none
  | failure :: rest => earlierLine? (line? failure) (firstLine? rest)

end

mutual

/-- The wording of an error. -/
def message : SyntaxError → String
  | unexpected token expected =>
    "Unexpected token '" ++ token.word ++ "' on line " ++ toString token.line.toNat ++
      ", expected " ++ expected.describe ++ "."
  | unexpectedEnd expected => "Unexpected EOF, expected " ++ expected.describe ++ "."
  | unknownRule name => "Unknown rule '" ++ name ++ "'."
  | noAlternative failures => " ".intercalate (messages failures)
  | trailing line => "Trailing input from line " ++ toString line.toNat ++ "."
  | stopped line cause =>
    "Trailing input from line " ++ toString line.toNat ++ ". " ++ message cause
  | malformed part => "Malformed " ++ part ++ " in parse tree."
  | endless => "A rule calls itself without reading a word."

/-- The wordings of several errors. -/
def messages : List SyntaxError → List String
  | [] => []
  | failure :: rest => message failure :: messages rest

end

end SyntaxError

end AdapterWiring
