import AdapterWiring.Text.Blank
import AdapterWiring.Text.Pieces

/-!
# Tokens

A text is read as a list of words, each with the line it stands on.

* **Token** — a word and its line.
* **tokenize** — the words of a text. Words are separated by blanks; only the
  line feed ends a line, and lines count from one.
-/

namespace AdapterWiring

/-- A word of a text and the line it stands on, counted from one. -/
structure Token where
  /-- The word. -/
  word : String
  /-- Its line. -/
  line : UInt32
deriving DecidableEq, Inhabited

namespace Token

open Text

/-- The words of one line, as tokens. -/
def ofLine (line : UInt32) (text : List Char) : List Token :=
  (nonemptyPieces isBlank text).map fun word => ⟨String.ofList word, line⟩

/-- The words of numbered lines, the first of which has the given number. -/
def ofLines (line : UInt32) : List (List Char) → List Token
  | [] => []
  | text :: rest => ofLine line text ++ ofLines (line + 1) rest

/-- The words of a text with their lines. -/
def tokenize (text : String) : List Token :=
  ofLines 1 (pieces (· == '\n') text.toList)

end Token

end AdapterWiring
