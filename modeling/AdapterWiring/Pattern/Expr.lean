import AdapterWiring.Pattern.CharSet

/-!
# Pattern expressions

Regular expressions over characters, with conditions on the place between two
characters.

* **Gap** — a place in a word, by the characters on its two sides.
* **Assertion** — a condition on a gap.
* **Expr** — an expression.
* **Expr.Matches** — the words that an expression matches, given what stands
  before and after them.
-/

namespace AdapterWiring.Pattern

open Text

/-! ## Gaps -/

/-- A place in a word, by the characters next to it; none at the ends. -/
structure Gap where
  /-- The character before. -/
  before : Option Char
  /-- The character after. -/
  after : Option Char
deriving DecidableEq

namespace Gap

/-- The gap between two parts of a word, the first of them reversed. -/
def between (before after : List Char) : Gap := ⟨before.head?, after.head?⟩

/-- Whether a character of a kind stands before the gap. -/
def wordBefore (isWord : Char → Bool) (gap : Gap) : Bool := gap.before.any isWord

/-- Whether a character of a kind stands after the gap. -/
def wordAfter (isWord : Char → Bool) (gap : Gap) : Bool := gap.after.any isWord

end Gap

/-- Which characters a condition on words counts as word characters. -/
inductive WordKind where
  /-- The word characters of every script. -/
  | unicode
  /-- The ASCII letters and digits and the underscore. -/
  | ascii
deriving DecidableEq

/-- Whether a character is a word character of a kind. -/
def WordKind.contains : WordKind → Char → Bool
  | unicode, c => isWordChar c
  | ascii, c => c.isAlphanum || c = '_'

/-- A condition on a gap. -/
inductive Assertion where
  /-- The start of the word. -/
  | start
  /-- The end of the word. -/
  | stop
  /-- The start of a line; a line ends with a line feed. -/
  | lineStart
  /-- The end of a line; a line ends with a line feed. -/
  | lineStop
  /-- The start of a line; a line ends with a line feed, a carriage return or both. -/
  | returnStart
  /-- The end of a line; a line ends with a line feed, a carriage return or both. -/
  | returnStop
  /-- A word character on exactly one side. -/
  | boundary (kind : WordKind)
  /-- Word characters on both sides or on neither. -/
  | noBoundary (kind : WordKind)
  /-- A word character after, none before. -/
  | wordStart (kind : WordKind)
  /-- A word character before, none after. -/
  | wordEnd (kind : WordKind)
  /-- No word character before. -/
  | noWordBefore (kind : WordKind)
  /-- No word character after. -/
  | noWordAfter (kind : WordKind)
deriving DecidableEq

/-- Whether a gap satisfies a condition. -/
def Assertion.holds (gap : Gap) : Assertion → Bool
  | start => gap.before.isNone
  | stop => gap.after.isNone
  | lineStart => gap.before.all (· = '\n')
  | lineStop => gap.after.all (· = '\n')
  | returnStart => gap.before.all fun c => c = '\n' || (c = '\r' && gap.after != some '\n')
  | returnStop => gap.after.all fun c => c = '\r' || (c = '\n' && gap.before != some '\r')
  | boundary kind => gap.wordBefore kind.contains != gap.wordAfter kind.contains
  | noBoundary kind => gap.wordBefore kind.contains == gap.wordAfter kind.contains
  | wordStart kind => !gap.wordBefore kind.contains && gap.wordAfter kind.contains
  | wordEnd kind => gap.wordBefore kind.contains && !gap.wordAfter kind.contains
  | noWordBefore kind => !gap.wordBefore kind.contains
  | noWordAfter kind => !gap.wordAfter kind.contains

/-! ## Expressions -/

/-- A regular expression. -/
inductive Expr where
  /-- Nothing: the empty word. -/
  | empty
  /-- A condition on the place reached. -/
  | assertion (condition : Assertion)
  /-- One character of a set. -/
  | one (set : CharSet)
  /-- One expression after another. -/
  | seq (first second : Expr)
  /-- Either of two expressions. -/
  | alt (first second : Expr)
  /-- An expression at least `least` times and, given `most`, at most that often. -/
  | repeated (body : Expr) (least : Nat) (most : Option Nat)
deriving DecidableEq, Inhabited

namespace Expr

/-- A given character. -/
def char (c : Char) : Expr := one (.single c)

/-- Several expressions in a row. -/
def concat : List Expr → Expr
  | [] => empty
  | [only] => only
  | first :: rest => seq first (concat rest)

/-- Either of several expressions. -/
def choice (first : Expr) : List Expr → Expr
  | [] => first
  | next :: rest => alt first (choice next rest)

/-- An expression any number of times. -/
def star (body : Expr) : Expr := repeated body 0 none

/-- An expression at least once. -/
def plus (body : Expr) : Expr := repeated body 1 none

/-- An expression that matches whole words only. -/
def whole (body : Expr) : Expr := seq (assertion .start) (seq body (assertion .stop))

mutual

/-- `Matches e before middle after`: in a word that consists of `before` reversed, `middle` and
`after`, the expression `e` matches `middle`. -/
inductive Matches : Expr → List Char → List Char → List Char → Prop where
  | empty {before after : List Char} : Matches .empty before [] after
  | assertion {condition : Assertion} {before after : List Char} :
    condition.holds (Gap.between before after) = true →
      Matches (.assertion condition) before [] after
  | one {set : CharSet} {c : Char} {before after : List Char} :
    set.contains c = true → Matches (.one set) before [c] after
  | seq {first second : Expr} {before middle middle' after : List Char} :
    Matches first before middle (middle' ++ after) →
      Matches second (middle.reverse ++ before) middle' after →
        Matches (.seq first second) before (middle ++ middle') after
  | altLeft {first second : Expr} {before middle after : List Char} :
    Matches first before middle after → Matches (.alt first second) before middle after
  | altRight {first second : Expr} {before middle after : List Char} :
    Matches second before middle after → Matches (.alt first second) before middle after
  | repeated {body : Expr} {least times : Nat} {most : Option Nat}
      {before middle after : List Char} :
    least ≤ times → (∀ bound ∈ most, times ≤ bound) →
      MatchesTimes body times before middle after →
        Matches (.repeated body least most) before middle after

/-- `MatchesTimes e n before middle after`: `n` matches of `e` in a row make up `middle`. -/
inductive MatchesTimes : Expr → Nat → List Char → List Char → List Char → Prop where
  | none {body : Expr} {before after : List Char} : MatchesTimes body 0 before [] after
  | more {body : Expr} {times : Nat} {before middle middle' after : List Char} :
    Matches body before middle (middle' ++ after) →
      MatchesTimes body times (middle.reverse ++ before) middle' after →
        MatchesTimes body (times + 1) before (middle ++ middle') after

end

/-- Whether an expression matches a part of a word. -/
def Occurs (e : Expr) (word : List Char) : Prop :=
  ∃ before middle after, word = before ++ middle ++ after ∧
    Matches e before.reverse middle after

end Expr

end AdapterWiring.Pattern
