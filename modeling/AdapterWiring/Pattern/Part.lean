import AdapterWiring.Pattern.Flags
import AdapterWiring.Pattern.Footprint

/-!
# Parts of a pattern

What a pattern text writes is put together from parts. A part has the
expression to search with, the outline to measure, and the depth of its nesting.

* **Part** — the three of them.
* **row, choice, times, capture** — larger parts.
* **admissible** — whether a part is neither too deep nor too large.
-/

namespace AdapterWiring.Pattern

/-- A part of a pattern. -/
structure Part where
  /-- What it matches. -/
  expr : Expr
  /-- What its size depends on. -/
  outline : Outline
  /-- The depth of the parts inside it. -/
  height : Nat
  /-- Whether a repetition sign may follow. -/
  repeatable : Bool := true
deriving Inhabited

namespace Part

/-- The deepest nesting of parts. -/
def heightLimit : Nat := 250

/-- A part that matches nothing and only stands for what it says: an empty group, or flags. -/
def empty : Part := { expr := .empty, outline := .empty, height := 0, repeatable := false }

/-- A condition. -/
def ofAssertion (condition : Assertion) : Part :=
  { expr := .assertion condition, outline := .assertion condition, height := 0 }

/-- One character of a set. -/
def ofSet (set : CharSet) (height : Nat) : Part :=
  { expr := .one set, outline := .ofRanges set.ranges, height := height }

/-- One character, with the case variants that the flags ask for. -/
def ofChar (flags : Flags) (c : Char) : Part :=
  match flags.variants? c with
  | some set => ofSet set 0
  | none => { expr := .char c, outline := .word [c], height := 0 }

/-- The greatest depth of several parts. -/
def deepest (parts : List Part) : Nat := (parts.map height).foldl max 0

/-- Several parts, one after another. -/
def row : List Part → Part
  | [] => empty
  | [only] => only
  | parts =>
    { expr := .concat (parts.map expr)
      outline := .ofParts (parts.map outline)
      height := deepest parts + 1 }

/-- Either of several parts. -/
def choice (first : Part) (rest : List Part) : Part :=
  match rest with
  | [] => first
  | _ =>
    { expr := .choice first.expr (rest.map expr)
      outline := .ofBranches ((first :: rest).map outline)
      height := deepest (first :: rest) + 1 }

/-- A part in a group, whose text is captured if the group has a number. -/
def group (number : Option Nat) (body : Part) : Part :=
  { expr := body.expr
    outline := number.elim body.outline (.capture · body.outline)
    height := body.height + 1 }

/-- A repetition of a part. -/
def times (least : Nat) (most : Option Nat) (lazy : Bool) (body : Part) : Part :=
  { expr := .repeated body.expr least most
    outline := body.outline.times least most lazy
    height := body.height + 1 }

/-- Whether a part is neither too deep nor too large. -/
def admissible (part : Part) : Bool := part.height ≤ heightLimit && part.outline.fits

end Part

end AdapterWiring.Pattern
