import AdapterWiring.NameMap
import AdapterWiring.Pattern.Reader

/-!
# Grammar rules

A grammar is a table of named rules over words.

* **Element** — a part of a sequence: a word, or a reference to a rule with a
  **Repeat**. `Element.parse` reads the compact form `<rule>`, `<rule>?`,
  `<rule>*`, `<rule>+`; anything else is a word.
* **RuleShape** — the four kinds of rule, over the form that patterns take.
* **Definition**, **Rule** — a rule as written and a rule ready for use.
* **Grammar** — the table.
-/

namespace AdapterWiring

/-! ## Elements -/

/-- How often a reference may match. -/
inductive Repeat where
  /-- Exactly once. -/
  | one
  /-- At most once. -/
  | optional
  /-- Any number of times. -/
  | zeroOrMore
  /-- At least once. -/
  | oneOrMore
deriving DecidableEq, Inhabited

/-- A part of a sequence. -/
inductive Element where
  /-- A word. -/
  | literal (word : String)
  /-- A reference to a rule. -/
  | ref (rule : String) (times : Repeat)
deriving DecidableEq, Inhabited

namespace Element

/-- The repetition that a suffix asks for. -/
def repeatOfSuffix? : Char → Option Repeat
  | '?' => some .optional
  | '*' => some .zeroOrMore
  | '+' => some .oneOrMore
  | _ => none

/-- The name between angle brackets, if it is not empty. -/
def bracketed? : List Char → Option String
  | '<' :: inner =>
    match inner.reverse with
    | '>' :: c :: name => some (String.ofList (c :: name).reverse)
    | _ => none
  | _ => none

/-- A form without its suffix, and the repetition that the suffix asks for. -/
def suffixed (spec : List Char) : List Char × Repeat :=
  match spec.reverse with
  | last :: c :: before =>
    match repeatOfSuffix? last with
    | some times => ((c :: before).reverse, times)
    | none => (spec, .one)
  | _ => (spec, .one)

/-- Read the compact form of an element. -/
def parse (spec : String) : Element :=
  let (body, times) := suffixed spec.toList
  match bracketed? body with
  | some rule => .ref rule times
  | none => .literal spec

/-- The rule that an element refers to. -/
def reference? : Element → Option String
  | literal _ => none
  | ref rule _ => some rule

end Element

/-! ## Rules -/

/-- A rule, its patterns in the form `P`. -/
inductive RuleShape (P : Type) where
  /-- A given word. -/
  | literal (word : String)
  /-- A word that matches a pattern. -/
  | pattern (pattern : P)
  /-- Several elements in a row. -/
  | sequence (elements : List Element)
  /-- The first of several rules that matches. -/
  | alternation (alternatives : List String)
deriving DecidableEq, Inhabited

/-- A rule as it is written, its pattern a text. -/
abbrev Definition := RuleShape String

/-- A rule ready for use. -/
abbrev Rule := RuleShape Pattern

/-- The rules that a rule refers to, in order. -/
def RuleShape.references {P : Type} : RuleShape P → List String
  | literal _ => []
  | pattern _ => []
  | sequence elements => elements.filterMap Element.reference?
  | alternation alternatives => alternatives

/-- A table of named rules. -/
structure Grammar where
  /-- The rules by name. -/
  rules : NameMap Rule
deriving DecidableEq, Inhabited

namespace Grammar

/-- The rule of a name. -/
def rule? (grammar : Grammar) (name : String) : Option Rule := grammar.rules.get? name

end Grammar

end AdapterWiring
