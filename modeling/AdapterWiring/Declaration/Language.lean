import AdapterWiring.Grammar.Build

/-!
# The language of declarations

    associate field Member with Source [using Class]
    declare precedence Class over Class

where a source is `field Member`, `new Class`, `call Member()` or
`single Class`.

* **className, memberName, methodCall** — the words that operands are.
* **calls** — the rules as they are written, with `start` the list of all
  declarations. Each kind of clause is an alternative of its own.
* **rules, grammar** — the rules ready for use.
-/

namespace AdapterWiring.Declaration

open Pattern

/-! ## Operands -/

/-- The characters that start an identifier. -/
def identifierStart : CharSet :=
  [CharSet.range 'A' 'Z', .range 'a' 'z', .single '_', .single '$'].foldl .union .none

/-- The characters that continue an identifier. -/
def identifierPart : CharSet :=
  [CharSet.word, .single '$'].foldl .union .none

/-- An identifier, as the parts of a longer expression. -/
def identifier : List Expr := [.one identifierStart, .star (.one identifierPart)]

/-- An identifier with a dot after it. -/
def qualifier : Expr := .concat (identifier ++ [.char '.'])

/-- The qualified name of a class. -/
def className : Expr := .concat (.star qualifier :: identifier)

/-- The qualified name of a field or method. -/
def memberName : Expr := .concat (.plus qualifier :: identifier)

/-- The qualified name of a method with an empty list of arguments. -/
def methodCall : Expr := .concat (.plus qualifier :: identifier ++ [.char '(', .char ')'])

/-- The text of an identifier pattern. -/
def identifierText : String := "[A-Za-z_$][\\w$]*"

/-- The text of the class name pattern. -/
def classNameText : String := "(?:" ++ identifierText ++ "\\.)*" ++ identifierText

/-- The text of the member name pattern. -/
def memberNameText : String := "(?:" ++ identifierText ++ "\\.)+" ++ identifierText

/-- The text of the method call pattern. -/
def methodCallText : String := memberNameText ++ "\\(\\)"

/-! ## Rules -/

/-- The rule for a list of declarations. -/
def start : String := "declarations"

/-- The calls that define the rules of the language. -/
def calls : List Grammar.Call :=
  [ .sequence start ["<declaration>*"],
    .alternation "declaration" ["association", "precedence"],
    .sequence "association" ["associate", "<where-clause>", "with", "<what-clause>",
      "<using-clause>?"],
    .sequence "precedence" ["declare", "precedence", "<higher>", "over", "<lower>"],
    .sequence "using-clause" ["using", "<adapter-name>"],
    .alternation "where-clause" ["where-clause-field"],
    .sequence "where-clause-field" ["field", "<field-name>"],
    .alternation "what-clause" ["what-clause-field", "what-clause-new", "what-clause-call",
      "what-clause-single"],
    .sequence "what-clause-field" ["field", "<field-name>"],
    .sequence "what-clause-new" ["new", "<class-name>"],
    .sequence "what-clause-call" ["call", "<method-call>"],
    .sequence "what-clause-single" ["single", "<class-name>"],
    .pattern "field-name" memberNameText,
    .pattern "method-call" methodCallText,
    .pattern "class-name" classNameText,
    .pattern "adapter-name" classNameText,
    .pattern "higher" classNameText,
    .pattern "lower" classNameText ]

/-- The rules of the language, by name. -/
def rules : List (String × Rule) :=
  [ (start, .sequence [.ref "declaration" .zeroOrMore]),
    ("declaration", .alternation ["association", "precedence"]),
    ("association", .sequence [.literal "associate", .ref "where-clause" .one, .literal "with",
      .ref "what-clause" .one, .ref "using-clause" .optional]),
    ("precedence", .sequence [.literal "declare", .literal "precedence", .ref "higher" .one,
      .literal "over", .ref "lower" .one]),
    ("using-clause", .sequence [.literal "using", .ref "adapter-name" .one]),
    ("where-clause", .alternation ["where-clause-field"]),
    ("where-clause-field", .sequence [.literal "field", .ref "field-name" .one]),
    ("what-clause", .alternation ["what-clause-field", "what-clause-new", "what-clause-call",
      "what-clause-single"]),
    ("what-clause-field", .sequence [.literal "field", .ref "field-name" .one]),
    ("what-clause-new", .sequence [.literal "new", .ref "class-name" .one]),
    ("what-clause-call", .sequence [.literal "call", .ref "method-call" .one]),
    ("what-clause-single", .sequence [.literal "single", .ref "class-name" .one]),
    ("field-name", .pattern ⟨anchored memberNameText, .whole memberName⟩),
    ("method-call", .pattern ⟨anchored methodCallText, .whole methodCall⟩),
    ("class-name", .pattern ⟨anchored classNameText, .whole className⟩),
    ("adapter-name", .pattern ⟨anchored classNameText, .whole className⟩),
    ("higher", .pattern ⟨anchored classNameText, .whole className⟩),
    ("lower", .pattern ⟨anchored classNameText, .whole className⟩) ]

/-- The grammar of the language. -/
def grammar : Grammar := ⟨NameMap.ofList rules⟩

end AdapterWiring.Declaration
