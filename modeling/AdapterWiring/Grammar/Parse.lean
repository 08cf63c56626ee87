import AdapterWiring.Grammar.Node
import AdapterWiring.Grammar.Rule
import AdapterWiring.Grammar.SyntaxError

/-!
# Parsing with a grammar

Words are read from the front. Alternatives are tried in order and the first
that matches wins; a repetition takes as many matches as there are, and ends
after one that reads no word.

* **parseRuleWith** — one rule, with a reader for the rules it refers to.
* **parseRule** — a rule, to a given depth of references; `none` where the
  depth does not suffice.
* **depthBound** — a depth that suffices for every grammar in which no rule
  calls itself before it has read a word.
* **parse** — a whole text.
-/

namespace AdapterWiring

namespace Grammar

/-- What reading a rule comes to: a tree and the words left over, or an error. -/
abbrev Outcome (α : Type) := Except SyntaxError (α × List Token)

/-- A reader of rules; `none` where it does not go deep enough to tell. -/
abbrev RuleReader := String → List Token → Option (Outcome Node)

/-! ## Parts of a rule -/

/-- Read a given word. -/
def expectWord (word : String) : List Token → Except SyntaxError (List Token)
  | [] => .error (.unexpectedEnd (.word word))
  | token :: rest =>
    if token.word = word then .ok rest else .error (.unexpected token (.word word))

/-- Read a word that a pattern matches. -/
def parsePattern (name : String) (pattern : Pattern) : List Token → Outcome Node
  | [] => .error (.unexpectedEnd (.rule name))
  | token :: rest =>
    if pattern.accepts token.word then .ok (.token token, rest)
    else .error (.unexpected token (.rule name))

/-- Read matches until one fails or reads no word; such a last match still counts. -/
def parseMany (parse : List Token → Option (Outcome Node)) (tokens : List Token) :
    Option (List Node × List Token) :=
  match parse tokens with
  | none => none
  | some (.error _) => some ([], tokens)
  | some (.ok (node, rest)) =>
    if rest.length < tokens.length then
      (parseMany parse rest).map fun (nodes, last) => (node :: nodes, last)
    else some ([node], rest)
termination_by tokens.length

/-- Read a reference as often as its repetition asks. -/
def parseRepeat (parse : List Token → Option (Outcome Node)) (times : Repeat)
    (tokens : List Token) : Option (Outcome Node) :=
  match times with
  | .one => parse tokens
  | .optional =>
    (parse tokens).map fun
      | .ok parsed => .ok parsed
      | .error _ => .ok (.absent, tokens)
  | .zeroOrMore => (parseMany parse tokens).map fun (nodes, rest) => .ok (.list nodes, rest)
  | .oneOrMore =>
    match parse tokens with
    | none => none
    | some (.error failure) => some (.error failure)
    | some (.ok (first, rest)) =>
      (parseMany parse rest).map fun (nodes, last) => .ok (.list (first :: nodes), last)

/-- Read the elements of a sequence: the trees of its references in order. -/
def parseElements (parse : RuleReader) :
    List Element → List Token → Option (Outcome (List (String × Node)))
  | [], tokens => some (.ok ([], tokens))
  | .literal word :: elements, tokens =>
    match expectWord word tokens with
    | .error failure => some (.error failure)
    | .ok rest => parseElements parse elements rest
  | .ref rule times :: elements, tokens =>
    match parseRepeat (parse rule) times tokens with
    | none => none
    | some (.error failure) => some (.error failure)
    | some (.ok (node, rest)) =>
      (parseElements parse elements rest).map fun
        | .error failure => .error failure
        | .ok (members, last) => .ok ((rule, node) :: members, last)

/-- Read the first alternative that matches, after the failures of those before it. -/
def parseAlternatives (parse : RuleReader) (failures : List SyntaxError) :
    List String → List Token → Option (Outcome Node)
  | [], _ => some (.error (.noAlternative failures.reverse))
  | alternative :: others, tokens =>
    match parse alternative tokens with
    | none => none
    | some (.ok (value, rest)) => some (.ok (.choice alternative value, rest))
    | some (.error failure) => parseAlternatives parse (failure :: failures) others tokens

/-! ## Rules -/

variable (grammar : Grammar)

/-- Read a rule, with a reader for the rules it refers to. -/
def parseRuleWith (parse : RuleReader) (name : String) (tokens : List Token) :
    Option (Outcome Node) :=
  match grammar.rule? name with
  | none => some (.error (.unknownRule name))
  | some (.literal word) =>
    some ((expectWord word tokens).map fun rest => (.literal, rest))
  | some (.pattern pattern) => some (parsePattern name pattern tokens)
  | some (.sequence elements) =>
    (parseElements parse elements tokens).map fun
      | .error failure => .error failure
      | .ok (members, rest) => .ok (.fields members, rest)
  | some (.alternation alternatives) => parseAlternatives parse [] alternatives tokens

/-- Read a rule through at most `depth` rules that refer to one another. -/
def parseRule : Nat → RuleReader
  | 0 => fun _ _ => none
  | depth + 1 => parseRuleWith grammar (parseRule depth)

/-- A depth of references that suffices unless a rule calls itself before it has read a word: each
rule can be in progress once for each number of words left. -/
def depthBound (tokens : List Token) : Nat :=
  grammar.rules.size * (tokens.length + 1) + 1

/-! ## Texts -/

/-- Why the repetition that ends a sequence rule went no further. -/
def stoppedRepetition? (start : String) (tokens : List Token) : Option SyntaxError :=
  match grammar.rule? start with
  | some (.sequence elements) =>
    match elements.getLast? with
    | some (.ref rule times) =>
      if times = .zeroOrMore ∨ times = .oneOrMore then
        match parseRule grammar (depthBound grammar tokens) rule tokens with
        | none => some .endless
        | some (.error failure) => some failure
        | some (.ok _) => none
      else none
    | _ => none
  | _ => none

/-- Read a whole text as `start`. -/
def parse (start : String) (tokens : List Token) : Except SyntaxError Node :=
  match parseRule grammar (depthBound grammar tokens) start tokens with
  | none => .error .endless
  | some (.error failure) => .error failure
  | some (.ok (node, [])) => .ok node
  | some (.ok (_, token :: rest)) =>
    match stoppedRepetition? grammar start (token :: rest) with
    | some cause => .error (.stopped token.line cause)
    | none => .error (.trailing token.line)

end Grammar

end AdapterWiring
