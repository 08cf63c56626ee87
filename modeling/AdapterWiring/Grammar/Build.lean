import AdapterWiring.Grammar.Rule

/-!
# Building a grammar

A list of definitions becomes a grammar when no name is defined twice, every
pattern can be read, every reference names a definition, and no sequence
refers to one rule twice.

* **GrammarError** — why a list of definitions is no grammar.
* **build** — a repeated name is reported before anything else; otherwise the
  first definition with a fault decides.
* **Call, ofCalls** — the definitions as one writes them, the elements of
  sequences in the compact form.
-/

namespace AdapterWiring

/-- Why definitions do not make a grammar. -/
inductive GrammarError where
  /-- A rule refers to a name without a definition. -/
  | unknownRule (rule missing : String)
  /-- A name has two definitions. -/
  | duplicateRule (rule : String)
  /-- The pattern of a rule cannot be read. -/
  | invalidPattern (rule : String)
  /-- A sequence refers to a rule twice. -/
  | repeatedReference (rule reference : String)
deriving DecidableEq, Inhabited

/-- The wording of an error. -/
def GrammarError.message : GrammarError → String
  | unknownRule rule missing => "rule '" ++ rule ++ "' references unknown rule '" ++ missing ++ "'"
  | duplicateRule rule => "rule '" ++ rule ++ "' is defined twice"
  | invalidPattern rule => "rule '" ++ rule ++ "' has an invalid pattern"
  | repeatedReference rule reference =>
    "rule '" ++ rule ++ "' references '" ++ reference ++ "' more than once"

namespace Grammar

/-- The first name of a list that occurs before in it or in `seen`. -/
def firstRepeated? (seen : NameSet) : List String → Option String
  | [] => none
  | name :: rest => if name ∈ seen then some name else firstRepeated? (seen.insert name) rest

/-- Check that a name is defined. -/
def checkReference (names : NameSet) (rule reference : String) : Except GrammarError Unit :=
  if reference ∈ names then .ok () else .error (.unknownRule rule reference)

/-- Check the references of a sequence: each is defined and none is in `seen` or repeated. -/
def checkSequence (names : NameSet) (rule : String) (seen : NameSet) :
    List String → Except GrammarError Unit
  | [] => .ok ()
  | reference :: rest => do
    checkReference names rule reference
    if reference ∈ seen then throw (.repeatedReference rule reference)
    checkSequence names rule (seen.insert reference) rest

/-- The rule of a definition among definitions of the given names. -/
def compileRule (names : NameSet) (name : String) : Definition → Except GrammarError Rule
  | .literal word => .ok (.literal word)
  | .pattern source =>
    match Pattern.compile? source with
    | some pattern => .ok (.pattern pattern)
    | none => .error (.invalidPattern name)
  | .sequence elements => do
    checkSequence names name ∅ (elements.filterMap Element.reference?)
    return .sequence elements
  | .alternation alternatives => do
    alternatives.forM (checkReference names name)
    return .alternation alternatives

/-- The grammar of a list of definitions. -/
def build (definitions : List (String × Definition)) : Except GrammarError Grammar :=
  match firstRepeated? ∅ (definitions.map Prod.fst) with
  | some name => .error (.duplicateRule name)
  | none => do
    let names := NameSet.ofList (definitions.map Prod.fst)
    let rules ← definitions.mapM fun (name, definition) =>
      (compileRule names name definition).map ((name, ·))
    return ⟨NameMap.ofList rules⟩

/-- The definition of a rule, with the elements of a sequence in the compact form. -/
inductive Call where
  /-- A given word. -/
  | literal (name word : String)
  /-- A word that matches a pattern. -/
  | pattern (name source : String)
  /-- Several elements in a row. -/
  | sequence (name : String) (specs : List String)
  /-- The first of several rules that matches. -/
  | alternation (name : String) (alternatives : List String)
deriving DecidableEq, Inhabited

namespace Call

/-- The name that is defined. -/
def name : Call → String
  | literal name _ | pattern name _ | sequence name _ | alternation name _ => name

/-- What the name is defined as. -/
def definition : Call → Definition
  | literal _ word => .literal word
  | pattern _ source => .pattern source
  | sequence _ specs => .sequence (specs.map Element.parse)
  | alternation _ alternatives => .alternation alternatives

end Call

/-- The grammar of a list of calls. -/
def ofCalls (calls : List Call) : Except GrammarError Grammar :=
  build (calls.map fun call => (call.name, call.definition))

end Grammar

end AdapterWiring
