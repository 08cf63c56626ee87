import AdapterWiring.Declaration.Basic
import AdapterWiring.Declaration.Language
import AdapterWiring.Grammar.Parse

/-!
# Reading declarations

The words of a specification are parsed with the grammar of declarations, and
each declaration is read off its tree.

* **ofNode** — the declaration of a tree.
* **ofTokens** — the declarations of a list of words.
* **ofText** — the declarations of a text.
-/

namespace AdapterWiring.Declaration

/-! ## Parts of a tree -/

/-- The tree of a reference. -/
def child (node : Node) (name : String) : Except SyntaxError Node :=
  match node.field? name with
  | some value => .ok value
  | none => .error (.malformed name)

/-- The word of a reference. -/
def leaf (node : Node) (name : String) : Except SyntaxError Token := do
  match (← child node name).token? with
  | some token => return token
  | none => throw (.malformed name)

/-- The class that a reference names. -/
def classOperand (node : Node) (name : String) : Except SyntaxError ClassOperand := do
  let token ← leaf node name
  return ⟨token.word, token.line⟩

/-- The member that a reference names. -/
def memberOperand (node : Node) (name : String) : Except SyntaxError MemberOperand := do
  let token ← leaf node name
  match MemberOperand.split? token.word token.line with
  | some operand => return operand
  | none => throw (.malformed name)

/-- A reversed word without the empty argument lists at its end. -/
def withoutArguments : List Char → List Char
  | ')' :: '(' :: rest => withoutArguments rest
  | other => other

/-- The method that a call names. -/
def calledMethod (node : Node) : Except SyntaxError MemberOperand := do
  let token ← leaf node "method-call"
  let name := String.ofList (withoutArguments token.word.toList.reverse).reverse
  match MemberOperand.split? name token.line with
  | some operand => return operand
  | none => throw (.malformed "method call")

/-! ## Declarations -/

/-- The target of a tree. -/
def targetOfNode (node : Node) : Except SyntaxError Target :=
  match node.choice? with
  | some ("where-clause-field", fields) => (memberOperand fields "field-name").map .field
  | _ => .error (.malformed "where clause")

/-- The source of a tree. -/
def sourceOfNode (node : Node) : Except SyntaxError Source :=
  match node.choice? with
  | some ("what-clause-field", fields) => (memberOperand fields "field-name").map .field
  | some ("what-clause-new", fields) => (classOperand fields "class-name").map .fresh
  | some ("what-clause-call", fields) => (calledMethod fields).map .call
  | some ("what-clause-single", fields) => (classOperand fields "class-name").map .single
  | _ => .error (.malformed "what clause")

/-- The association of a tree; it stands at the line of its target. -/
def associationOfNode (file : String) (node : Node) : Except SyntaxError Association := do
  let target ← targetOfNode (← child node "where-clause")
  let source ← sourceOfNode (← child node "what-clause")
  let clause ← child node "using-clause"
  let using? ← if clause.isAbsent then pure none else some <$> classOperand clause "adapter-name"
  return ⟨target, source, using?, ⟨file, target.line⟩⟩

/-- The ranking of a tree; it stands at the line of the preferred adapter. -/
def rankingOfNode (file : String) (node : Node) : Except SyntaxError Ranking := do
  let higher ← classOperand node "higher"
  let lower ← classOperand node "lower"
  return ⟨higher, lower, ⟨file, higher.line⟩⟩

/-- The declaration of a tree. -/
def ofNode (file : String) (node : Node) : Except SyntaxError Declaration :=
  match node.choice? with
  | some ("association", fields) => (associationOfNode file fields).map .association
  | some ("precedence", fields) => (rankingOfNode file fields).map .ranking
  | _ => .error (.malformed "declaration")

/-- The declarations of a list of words in a file. -/
def ofTokens (file : String) (tokens : List Token) : Except SyntaxError (List Declaration) := do
  let tree ← grammar.parse start tokens
  match tree.field? "declaration" with
  | some list => list.items.mapM (ofNode file)
  | none => throw (.malformed "declaration list")

/-- The declarations of a text in a file. -/
def ofText (file : String) (text : String) : Except SyntaxError (List Declaration) :=
  ofTokens file (Token.tokenize text)

end AdapterWiring.Declaration
