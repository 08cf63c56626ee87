import AdapterWiring.Text.Token

/-!
# Parse trees

The tree of a successful parse; its shape follows the kinds of the rules.

* **Node** — a tree.
* **field?, token?, choice?, items, isAbsent** — the parts of a tree.
-/

namespace AdapterWiring

/-- The tree of a successful parse. -/
inductive Node where
  /-- A literal rule matched; there is nothing more to say. -/
  | literal
  /-- The word that a pattern rule matched. -/
  | token (token : Token)
  /-- The references of a sequence, each with its tree, in the order of the sequence. -/
  | fields (members : List (String × Node))
  /-- The alternative that matched, with its tree. -/
  | choice (rule : String) (value : Node)
  /-- The matches of a repeated reference. -/
  | list (items : List Node)
  /-- An optional reference that did not match. -/
  | absent
deriving Inhabited

namespace Node

/-- The tree of a reference of a sequence. -/
def field? (node : Node) (name : String) : Option Node :=
  match node with
  | fields members => members.lookup name
  | _ => none

/-- The word of a pattern rule. -/
def token? : Node → Option Token
  | token word => some word
  | _ => none

/-- The alternative that matched, with its tree. -/
def choice? : Node → Option (String × Node)
  | choice rule value => some (rule, value)
  | _ => none

/-- The matches of a repeated reference; nothing for other trees. -/
def items : Node → List Node
  | list items => items
  | _ => []

/-- Whether the tree is that of an optional reference that did not match. -/
def isAbsent : Node → Bool
  | absent => true
  | _ => false

end Node

end AdapterWiring
