import AdapterWiring.Grammar.Node
import AdapterWiring.Json.Form

/-!
# The JSON form of parse trees

A tree is a record with its kind in the member `kind` and its content, if it
has any, in the member `value`.
-/

namespace AdapterWiring

/-- The JSON form of a token. -/
def Token.toJson (token : Token) : Json :=
  .record [("word", .text token.word), ("line", .ofLine token.line)]

namespace Node

mutual

/-- The JSON form. -/
def toJson : Node → Json
  | literal => .record [("kind", .text "literal")]
  | token word => .record [("kind", .text "token"), ("value", word.toJson)]
  | fields members => .record [("kind", .text "fields"), ("value", .record (membersToJson members))]
  | choice rule value =>
    .record [("kind", .text "choice"),
      ("value", .record [("rule", .text rule), ("value", toJson value)])]
  | list items => .record [("kind", .text "list"), ("value", .array (itemsToJson items))]
  | absent => .record [("kind", .text "absent")]

/-- The JSON forms of the trees of a sequence. -/
def membersToJson : List (String × Node) → List (String × Json)
  | [] => []
  | (name, node) :: rest => (name, toJson node) :: membersToJson rest

/-- The JSON forms of the trees of a repetition. -/
def itemsToJson : List Node → List Json
  | [] => []
  | node :: rest => toJson node :: itemsToJson rest

end

end Node

end AdapterWiring
