import AdapterWiring.Declaration.Basic
import AdapterWiring.Json.Form

/-!
# The JSON form of declarations

A clause is the record of its operand with its kind in the member `kind`; a
declaration is the record of its parts with its kind in the member
`declaration`.
-/

namespace AdapterWiring

/-- The members of a record that starts with a tag. -/
def Json.withTag (tag kind : String) (members : List (String × Json)) : Json :=
  .record ((tag, .text kind) :: members)

namespace Origin

/-- The JSON form. -/
def toJson (origin : Origin) : Json :=
  .record [("file", .text origin.file), ("line", .ofLine origin.line)]

/-- Read the JSON form. -/
def ofJson? (value : Json) : Option Origin := do
  let record ← value.record? ["file", "line"]
  return ⟨← record.required "file" Json.text?, ← record.required "line" Json.line?⟩

end Origin

namespace ClassOperand

/-- The members of the JSON form. -/
def members (operand : ClassOperand) : List (String × Json) :=
  [("name", .text operand.name), ("line", .ofLine operand.line)]

/-- The JSON form. -/
def toJson (operand : ClassOperand) : Json := .record operand.members

/-- Read the JSON form. -/
def ofJson? (value : Json) : Option ClassOperand := do
  let record ← value.record? ["name", "line"]
  return ⟨← record.required "name" Json.text?, ← record.required "line" Json.line?⟩

end ClassOperand

namespace MemberOperand

/-- The members of the JSON form. -/
def members (operand : MemberOperand) : List (String × Json) :=
  [("class", .text operand.owner), ("member", .text operand.member),
    ("line", .ofLine operand.line)]

/-- The JSON form. -/
def toJson (operand : MemberOperand) : Json := .record operand.members

/-- Read the JSON form. -/
def ofJson? (value : Json) : Option MemberOperand := do
  let record ← value.record? ["class", "member", "line"]
  return ⟨← record.required "class" Json.text?, ← record.required "member" Json.text?,
    ← record.required "line" Json.line?⟩

end MemberOperand

namespace Target

/-- The JSON form. -/
def toJson : Target → Json
  | field operand => .withTag "kind" "field" operand.members

/-- Read the JSON form, inside a declaration or by itself. -/
def ofJson? (nested : Bool) (value : Json) : Option Target := do
  let (_, content) ← value.tagged? "kind" ["field"] nested
  field <$> MemberOperand.ofJson? content

end Target

namespace Source

/-- The JSON form. -/
def toJson : Source → Json
  | field operand => .withTag "kind" "field" operand.members
  | fresh operand => .withTag "kind" "new" operand.members
  | call operand => .withTag "kind" "call" operand.members
  | single operand => .withTag "kind" "single" operand.members

/-- Read the JSON form, inside a declaration or by itself. -/
def ofJson? (nested : Bool) (value : Json) : Option Source := do
  match ← value.tagged? "kind" ["field", "new", "call", "single"] nested with
  | ("field", content) => field <$> MemberOperand.ofJson? content
  | ("new", content) => fresh <$> ClassOperand.ofJson? content
  | ("call", content) => call <$> MemberOperand.ofJson? content
  | (_, content) => single <$> ClassOperand.ofJson? content

end Source

namespace Association

/-- The members of the JSON form; there is none for an adapter that is not asked for. -/
def members (association : Association) : List (String × Json) :=
  [("where_clause", association.target.toJson), ("what_clause", association.source.toJson)] ++
    (association.using?.map fun adapter => ("using", adapter.toJson)).toList ++
    [("prov", association.origin.toJson)]

/-- The JSON form. -/
def toJson (association : Association) : Json := .record association.members

/-- Read the JSON form. -/
def ofJson? (value : Json) : Option Association := do
  let record ← value.record? ["where_clause", "what_clause", "using", "prov"]
  return ⟨← record.required "where_clause" (Target.ofJson? true),
    ← record.required "what_clause" (Source.ofJson? true),
    ← record.optional "using" ClassOperand.ofJson?, ← record.required "prov" Origin.ofJson?⟩

end Association

namespace Ranking

/-- The members of the JSON form. -/
def members (ranking : Ranking) : List (String × Json) :=
  [("higher", ranking.higher.toJson), ("lower", ranking.lower.toJson),
    ("prov", ranking.origin.toJson)]

/-- Read the JSON form. -/
def ofJson? (value : Json) : Option Ranking := do
  let record ← value.record? ["higher", "lower", "prov"]
  return ⟨← record.required "higher" ClassOperand.ofJson?,
    ← record.required "lower" ClassOperand.ofJson?, ← record.required "prov" Origin.ofJson?⟩

end Ranking

namespace Declaration

/-- The JSON form. -/
def toJson : Declaration → Json
  | association declared => .withTag "declaration" "association" declared.members
  | ranking declared => .withTag "declaration" "precedence" declared.members

/-- Read the JSON form. -/
def ofJson? (value : Json) : Option Declaration := do
  match ← value.tagged? "declaration" ["association", "precedence"] false with
  | ("association", content) => association <$> Association.ofJson? content
  | (_, content) => ranking <$> Ranking.ofJson? content

end Declaration

end AdapterWiring
