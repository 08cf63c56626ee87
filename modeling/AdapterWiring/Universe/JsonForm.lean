import AdapterWiring.Json.Reader
import AdapterWiring.Json.Form
import AdapterWiring.Universe.Basic

/-!
# Universe documents

A universe document is a record of classes; a class, a field and a method are
records as well. All members may be missing except the type of a field and
what a method returns.

* **ofJson?, toJson** — the JSON form of classes.
* **ofText** — the universe of a document.
-/

namespace AdapterWiring

namespace FieldDeclaration

/-- The JSON form. -/
def toJson (declaration : FieldDeclaration) : Json :=
  .record [("type", .text declaration.type), ("static", .bool declaration.isStatic)]

/-- Read the JSON form. -/
def ofJson? (value : Json) : Option FieldDeclaration := do
  let record ← value.record? ["type", "static"]
  return ⟨← record.required "type" Json.text?, ← record.withDefault "static" false Json.bool?⟩

end FieldDeclaration

namespace MethodDeclaration

/-- The JSON form. -/
def toJson (declaration : MethodDeclaration) : Json :=
  .record [("returns", .text declaration.returns), ("static", .bool declaration.isStatic),
    ("params", .ofList .text declaration.parameters)]

/-- Read the JSON form. -/
def ofJson? (value : Json) : Option MethodDeclaration := do
  let record ← value.record? ["returns", "static", "params"]
  return ⟨← record.required "returns" Json.text?, ← record.withDefault "static" false Json.bool?,
    ← record.withDefault "params" [] (Json.list? Json.text?)⟩

end MethodDeclaration

namespace ClassDeclaration

/-- The JSON form. -/
def toJson (declaration : ClassDeclaration) : Json :=
  .record [("supertypes", .ofList .text declaration.supertypes),
    ("fields", .ofNameMap FieldDeclaration.toJson declaration.fields),
    ("methods", .ofNameMap MethodDeclaration.toJson declaration.methods),
    ("constructors", .ofList (.ofList .text) declaration.constructors),
    ("adapter", .bool declaration.isAdapter)]

/-- Read the JSON form. -/
def ofJson? (value : Json) : Option ClassDeclaration := do
  let record ← value.record? ["supertypes", "fields", "methods", "constructors", "adapter"]
  return ⟨← record.withDefault "supertypes" [] (Json.list? Json.text?),
    ← record.withDefault "fields" ∅ (Json.nameMap? FieldDeclaration.ofJson?),
    ← record.withDefault "methods" ∅ (Json.nameMap? MethodDeclaration.ofJson?),
    ← record.withDefault "constructors" [] (Json.list? (Json.list? Json.text?)),
    ← record.withDefault "adapter" false Json.bool?⟩

end ClassDeclaration

namespace Universe

/-- Read the classes of a document. -/
def classesOfJson? (value : Json) : Option (NameMap ClassDeclaration) := do
  let record ← value.record? ["classes"]
  record.withDefault "classes" ∅ (Json.nameMap? ClassDeclaration.ofJson?)

/-- The JSON form of a document. -/
def classesToJson (classes : NameMap ClassDeclaration) : Json :=
  .record [("classes", .ofNameMap ClassDeclaration.toJson classes)]

/-- The universe of a document. -/
def ofJson (value : Json) : Except UniverseError Universe :=
  match classesOfJson? value with
  | none => .error .malformed
  | some classes => ofClasses classes

/-- The universe of the text of a document. -/
def ofText (text : String) : Except UniverseError Universe :=
  match Json.parse? text with
  | none => .error .malformed
  | some value => ofJson value

end Universe

end AdapterWiring
