import AdapterWiring.Adapter.Cycle
import AdapterWiring.Adapter.Resolution
import AdapterWiring.Json.Form

/-!
# The JSON form of adapters

A library is a record of its descriptors by name and its precedence; a
precedence is an object of name lists; a verdict is a record with its kind in
the member `verdict`.
-/

namespace AdapterWiring

namespace Descriptor

/-- The JSON form. -/
def toJson (adapter : Descriptor) : Json :=
  .record [("name", .text adapter.name), ("adapts_from", .ofNames adapter.adaptsFrom),
    ("adapts_to", .ofList .ofNames adapter.adaptsTo)]

/-- Read the JSON form. -/
def ofJson? (value : Json) : Option Descriptor := do
  let record ← value.record? ["name", "adapts_from", "adapts_to"]
  return ⟨← record.required "name" Json.text?, ← record.required "adapts_from" Json.names?,
    ← record.required "adapts_to" (Json.list? Json.names?)⟩

end Descriptor

namespace Precedence

/-- The JSON form. -/
def toJson (precedence : Precedence) : Json := .ofNameMap .ofNames precedence.highers

/-- Read the JSON form. -/
def ofJson? (value : Json) : Option Precedence := (value.nameMap? Json.names?).map (⟨·⟩)

end Precedence

namespace Library

/-- The JSON form. -/
def toJson (library : Library) : Json :=
  .record [("adapters", .ofNameMap Descriptor.toJson library.adapters),
    ("precedence", library.precedence.toJson)]

/-- Read the JSON form; a missing precedence is an empty one. -/
def ofJson? (value : Json) : Option Library := do
  let record ← value.record? ["adapters", "precedence"]
  return ⟨← record.required "adapters" (Json.nameMap? Descriptor.ofJson?),
    ← record.withDefault "precedence" .none Precedence.ofJson?⟩

end Library

namespace Verdict

/-- The JSON form. -/
def toJson : Verdict → Json
  | resolved adapter => .record [("verdict", .text "resolved"), ("adapter", .text adapter)]
  | ambiguous candidates =>
    .record [("verdict", .text "ambiguous"), ("candidates", .ofNames candidates)]
  | notFound => .record [("verdict", .text "not_found")]
  | cyclicPrecedence involved =>
    .record [("verdict", .text "cyclic_precedence"), ("involved", .ofNames involved)]

/-- Read the JSON form. -/
def ofJson? (value : Json) : Option Verdict := do
  match ← value.tagged? "verdict"
      ["resolved", "ambiguous", "not_found", "cyclic_precedence"] false with
  | ("resolved", content) =>
    let record ← content.record? ["adapter"]
    return .resolved (← record.required "adapter" Json.text?)
  | ("ambiguous", content) =>
    let record ← content.record? ["candidates"]
    return .ambiguous (← record.required "candidates" Json.names?)
  | ("cyclic_precedence", content) =>
    let record ← content.record? ["involved"]
    return .cyclicPrecedence (← record.required "involved" Json.names?)
  | (_, content) =>
    content.noMembers?
    return .notFound

end Verdict

/-- The JSON form of a cycle. -/
def Cycle.toJson (cycle : Cycle) : Json := .record [("members", .ofList .text cycle.members)]

end AdapterWiring
