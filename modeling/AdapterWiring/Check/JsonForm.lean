import AdapterWiring.Check.Checker
import AdapterWiring.Declaration.JsonForm

/-!
# The JSON form of reports

A wired association is a record that ends with its wiring, the adapter of
which follows it if there is one.
-/

namespace AdapterWiring

/-- The members of the JSON form of a wiring. -/
def Wiring.members : Wiring → List (String × Json)
  | direct => [("wiring", .text "direct")]
  | explicit adapter => [("wiring", .text "explicit"), ("adapter", .text adapter)]
  | resolved adapter => [("wiring", .text "resolved"), ("adapter", .text adapter)]

/-- The JSON form of a wired association. -/
def WiredAssociation.toJson (wired : WiredAssociation) : Json :=
  .record ([("association", wired.association.toJson), ("where_type", .text wired.targetType),
    ("what_type", .text wired.sourceType)] ++ wired.wiring.members)

/-- The JSON form of a report. -/
def Report.toJson (report : Report) : Json :=
  .record [("associations", .ofList WiredAssociation.toJson report.associations),
    ("diagnostics", .ofList Diagnostic.toJson report.diagnostics)]

end AdapterWiring
