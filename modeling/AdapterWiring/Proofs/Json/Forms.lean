import AdapterWiring.Adapter.JsonForm
import AdapterWiring.Declaration.JsonForm
import AdapterWiring.Diagnostic
import AdapterWiring.Proofs.Json.Respelling
import AdapterWiring.Universe.JsonForm

/-!
# JSON forms read back

What is written as JSON is read as it was, also with the members of its records
in another order and among members that a record does not know. For each form
its **parts** or its **respelling** tell which of its values are records
themselves; the names of a map are kept.

* **readsBack** — of each type that has a JSON form.
* **Diagnostic.sameObject_toSortedJson** — both forms of a diagnostic are one
  object.
* **Json.forms_read_back** — of all types that are read and written.
-/

namespace AdapterWiring

open Json

/-! ## Operands -/

namespace Origin

/-- The parts of the JSON form. -/
def parts : Parts := [("file", .keep), ("line", .keep)]

theorem readsBack : ReadsBack (.record parts) toJson ofJson? := by
  intro origin other respells
  obtain ⟨record, read, has⟩ := exists_record respells (List.Sublist.refl _) (by decide)
  have read : other.record? ["file", "line"] = some record := read
  have file : record.required "file" text? = some origin.file :=
    has.required readsBack_text (by simp)
  have line : record.required "line" line? = some origin.line :=
    has.required readsBack_line (by simp)
  simp [ofJson?, read, file, line]

end Origin

namespace ClassOperand

/-- The parts of the JSON form. -/
def parts : Parts := [("name", .keep), ("line", .keep)]

theorem readsBack : ReadsBack (.record parts) toJson ofJson? := by
  intro operand other respells
  obtain ⟨record, read, has⟩ := exists_record respells (List.Sublist.refl _) (by decide)
  have read : other.record? ["name", "line"] = some record := read
  have name : record.required "name" text? = some operand.name :=
    has.required readsBack_text (by simp [members])
  have line : record.required "line" line? = some operand.line :=
    has.required readsBack_line (by simp [members])
  simp [ofJson?, read, name, line]

end ClassOperand

namespace MemberOperand

/-- The parts of the JSON form. -/
def parts : Parts := [("class", .keep), ("member", .keep), ("line", .keep)]

theorem readsBack : ReadsBack (.record parts) toJson ofJson? := by
  intro operand other respells
  obtain ⟨record, read, has⟩ := exists_record respells (List.Sublist.refl _) (by decide)
  have read : other.record? ["class", "member", "line"] = some record := read
  have owner : record.required "class" text? = some operand.owner :=
    has.required readsBack_text (by simp [members])
  have member : record.required "member" text? = some operand.member :=
    has.required readsBack_text (by simp [members])
  have line : record.required "line" line? = some operand.line :=
    has.required readsBack_line (by simp [members])
  simp [ofJson?, read, owner, member, line]

end MemberOperand

/-! ## Clauses -/

namespace Target

/-- The spellings of the JSON form. -/
def respelling : Respelling := .tagged "kind" [("field", MemberOperand.parts)]

theorem readsBack (nested : Bool) : ReadsBack respelling toJson (ofJson? nested) := by
  rintro ⟨operand⟩ other respells
  obtain ⟨content, read, isOperand⟩ := exists_tagged_read respells rfl
    (by simp [MemberOperand.members]) MemberOperand.readsBack nested
  have read : other.tagged? "kind" ["field"] nested = some ("field", content) := read
  simp [ofJson?, read, isOperand]

end Target

namespace Source

/-- The spellings of the JSON form. -/
def respelling : Respelling :=
  .tagged "kind" [("field", MemberOperand.parts), ("new", ClassOperand.parts),
    ("call", MemberOperand.parts), ("single", ClassOperand.parts)]

theorem readsBack (nested : Bool) : ReadsBack respelling toJson (ofJson? nested) := by
  intro source other respells
  cases source with
  | field operand =>
    obtain ⟨content, read, isOperand⟩ := exists_tagged_read respells rfl
      (by simp [MemberOperand.members]) MemberOperand.readsBack nested
    have read : other.tagged? "kind" ["field", "new", "call", "single"] nested =
      some ("field", content) := read
    simp [ofJson?, read, isOperand]
  | fresh operand =>
    obtain ⟨content, read, isOperand⟩ := exists_tagged_read respells rfl
      (by simp [ClassOperand.members]) ClassOperand.readsBack nested
    have read : other.tagged? "kind" ["field", "new", "call", "single"] nested =
      some ("new", content) := read
    simp [ofJson?, read, isOperand]
  | call operand =>
    obtain ⟨content, read, isOperand⟩ := exists_tagged_read respells rfl
      (by simp [MemberOperand.members]) MemberOperand.readsBack nested
    have read : other.tagged? "kind" ["field", "new", "call", "single"] nested =
      some ("call", content) := read
    simp [ofJson?, read, isOperand]
  | single operand =>
    obtain ⟨content, read, isOperand⟩ := exists_tagged_read respells rfl
      (by simp [ClassOperand.members]) ClassOperand.readsBack nested
    have read : other.tagged? "kind" ["field", "new", "call", "single"] nested =
      some ("single", content) := read
    simp [ofJson?, read, isOperand]

end Source

/-! ## Declarations -/

namespace Association

/-- The parts of the JSON form. -/
def parts : Parts :=
  [("where_clause", Target.respelling), ("what_clause", Source.respelling),
    ("using", .record ClassOperand.parts), ("prov", .record Origin.parts)]

theorem members_sublist (association : Association) :
    (association.members.map Prod.fst).Sublist (parts.map Prod.fst) := by
  rcases association with ⟨_, _, _ | _, _⟩
  · show ["where_clause", "what_clause", "prov"].Sublist
      ["where_clause", "what_clause", "using", "prov"]
    decide
  · exact List.Sublist.refl _

theorem readsBack : ReadsBack (.record parts) toJson ofJson? := by
  intro association other respells
  obtain ⟨record, read, has⟩ := exists_record respells association.members_sublist (by decide)
  have read : other.record? ["where_clause", "what_clause", "using", "prov"] = some record := read
  have target : record.required "where_clause" (Target.ofJson? true) = some association.target :=
    has.required (Target.readsBack true) (by simp [members])
  have source : record.required "what_clause" (Source.ofJson? true) = some association.source :=
    has.required (Source.readsBack true) (by simp [members])
  have origin : record.required "prov" Origin.ofJson? = some association.origin :=
    has.required Origin.readsBack (by simp [members])
  have using? : record.optional "using" ClassOperand.ofJson? = some association.using? := by
    cases asked : association.using? with
    | none => exact has.optional_none (by simp [members, asked])
    | some adapter =>
      exact has.optional_some ClassOperand.readsBack (by simp [members, asked]) rfl
  simp [ofJson?, read, target, source, using?, origin]

end Association

namespace Ranking

/-- The parts of the JSON form. -/
def parts : Parts :=
  [("higher", .record ClassOperand.parts), ("lower", .record ClassOperand.parts),
    ("prov", .record Origin.parts)]

theorem readsBack : ReadsBack (.record parts) (fun ranking => .record ranking.members) ofJson? := by
  intro ranking other respells
  obtain ⟨record, read, has⟩ := exists_record respells (List.Sublist.refl _) (by decide)
  have read : other.record? ["higher", "lower", "prov"] = some record := read
  have higher : record.required "higher" ClassOperand.ofJson? = some ranking.higher :=
    has.required ClassOperand.readsBack (by simp [members])
  have lower : record.required "lower" ClassOperand.ofJson? = some ranking.lower :=
    has.required ClassOperand.readsBack (by simp [members])
  have origin : record.required "prov" Origin.ofJson? = some ranking.origin :=
    has.required Origin.readsBack (by simp [members])
  simp [ofJson?, read, higher, lower, origin]

end Ranking

namespace Declaration

/-- The spellings of the JSON form. -/
def respelling : Respelling :=
  .tagged "declaration" [("association", Association.parts), ("precedence", Ranking.parts)]

theorem readsBack : ReadsBack respelling toJson ofJson? := by
  intro declaration other respells
  cases declaration with
  | association declared =>
    have unnamed : "declaration" ∉ declared.members.map Prod.fst := fun isMember =>
      absurd (declared.members_sublist.subset isMember) (by decide)
    obtain ⟨content, read, isDeclared⟩ :=
      exists_tagged_read respells rfl unnamed Association.readsBack false
    have read : other.tagged? "declaration" ["association", "precedence"] false =
      some ("association", content) := read
    simp [ofJson?, read, isDeclared]
  | ranking declared =>
    obtain ⟨content, read, isDeclared⟩ := exists_tagged_read respells rfl
      (by simp [Ranking.members]) Ranking.readsBack false
    have read : other.tagged? "declaration" ["association", "precedence"] false =
      some ("precedence", content) := read
    simp [ofJson?, read, isDeclared]

end Declaration

/-! ## Adapters -/

namespace Descriptor

/-- The parts of the JSON form. -/
def parts : Parts := [("name", .keep), ("adapts_from", .keep), ("adapts_to", .items .keep)]

theorem readsBack : ReadsBack (.record parts) toJson ofJson? := by
  intro adapter other respells
  obtain ⟨record, read, has⟩ := exists_record respells (List.Sublist.refl _) (by decide)
  have read : other.record? ["name", "adapts_from", "adapts_to"] = some record := read
  have name : record.required "name" text? = some adapter.name :=
    has.required readsBack_text (by simp)
  have adaptsFrom : record.required "adapts_from" names? = some adapter.adaptsFrom :=
    has.required readsBack_names (by simp)
  have adaptsTo : record.required "adapts_to" (list? names?) = some adapter.adaptsTo :=
    has.required (readsBack_list readsBack_names) (by simp)
  simp [ofJson?, read, name, adaptsFrom, adaptsTo]

end Descriptor

namespace Precedence

/-- The spellings of the JSON form. -/
def respelling : Respelling := .map .keep

theorem readsBack : ReadsBack respelling toJson ofJson? := by
  intro precedence other respells
  have highers : other.nameMap? names? = some precedence.highers :=
    readsBack_map readsBack_names precedence.highers other respells
  simp [ofJson?, highers]

end Precedence

namespace Library

/-- The parts of the JSON form. -/
def parts : Parts :=
  [("adapters", .map (.record Descriptor.parts)), ("precedence", Precedence.respelling)]

theorem readsBack : ReadsBack (.record parts) toJson ofJson? := by
  intro library other respells
  obtain ⟨record, read, has⟩ := exists_record respells (List.Sublist.refl _) (by decide)
  have read : other.record? ["adapters", "precedence"] = some record := read
  have adapters : record.required "adapters" (nameMap? Descriptor.ofJson?) =
      some library.adapters :=
    has.required (readsBack_map Descriptor.readsBack) (by simp)
  have precedence : record.withDefault "precedence" .none Precedence.ofJson? =
      some library.precedence :=
    has.withDefault Precedence.readsBack (by simp)
  simp [ofJson?, read, adapters, precedence]

end Library

namespace Verdict

/-- The spellings of the JSON form. -/
def respelling : Respelling :=
  .tagged "verdict" [("resolved", [("adapter", .keep)]), ("ambiguous", [("candidates", .keep)]),
    ("not_found", []), ("cyclic_precedence", [("involved", .keep)])]

theorem readsBack : ReadsBack respelling toJson ofJson? := by
  intro verdict other respells
  cases verdict with
  | resolved adapter =>
    obtain ⟨content, record, read, readRecord, isAdapter⟩ :=
      exists_tagged_part respells rfl (by decide) readsBack_text false
    have read : other.tagged? "verdict" ["resolved", "ambiguous", "not_found", "cyclic_precedence"]
      false = some ("resolved", content) := read
    simp [ofJson?, read, readRecord, isAdapter]
  | ambiguous candidates =>
    obtain ⟨content, record, read, readRecord, areCandidates⟩ :=
      exists_tagged_part respells rfl (by decide) readsBack_names false
    have read : other.tagged? "verdict" ["resolved", "ambiguous", "not_found", "cyclic_precedence"]
      false = some ("ambiguous", content) := read
    simp [ofJson?, read, readRecord, areCandidates]
  | notFound =>
    obtain ⟨content, read, respells⟩ := exists_tagged respells rfl (by simp) false
    have read : other.tagged? "verdict" ["resolved", "ambiguous", "not_found", "cyclic_precedence"]
      false = some ("not_found", content) := read
    obtain ⟨_, _, members, rfl, _⟩ := exists_members respells
    have isRecord : (record members).noMembers? = some () := rfl
    simp [ofJson?, read, isRecord]
  | cyclicPrecedence involved =>
    obtain ⟨content, record, read, readRecord, areInvolved⟩ :=
      exists_tagged_part respells rfl (by decide) readsBack_names false
    have read : other.tagged? "verdict" ["resolved", "ambiguous", "not_found", "cyclic_precedence"]
      false = some ("cyclic_precedence", content) := read
    simp [ofJson?, read, readRecord, areInvolved]

end Verdict

/-! ## Diagnostics -/

namespace Severity

theorem readsBack : ReadsBack .keep (fun severity => text severity.name) ofJson? := by
  rintro (_ | _) _ rfl
  · rfl
  · rfl

end Severity

namespace Diagnostic

/-- The parts of the JSON form. -/
def parts : Parts := [("severity", .keep), ("file", .keep), ("line", .keep), ("message", .keep)]

theorem readsBack : ReadsBack (.record parts) toJson ofJson? := by
  intro diagnostic other respells
  obtain ⟨record, read, has⟩ := exists_record respells (List.Sublist.refl _) (by decide)
  have read : other.record? ["severity", "file", "line", "message"] = some record := read
  have severity : record.required "severity" Severity.ofJson? = some diagnostic.severity :=
    has.required Severity.readsBack (by simp)
  have file : record.required "file" text? = some diagnostic.file :=
    has.required readsBack_text (by simp)
  have line : record.required "line" line? = some diagnostic.line :=
    has.required readsBack_line (by simp)
  have message : record.required "message" text? = some diagnostic.message :=
    has.required readsBack_text (by simp)
  simp [ofJson?, read, severity, file, line, message]

/-- Both forms are the same object. -/
theorem sameObject_toSortedJson (diagnostic : Diagnostic) :
    SameObject diagnostic.toJson diagnostic.toSortedJson := by
  refine ⟨_, _, rfl, rfl, by simp, ?_⟩
  -- only the severity stands elsewhere
  exact List.perm_append_singleton _ [_, _, _]

end Diagnostic

/-! ## Universes -/

namespace FieldDeclaration

/-- The parts of the JSON form. -/
def parts : Parts := [("type", .keep), ("static", .keep)]

theorem readsBack : ReadsBack (.record parts) toJson ofJson? := by
  intro declaration other respells
  obtain ⟨record, read, has⟩ := exists_record respells (List.Sublist.refl _) (by decide)
  have read : other.record? ["type", "static"] = some record := read
  have type : record.required "type" text? = some declaration.type :=
    has.required readsBack_text (by simp)
  have isStatic : record.withDefault "static" false bool? = some declaration.isStatic :=
    has.withDefault readsBack_bool (by simp)
  simp [ofJson?, read, type, isStatic]

end FieldDeclaration

namespace MethodDeclaration

/-- The parts of the JSON form. -/
def parts : Parts := [("returns", .keep), ("static", .keep), ("params", .items .keep)]

theorem readsBack : ReadsBack (.record parts) toJson ofJson? := by
  intro declaration other respells
  obtain ⟨record, read, has⟩ := exists_record respells (List.Sublist.refl _) (by decide)
  have read : other.record? ["returns", "static", "params"] = some record := read
  have returns : record.required "returns" text? = some declaration.returns :=
    has.required readsBack_text (by simp)
  have isStatic : record.withDefault "static" false bool? = some declaration.isStatic :=
    has.withDefault readsBack_bool (by simp)
  have parameters : record.withDefault "params" [] (list? text?) = some declaration.parameters :=
    has.withDefault (readsBack_list readsBack_text) (by simp)
  simp [ofJson?, read, returns, isStatic, parameters]

end MethodDeclaration

namespace ClassDeclaration

/-- The parts of the JSON form. -/
def parts : Parts :=
  [("supertypes", .items .keep), ("fields", .map (.record FieldDeclaration.parts)),
    ("methods", .map (.record MethodDeclaration.parts)), ("constructors", .items (.items .keep)),
    ("adapter", .keep)]

theorem readsBack : ReadsBack (.record parts) toJson ofJson? := by
  intro declaration other respells
  obtain ⟨record, read, has⟩ := exists_record respells (List.Sublist.refl _) (by decide)
  have read : other.record? ["supertypes", "fields", "methods", "constructors", "adapter"] =
    some record := read
  have supertypes : record.withDefault "supertypes" [] (list? text?) =
      some declaration.supertypes :=
    has.withDefault (readsBack_list readsBack_text) (by simp)
  have fields : record.withDefault "fields" ∅ (nameMap? FieldDeclaration.ofJson?) =
      some declaration.fields :=
    has.withDefault (readsBack_map FieldDeclaration.readsBack) (by simp)
  have methods : record.withDefault "methods" ∅ (nameMap? MethodDeclaration.ofJson?) =
      some declaration.methods :=
    has.withDefault (readsBack_map MethodDeclaration.readsBack) (by simp)
  have constructors : record.withDefault "constructors" [] (list? (list? text?)) =
      some declaration.constructors :=
    has.withDefault (readsBack_list (readsBack_list readsBack_text)) (by simp)
  have isAdapter : record.withDefault "adapter" false bool? = some declaration.isAdapter :=
    has.withDefault readsBack_bool (by simp)
  simp [ofJson?, read, supertypes, fields, methods, constructors, isAdapter]

end ClassDeclaration

namespace Universe

/-- The parts of the JSON form of a document. -/
def parts : Parts := [("classes", .map (.record ClassDeclaration.parts))]

theorem readsBack : ReadsBack (.record parts) classesToJson classesOfJson? := by
  intro classes other respells
  obtain ⟨record, read, has⟩ := exists_record respells (List.Sublist.refl _) (by decide)
  have read : other.record? ["classes"] = some record := read
  have isClasses : record.withDefault "classes" ∅ (nameMap? ClassDeclaration.ofJson?) =
      some classes :=
    has.withDefault (readsBack_map ClassDeclaration.readsBack) (by simp)
  simp [classesOfJson?, read, isClasses]

end Universe

/-! ## All forms -/

/-- What is written of any type that is read as well is read as it was, with the members of its
records in any order and others among them, at any depth; both forms of a diagnostic are the same
object. -/
theorem Json.forms_read_back :
    ReadsBack Declaration.respelling Declaration.toJson Declaration.ofJson? ∧
    ReadsBack Verdict.respelling Verdict.toJson Verdict.ofJson? ∧
    ReadsBack (.record Diagnostic.parts) Diagnostic.toJson Diagnostic.ofJson? ∧
    ReadsBack (.record Descriptor.parts) Descriptor.toJson Descriptor.ofJson? ∧
    ReadsBack Precedence.respelling Precedence.toJson Precedence.ofJson? ∧
    ReadsBack (.record Library.parts) Library.toJson Library.ofJson? ∧
    ReadsBack (.record Universe.parts) Universe.classesToJson Universe.classesOfJson? ∧
    ∀ diagnostic : Diagnostic, SameObject diagnostic.toJson diagnostic.toSortedJson :=
  ⟨Declaration.readsBack, Verdict.readsBack, Diagnostic.readsBack, Descriptor.readsBack,
    Precedence.readsBack, Library.readsBack, Universe.readsBack,
    Diagnostic.sameObject_toSortedJson⟩

/-- An association without an adapter is read from records with the members of each from the last to
the first, after one that is not known. -/
theorem Json.forms_read_back_reversed :
    let declaration : Declaration := .association ⟨.field ⟨"app.Main", "store", 1⟩,
      .fresh ⟨"app.Store", 2⟩, none, ⟨"main.spec", 1⟩⟩
    let target : Json := .record [("note", .null), ("line", .ofLine 1), ("member", .text "store"),
      ("class", .text "app.Main"), ("kind", .text "field")]
    let source : Json := .record [("note", .null), ("line", .ofLine 2), ("name", .text "app.Store"),
      ("kind", .text "new")]
    let origin : Json := .record [("note", .null), ("line", .ofLine 1), ("file", .text "main.spec")]
    let reversed : Json := .record [("note", .null), ("prov", origin), ("what_clause", source),
      ("where_clause", target), ("declaration", .text "association")]
    Declaration.respelling.Respells declaration.toJson reversed ∧
      Declaration.ofJson? reversed = some declaration := by
  intro declaration target source origin reversed
  have isTarget :
      Target.respelling.Respells (Target.field ⟨"app.Main", "store", 1⟩).toJson target :=
    .reverse [("kind", .text "field"), ("class", .text "app.Main"), ("member", .text "store"),
      ("line", .ofLine 1)] (.cons ⟨rfl, rfl⟩ <| .cons ⟨rfl, rfl⟩ <| .cons ⟨rfl, rfl⟩ <|
        .cons ⟨rfl, rfl⟩ .nil) ("note", .null) (by decide)
  have isSource : Source.respelling.Respells (Source.fresh ⟨"app.Store", 2⟩).toJson source :=
    .reverse [("kind", .text "new"), ("name", .text "app.Store"), ("line", .ofLine 2)]
      (.cons ⟨rfl, rfl⟩ <| .cons ⟨rfl, rfl⟩ <| .cons ⟨rfl, rfl⟩ .nil) ("note", .null) (by decide)
  have isOrigin :
      (Respelling.record Origin.parts).Respells (Origin.toJson ⟨"main.spec", 1⟩) origin :=
    .reverse [("file", .text "main.spec"), ("line", .ofLine 1)]
      (.cons ⟨rfl, rfl⟩ <| .cons ⟨rfl, rfl⟩ .nil) ("note", .null) (by decide)
  have respells : Declaration.respelling.Respells declaration.toJson reversed := by
    refine MembersRespelled.reverse [("declaration", .text "association"),
      ("where_clause", target), ("what_clause", source), ("prov", origin)] ?_ ("note", .null) ?_
    · exact .cons ⟨rfl, rfl⟩ <| .cons ⟨rfl, isTarget⟩ <| .cons ⟨rfl, isSource⟩ <|
        .cons ⟨rfl, isOrigin⟩ .nil
    · decide
  exact ⟨respells, Json.forms_read_back.1 declaration reversed respells⟩

end AdapterWiring
