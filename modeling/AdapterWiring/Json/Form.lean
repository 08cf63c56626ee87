import AdapterWiring.Json.Value
import AdapterWiring.NameMap

/-!
# JSON forms

How values of other types are read from JSON.

* **text?, bool?, line?, list?, names?, nameMap?** — the simple forms.
* **Record** — the members of a record with known names. A record is an object,
  whose further members do not count, or an array of its values in order.
* **tagged?** — a record one of whose members tells which of several kinds it
  is.
-/

namespace AdapterWiring.Json

/-! ## Simple forms -/

/-- The text of a string. -/
def text? : Json → Option String
  | .string content => content.text?
  | _ => none

/-- A truth value. -/
def bool? : Json → Option Bool
  | .bool value => some value
  | _ => none

/-- A line number: an integer literal below 2^32. -/
def line? : Json → Option UInt32
  | .number literal => do
    let value ← natOfLiteral? literal
    if value < UInt32.size then some (UInt32.ofNat value) else none
  | _ => none

/-- The items of an array, each read by `item?`. -/
def list? {α : Type} (item? : Json → Option α) : Json → Option (List α)
  | .array items => items.mapM item?
  | _ => none

/-- A set of names, given as an array in any order and with any repetitions. -/
def names? (value : Json) : Option NameSet := (list? text? value).map NameSet.ofList

/-- A map keyed by name; the last member under a name wins. -/
def nameMap? {α : Type} (item? : Json → Option α) : Json → Option (NameMap α)
  | .object members => do
    let entries ← members.mapM fun (name, value) => do return (← name.text?, ← item? value)
    return NameMap.ofList entries
  | _ => none

/-- A line number as a value. -/
def ofLine (line : UInt32) : Json := ofNat line.toNat

/-- A list as an array. -/
def ofList {α : Type} (item : α → Json) (items : List α) : Json := .array (items.map item)

/-- A set of names as an array in their order. -/
def ofNames (names : NameSet) : Json := .array (names.toList.map text)

/-- A map keyed by name as an object. -/
def ofNameMap {α : Type} (item : α → Json) (map : NameMap α) : Json :=
  record (map.entries.map fun (name, value) => (name, item value))

/-! ## Records -/

/-- The members of a record. -/
structure Record where
  /-- The members with known names, by name. -/
  members : List (String × Json)
  /-- Whether the values were given in order, without names. -/
  positional : Bool

/-- Whether no element of a list occurs twice. -/
def allDistinct : List String → Bool
  | [] => true
  | name :: rest => !rest.contains name && allDistinct rest

/-- A record with the given names. A name must be a text, and a known one may not be repeated; an
array may end early but holds no more values than there are names. -/
def record? (names : List String) : Json → Option Record
  | .object members => do
    let named ← members.mapM fun (name, value) => do return (← name.text?, value)
    let known := named.filter fun (name, _) => names.contains name
    if allDistinct (known.map Prod.fst) then some ⟨known, false⟩ else none
  | .array items =>
    if items.length ≤ names.length then some ⟨names.zip items, true⟩ else none
  | _ => none

namespace Record

/-- A member that has to be there. -/
def required {α : Type} (record : Record) (name : String) (item? : Json → Option α) : Option α :=
  record.members.lookup name >>= item?

/-- A member that has a value of its own when it is missing. -/
def withDefault {α : Type} (record : Record) (name : String) (fallback : α)
    (item? : Json → Option α) : Option α :=
  match record.members.lookup name with
  | none => some fallback
  | some value => item? value

/-- A member that may be missing from an object, or be null. -/
def optional {α : Type} (record : Record) (name : String) (item? : Json → Option α) :
    Option (Option α) :=
  match record.members.lookup name with
  | none => if record.positional then none else some none
  | some .null => some none
  | some value => (item? value).map some

end Record

/-! ## Kinds -/

/-- The kind that a tag names; inside another tagged record its number among `kinds` does as
well. -/
def kind? (kinds : List String) (nested : Bool) : Json → Option String
  | .string content => do
    let name ← content.text?
    if kinds.contains name then some name else none
  | .number literal => if nested then (natOfLiteral? literal).bind (kinds[·]?) else none
  | _ => none

/-- The kind of a tagged record, with the record less its tag. In an array the tag comes first. -/
def tagged? (tag : String) (kinds : List String) (nested : Bool) :
    Json → Option (String × Json)
  | .object members => do
    let isTag (member : Str × Json) : Bool := member.1 == .text tag
    match members.filter isTag with
    | [(_, value)] =>
      return (← kind? kinds nested value, .object (members.filter fun member => !isTag member))
    | _ => none
  | .array (value :: rest) => do return (← kind? kinds nested value, .array rest)
  | _ => none

/-- The text of a kind that has no members: any record, but of arrays only the empty one. -/
def noMembers? : Json → Option Unit
  | .object _ => some ()
  | .array [] => some ()
  | _ => none

end AdapterWiring.Json
