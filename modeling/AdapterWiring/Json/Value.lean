/-!
# JSON values

The value that a JSON document denotes, with what later stages still need of
its spelling: the order and repetition of object members, the literal of a
number, and strings whose escapes name no text.

* **Str** — a string, or the code values of one with an unpaired surrogate.
* **Json** — a value.
* **lastWins** — the value with only the last member under each name kept.
-/

namespace AdapterWiring

/-- The content of a JSON string. -/
inductive Json.Str where
  /-- A string of characters. -/
  | text (content : String)
  /-- Code values among which an escaped surrogate stands without its partner. -/
  | unpaired (units : List Nat)
deriving DecidableEq, Inhabited

/-- A JSON value. -/
inductive Json where
  /-- The literal `null`. -/
  | null
  /-- A truth value. -/
  | bool (value : Bool)
  /-- A number, by its literal. -/
  | number (literal : String)
  /-- A string. -/
  | string (content : Json.Str)
  /-- An array. -/
  | array (items : List Json)
  /-- An object: its members in the order of the text, repeated names included. -/
  | object (members : List (Json.Str × Json))
deriving Inhabited

namespace Json

/-- The text of a string without unpaired surrogates. -/
def Str.text? : Str → Option String
  | .text content => some content
  | .unpaired _ => none

/-- A string value. -/
def text (content : String) : Json := .string (.text content)

/-- An object with ordinary names. -/
def record (members : List (String × Json)) : Json :=
  .object (members.map fun (name, value) => (.text name, value))

/-- A natural number. -/
def ofNat (value : Nat) : Json := .number (toString value)

/-- The natural number that a literal of digits alone denotes. -/
def natOfLiteral? (literal : String) : Option Nat :=
  if literal.toList.isEmpty || literal.toList.any (fun c => !c.isDigit) then none
  else some (literal.toList.foldl (fun value c => 10 * value + (c.toNat - '0'.toNat)) 0)

/-- Keep of several members under one name the last, at the place of the first. -/
def putMember {α : Type} (name : Str) (value : α) : List (Str × α) → List (Str × α)
  | [] => [(name, value)]
  | head :: rest =>
    if head.1 = name then (name, value) :: rest else head :: putMember name value rest

mutual

/-- The value with, at every depth, only the last member under each name. -/
def lastWins : Json → Json
  | .array items => .array (lastWinsItems items)
  | .object members => .object (lastWinsMembers [] members)
  | other => other

/-- Array items, each with only the last member under each name. -/
def lastWinsItems : List Json → List Json
  | [] => []
  | item :: rest => lastWins item :: lastWinsItems rest

/-- Object members after those in `kept`, which they replace under their names. -/
def lastWinsMembers (kept : List (Str × Json)) : List (Str × Json) → List (Str × Json)
  | [] => kept
  | (name, value) :: rest => lastWinsMembers (putMember name (lastWins value) kept) rest

end

end Json

end AdapterWiring
