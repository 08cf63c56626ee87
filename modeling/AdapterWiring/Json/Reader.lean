import AdapterWiring.Json.Scanner

/-!
# Reading JSON

Lexemes are put together by a machine that keeps the containers in progress on
a stack, so texts may nest to any depth.

* **Frame** — a container in progress.
* **accept** — one lexeme.
* **parse?** — the value of a whole text.
-/

namespace AdapterWiring.Json

/-- A container in progress, what it holds so far in reverse. -/
inductive Frame where
  /-- An array. -/
  | array (items : List Json)
  /-- An object, in the member of the given name. -/
  | object (members : List (Str × Json)) (name : Str)

/-- What may come next. -/
inductive Expectation where
  /-- A value. -/
  | value
  /-- The first item of an array, or its end. -/
  | firstItem
  /-- The name of the first member of an object, or its end. -/
  | firstName
  /-- The name of a further member. -/
  | name (members : List (Str × Json))
  /-- The colon after a name. -/
  | colon (members : List (Str × Json)) (name : Str)
  /-- Whatever may follow a value that is complete. -/
  | after (value : Json)

/-- What is expected next, and the containers in progress, the innermost first. -/
structure Assembly where
  /-- What may come next. -/
  expected : Expectation
  /-- The containers in progress. -/
  stack : List Frame

namespace Assembly

/-- The start of a text. -/
def start : Assembly := ⟨.value, []⟩

/-- The start of a value. -/
def acceptValue (stack : List Frame) : Lexeme → Option Assembly
  | .openArray => some ⟨.firstItem, stack⟩
  | .openObject => some ⟨.firstName, stack⟩
  | .string content => some ⟨.after (.string content), stack⟩
  | .scalar value => some ⟨.after value, stack⟩
  | _ => none

/-- What follows a complete value. -/
def acceptAfter (value : Json) : List Frame → Lexeme → Option Assembly
  | .array items :: stack, .comma => some ⟨.value, .array (value :: items) :: stack⟩
  | .array items :: stack, .closeArray =>
    some ⟨.after (.array (value :: items).reverse), stack⟩
  | .object members name :: stack, .comma => some ⟨.name ((name, value) :: members), stack⟩
  | .object members name :: stack, .closeObject =>
    some ⟨.after (.object ((name, value) :: members).reverse), stack⟩
  | _, _ => none

/-- One lexeme. -/
def accept (assembly : Assembly) (lexeme : Lexeme) : Option Assembly :=
  match assembly.expected with
  | .value => acceptValue assembly.stack lexeme
  | .firstItem =>
    match lexeme with
    | .closeArray => some ⟨.after (.array []), assembly.stack⟩
    | _ => acceptValue (.array [] :: assembly.stack) lexeme
  | .firstName =>
    match lexeme with
    | .closeObject => some ⟨.after (.object []), assembly.stack⟩
    | .string name => some ⟨.colon [] name, assembly.stack⟩
    | _ => none
  | .name members =>
    match lexeme with
    | .string name => some ⟨.colon members name, assembly.stack⟩
    | _ => none
  | .colon members name =>
    match lexeme with
    | .colon => some ⟨.value, .object members name :: assembly.stack⟩
    | _ => none
  | .after value => acceptAfter value assembly.stack lexeme

end Assembly

/-- One character of a text. -/
def readChar (state : Mode × Assembly) (c : Char) : Option (Mode × Assembly) := do
  let (mode, lexemes) ← step state.1 c
  let assembly ← lexemes.foldlM Assembly.accept state.2
  return (mode, assembly)

/-- The value of a JSON text, if it is one. -/
def parse? (text : String) : Option Json := do
  let (mode, assembly) ← text.toList.foldlM readChar (.gap, Assembly.start)
  let last ← (← finish mode).foldlM Assembly.accept assembly
  match last with
  | ⟨.after value, []⟩ => some value
  | _ => none

end AdapterWiring.Json
