import AdapterWiring.Pattern.Escape

/-!
# Classes

A class in brackets lists characters, ranges, sets and further classes, and may
combine two sides by an operator.

* **ClassItem** — a part of a class.
* **ClassFrame** — a class in progress.
* **class?** — the reader of a class.
-/

namespace AdapterWiring.Pattern

/-- A part of a class. -/
structure ClassItem where
  /-- The characters. -/
  set : CharSet
  /-- The depth of the parts inside it. -/
  height : Nat

/-- How the two sides of a class operator are combined. -/
inductive ClassOperator where
  /-- `&&` -/
  | inter
  /-- `--` -/
  | diff
  /-- `~~` -/
  | symmDiff

namespace ClassOperator

/-- The set that an operator makes of its two sides. -/
def apply : ClassOperator → CharSet → CharSet → CharSet
  | inter => .inter
  | diff => .diff
  | symmDiff => .symmDiff

/-- An operator at the start of a text: a sign that stands twice. -/
def read? : List Char → Option (ClassOperator × List Char)
  | '&' :: '&' :: rest => some (inter, rest)
  | '-' :: '-' :: rest => some (diff, rest)
  | '~' :: '~' :: rest => some (symmDiff, rest)
  | _ => none

end ClassOperator

/-- A class in progress. -/
structure ClassFrame where
  /-- Whether the class is the complement of what it lists. -/
  negated : Bool
  /-- The side before the last operator, with that operator. -/
  side : Option (ClassItem × ClassOperator)
  /-- The parts since then, as one set. -/
  items : CharSet
  /-- The number of those parts. -/
  count : Nat
  /-- The greatest of their depths. -/
  height : Nat

namespace ClassFrame

/-- A class without parts. -/
def start (negated : Bool) : ClassFrame := ⟨negated, none, .none, 0, 0⟩

/-- The class with one more part. -/
def add (frame : ClassFrame) (item : ClassItem) : ClassFrame :=
  { frame with
    items := .union frame.items item.set
    count := frame.count + 1
    height := max frame.height item.height }

/-- What the class lists since its last operator. Two parts or more are one level deeper. -/
def union (frame : ClassFrame) : ClassItem :=
  ⟨frame.items, if 1 < frame.count then frame.height + 1 else frame.height⟩

/-- What the class lists. An operator sees the case variants of its sides. -/
def sides (flags : Flags) (frame : ClassFrame) : ClassItem :=
  match frame.side with
  | none => frame.union
  | some (left, operator) =>
    ⟨operator.apply (flags.fold left.set) (flags.fold frame.union.set),
      max left.height frame.union.height + 1⟩

/-- The class after an operator. -/
def operate (flags : Flags) (frame : ClassFrame) (operator : ClassOperator) : ClassFrame :=
  { start frame.negated with side := some (frame.sides flags, operator) }

/-- The complete class. -/
def close? (flags : Flags) (frame : ClassFrame) : Option ClassItem :=
  (flags.negate? frame.negated (flags.fold (frame.sides flags).set)).map
    (⟨·, (frame.sides flags).height + 1⟩)

end ClassFrame

/-- The start of a class after its bracket: a complement sign, at most a number of hyphens that
stand for themselves, and without these a closing bracket that stands for itself. -/
def openClass (flags : Flags) (most : Nat) (text : List Char) : ClassFrame × List Char :=
  let (negated, text) := match flags.skip text with
    | '^' :: rest => (true, flags.skip rest)
    | other => (false, other)
  let frame := ClassFrame.start negated
  match flags.gather (· = '-') most text with
  | ([], ']' :: rest) => (frame.add ⟨.single ']', 0⟩, rest)
  | (hyphens, rest) => (hyphens.foldl (fun frame c => frame.add ⟨.single c, 0⟩) frame, rest)

/-- The name of an ASCII set, after its opening bracket: whether the complement is meant, and the
set. -/
def namedClass? : List Char → Option ((Bool × CharSet) × List Char)
  | ':' :: inner =>
    let name := inner.takeWhile (· ≠ ':')
    match inner.dropWhile (· ≠ ':') with
    | ':' :: ']' :: rest =>
      match name with
      | '^' :: name => (CharSet.ascii? (String.ofList name)).map fun set => ((true, set), rest)
      | name => (CharSet.ascii? (String.ofList name)).map fun set => ((false, set), rest)
    | _ => none
  | _ => none

/-- One end of a range, or a part that stands alone. -/
def classAtom? (flags : Flags) : List Char → Option (Escape × List Char)
  | [] => none
  | '\\' :: rest => escape? flags rest
  | c :: rest => some (.char c, rest)

/-- The set that a part stands for. -/
def Escape.set? (flags : Flags) : Escape → Option CharSet
  | char c => flags.range? c c
  | .set members => some members
  | assertion _ => none

/-- The character that decides whether the hyphen before a text makes a range. Where blanks and
comments do not count, blanks and one number sign are passed over. -/
def afterHyphen (flags : Flags) (text : List Char) : Option Char :=
  if !flags.spaced then text.head?
  else
    let inner := text.dropWhile Text.isBlank
    let inner := if inner.head? = some '#' then inner.tail.dropWhile Text.isBlank else inner
    inner.head?.or text.head?

/-- What follows the hyphen of a range: a hyphen before neither `]` nor `-`. -/
def rangeEnd? (flags : Flags) : List Char → Option (List Char)
  | '-' :: rest =>
    if afterHyphen flags rest = some ']' ∨ afterHyphen flags rest = some '-' then none
    else some (flags.skip rest)
  | _ => none

/-- A part of a class that holds no class: a range or one of its ends. -/
def classRange? (flags : Flags) (text : List Char) : Option (CharSet × List Char) := do
  let (low, after) ← classAtom? flags text
  match rangeEnd? flags (flags.skip after) with
  | none => return (← low.set? flags, after)
  | some tail =>
    match low, ← classAtom? flags tail with
    | .char first, (.char last, rest) =>
      if first ≤ last then return (← flags.range? first last, rest) else none
    | _, _ => none

/-- The rest of a class inside the classes `outer`, of at most a number of parts. -/
def classBody? (flags : Flags) :
    Nat → ClassFrame → List ClassFrame → List Char → Option (ClassItem × List Char)
  | 0, _, _, _ => none
  | most + 1, frame, outer, text =>
    match flags.skip text with
    | [] => none
    | ']' :: rest => do
      let item ← frame.close? flags
      match outer with
      | [] => return (item, rest)
      | parent :: others => classBody? flags most (parent.add item) others rest
    | '[' :: rest =>
      match namedClass? rest with
      | some ((negated, set), after) => do
        let set ← flags.negate? negated (flags.fold set)
        classBody? flags most (frame.add ⟨set, 0⟩) outer after
      | none =>
        let (inner, after) := openClass flags most rest
        classBody? flags most inner (frame :: outer) after
    | text =>
      match ClassOperator.read? text with
      | some (operator, rest) => classBody? flags most (frame.operate flags operator) outer rest
      | none => do
        let (set, after) ← classRange? flags text
        classBody? flags most (frame.add ⟨set, 0⟩) outer after

/-- A class, after its opening bracket. -/
def class? (flags : Flags) (text : List Char) : Option (ClassItem × List Char) :=
  let most := text.length
  let (frame, after) := openClass flags most text
  classBody? flags most frame [] after

end AdapterWiring.Pattern
