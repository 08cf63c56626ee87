import AdapterWiring.Pattern.Expr

/-!
# Outlines

What the size of a pattern depends on is its outline: an expression in a
simplified form, with the groups that capture text.

* **Outline** — the form. A row of outlines in it holds no row, no empty outline
  and no two words side by side; a choice of outlines holds no choice.
* **ofParts, ofBranches, times** — rows, choices and repetitions in that form.
* **consumes, isEmptyWord** — whether every match, or none, reads a character.
* **atStart, atStop** — whether every match starts or ends where the word does.
-/

namespace AdapterWiring.Pattern

open Text

/-- The simplified form of an expression. -/
inductive Outline where
  /-- Nothing. -/
  | empty
  /-- Given characters in a row. -/
  | word (chars : List Char)
  /-- One character of a set, given by its ranges of ranks. -/
  | set (ranges : List CharRange)
  /-- A condition on the place reached. -/
  | assertion (condition : Assertion)
  /-- An outline at least `least` times and, given `most`, at most that often. -/
  | repeated (body : Outline) (least : Nat) (most : Option Nat) (lazy : Bool)
  /-- A group whose text is captured. -/
  | capture (number : Nat) (body : Outline)
  /-- One outline after another. -/
  | seq (first rest : Outline)
  /-- Either of two outlines. -/
  | alt (first rest : Outline)
deriving DecidableEq, Inhabited

namespace Outline

/-- The parts of a row. -/
def parts : Outline → List Outline
  | empty => []
  | seq first rest => first :: rest.parts
  | other => [other]

/-- The branches of a choice. -/
def branches : Outline → List Outline
  | alt first rest => first :: rest.branches
  | other => [other]

/-! ## What a match reads -/

/-- The least number of characters of a match; none where there is no match or where a part of a
choice or row has none. -/
def least? : Outline → Option Nat
  | empty => some 0
  | word chars => some chars.length
  | set ranges => if ranges.isEmpty then none else some 1
  | assertion _ => some 0
  | repeated body least _ _ => body.least?.map (least * ·)
  | capture _ body => body.least?
  | seq first rest => do return (← first.least?) + (← rest.least?)
  | alt first rest => do return min (← first.least?) (← rest.least?)

/-- Whether every match reads a character. -/
def consumes (outline : Outline) : Bool := outline.least?.any (0 < ·)

/-- Whether all matches are empty. -/
def isEmptyWord : Outline → Bool
  | empty => true
  | word chars => chars.isEmpty
  | set _ => false
  | assertion _ => true
  | repeated body _ most _ => body.isEmptyWord && most.isSome
  | capture _ body => body.isEmptyWord
  | seq first rest => first.isEmptyWord && rest.isEmptyWord
  | alt first rest => first.isEmptyWord && rest.isEmptyWord

/-- Whether every match starts where the word does. -/
def atStart : Outline → Bool
  | assertion condition => condition = .start
  | repeated body least _ _ => 0 < least && body.atStart
  | capture _ body => body.atStart
  | seq first rest => first.atStart || (first.isEmptyWord && rest.atStart)
  | alt first rest => first.atStart && rest.atStart
  | _ => false

/-- Whether every match ends where the word does. -/
def atStop : Outline → Bool
  | assertion condition => condition = .stop
  | repeated body least _ _ => 0 < least && body.atStop
  | capture _ body => body.atStop
  | seq first rest => rest.atStop || (rest.isEmptyWord && first.atStop)
  | alt first rest => first.atStop && rest.atStop
  | _ => false

/-! ## Simplified forms -/

/-- One character of a set; a set of one character is a word. -/
def ofRanges : List CharRange → Outline
  | [(low, high)] => if low = high then word [Char.ofNat (ofRank low)] else set [(low, high)]
  | ranges => set ranges

/-- A row in which words that stand side by side are one word. -/
def joinWords : List Outline → List Outline
  | [] => []
  | first :: rest =>
    match first, joinWords rest with
    | word chars, word more :: others => word (chars ++ more) :: others
    | other, others => other :: others

/-- Outlines in a row that hold no rows. -/
def row : List Outline → Outline
  | [] => empty
  | [only] => only
  | first :: rest => seq first (row rest)

/-- Outlines in a row. -/
def ofParts (outlines : List Outline) : Outline := row (joinWords (outlines.flatMap parts))

/-- A choice of outlines that are no choices. -/
def choice : List Outline → Outline
  | [] => set []
  | [only] => only
  | first :: rest => alt first (choice rest)

/-- The ranges of a word of one character. -/
def letter? : Outline → Option (List CharRange)
  | word [c] => some [(rank c.toNat, rank c.toNat)]
  | _ => none

/-- The ranges of a set. -/
def ranges? : Outline → Option (List CharRange)
  | set ranges => some ranges
  | _ => none

/-- The one set that a choice comes to, if all its branches are words of one character or all are
sets. -/
def oneSet? (branches : List Outline) : Option Outline :=
  ((branches.mapM letter?).or (branches.mapM ranges?)).map fun sets =>
    ofRanges (sets.foldl CharRange.union [])

/-- The number of parts that two rows have in common at their start. -/
def commonLength : List Outline → List Outline → Nat
  | first :: rest, first' :: rest' => if first = first' then commonLength rest rest' + 1 else 0
  | _, _ => 0

/-- The parts of a row of two or more. -/
def row? : Outline → Option (List Outline)
  | seq first rest => some (first :: rest.parts)
  | _ => none

/-- A choice in simplified form, without regard to how its branches start. -/
def gather (outlines : List Outline) : Outline :=
  let flat := outlines.flatMap branches
  match flat with
  | [only] => only
  | _ => (oneSet? flat).getD (choice flat)

/-- A choice in simplified form. What all its branches start with stands before it; the rests of
the branches have no further start in common. -/
def ofBranches (outlines : List Outline) : Outline :=
  match gather outlines with
  | alt first rest =>
    let flat := first :: rest.branches
    match flat.mapM row? with
    | some (head :: others) =>
      let shared := others.foldl (fun length other => min length (commonLength head other))
        head.length
      if shared = 0 then choice flat
      else ofParts (head.take shared ++
        [gather ((head :: others).map fun parts => ofParts (parts.drop shared))])
    | _ => choice flat
  | other => other

/-- A repetition. Of an empty match one is enough. -/
def times (body : Outline) (least : Nat) (most : Option Nat) (lazy : Bool) : Outline :=
  let (least, most) : Nat × Option Nat :=
    if body.isEmptyWord then (min least 1, some (most.elim 1 (min 1))) else (least, most)
  if least = 0 ∧ most = some 0 then empty
  else if least = 1 ∧ most = some 1 then body
  else repeated body least most lazy

end Outline

end AdapterWiring.Pattern
