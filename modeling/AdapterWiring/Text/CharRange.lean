/-!
# Ranges of code points

Character classes of the Unicode standard are written as increasing lists of
disjoint ranges of code points.

* **listContains** — a scan that stops at the first range above the character.
* **rank** — the place of a character in the order of all characters. In terms
  of ranks a set has one list of ranges without overlaps and without neighbours.
* **union, complement, intersection, closure** — operations on such lists.
-/

namespace AdapterWiring.Text

/-- The code points from the first component to the second, both included. -/
abbrev CharRange := Nat × Nat

/-! ## Ranks -/

/-- The place of a code point in the order of all characters, which leaves the surrogates out. -/
def rank (codePoint : Nat) : Nat := if codePoint < 0xD800 then codePoint else codePoint - 0x800

/-- The code point of the character at a place. -/
def ofRank (rank : Nat) : Nat := if rank < 0xD800 then rank else rank + 0x800

/-- The place of the last character. -/
def lastRank : Nat := 0x10F7FF

theorem ofRank_rank (c : Char) : ofRank (rank c.toNat) = c.toNat := by
  have valid : c.toNat < 0xD800 ∨ (0xDFFF < c.toNat ∧ c.toNat < 0x110000) := c.valid
  grind [ofRank, rank]

namespace CharRange

/-- Whether an increasing list of ranges holds a character. -/
def listContains : List CharRange → Char → Bool
  | [], _ => false
  | (low, high) :: rest, c =>
    if c.toNat < low then false
    else if c.toNat ≤ high then true
    else listContains rest c

/-- The ranges of ranks of ranges of code points. -/
def ranked (ranges : List CharRange) : List CharRange :=
  ranges.map fun (low, high) => (rank low, rank high)

/-! ## Operations on ranges of ranks -/

/-- Increasing ranges put together where they overlap or touch, the first of them being `first`. -/
def coalesceFrom (first : CharRange) : List CharRange → List CharRange
  | [] => [first]
  | next :: rest =>
    if next.1 ≤ first.2 + 1 then coalesceFrom (first.1, max first.2 next.2) rest
    else first :: coalesceFrom next rest

/-- Increasing ranges put together where they overlap or touch. -/
def coalesce : List CharRange → List CharRange
  | [] => []
  | first :: rest => coalesceFrom first rest

/-- The ranks in either of two lists. -/
def union (first second : List CharRange) : List CharRange :=
  coalesce (first.merge second fun left right => left.1 ≤ right.1)

/-- The ranks from `low` on that are outside a list. -/
def complementFrom (low : Nat) : List CharRange → List CharRange
  | [] => if low ≤ lastRank then [(low, lastRank)] else []
  | (first, last) :: rest =>
    if low < first then (low, first - 1) :: complementFrom (last + 1) rest
    else complementFrom (last + 1) rest

/-- The ranks outside a list. -/
def complement (ranges : List CharRange) : List CharRange := complementFrom 0 ranges

/-- The ranks in both of two lists. -/
def intersection (first second : List CharRange) : List CharRange :=
  complement (union (complement first) (complement second))

/-- Whether increasing ranges hold a rank. -/
def holds (ranges : List CharRange) (rank : Nat) : Bool :=
  ranges.any fun (low, high) => low ≤ rank && rank ≤ high

/-- The ranks in a list and those paired with one of them. -/
def closure (pairs : List (Nat × Nat)) (ranges : List CharRange) : List CharRange :=
  let partners := pairs.flatMap fun (first, second) =>
    (if holds ranges first then [second] else []) ++ (if holds ranges second then [first] else [])
  union ranges ((partners.mergeSort).map fun partner => (partner, partner))

end CharRange

end AdapterWiring.Text
