import AdapterWiring.Text.Blank
import AdapterWiring.Text.CaseVariant
import AdapterWiring.Text.DecimalDigit
import AdapterWiring.Text.WordChar

/-!
# Sets of characters

What one position of a pattern may match.

* **CharSet** — a set, as the pattern describes it.
* **contains** — membership.
* **ranges** — the members as ranges of ranks.
-/

namespace AdapterWiring.Pattern

open Text

/-- A set of characters. -/
inductive CharSet where
  /-- The set without members. -/
  | none
  /-- The characters from `low` to `high`, both included. -/
  | range (low high : Char)
  /-- The decimal digits of every script. -/
  | digit
  /-- The blanks. -/
  | blank
  /-- The word characters. -/
  | word
  /-- The characters of increasing ranges of code points. -/
  | listed (ranges : List CharRange)
  /-- The members of either set. -/
  | union (first second : CharSet)
  /-- The members of both sets. -/
  | inter (first second : CharSet)
  /-- The characters outside a set. -/
  | compl (set : CharSet)
  /-- The members of a set and their case variants. -/
  | anyCase (set : CharSet)
  /-- The members of a set and the case variants of the ASCII letters among them. -/
  | anyAsciiCase (set : CharSet)
deriving DecidableEq, Inhabited

namespace CharSet

/-- Whether a character belongs to a set. -/
def contains : CharSet → Char → Bool
  | none, _ => false
  | range low high, c => low ≤ c && c ≤ high
  | digit, c => isDecimalDigit c
  | blank, c => isBlank c
  | word, c => isWordChar c
  | listed ranges, c => CharRange.listContains ranges c
  | union first second, c => first.contains c || second.contains c
  | inter first second, c => first.contains c && second.contains c
  | compl set, c => !set.contains c
  | anyCase set, c => set.contains c || (caseVariants c).any set.contains
  | anyAsciiCase set, c => set.contains c || (asciiVariants c).any set.contains

/-- The members of a set, as increasing ranges of ranks that neither overlap nor touch. -/
def ranges : CharSet → List CharRange
  | none => []
  | range low high => if low ≤ high then [(rank low.toNat, rank high.toNat)] else []
  | digit => CharRange.ranked decimalDigitRanges
  | blank => CharRange.ranked blankRanges
  | word => CharRange.ranked wordCharRanges
  | listed ranges => CharRange.coalesce (CharRange.ranked ranges)
  | union first second => CharRange.union first.ranges second.ranges
  | inter first second => CharRange.intersection first.ranges second.ranges
  | compl set => CharRange.complement set.ranges
  | anyCase set => CharRange.closure casePairs set.ranges
  | anyAsciiCase set => CharRange.closure asciiCasePairs set.ranges

/-- The set of one character. -/
def single (c : Char) : CharSet := range c c

/-- All characters. -/
def all : CharSet := compl none

/-- The union of several sets. -/
def unions (sets : List CharSet) : CharSet := sets.foldl union none

/-- The members of the first set that are not in the second. -/
def diff (first second : CharSet) : CharSet := inter first (compl second)

/-- The characters that are in exactly one of two sets. -/
def symmDiff (first second : CharSet) : CharSet :=
  union (diff first second) (diff second first)

/-- Every character but the line feed. -/
def exceptNewline : CharSet := compl (single '\n')

@[simp]
theorem contains_single (c d : Char) : (single c).contains d = true ↔ d = c := by
  simp only [single, contains, Bool.and_eq_true, decide_eq_true_eq]
  exact ⟨fun ⟨above, below⟩ => Char.le_antisymm below above,
    fun same => same ▸ ⟨Char.le_refl _, Char.le_refl _⟩⟩

/-- The union of the ranges of a list. -/
def ofRanges (ranges : List (Char × Char)) : CharSet :=
  unions (ranges.map fun (low, high) => range low high)

/-- The named sets of ASCII characters, as written between `[:` and `:]`. -/
def ascii? : String → Option CharSet
  | "alnum" => some (ofRanges [('0', '9'), ('A', 'Z'), ('a', 'z')])
  | "alpha" => some (ofRanges [('A', 'Z'), ('a', 'z')])
  | "ascii" => some (ofRanges [('\x00', '\x7f')])
  | "blank" => some (ofRanges [('\t', '\t'), (' ', ' ')])
  | "cntrl" => some (ofRanges [('\x00', '\x1f'), ('\x7f', '\x7f')])
  | "digit" => some (ofRanges [('0', '9')])
  | "graph" => some (ofRanges [('!', '~')])
  | "lower" => some (ofRanges [('a', 'z')])
  | "print" => some (ofRanges [(' ', '~')])
  | "punct" => some (ofRanges [('!', '/'), (':', '@'), ('[', '`'), ('\x7b', '~')])
  | "space" => some (ofRanges [('\t', '\r'), (' ', ' ')])
  | "upper" => some (ofRanges [('A', 'Z')])
  | "word" => some (ofRanges [('0', '9'), ('A', 'Z'), ('_', '_'), ('a', 'z')])
  | "xdigit" => some (ofRanges [('0', '9'), ('A', 'F'), ('a', 'f')])
  | _ => Option.none

end CharSet

end AdapterWiring.Pattern
