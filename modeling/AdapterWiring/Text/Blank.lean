import AdapterWiring.Text.CharRange

/-!
# Blanks

The characters with the Unicode property White Space. They separate the words
of a text; the line feed among them also ends a line.

* **isBlank** — membership in that class.
-/

namespace AdapterWiring.Text

/-- The blanks, as increasing ranges of code points. -/
def blankRanges : List CharRange :=
  [ (0x9, 0xD), (0x20, 0x20), (0x85, 0x85), (0xA0, 0xA0), (0x1680, 0x1680), (0x2000, 0x200A),
    (0x2028, 0x2029), (0x202F, 0x202F), (0x205F, 0x205F), (0x3000, 0x3000) ]

/-- Whether a character is a blank. -/
def isBlank (c : Char) : Bool := CharRange.listContains blankRanges c

/-- A line feed is a blank. -/
theorem isBlank_newline : isBlank '\n' = true := by decide

end AdapterWiring.Text
