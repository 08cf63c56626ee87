import AdapterWiring.Pattern.CharSet
import AdapterWiring.Text.Letter
import AdapterWiring.Text.Mark
import AdapterWiring.Text.Sign

/-!
# Categories of characters

Every character has one general category, and the categories form larger
classes.

* **letter, mark, number, punctuation, symbol, separator, other** — the classes.
* **categories** — all of them and their parts, by name.
-/

namespace AdapterWiring.Pattern

open Text

namespace CharSet

/-! ## Letters, marks and numbers -/

/-- The capital letters. -/
def uppercaseLetter : CharSet :=
  .union (.listed uppercaseLetterRanges) (.listed (everySecond uppercaseLetterAlternations))

/-- The small letters. -/
def lowercaseLetter : CharSet :=
  .union (.listed lowercaseLetterRanges) (.listed (everySecond lowercaseLetterAlternations))

/-- The letters with a capital as their first part. -/
def titlecaseLetter : CharSet := .listed titlecaseLetterRanges

/-- The letters with case. -/
def casedLetter : CharSet := unions [uppercaseLetter, lowercaseLetter, titlecaseLetter]

/-- The letters that modify others. -/
def modifierLetter : CharSet := .listed modifierLetterRanges

/-- The letters without case. -/
def otherLetter : CharSet := .listed otherLetterRanges

/-- All letters. -/
def letter : CharSet := unions [casedLetter, modifierLetter, otherLetter]

/-- The marks that take no room. -/
def nonspacingMark : CharSet := .listed nonspacingMarkRanges

/-- The marks that take room. -/
def spacingMark : CharSet := .listed spacingMarkRanges

/-- The marks around a character. -/
def enclosingMark : CharSet := .listed enclosingMarkRanges

/-- All marks. -/
def mark : CharSet := unions [nonspacingMark, spacingMark, enclosingMark]

/-- The numbers that are letters. -/
def letterNumber : CharSet := .listed letterNumberRanges

/-- The numbers that are neither letters nor decimal digits. -/
def otherNumber : CharSet := .listed otherNumberRanges

/-- All numbers. -/
def number : CharSet := unions [digit, letterNumber, otherNumber]

/-! ## Signs -/

/-- The brackets that open. -/
def openPunctuation : CharSet := .listed openPunctuationRanges

/-- The brackets that close. -/
def closePunctuation : CharSet := .listed closePunctuationRanges

/-- The quotation marks that open. -/
def initialPunctuation : CharSet := .listed initialPunctuationRanges

/-- The quotation marks that close. -/
def finalPunctuation : CharSet := .listed finalPunctuationRanges

/-- The punctuation that connects words. -/
def connectorPunctuation : CharSet := .listed connectorPunctuationRanges

/-- All punctuation. -/
def punctuation : CharSet :=
  unions [connectorPunctuation, .listed dashPunctuationRanges, openPunctuation, closePunctuation,
    initialPunctuation, finalPunctuation, .listed otherPunctuationRanges]

/-- The symbols of mathematics. -/
def mathSymbol : CharSet := .listed mathSymbolRanges

/-- The symbols that modify characters. -/
def modifierSymbol : CharSet := .listed modifierSymbolRanges

/-- All symbols. -/
def symbol : CharSet :=
  unions [mathSymbol, .listed currencySymbolRanges, modifierSymbol, .listed otherSymbolRanges]

/-- The separator of lines. -/
def lineSeparator : CharSet := .listed lineSeparatorRanges

/-- The separator of paragraphs. -/
def paragraphSeparator : CharSet := .listed paragraphSeparatorRanges

/-- All separators. -/
def separator : CharSet := unions [.listed spaceSeparatorRanges, lineSeparator, paragraphSeparator]

/-! ## Other code points -/

/-- The control characters. -/
def control : CharSet := .listed controlRanges

/-- The characters that control the format. -/
def format : CharSet := .listed formatRanges

/-- The characters for private use. -/
def privateUse : CharSet := .listed privateUseRanges

/-- The characters with a meaning of their own. -/
def assigned : CharSet :=
  unions [letter, mark, number, punctuation, symbol, separator, control, format, privateUse]

/-- The characters that are kept free. -/
def unassigned : CharSet := .compl assigned

/-- The characters that are no letters, marks, numbers, punctuation, symbols or separators. -/
def other : CharSet := unions [control, format, privateUse, unassigned]

end CharSet

open CharSet in
/-- The categories and their classes: names, in small letters and without separators, and
characters. -/
def categories : List (List String × CharSet) :=
  [
    (["lu", "uppercaseletter"], uppercaseLetter),
    (["ll", "lowercaseletter"], lowercaseLetter),
    (["lt", "titlecaseletter"], titlecaseLetter),
    (["lc", "casedletter"], casedLetter),
    (["lm", "modifierletter"], modifierLetter),
    (["lo", "otherletter"], otherLetter),
    (["l", "letter"], letter),
    (["mn", "nonspacingmark"], nonspacingMark),
    (["mc", "spacingmark"], spacingMark),
    (["me", "enclosingmark"], enclosingMark),
    (["m", "mark", "combiningmark"], mark),
    (["nd", "decimalnumber", "digit"], digit),
    (["nl", "letternumber"], letterNumber),
    (["no", "othernumber"], otherNumber),
    (["n", "number"], number),
    (["pc", "connectorpunctuation"], connectorPunctuation),
    (["pd", "dashpunctuation"], .listed dashPunctuationRanges),
    (["ps", "openpunctuation"], openPunctuation),
    (["pe", "closepunctuation"], closePunctuation),
    (["pi", "initialpunctuation"], initialPunctuation),
    (["pf", "finalpunctuation"], finalPunctuation),
    (["po", "otherpunctuation"], .listed otherPunctuationRanges),
    (["p", "punctuation", "punct"], punctuation),
    (["sm", "mathsymbol"], mathSymbol),
    (["sc", "currencysymbol"], .listed currencySymbolRanges),
    (["sk", "modifiersymbol"], modifierSymbol),
    (["so", "othersymbol"], .listed otherSymbolRanges),
    (["s", "symbol"], symbol),
    (["zs", "spaceseparator"], .listed spaceSeparatorRanges),
    (["zl", "lineseparator"], lineSeparator),
    (["zp", "paragraphseparator"], paragraphSeparator),
    (["z", "separator"], separator),
    (["cc", "control", "cntrl"], control),
    (["cf", "format"], format),
    (["co", "privateuse"], privateUse),
    (["cn", "unassigned"], unassigned),
    (["c", "other"], other),
    (["any"], all),
    (["assigned"], assigned),
    (["ascii"], .range '\x00' '\x7f')
  ]

end AdapterWiring.Pattern
