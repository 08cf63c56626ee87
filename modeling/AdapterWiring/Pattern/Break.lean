import AdapterWiring.Pattern.Script
import AdapterWiring.Pattern.Trait
import AdapterWiring.Text.Break

/-!
# Breaks in texts

Where graphemes, words and sentences end in a text depends on what their
characters do there. For each of the three a character does one thing at most.

* **graphemeBreaks, wordBreaks, sentenceBreaks** — what characters do, by name.
-/

namespace AdapterWiring.Pattern

open Text

namespace CharSet

/-! ## Shared by graphemes, words and sentences -/

/-- The sign that joins its neighbours. -/
def joiner : CharSet := .single '\u200D'

/-- The end of a line in some texts. -/
def carriageReturn : CharSet := .single '\r'

/-- The end of a line. -/
def lineFeed : CharSet := .single '\n'

/-- The ends of a line and of a paragraph that are made for nothing else. -/
def separatorSign : CharSet := unions [.single '\u0085', lineSeparator, paragraphSeparator]

/-- What stands in a number like a digit. -/
def numeric : CharSet := .union digit (.listed numericExtraRanges)

/-- The format signs that have no further meaning. -/
def plainFormat : CharSet := diff format (unions [numeric, graphemeExtend, joiner])

/-! ## Graphemes -/

/-- The characters that stand apart. -/
def graphemeControl : CharSet :=
  diff
    (unions [control, format, lineSeparator, paragraphSeparator, .inter ignorable unassigned])
    (unions [carriageReturn, lineFeed, joiner, graphemeExtend, .listed prependedRanges])

/-- The marks that take room and belong to the letter before them. -/
def attachedMark : CharSet :=
  .union (diff spacingMark (.union graphemeExtend (.listed unattachedMarkRanges)))
    (ofRanges [('\u0E33', '\u0E33'), ('\u0EB3', '\u0EB3')])

/-- The number of pairs of a first consonant and a vowel of Korean. Each has a syllable with nothing
after it, and then one with each of the last consonants. -/
def syllablePairs : Nat := 399

/-- The Korean syllables that end with a vowel. -/
def openSyllable : CharSet :=
  .listed ((List.range syllablePairs).map fun pair => (0xAC00 + 28 * pair, 0xAC00 + 28 * pair))

/-- The Korean syllables that end with a consonant. -/
def closedSyllable : CharSet :=
  .listed ((List.range syllablePairs).map fun pair => (0xAC01 + 28 * pair, 0xAC1B + 28 * pair))

end CharSet

open CharSet in
/-- What characters do in graphemes: names, in small letters and without separators, and
characters. -/
def graphemeBreaks : List (List String × CharSet) :=
  [
    (["cr"], carriageReturn),
    (["lf"], lineFeed),
    (["control", "cn"], graphemeControl),
    (["extend", "ex"], diff (.union graphemeExtend (.listed emojiModifierRanges)) joiner),
    (["zwj"], joiner),
    (["regionalindicator", "ri"], .listed regionalIndicatorRanges),
    (["prepend", "pp"], .union (.listed prependedRanges) (.listed prependExtraRanges)),
    (["spacingmark", "sm"], attachedMark),
    (["l"], .listed [(0x1100, 0x115F), (0xA960, 0xA97C)]),
    (["v"], .listed [(0x1160, 0x11A7), (0xD7B0, 0xD7C6), (0x16D63, 0x16D63), (0x16D67, 0x16D6A)]),
    (["t"], .listed [(0x11A8, 0x11FF), (0xD7CB, 0xD7FB)]),
    (["lv"], openSyllable),
    (["lvt"], closedSyllable)
  ]

namespace CharSet

/-! ## Words -/

/-- The characters of scripts that do not set words apart. -/
def unspaced : CharSet :=
  ofScripts ["thai", "laoo", "khmr", "mymr", "talu", "tale", "lana", "tavt", "ahom"]

/-- The Hebrew letters. -/
def hebrewLetter : CharSet := .inter (ofScripts ["hebr"]) otherLetter

/-- What words of Katakana consist of. -/
def katakana : CharSet := .union (ofScripts ["kana"]) (.listed katakanaExtraRanges)

/-- What extends a character in a word. -/
def wordExtend : CharSet :=
  diff (unions [graphemeExtend, spacingMark, .listed emojiModifierRanges]) joiner

/-- The letters of all other scripts that set words apart. -/
def wordLetter : CharSet :=
  let ideograph := unions [.listed unifiedIdeographRanges, .listed ideographExtraRanges]
  let others := unions [ideograph, katakana, ofScripts ["hira"], hebrewLetter, unspaced, wordExtend]
  .union (diff alphabetic others) (.listed wordLetterExtraRanges)

end CharSet

open CharSet in
/-- What characters do in words. -/
def wordBreaks : List (List String × CharSet) :=
  [
    (["cr"], carriageReturn),
    (["lf"], lineFeed),
    (["newline", "nl"], .union (.range '\u000B' '\u000C') separatorSign),
    (["extend"], wordExtend),
    (["zwj"], joiner),
    (["regionalindicator", "ri"], .listed regionalIndicatorRanges),
    (["format", "fo"], diff plainFormat (ofRanges [('\u070F', '\u070F'), ('\u200B', '\u200B')])),
    (["katakana", "ka"], katakana),
    (["hebrewletter", "hl"], hebrewLetter),
    (["aletter", "le"], wordLetter),
    (["singlequote", "sq"], .single '\x27'),
    (["doublequote", "dq"], .single '"'),
    (["midnumlet", "mb"], .listed midWordOrNumberRanges),
    (["midletter", "ml"], .listed midWordRanges),
    (["midnum", "mn"], .listed midNumberRanges),
    (["numeric", "nu"], numeric),
    (["extendnumlet", "ex"], .union connectorPunctuation (.single '\u202F')),
    (["wsegspace"],
      diff (.listed spaceSeparatorRanges)
        (ofRanges [('\u00A0', '\u00A0'), ('\u2007', '\u2007'), ('\u202F', '\u202F')]))
  ]

namespace CharSet

/-! ## Sentences -/

/-- The characters that start no sentence. -/
def sentenceLower : CharSet :=
  diff lowercase
    (ofRanges [('\u0345', '\u0345'), ('\u10D0', '\u10FA'), ('\u10FD', '\u10FF')])

/-- The characters that start a sentence. -/
def sentenceUpper : CharSet :=
  diff (.union uppercase titlecaseLetter)
    (ofRanges [('\u1C90', '\u1CBA'), ('\u1CBD', '\u1CBF')])

/-- What extends a character in a sentence. -/
def sentenceExtend : CharSet := unions [graphemeExtend, spacingMark, joiner]

/-- The characters that open or close a part of a text. -/
def closing : CharSet :=
  .union
    (diff
      (unions [openPunctuation, closePunctuation, initialPunctuation, finalPunctuation,
        .listed quotationMarkRanges])
      (ofRanges [('\uFF02', '\uFF02'), ('\uFF07', '\uFF07')]))
    (.listed closeExtraRanges)

end CharSet

open CharSet in
/-- What characters do in sentences. -/
def sentenceBreaks : List (List String × CharSet) :=
  [
    (["cr"], carriageReturn),
    (["lf"], lineFeed),
    (["sep", "se"], separatorSign),
    (["sp"], diff blank (unions [carriageReturn, lineFeed, separatorSign])),
    (["extend", "ex"], sentenceExtend),
    (["format", "fo"], plainFormat),
    (["lower", "lo"], sentenceLower),
    (["upper", "up"], sentenceUpper),
    (["oletter", "le"],
      .union (diff alphabetic (unions [sentenceLower, sentenceUpper, sentenceExtend]))
        (.single '\u05F3')),
    (["numeric", "nu"], .union numeric (.single '\u066C')),
    (["aterm", "at"], .listed fullStopRanges),
    (["sterm", "st"], diff (.listed sentenceEndRanges) (.listed fullStopRanges)),
    (["scontinue", "sc"], .listed sentencePartRanges),
    (["close", "cl"], closing)
  ]

end AdapterWiring.Pattern
