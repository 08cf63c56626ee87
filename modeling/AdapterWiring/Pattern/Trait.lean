import AdapterWiring.Pattern.Category
import AdapterWiring.Text.Trait

/-!
# Traits of characters

The properties that a character either has or has not.

* **lowercase, uppercase, alphabetic, …** — those that are put together from
  categories and a few characters more.
* **traits** — all of them, by name.
-/

namespace AdapterWiring.Pattern

open Text

namespace CharSet

/-- The lower-case characters. -/
def lowercase : CharSet := .union lowercaseLetter (.listed lowercaseExtraRanges)

/-- The upper-case characters. -/
def uppercase : CharSet := .union uppercaseLetter (.listed uppercaseExtraRanges)

/-- The alphabetic characters. -/
def alphabetic : CharSet := unions [letter, letterNumber, .listed alphabeticExtraRanges]

/-- The characters with case. -/
def cased : CharSet := unions [lowercase, uppercase, titlecaseLetter]

/-- The characters without a say in case. -/
def caseIgnorable : CharSet :=
  unions [nonspacingMark, enclosingMark, format, modifierLetter, modifierSymbol,
    .listed caseIgnorableExtraRanges]

/-- The characters with a lower-case form. -/
def changesInLowercase : CharSet :=
  diff (.union uppercase titlecaseLetter) (.listed withoutLowercaseRanges)

/-- The characters with an upper-case form. -/
def changesInUppercase : CharSet :=
  .union (diff lowercase (.listed withoutUppercaseRanges)) (.listed titlecaseWithUppercaseRanges)

/-- The characters with a title-case form. -/
def changesInTitlecase : CharSet :=
  .union (diff changesInUppercase (.listed withoutTitlecaseRanges))
    (.listed uppercaseWithTitlecaseRanges)

/-- The characters that case folding changes. -/
def changesInFolding : CharSet :=
  .union (diff changesInLowercase (.listed unfoldedRanges)) (.listed foldedExtraRanges)

/-- The characters that extend the one before them. -/
def graphemeExtend : CharSet :=
  unions [nonspacingMark, enclosingMark, .listed graphemeExtendExtraRanges]

/-- The characters that others extend. -/
def graphemeBase : CharSet :=
  .compl (unions [control, format, privateUse, unassigned, lineSeparator, paragraphSeparator,
    graphemeExtend])

/-- The characters that start identifiers. -/
def identifierStart : CharSet :=
  diff (unions [letter, letterNumber, .listed identifierStartExtraRanges])
    (.listed noIdentifierStartRanges)

/-- The characters that continue identifiers. -/
def identifierPart : CharSet :=
  unions [identifierStart, nonspacingMark, spacingMark, digit, connectorPunctuation,
    .listed identifierPartExtraRanges]

/-- The characters that do not show where they are not known. -/
def ignorable : CharSet := .listed ignorableRanges

/-- The mirrored characters. -/
def mirrored : CharSet :=
  .union
    (diff (unions [openPunctuation, closePunctuation, initialPunctuation, finalPunctuation])
      (.listed unmirroredRanges))
    (.listed mirroredExtraRanges)

end CharSet

open CharSet in
/-- The properties that either hold or not: names, in small letters and without separators, and
characters. -/
def traits : List (List String × CharSet) :=
  [
    (["alphabetic", "alpha"], alphabetic),
    (["lowercase", "lower"], lowercase),
    (["uppercase", "upper"], uppercase),
    (["cased"], cased),
    (["caseignorable", "ci"], caseIgnorable),
    (["changeswhenlowercased", "cwl"], changesInLowercase),
    (["changeswhenuppercased", "cwu"], changesInUppercase),
    (["changeswhentitlecased", "cwt"], changesInTitlecase),
    (["changeswhencasefolded", "cwcf"], changesInFolding),
    (["changeswhencasemapped", "cwcm"],
      unions [changesInLowercase, changesInUppercase, changesInTitlecase]),
    (["whitespace", "wspace", "space"], blank),
    (["asciihexdigit", "ahex"], ofRanges [('0', '9'), ('A', 'F'), ('a', 'f')]),
    (["hexdigit", "hex"], .listed hexDigitRanges),
    (["idstart", "ids"], identifierStart),
    (["idcontinue", "idc"], identifierPart),
    (["xidstart", "xids"], diff identifierStart (.listed unstableIdentifierStartRanges)),
    (["xidcontinue", "xidc"], diff identifierPart (.listed unstableIdentifierPartRanges)),
    (["graphemebase", "grbase"], graphemeBase),
    (["graphemeextend", "grext"], graphemeExtend),
    (["graphemelink", "grlink"], .listed graphemeLinkRanges),
    (["math"], .union mathSymbol (.listed mathExtraRanges)),
    (["unifiedideograph", "uideo"], .listed unifiedIdeographRanges),
    (["ideographic", "ideo"],
      .union (.listed unifiedIdeographRanges) (.listed ideographExtraRanges)),
    (["bidimirrored", "bidim"], mirrored),
    (["bidicontrol", "bidic"], .listed directionControlRanges),
    (["sentenceterminal", "sterm"], .listed sentenceEndRanges),
    (["terminalpunctuation", "term"],
      .union (.listed sentenceEndRanges) (.listed clauseEndRanges)),
    (["dash"], .listed dashRanges),
    (["hyphen"], .listed hyphenRanges),
    (["defaultignorablecodepoint", "di"], ignorable),
    (["deprecated", "dep"], .listed discouragedRanges),
    (["diacritic", "dia"], .listed diacriticRanges),
    (["extender", "ext"], .listed extenderRanges),
    (["emoji"], .listed emojiRanges),
    (["emojicomponent", "ecomp"], .listed emojiComponentRanges),
    (["emojimodifier", "emod"], .listed emojiModifierRanges),
    (["emojimodifierbase", "ebase"], .listed emojiModifierBaseRanges),
    (["emojipresentation", "epres"], .listed emojiPresentationRanges),
    (["extendedpictographic", "extpict"], .listed pictographRanges),
    (["idsunaryoperator", "idsu"], .listed unaryDescriptionRanges),
    (["idsbinaryoperator", "idsb"], .listed binaryDescriptionRanges),
    (["idstrinaryoperator", "idst"], .listed ternaryDescriptionRanges),
    (["idcompatmathstart"], .listed mathIdentifierStartRanges),
    (["idcompatmathcontinue"],
      .union (.listed mathIdentifierStartRanges) (.listed mathIdentifierExtraRanges)),
    (["joincontrol", "joinc"], .listed joinControlRanges),
    (["logicalorderexception", "loe"], .listed logicalOrderExceptionRanges),
    (["modifiercombiningmark", "mcm"], .listed combiningModifierRanges),
    (["noncharactercodepoint", "nchar"], .listed noncharacterRanges),
    (["patternsyntax", "patsyn"], .listed patternSyntaxRanges),
    (["patternwhitespace", "patws"], .listed patternBlankRanges),
    (["prependedconcatenationmark", "pcm"], .listed prependedRanges),
    (["quotationmark", "qmark"], .listed quotationMarkRanges),
    (["radical"], .listed radicalRanges),
    (["regionalindicator", "ri"], .listed regionalIndicatorRanges),
    (["softdotted", "sd"], .listed softDottedRanges),
    (["variationselector", "vs"], .listed variationSelectorRanges),
    (["otheralphabetic", "oalpha"], .listed alphabeticExtraRanges),
    (["otherlowercase", "olower"], .listed lowercaseExtraRanges),
    (["otheruppercase", "oupper"], .listed uppercaseExtraRanges),
    (["othermath", "omath"], .listed mathExtraRanges),
    (["othergraphemeextend", "ogrext"], .listed graphemeExtendExtraRanges),
    (["otheridstart", "oids"], .listed identifierStartExtraRanges),
    (["otheridcontinue", "oidc"], .listed identifierPartExtraRanges),
    (["otherdefaultignorablecodepoint", "odi"],
      diff ignorable (.union format (.listed variationSelectorRanges)))
  ]

end AdapterWiring.Pattern
