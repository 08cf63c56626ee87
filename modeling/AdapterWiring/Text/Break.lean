import AdapterWiring.Text.CharRange

/-!
# Breaks in texts

The signs that matter for where graphemes, words and sentences end in a text,
as far as they are no class of their own, from Unicode 16, as increasing ranges
of code points.
-/

namespace AdapterWiring.Text

/-- The letters and marks that belong to the one after them, the marks that enclose it apart. -/
def prependExtraRanges : List CharRange :=
  [
    (0xD4E, 0xD4E), (0x111C2, 0x111C3), (0x113D1, 0x113D1), (0x1193F, 0x1193F), (0x11941, 0x11941),
    (0x11A3A, 0x11A3A), (0x11A84, 0x11A89), (0x11D46, 0x11D46), (0x11F02, 0x11F02)
  ]

/-- The marks that take room and do not belong to the letter before them. -/
def unattachedMarkRanges : List CharRange :=
  [
    (0x102B, 0x102C), (0x1038, 0x1038), (0x1062, 0x1064), (0x1067, 0x106D), (0x1083, 0x1083),
    (0x1087, 0x108C), (0x108F, 0x108F), (0x109A, 0x109C), (0x1A61, 0x1A61), (0x1A63, 0x1A64),
    (0xAA7B, 0xAA7B), (0xAA7D, 0xAA7D), (0x11720, 0x11721)
  ]

/-- The signs that stand in words like letters. -/
def wordLetterExtraRanges : List CharRange :=
  [
    (0x2C2, 0x2C5), (0x2D2, 0x2D7), (0x2DE, 0x2DF), (0x2E5, 0x2EB), (0x2ED, 0x2ED), (0x2EF, 0x2FF),
    (0x55A, 0x55C), (0x55E, 0x55E), (0x58A, 0x58A), (0x5F3, 0x5F3), (0x70F, 0x70F),
    (0xA708, 0xA716), (0xA720, 0xA721), (0xA789, 0xA78A), (0xAB5B, 0xAB5B)
  ]

/-- The signs that stand in numbers like digits. -/
def numericExtraRanges : List CharRange :=
  [
    (0x600, 0x605), (0x66B, 0x66B), (0x6DD, 0x6DD), (0x890, 0x891), (0x8E2, 0x8E2),
    (0x19DA, 0x19DA), (0x110BD, 0x110BD), (0x110CD, 0x110CD)
  ]

/-- The signs that stand in words of Katakana. -/
def katakanaExtraRanges : List CharRange :=
  [(0x3031, 0x3035), (0x309B, 0x309C), (0x30A0, 0x30A0), (0x30FC, 0x30FC), (0xFF70, 0xFF70)]

/-- The signs between two letters that do not end a word. -/
def midWordRanges : List CharRange :=
  [
    (0x3A, 0x3A), (0xB7, 0xB7), (0x387, 0x387), (0x55F, 0x55F), (0x5F4, 0x5F4), (0x2027, 0x2027),
    (0xFE13, 0xFE13), (0xFE55, 0xFE55), (0xFF1A, 0xFF1A)
  ]

/-- The signs between two digits that do not end a number. -/
def midNumberRanges : List CharRange :=
  [
    (0x2C, 0x2C), (0x3B, 0x3B), (0x37E, 0x37E), (0x589, 0x589), (0x60C, 0x60D), (0x66C, 0x66C),
    (0x7F8, 0x7F8), (0x2044, 0x2044), (0xFE50, 0xFE50), (0xFE54, 0xFE54), (0xFF0C, 0xFF0C),
    (0xFF1B, 0xFF1B)
  ]

/-- The signs that end neither. -/
def midWordOrNumberRanges : List CharRange :=
  [
    (0x2E, 0x2E), (0x2018, 0x2019), (0x2024, 0x2024), (0xFE52, 0xFE52), (0xFF07, 0xFF07),
    (0xFF0E, 0xFF0E)
  ]

/-- The full stops. -/
def fullStopRanges : List CharRange :=
  [(0x2E, 0x2E), (0x2024, 0x2024), (0xFE52, 0xFE52), (0xFF0E, 0xFF0E)]

/-- The signs after which a sentence goes on. -/
def sentencePartRanges : List CharRange :=
  [
    (0x2C, 0x2D), (0x3A, 0x3B), (0x37E, 0x37E), (0x55D, 0x55D), (0x60C, 0x60D), (0x7F8, 0x7F8),
    (0x1802, 0x1802), (0x1808, 0x1808), (0x2013, 0x2014), (0x3001, 0x3001), (0xFE10, 0xFE11),
    (0xFE13, 0xFE14), (0xFE31, 0xFE32), (0xFE50, 0xFE51), (0xFE54, 0xFE55), (0xFE58, 0xFE58),
    (0xFE63, 0xFE63), (0xFF0C, 0xFF0D), (0xFF1A, 0xFF1B), (0xFF64, 0xFF64)
  ]

/-- The ornaments that open or close like brackets. -/
def closeExtraRanges : List CharRange :=
  [(0x275B, 0x2760), (0x2E00, 0x2E01), (0x2E06, 0x2E08), (0x2E0B, 0x2E0B), (0x1F676, 0x1F678)]

end AdapterWiring.Text
