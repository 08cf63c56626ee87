import AdapterWiring.Pattern.Break
import AdapterWiring.Text.Age

/-!
# Properties of characters

A property of characters is written by its name, or by the name of a kind of
property and a value: a category, a script, the scripts a character is used with, an
age, or what it does at the end of a grapheme, word or sentence. In names, capitals
and separators do not count.

* **kinds** — the kinds of property that have values.
* **Property.ofText?** — the characters with a property.
-/

namespace AdapterWiring.Pattern

open Text

namespace Property

/-- The normal form of a name: its ASCII characters in small letters, without separators and without
`is` in front. Of `isc` nothing is left out, because it is a name by itself. -/
def normal (name : List Char) : String :=
  let clean (chars : List Char) : List Char :=
    (chars.filter fun c => c.toNat < 128 && c ≠ ' ' && c ≠ '_' && c ≠ '-').map Char.toLower
  match name with
  | first :: second :: rest =>
    if first.toLower = 'i' ∧ second.toLower = 's' then
      if clean rest = ['c'] then "isc" else String.ofList (clean rest)
    else String.ofList (clean name)
  | _ => String.ofList (clean name)

/-- The entry of a table under a name. -/
def find? (table : List (List String × CharSet)) (name : String) : Option CharSet :=
  (table.find? (·.1.contains name)).map (·.2)

/-- The characters that a version of the standard knows: its own and those of the versions before. -/
def age? (version : String) : Option CharSet :=
  (ages.findIdx? (·.1.contains version)).map fun place =>
    .unions ((ages.take (place + 1)).map (.listed ·.2))

/-- The characters with the property of a name: a trait, a category or a script. -/
def named? (name : String) : Option CharSet :=
  ((find? traits name).or (find? categories name)).or (CharSet.script? name)

/-- The kinds of property that have values: their names, and the characters with a value. -/
def kinds : List (List String × (String → Option CharSet)) :=
  [
    (["generalcategory", "gc"], find? categories),
    (["script", "sc"], CharSet.script?),
    (["scriptextensions", "scx"], CharSet.extendedScript?),
    (["age"], age?),
    (["graphemeclusterbreak", "gcb"], find? graphemeBreaks),
    (["wordbreak", "wb"], find? wordBreaks),
    (["sentencebreak", "sb"], find? sentenceBreaks)
  ]

/-- The characters with a value of a kind of property. -/
def valued? (kind value : String) : Option CharSet :=
  (kinds.find? (·.1.contains kind)).bind (·.2 value)

/-- What stands before and after the first occurrence of a sign. -/
def cut? (sign : List Char) : List Char → Option (List Char × List Char)
  | [] => none
  | c :: rest =>
    if sign.isPrefixOf (c :: rest) then some ([], (c :: rest).drop sign.length)
    else (cut? sign rest).map fun (before, after) => (c :: before, after)

/-- The characters with the property that a text writes. A sign of inequality between a kind and a
value is read as one of equality. -/
def ofText? (text : List Char) : Option CharSet :=
  match ((cut? ['!', '='] text).or (cut? [':'] text)).or (cut? ['='] text) with
  | some (kind, value) => valued? (normal kind) (normal value)
  | none => named? (normal text)

end Property

end AdapterWiring.Pattern
