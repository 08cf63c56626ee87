import AdapterWiring.Text.CharRange

/-!
# Characters as bytes

UTF-8 writes a character as one to four bytes. The characters of a range are
those of a few rows of byte ranges, each of which may be chosen from freely.

* **utf8Bytes** — the bytes of a code point.
* **byteRows** — the rows for a range, in increasing order.
-/

namespace AdapterWiring.Text

/-- The bytes from the first component to the second, both included. -/
abbrev ByteRange := Nat × Nat

/-- The bytes of a code point. -/
def utf8Bytes (codePoint : Nat) : List Nat :=
  let trailing (shift : Nat) : Nat := 0x80 + codePoint >>> shift % 64
  if codePoint < 0x80 then [codePoint]
  else if codePoint < 0x800 then [0xC0 + codePoint >>> 6, trailing 0]
  else if codePoint < 0x10000 then [0xE0 + codePoint >>> 12, trailing 6, trailing 0]
  else [0xF0 + codePoint >>> 18, trailing 12, trailing 6, trailing 0]

/-- A range cut after each of the given code points that lies inside it. -/
def cutAfter : List Nat → CharRange → List CharRange
  | [], range => [range]
  | cut :: cuts, (low, high) =>
    if low ≤ cut ∧ cut < high then (low, cut) :: cutAfter cuts (cut + 1, high)
    else cutAfter cuts (low, high)

/-- A range cut where blocks of the given sizes end, so that each piece either lies in one block of
a size or is made up of whole blocks. -/
def alignTo : List Nat → CharRange → List CharRange
  | [], range => [range]
  | block :: larger, (low, high) =>
    if low / block = high / block then [(low, high)]
    else
      let start := (low + block - 1) / block * block
      let stop := (high + 1) / block * block
      (if low < start then [(low, start - 1)] else []) ++
        (if start < stop then alignTo larger (start, stop - 1) else []) ++
          if stop ≤ high then [(stop, high)] else []

/-- The rows of byte ranges for a range of code points without surrogates at its ends. -/
def byteRows (range : CharRange) : List (List ByteRange) :=
  let pieces := (cutAfter [0x7F, 0x7FF, 0xD7FF, 0xDFFF, 0xFFFF] range).filter
    fun (low, _) => low < 0xD800 || 0xDFFF < low
  let aligned := pieces.flatMap fun piece =>
    if piece.2 < 0x80 then [piece] else alignTo [0x40, 0x1000, 0x40000] piece
  aligned.map fun (low, high) => (utf8Bytes low).zip (utf8Bytes high)

end AdapterWiring.Text
