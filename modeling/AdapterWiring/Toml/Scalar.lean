import AdapterWiring.Text.Hex
import AdapterWiring.Toml.Value

/-!
# TOML scalars

* **basicBody, literalBody** — strings on one line, after their opening quote.
* **longBasicBody, longLiteralBody** — strings over several lines.
* **plainScalar?** — numbers, truth values, dates and times.
-/

namespace AdapterWiring.Toml

open Text

/-! ## Strings -/

/-- Whether a character can stand in a comment or a string for itself. -/
def isTextChar (c : Char) : Bool := c = '\t' || (0x20 ≤ c.toNat && c.toNat != 0x7F)

/-- Whether a character is a blank within a line. -/
def isInlineBlank (c : Char) : Bool := c = ' ' || c = '\t'

/-- The character that a short escape stands for. -/
def shortEscape? : Char → Option Char
  | 'b' => some '\x08'
  | 't' => some '\t'
  | 'n' => some '\n'
  | 'f' => some '\x0c'
  | 'r' => some '\r'
  | '"' => some '"'
  | '\\' => some '\\'
  | _ => none

/-- An escape after its backslash, and the number of characters it takes up. -/
def escape? : List Char → Option (Char × Nat)
  | 'u' :: digits => if 4 ≤ digits.length then (charOfHex? (digits.take 4)).map (·, 5) else none
  | 'U' :: digits => if 8 ≤ digits.length then (charOfHex? (digits.take 8)).map (·, 9) else none
  | c :: _ => (shortEscape? c).map (·, 1)
  | [] => none

/-- A string after its opening quote, `skip` characters of which belong to an escape: its text and
what follows the closing quote. -/
def basicBody (skip : Nat) : List Char → Option (List Char × List Char)
  | [] => none
  | c :: rest =>
    if 0 < skip then basicBody (skip - 1) rest
    else if c = '"' then some ([], rest)
    else if c = '\\' then do
      let (meant, width) ← escape? rest
      let (text, after) ← basicBody width rest
      return (meant :: text, after)
    else if isTextChar c then (basicBody 0 rest).map fun (text, after) => (c :: text, after)
    else none

/-- A string in single quotes, after the first of them. -/
def literalBody : List Char → Option (List Char × List Char)
  | [] => none
  | c :: rest =>
    if c = '\'' then some ([], rest)
    else if isTextChar c then (literalBody rest).map fun (text, after) => (c :: text, after)
    else none

/-- The end of a string in triple quotes: quotes that still belong to it, and what follows. -/
def closing? (quote : Char) (text : List Char) : Option (List Char × List Char) :=
  let quotes := (text.takeWhile (· = quote)).length
  if 3 ≤ quotes then
    let closed := min quotes 5
    some (List.replicate (closed - 3) quote, text.drop closed)
  else none

/-- Whether only blanks stand before the end of a line. -/
def blankToLineEnd (text : List Char) : Bool :=
  match text.dropWhile isInlineBlank with
  | '\n' :: _ => true
  | '\r' :: '\n' :: _ => true
  | _ => false

/-- A string in triple quotes after the opening ones. `skip` characters belong to an escape; while
`trimming`, blanks and line ends do not count. -/
def longBasicBody (skip : Nat) (trimming : Bool) : List Char → Option (List Char × List Char)
  | [] => none
  | c :: rest =>
    if 0 < skip then longBasicBody (skip - 1) false rest
    else if c = '\r' then
      if rest.head? = some '\n' then longBasicBody 0 trimming rest else none
    else if trimming && (isInlineBlank c || c = '\n') then longBasicBody 0 true rest
    else if c = '\\' then
      if blankToLineEnd rest then longBasicBody 0 true rest
      else do
        let (meant, width) ← escape? rest
        let (text, after) ← longBasicBody width false rest
        return (meant :: text, after)
    else
      match closing? '"' (c :: rest) with
      | some (text, after) => some (text, after)
      | none =>
        if isTextChar c || c = '\n' then
          (longBasicBody 0 false rest).map fun (text, after) => (c :: text, after)
        else none

/-- A string in triple single quotes after the opening ones. -/
def longLiteralBody : List Char → Option (List Char × List Char)
  | [] => none
  | c :: rest =>
    match closing? '\'' (c :: rest) with
    | some (text, after) => some (text, after)
    | none =>
      if c = '\r' then if rest.head? = some '\n' then longLiteralBody rest else none
      else if isTextChar c || c = '\n' then
        (longLiteralBody rest).map fun (text, after) => (c :: text, after)
      else none

/-- The text of a string in triple quotes without a line end right after the opening quotes. -/
def afterFirstLineEnd : List Char → List Char
  | '\n' :: rest => rest
  | '\r' :: '\n' :: rest => rest
  | text => text

/-- A string, and what follows it. -/
def string? : List Char → Option (String × List Char)
  | '"' :: '"' :: '"' :: rest =>
    (longBasicBody 0 false (afterFirstLineEnd rest)).map fun (text, after) =>
      (String.ofList text, after)
  | '"' :: rest => (basicBody 0 rest).map fun (text, after) => (String.ofList text, after)
  | '\'' :: '\'' :: '\'' :: rest =>
    (longLiteralBody (afterFirstLineEnd rest)).map fun (text, after) => (String.ofList text, after)
  | '\'' :: rest => (literalBody rest).map fun (text, after) => (String.ofList text, after)
  | _ => none

/-! ## Numbers -/

/-- Whether characters are digits with single underscores between them. -/
def isDigitRun (isDigit : Char → Bool) : List Char → Bool
  | [] => false
  | [c] => isDigit c
  | c :: '_' :: rest => isDigit c && isDigitRun isDigit rest
  | c :: rest => isDigit c && isDigitRun isDigit rest

/-- The value of digits to a base, underscores left out. -/
def digitsValue (base : Nat) (digits : List Char) : Nat :=
  (digits.filterMap hexDigit?).foldl (fun value digit => base * value + digit) 0

/-- A sign and what follows it. -/
def signed : List Char → Bool × List Char
  | '-' :: rest => (true, rest)
  | '+' :: rest => (false, rest)
  | text => (false, text)

/-- Whether characters form a decimal integer without sign; a zero stands alone. -/
def isDecimal (digits : List Char) : Bool :=
  isDigitRun Char.isDigit digits && (digits.length = 1 || digits.head? != some '0')

/-- Whether a value is within the range of 64-bit integers. -/
def bounded? (value : Int) : Option Toml :=
  if -0x8000000000000000 ≤ value ∧ value ≤ 0x7FFFFFFFFFFFFFFF then some (.integer value) else none

/-- An integer. -/
def integer? (text : List Char) : Option Toml :=
  let based (base : Nat) (isDigit : Char → Bool) (digits : List Char) : Option Toml :=
    if isDigitRun isDigit digits then bounded? (digitsValue base digits) else none
  match text with
  | '0' :: 'x' :: digits => based 16 (fun c => (hexDigit? c).isSome) digits
  | '0' :: 'o' :: digits => based 8 (fun c => '0' ≤ c ∧ c ≤ '7') digits
  | '0' :: 'b' :: digits => based 2 (fun c => c = '0' ∨ c = '1') digits
  | _ =>
    let (negative, digits) := signed text
    if isDecimal digits then
      let value : Int := digitsValue 10 digits
      bounded? (if negative then -value else value)
    else none

/-- Whether characters form the exponent of a float, after its letter. -/
def isExponent (text : List Char) : Bool := isDigitRun Char.isDigit (signed text).2

/-- The parts of a float without its sign: its digits before the point, those after it and the
exponent. -/
def floatParts? (unsigned : List Char) : Option (List Char × List Char × List Char) :=
  let isDigitChar (c : Char) : Bool := c.isDigit || c = '_'
  let exponent? : List Char → Option (List Char)
    | [] => some []
    | c :: exponent => if (c = 'e' || c = 'E') && isExponent exponent then some exponent else none
  let whole := unsigned.takeWhile isDigitChar
  match unsigned.drop whole.length with
  | [] => none
  | '.' :: rest =>
    let fraction := rest.takeWhile isDigitChar
    if isDecimal whole && isDigitRun Char.isDigit fraction then
      (exponent? (rest.drop fraction.length)).map (whole, fraction, ·)
    else none
  | rest => if isDecimal whole then (exponent? rest).map (whole, [], ·) else none

/-- The least number that is nearer to the power of two above all 64-bit floats than to the
greatest of them, or as near. -/
def overflowBound : Nat := 1 <<< 1024 - 1 <<< 970

/-- Whether a number, given by the parts of its float, is beyond all 64-bit floats. Of numbers
with very large exponents the count of digits decides. -/
def overflows (whole fraction exponent : List Char) : Bool :=
  let mantissa := digitsValue 10 (whole ++ fraction)
  let (negative, digits) := signed exponent
  let magnitude : Int := digitsValue 10 digits
  let power : Int := (if negative then -magnitude else magnitude)
    - (fraction.filter Char.isDigit).length
  mantissa ≠ 0 &&
    if power < 0 then
      power.natAbs ≤ (whole ++ fraction).length &&
        overflowBound * Nat.pow 10 power.natAbs ≤ mantissa
    else 400 ≤ power || overflowBound ≤ mantissa * Nat.pow 10 power.natAbs

/-- A float. One that is positive must not be beyond all 64-bit floats. -/
def float? (text : List Char) : Option Toml :=
  let (negative, unsigned) := signed text
  let valid :=
    match floatParts? unsigned with
    | some (whole, fraction, exponent) => negative || !overflows whole fraction exponent
    | none => unsigned = ['i', 'n', 'f'] || unsigned = ['n', 'a', 'n']
  if valid then some (.float (String.ofList text)) else none

/-! ## Dates and times -/

/-- The value of exactly `width` digits at the start, and what follows them. -/
def fixedDigits? (width : Nat) (text : List Char) : Option (Nat × List Char) :=
  let digits := text.take width
  if digits.length = width ∧ digits.all Char.isDigit then
    some (digitsValue 10 digits, text.drop width)
  else none

/-- What follows a given character. -/
def after? (c : Char) : List Char → Option (List Char)
  | d :: rest => if d = c then some rest else none
  | [] => none

/-- The number of days of a month. -/
def daysOfMonth (year month : Nat) : Nat :=
  if month = 2 then
    if (year % 4 = 0 ∧ year % 100 ≠ 0) ∨ year % 400 = 0 then 29 else 28
  else if month = 4 ∨ month = 6 ∨ month = 9 ∨ month = 11 then 30
  else 31

/-- What follows a date. -/
def afterDate? (text : List Char) : Option (List Char) := do
  let (year, rest) ← fixedDigits? 4 text
  let (month, rest) ← fixedDigits? 2 (← after? '-' rest)
  let (day, rest) ← fixedDigits? 2 (← after? '-' rest)
  if 1 ≤ month ∧ month ≤ 12 ∧ 1 ≤ day ∧ day ≤ daysOfMonth year month then some rest else none

/-- What follows a time of day. -/
def afterTime? (text : List Char) : Option (List Char) := do
  let (hour, rest) ← fixedDigits? 2 text
  let (minute, rest) ← fixedDigits? 2 (← after? ':' rest)
  let (second, rest) ← fixedDigits? 2 (← after? ':' rest)
  if hour ≤ 23 ∧ minute ≤ 59 ∧ second ≤ 60 then
    match rest with
    | '.' :: c :: fraction => if c.isDigit then some (fraction.dropWhile Char.isDigit) else none
    | '.' :: [] => none
    | _ => some rest
  else none

/-- What follows the offset of a time, which may be missing. -/
def afterOffset? : List Char → Option (List Char)
  | c :: rest =>
    if c = 'Z' ∨ c = 'z' then some rest
    else if c = '+' ∨ c = '-' then do
      let (hour, rest) ← fixedDigits? 2 rest
      let (minute, rest) ← fixedDigits? 2 (← after? ':' rest)
      if hour ≤ 23 ∧ minute ≤ 59 then some rest else none
    else some (c :: rest)
  | [] => some []

/-- Whether a text is a date, a time, or both with or without an offset. -/
def isDateTime (text : List Char) : Bool :=
  match afterDate? text with
  | some [] => true
  | some (c :: time) =>
    (c = 'T' || c = 't' || c = ' ') && (afterTime? time >>= afterOffset?) == some []
  | none => afterTime? text == some []

/-! ## Plain scalars -/

/-- Whether a character can stand in a number, a truth value, a date or a time. -/
def isPlainChar (c : Char) : Bool := c.isAlphanum || "+-_.:".toList.contains c

/-- A number, a truth value, a date or a time, and what follows it. -/
def plainScalar? (text : List Char) : Option (Toml × List Char) :=
  let first := text.takeWhile isPlainChar
  let rest := text.drop first.length
  let (plain, after) : List Char × List Char :=
    match afterDate? first, rest with
    | some [], ' ' :: c :: more =>
      if c.isDigit then
        let time := (c :: more).takeWhile isPlainChar
        (first ++ ' ' :: time, (c :: more).drop time.length)
      else (first, rest)
    | _, _ => (first, rest)
  let value? : Option Toml :=
    if isDateTime plain then some (.dateTime (String.ofList plain))
    else if plain = "true".toList then some (.bool true)
    else if plain = "false".toList then some (.bool false)
    else (integer? plain).or (float? plain)
  value?.map (·, after)

end AdapterWiring.Toml
