import AdapterWiring.Json.Value
import AdapterWiring.Text.Hex

/-!
# JSON lexemes

A JSON text is scanned one character at a time. A `Mode` holds what has been
read of the lexeme in progress; a step gives the next mode and the lexemes
that the character completes.

* **Lexeme** — a bracket, a comma, a colon or a scalar value.
* **step** — one character.
* **finish** — the end of the text.
-/

namespace AdapterWiring.Json

/-- A lexeme of JSON. -/
inductive Lexeme where
  /-- `[` -/
  | openArray
  /-- `]` -/
  | closeArray
  /-- An opening brace. -/
  | openObject
  /-- A closing brace. -/
  | closeObject
  /-- `,` -/
  | comma
  /-- `:` -/
  | colon
  /-- A string; it may be a value or the name of a member. -/
  | string (content : Str)
  /-- `null`, a truth value or a number. -/
  | scalar (value : Json)

/-- What has been read of the lexeme in progress, in reverse. -/
inductive Mode where
  /-- Between lexemes. -/
  | gap
  /-- In a word of small letters. -/
  | word (letters : List Char)
  /-- In a number. -/
  | number (literal : List Char)
  /-- In a string. -/
  | string (units : List Nat)
  /-- In a string, after a backslash. -/
  | escape (units : List Nat)
  /-- In a string, in an escape of which `digits` hexadecimal digits are still to come. -/
  | codeUnit (units : List Nat) (digits : Nat) (value : Nat)

/-! ## Numbers -/

/-- A nonempty run of digits at the start: what follows it. -/
def afterDigits : List Char → Option (List Char)
  | [] => none
  | c :: rest => if c.isDigit then some (rest.dropWhile Char.isDigit) else none

/-- An integer part without a leading zero: what follows it. -/
def afterInteger : List Char → Option (List Char)
  | '0' :: rest => some rest
  | cs => afterDigits cs

/-- An optional fraction: what follows it. -/
def afterFraction : List Char → Option (List Char)
  | '.' :: rest => afterDigits rest
  | cs => some cs

/-- An optional exponent: what follows it. -/
def afterExponent : List Char → Option (List Char)
  | c :: rest =>
    if c = 'e' ∨ c = 'E' then
      match rest with
      | '+' :: digits => afterDigits digits
      | '-' :: digits => afterDigits digits
      | digits => afterDigits digits
    else some (c :: rest)
  | [] => some []

/-- Whether characters form a JSON number. -/
def isNumber (cs : List Char) : Bool :=
  let unsigned := match cs with
    | '-' :: rest => rest
    | _ => cs
  (afterInteger unsigned >>= afterFraction >>= afterExponent) == some []

/-! ## Strings -/

/-- Whether a code value is the first half of a surrogate pair. -/
def isHighSurrogate (unit : Nat) : Bool := 0xD800 ≤ unit && unit ≤ 0xDBFF

/-- Whether a code value is the second half of a surrogate pair. -/
def isLowSurrogate (unit : Nat) : Bool := 0xDC00 ≤ unit && unit ≤ 0xDFFF

/-- The characters of code values, in which a surrogate pair stands for one character. -/
def charsOfUnits : List Nat → Option (List Char)
  | [] => some []
  | high :: low :: rest =>
    if isHighSurrogate high && isLowSurrogate low then
      (charsOfUnits rest).map
        (Char.ofNat (0x10000 + (high - 0xD800) * 0x400 + (low - 0xDC00)) :: ·)
    else if isHighSurrogate high || isLowSurrogate high then none
    else (charsOfUnits (low :: rest)).map (Char.ofNat high :: ·)
  | [unit] =>
    if isHighSurrogate unit || isLowSurrogate unit then none else some [Char.ofNat unit]

/-- The string that code values denote. -/
def Str.ofUnits (units : List Nat) : Str :=
  match charsOfUnits units with
  | some chars => .text (String.ofList chars)
  | none => .unpaired units

/-- The character that a one-letter escape stands for. -/
def escaped? : Char → Option Char
  | '"' => some '"'
  | '\\' => some '\\'
  | '/' => some '/'
  | 'b' => some '\x08'
  | 'f' => some '\x0c'
  | 'n' => some '\n'
  | 'r' => some '\r'
  | 't' => some '\t'
  | _ => none

/-! ## Steps -/

/-- The lexeme that a completed word is. -/
def wordLexeme? (letters : List Char) : Option Lexeme :=
  match String.ofList letters.reverse with
  | "null" => some (.scalar .null)
  | "true" => some (.scalar (.bool true))
  | "false" => some (.scalar (.bool false))
  | _ => none

/-- The lexeme that a completed number is. -/
def numberLexeme? (literal : List Char) : Option Lexeme :=
  if isNumber literal.reverse then some (.scalar (.number (String.ofList literal.reverse)))
  else none

/-- Whether a character can stand in a number. -/
def isNumberChar (c : Char) : Bool := c.isDigit || "+-.eE".toList.contains c

/-- A character between lexemes. -/
def startLexeme : Char → Option (Mode × List Lexeme)
  | '[' => some (.gap, [.openArray])
  | ']' => some (.gap, [.closeArray])
  | '{' => some (.gap, [.openObject])
  | '}' => some (.gap, [.closeObject])
  | ',' => some (.gap, [.comma])
  | ':' => some (.gap, [.colon])
  | '"' => some (.string [], [])
  | '-' => some (.number ['-'], [])
  | c =>
    if c = ' ' ∨ c = '\t' ∨ c = '\n' ∨ c = '\r' then some (.gap, [])
    else if c.isDigit then some (.number [c], [])
    else if c.isLower then some (.word [c], [])
    else none

/-- A character that ends the lexeme before it. -/
def startAfter (lexeme : Option Lexeme) (c : Char) : Option (Mode × List Lexeme) := do
  let completed ← lexeme
  let (mode, more) ← startLexeme c
  return (mode, completed :: more)

/-- One character: the next mode and the lexemes it completes. -/
def step : Mode → Char → Option (Mode × List Lexeme)
  | .gap, c => startLexeme c
  | .word letters, c =>
    if c.isLower then some (.word (c :: letters), []) else startAfter (wordLexeme? letters) c
  | .number literal, c =>
    if isNumberChar c then some (.number (c :: literal), [])
    else startAfter (numberLexeme? literal) c
  | .string units, c =>
    if c = '"' then some (.gap, [.string (Str.ofUnits units.reverse)])
    else if c = '\\' then some (.escape units, [])
    else if c.toNat < 0x20 then none
    else some (.string (c.toNat :: units), [])
  | .escape units, c =>
    if c = 'u' then some (.codeUnit units 4 0, [])
    else (escaped? c).map fun meant => (.string (meant.toNat :: units), [])
  | .codeUnit units digits value, c =>
    (Text.hexDigit? c).map fun digit =>
      let read := 16 * value + digit
      if digits ≤ 1 then (.string (read :: units), []) else (.codeUnit units (digits - 1) read, [])

/-- The end of the text: the lexemes it completes. -/
def finish : Mode → Option (List Lexeme)
  | .gap => some []
  | .word letters => (wordLexeme? letters).map ([·])
  | .number literal => (numberLexeme? literal).map ([·])
  | _ => none

end AdapterWiring.Json
