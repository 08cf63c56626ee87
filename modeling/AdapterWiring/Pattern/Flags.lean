import AdapterWiring.Pattern.Expr

/-!
# Flags

Letters between `(?` and `)` or `:` change how the rest of a group is read; those
after a hyphen are switched off.

* **Flags** — the flags in force.
* **change?** — the flags after a list of letters.
* **skip** — the text without what does not count at its start.
-/

namespace AdapterWiring.Pattern

/-- How a pattern is read. -/
structure Flags where
  /-- Whether letters match their case variants, too: `i`. -/
  anyCase : Bool := false
  /-- Whether `^` and `$` stand for the ends of lines: `m`. -/
  byLine : Bool := false
  /-- Whether a dot matches line ends, too: `s`. -/
  dotAll : Bool := false
  /-- Whether repetitions without a further `?` prefer few matches: `U`. -/
  lazy : Bool := false
  /-- Whether characters beyond ASCII belong to sets and words: `u`. -/
  unicode : Bool := true
  /-- Whether a carriage return ends a line, too: `R`. -/
  carriageReturn : Bool := false
  /-- Whether blanks and comments do not count: `x`. -/
  spaced : Bool := false
deriving DecidableEq, Inhabited

/-- What follows blanks and comments; a comment starts with `#` and ends with its line. -/
def skipSpaced (inComment : Bool) : List Char → List Char
  | [] => []
  | c :: rest =>
    if inComment then skipSpaced (c ≠ '\n') rest
    else if c = '#' then skipSpaced true rest
    else if Text.isBlank c then skipSpaced false rest
    else c :: rest

namespace Flags

/-- The flags with that of a letter switched on or off. -/
def set? (flags : Flags) (on : Bool) : Char → Option Flags
  | 'i' => some { flags with anyCase := on }
  | 'm' => some { flags with byLine := on }
  | 's' => some { flags with dotAll := on }
  | 'U' => some { flags with lazy := on }
  | 'u' => some { flags with unicode := on }
  | 'R' => some { flags with carriageReturn := on }
  | 'x' => some { flags with spaced := on }
  | _ => none

/-- The flags after a list of letters, `seen` being those before it in reverse, with the character
that ends the list and what follows it. No letter and no hyphen stands twice, and a hyphen is not
the last. -/
def change? (seen : List Char) (flags : Flags) : List Char → Option (Flags × Char × List Char)
  | [] => none
  | c :: rest =>
    if c = ':' ∨ c = ')' then if seen.head? = some '-' then none else some (flags, c, rest)
    else if seen.contains c then none
    else if c = '-' then change? (c :: seen) flags rest
    else (flags.set? (!seen.contains '-') c).bind (change? (c :: seen) · rest)

/-- The text without what does not count at its start. -/
def skip (flags : Flags) (text : List Char) : List Char :=
  if flags.spaced then skipSpaced false text else text

/-- The longest start of a text, up to a number of characters, whose characters satisfy a
condition, and what follows it; what does not count after each character is left out. -/
def gather (flags : Flags) (accepts : Char → Bool) :
    Nat → List Char → List Char × List Char
  | 0, text => ([], text)
  | _, [] => ([], [])
  | most + 1, c :: rest =>
    if accepts c then
      let (more, after) := flags.gather accepts most (flags.skip rest)
      (c :: more, after)
    else ([], c :: rest)

/-- The word characters in force. -/
def wordKind (flags : Flags) : WordKind := if flags.unicode then .unicode else .ascii

/-- The condition that `^` stands for. -/
def caret (flags : Flags) : Assertion :=
  if !flags.byLine then .start else if flags.carriageReturn then .returnStart else .lineStart

/-- The condition that `$` stands for. -/
def dollar (flags : Flags) : Assertion :=
  if !flags.byLine then .stop else if flags.carriageReturn then .returnStop else .lineStop

/-- The set that a dot stands for; it cannot be limited to ASCII. -/
def dot? (flags : Flags) : Option CharSet :=
  if !flags.unicode then none
  else if flags.dotAll then some .all
  else if flags.carriageReturn then some (.compl (.union (.single '\r') (.single '\n')))
  else some .exceptNewline

/-- A set with the case variants that the flags ask for. -/
def fold (flags : Flags) (set : CharSet) : CharSet :=
  if !flags.anyCase then set else if flags.unicode then .anyCase set else .anyAsciiCase set

/-- The characters from one to another. They cannot lie beyond ASCII if sets are limited to it. -/
def range? (flags : Flags) (low high : Char) : Option CharSet :=
  if flags.unicode || high.toNat < 128 then some (.range low high) else none

/-- A set or, if asked for, its complement, which cannot be limited to ASCII. -/
def negate? (flags : Flags) (negated : Bool) (set : CharSet) : Option CharSet :=
  if !negated then some set else if flags.unicode then some (.compl set) else none

/-- The case variants of a character and itself, if the flags ask for them and there are any. -/
def variants? (flags : Flags) (c : Char) : Option CharSet :=
  let variants := if flags.unicode then Text.caseVariants c else Text.asciiVariants c
  if flags.anyCase && !variants.isEmpty then some (flags.fold (.single c)) else none

end Flags

end AdapterWiring.Pattern
