/-!
# Hexadecimal digits

* **hexDigit?** — the value of a digit, in small or capital letters.
* **hexDigitChar** — the digit of a value, in small letters.
-/

namespace AdapterWiring.Text

/-- The value of a hexadecimal digit. -/
def hexDigit? (c : Char) : Option Nat :=
  if '0' ≤ c ∧ c ≤ '9' then some (c.toNat - '0'.toNat)
  else if 'a' ≤ c ∧ c ≤ 'f' then some (c.toNat - 'a'.toNat + 10)
  else if 'A' ≤ c ∧ c ≤ 'F' then some (c.toNat - 'A'.toNat + 10)
  else none

/-- The hexadecimal digit of a value below sixteen. -/
def hexDigitChar (digit : Nat) : Char :=
  if digit < 10 then Char.ofNat ('0'.toNat + digit) else Char.ofNat ('a'.toNat + digit - 10)

theorem hexDigit?_hexDigitChar : ∀ digit < 16, hexDigit? (hexDigitChar digit) = some digit := by
  decide

/-- The character with the code point that hexadecimal digits write. -/
def charOfHex? (digits : List Char) : Option Char := do
  let value ← digits.foldlM (fun value c => (hexDigit? c).map (16 * value + ·)) 0
  if digits.isEmpty ∨ 0x10FFFF < value ∨ (0xD800 ≤ value ∧ value ≤ 0xDFFF) then none
  else some (Char.ofNat value)

end AdapterWiring.Text
