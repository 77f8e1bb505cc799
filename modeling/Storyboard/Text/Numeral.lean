/-!
# Decimal numerals of a machine word

Argument numbers, option indexes and similar counts are decimal numerals of a 64-bit word: at
least one digit, any number of leading zeros, an optional plus sign, and a value below `2 ^ 64`.
-/

namespace Storyboard.Text

/-- One more than the largest word: `2 ^ 64`. -/
def wordLimit : Nat := 18446744073709551616

/-- The value of a decimal digit. -/
def digitValue (c : Char) : Nat := c.toNat - '0'.toNat

/-- The value of a sequence of decimal digits, the most significant first. -/
def digitsValue (cs : List Char) : Nat :=
  cs.foldl (fun n c => 10 * n + digitValue c) 0

/-- The value of a non-empty sequence of decimal digits. -/
def readDigits? (cs : List Char) : Option Nat :=
  if cs.isEmpty || !cs.all Char.isDigit then none else some (digitsValue cs)

/-- The word that a numeral denotes, with or without a plus sign. -/
def readWord? (cs : List Char) : Option Nat :=
  let digits := match cs with
    | '+' :: rest => rest
    | cs => cs
  (readDigits? digits).filter (· < wordLimit)

end Storyboard.Text
