import Storyboard.Text.Numeral

/-!
# Decimal numbers

A decimal number is a sign, a natural number and a power of ten. Its written form has an optional
sign, digits with an optional point somewhere among or around them, and an optional exponent; at
least one digit stands beside the point.
-/

namespace Storyboard

/-- The number `± digits · 10 ^ exponent`. -/
structure Decimal where
  /-- Whether a minus sign was written. -/
  negative : Bool
  /-- The digits, as one natural number. -/
  digits : Nat
  /-- The power of ten. -/
  exponent : Int
  deriving DecidableEq

namespace Decimal

/-- Splits off a sign. -/
def readSign : List Char → Bool × List Char
  | '-' :: rest => (true, rest)
  | '+' :: rest => (false, rest)
  | cs => (false, cs)

/-- Reads what follows the digits: nothing, or an exponent that reaches the end. -/
def readExponent? : List Char → Option Int
  | [] => some 0
  | mark :: rest =>
    if mark = 'e' ∨ mark = 'E' then
      let (negative, digits) := readSign rest
      (Text.readDigits? digits).map fun (n : Nat) => if negative then -(n : Int) else n
    else none

/-- Splits off the digits after a point, if one is next. -/
def readFraction : List Char → List Char × List Char
  | '.' :: rest => (rest.takeWhile Char.isDigit, rest.dropWhile Char.isDigit)
  | cs => ([], cs)

/-- Reads a decimal number that takes up the whole text. -/
def read? (cs : List Char) : Option Decimal :=
  let (negative, unsigned) := readSign cs
  let whole := unsigned.takeWhile Char.isDigit
  let (fraction, rest) := readFraction (unsigned.dropWhile Char.isDigit)
  if whole.isEmpty && fraction.isEmpty then none
  else
    (readExponent? rest).map fun exponent =>
      ⟨negative, Text.digitsValue (whole ++ fraction), exponent - fraction.length⟩

end Decimal

end Storyboard
