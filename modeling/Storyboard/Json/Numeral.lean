import Storyboard.Number.Binary

/-!
# Numbers in JSON texts

A number is kept as it was written. Its value is a word or a negative word when it is an integer
in range, and a 64-bit floating-point number otherwise.

The floating-point value is computed in the usual fast way, which is not always the nearest one:
the digits are collected into a significand of one word, as long as they fit, the significand is
rounded to floating point, and the result is multiplied or divided by a power of ten.
-/

namespace Storyboard

/-- A number as it is written. -/
structure Numeral where
  /-- Whether it starts with a minus sign. -/
  negative : Bool
  /-- The digits before the point. -/
  whole : List Char
  /-- The digits after the point, if there is one. -/
  fraction : Option (List Char) := none
  /-- The sign and the digits of the exponent, if there is one. -/
  exponent : Option (Bool × List Char) := none
  deriving DecidableEq

/-- The value of a number. -/
inductive NumberValue where
  /-- A word. -/
  | natural (n : Nat)
  /-- The negative of a positive word. -/
  | negated (n : Nat)
  /-- A floating-point number: its sign and the bit pattern of its magnitude. -/
  | double (negative : Bool) (bits : Nat)
  deriving DecidableEq

namespace Numeral

/-- The numeral of a natural number. -/
def ofNat (n : Nat) : Numeral := { negative := false, whole := Nat.toDigits 10 n }

/-- The numeral as it is written. -/
def chars (numeral : Numeral) : List Char :=
  (if numeral.negative then ['-'] else []) ++ numeral.whole ++
    (match numeral.fraction with
      | some digits => '.' :: digits
      | none => []) ++
    match numeral.exponent with
      | some (negative, digits) => 'e' :: (if negative then '-' :: digits else digits)
      | none => []

/-- Appends digits to a significand as long as it stays a word; the digits that are left. -/
def collect : Nat → List Char → Nat × List Char
  | significand, [] => (significand, [])
  | significand, c :: rest =>
    let longer := 10 * significand + Text.digitValue c
    if longer < Text.wordLimit then collect longer rest else (significand, c :: rest)

/-- The largest power of ten that is multiplied or divided by in one go. -/
def tenReach : Nat := 308

/-- The floating-point number nearest to a power of ten. -/
def tenPower (n : Nat) : Nat := BinaryFormat.double.round (Nat.pow 10 n) 1

/-- The product of two floating-point numbers. -/
def product (a b : Nat) : Nat :=
  let (an, ad) := BinaryFormat.double.ratio a
  let (bn, bd) := BinaryFormat.double.ratio b
  BinaryFormat.double.round (an * bn) (ad * bd)

/-- The quotient of two floating-point numbers. -/
def quotient (a b : Nat) : Nat :=
  let (an, ad) := BinaryFormat.double.ratio a
  let (bn, bd) := BinaryFormat.double.ratio b
  BinaryFormat.double.round (an * bd) (ad * bn)

/-- A floating-point number divided by a power of ten, in steps of at most `tenReach`. -/
def divideTen (f n : Nat) : Nat :=
  if n ≤ tenReach then quotient f (tenPower n)
  else if f = 0 then 0
  else divideTen (quotient f (tenPower tenReach)) (n - tenReach)
termination_by n
decreasing_by
  simp only [tenReach] at *
  omega

/-- A floating-point number multiplied by a power of ten, unless the result is infinite. -/
def multiplyTen? (f n : Nat) : Option Nat :=
  if f = 0 then some 0
  else if n ≤ tenReach then
    let result := product f (tenPower n)
    if result < BinaryFormat.double.infinity then some result else none
  else none

/-- The magnitude of `significand · 10 ^ exponent`, unless it is infinite. -/
def ofParts? (significand : Nat) (exponent : Int) : Option Nat :=
  let f := BinaryFormat.double.round significand 1
  if exponent < 0 then some (divideTen f (-exponent).toNat)
  else multiplyTen? f exponent.toNat

/-- Exponents below this limit, `2 ^ 31`, are taken as they are written. -/
def exponentLimit : Nat := 2147483648

/-- The magnitude of a number with a point, an exponent, or too many digits for a word. -/
def magnitude? (numeral : Numeral) : Option Nat :=
  -- Digits before the point that do not fit still count as powers of ten.
  let (significand, excess) := collect 0 numeral.whole
  let fraction := numeral.fraction.getD []
  -- Digits after the point that do not fit are dropped.
  let (significand, dropped) := collect significand fraction
  let shift : Int := excess.length - (fraction.length - dropped.length : Nat)
  match numeral.exponent with
  | none => ofParts? significand shift
  | some (negative, digits) =>
    let e := Text.digitsValue digits
    if e < exponentLimit then ofParts? significand (if negative then shift - e else shift + e)
    else if significand = 0 ∨ negative then some 0
    else none

/-- The value of a number, unless it is too large. -/
def value? (numeral : Numeral) : Option NumberValue :=
  let n := Text.digitsValue numeral.whole
  if numeral.fraction.isNone ∧ numeral.exponent.isNone ∧ n < Text.wordLimit then
    if !numeral.negative then some (.natural n)
    else if 0 < n ∧ n ≤ Text.wordLimit / 2 then some (.negated n)
    else some (.double true (BinaryFormat.double.round n 1))
  else numeral.magnitude?.map (.double numeral.negative)

end Numeral

namespace NumberValue

/-- The 32-bit floating-point number nearest to the value. -/
def toBinary32 : NumberValue → Binary32
  | natural n => .ofMagnitude false (BinaryFormat.single.round n 1)
  | negated n => .ofMagnitude true (BinaryFormat.single.round n 1)
  | double negative bits =>
    let (num, den) := BinaryFormat.double.ratio bits
    .ofMagnitude negative (BinaryFormat.single.round num den)

end NumberValue

end Storyboard
