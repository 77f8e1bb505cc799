import Storyboard.Number.Decimal

/-!
# Binary floating-point numbers

Positions and scales are kept as the bit patterns of 32-bit binary floating-point numbers. All
rounding is exact: a ratio of natural numbers is rounded to the nearest value of a format, and of
two nearest ones to the one with the even significand.

The bit patterns of the non-negative values of a format increase with the values. A value
`q · 2 ^ (w - lowest)` whose significand `q` has the full `precision`, or any value with `w = 0`,
has the pattern `w · 2 ^ (precision - 1) + q` (`BinaryFormat.round`); a carry of the rounding into
the next power of two needs no special care.
-/

namespace Storyboard

/-- The power of two. -/
def twoPow (n : Nat) : Nat := Nat.pow 2 n

/-- A binary floating-point format. -/
structure BinaryFormat where
  /-- The number of binary digits of a full significand. -/
  precision : Nat
  /-- The smallest positive value is `2 ^ (-lowest)`. -/
  lowest : Nat
  /-- The exponent code of infinity. -/
  top : Nat
  deriving DecidableEq

namespace BinaryFormat

/-- The 32-bit format. -/
def single : BinaryFormat := ⟨24, 149, 255⟩

/-- The 64-bit format. -/
def double : BinaryFormat := ⟨53, 1074, 2047⟩

/-- The bit pattern of infinity. -/
def infinity (fmt : BinaryFormat) : Nat := fmt.top * twoPow (fmt.precision - 1)

/-- The nearest natural number to `num / den`, a half going to the even neighbour. -/
def roundDiv (num den : Nat) : Nat :=
  let q := num / den
  let r := num % den
  if 2 * r > den ∨ (2 * r = den ∧ q % 2 = 1) then q + 1 else q

/-- The largest `k` with `2 ^ k ≤ num / den`, for positive numbers. -/
def ratioLog2 (num den : Nat) : Int :=
  let k : Int := (Nat.log2 num : Int) - (Nat.log2 den : Int)
  if den * twoPow k.toNat ≤ num * twoPow (-k).toNat then k else k - 1

/-- The bit pattern of the value nearest to `num / den`. -/
def round (fmt : BinaryFormat) (num den : Nat) : Nat :=
  if num = 0 then 0
  else
    -- Below the normal range the weight stays zero, so the significand loses digits.
    let weight := (ratioLog2 num den - (fmt.precision - 1 : Nat) + fmt.lowest).toNat
    let e : Int := (weight : Int) - fmt.lowest
    let q := roundDiv (num * twoPow (-e).toNat) (den * twoPow e.toNat)
    -- A full significand has its leading digit counted into the exponent code.
    min (weight * twoPow (fmt.precision - 1) + q) fmt.infinity

/-- The significand and the power of two of a bit pattern below infinity. -/
def decode (fmt : BinaryFormat) (bits : Nat) : Nat × Int :=
  let half := twoPow (fmt.precision - 1)
  let code := bits / half
  if code = 0 then (bits, -(fmt.lowest : Int))
  else (bits % half + half, (code - 1 : Nat) - (fmt.lowest : Int))

/-- A value below infinity as a ratio of natural numbers. -/
def ratio (fmt : BinaryFormat) (bits : Nat) : Nat × Nat :=
  let (m, e) := fmt.decode bits
  (m * twoPow e.toNat, twoPow (-e).toNat)

/-- Beyond `10 ^ decimalReach`, or below its inverse, a number is infinite or zero in both
formats. -/
def decimalReach : Int := 400

/-- The bit pattern of the value nearest to a decimal number, without its sign. -/
def ofDecimal (fmt : BinaryFormat) (d : Decimal) : Nat :=
  if d.digits = 0 then 0
  else
    -- Huge exponents are settled without computing a power of ten.
    let magnitude := ((Nat.toDigits 10 d.digits).length : Int) + d.exponent
    if magnitude > decimalReach then fmt.infinity
    else if magnitude < -decimalReach then 0
    else fmt.round (d.digits * Nat.pow 10 d.exponent.toNat) (Nat.pow 10 (-d.exponent).toNat)

end BinaryFormat

/-- A 32-bit floating-point number, as its bit pattern. -/
structure Binary32 where
  /-- The bit pattern. -/
  bits : UInt32
  deriving DecidableEq, Inhabited

namespace Binary32

/-- The number with a sign and the bit pattern of its magnitude. -/
def ofMagnitude (negative : Bool) (magnitude : Nat) : Binary32 :=
  ⟨UInt32.ofNat (if negative then twoPow 31 + magnitude else magnitude)⟩

/-- Reads a decimal number whose nearest value is finite. -/
def readFinite? (cs : List Char) : Option Binary32 :=
  (Decimal.read? cs).bind fun d =>
    let magnitude := BinaryFormat.single.ofDecimal d
    if magnitude < BinaryFormat.single.infinity then some (ofMagnitude d.negative magnitude)
    else none

end Binary32

end Storyboard
