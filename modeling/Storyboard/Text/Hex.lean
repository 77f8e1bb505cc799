/-!
# Hexadecimal digits

A hexadecimal digit is read in either case. It is written in upper case in colours and in lower
case in escapes; both written forms read back as the value (`hexValue?_hexUpper`,
`hexValue?_hexLower`).
-/

namespace Storyboard.Text

/-- The value of a hexadecimal digit of either case. -/
def hexValue? (c : Char) : Option Nat :=
  if '0' ≤ c ∧ c ≤ '9' then some (c.toNat - '0'.toNat)
  else if 'a' ≤ c ∧ c ≤ 'f' then some (c.toNat - 'a'.toNat + 10)
  else if 'A' ≤ c ∧ c ≤ 'F' then some (c.toNat - 'A'.toNat + 10)
  else none

/-- The hexadecimal digit of a value below sixteen, with the letters from `ten` on. -/
def hexDigit (ten : Char) (n : Nat) : Char :=
  Char.ofNat (if n < 10 then '0'.toNat + n else ten.toNat + (n - 10))

/-- The upper-case hexadecimal digit of a value below sixteen. -/
def hexUpper (n : Nat) : Char := hexDigit 'A' n

/-- The lower-case hexadecimal digit of a value below sixteen. -/
def hexLower (n : Nat) : Char := hexDigit 'a' n

/-! ### Reading back -/

/-- **An upper-case digit reads back as its value.** -/
theorem hexValue?_hexUpper {n : Nat} (h : n < 16) : hexValue? (hexUpper n) = some n := by
  decide +revert

/-- **A lower-case digit reads back as its value.** -/
theorem hexValue?_hexLower {n : Nat} (h : n < 16) : hexValue? (hexLower n) = some n := by
  decide +revert

end Storyboard.Text
