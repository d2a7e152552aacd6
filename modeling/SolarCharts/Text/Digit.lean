/-!
# Digits

The values of single digits, and of rows of digits, in base 10 and base 16. Only the digits of ASCII
count.
-/

namespace SolarCharts.Text

/-- The value of a decimal digit. -/
def digit? (c : Char) : Option Nat := if c.isDigit then some (c.toNat - '0'.toNat) else none

/-- The value of a digit of base 16, in either case. -/
def hexValue? (c : Char) : Option Nat :=
  if c.isDigit then some (c.toNat - '0'.toNat)
  else if 'a' ≤ c ∧ c ≤ 'f' then some (c.toNat - 'a'.toNat + 10)
  else if 'A' ≤ c ∧ c ≤ 'F' then some (c.toNat - 'A'.toNat + 10)
  else none

/-- Whether a character is a digit of base 16. -/
def isHexDigit (c : Char) : Bool := (hexValue? c).isSome

/-- The value of a row of decimal digits. -/
def decimalOf (digits : List Char) : Nat :=
  digits.foldl (fun value c => 10 * value + (c.toNat - '0'.toNat)) 0

end SolarCharts.Text
