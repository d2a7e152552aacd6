import SolarCharts.Chart.Picture
import SolarCharts.Text.Digit
import SolarCharts.Text.Split

/-!
# Reading sizes

A size is written as its width and its height with an `x` between them. Each is a number from 1 to
2^32 - 1 in decimal digits, with a plus sign in front of it or not.
-/

namespace SolarCharts.Size

/-- The greatest width and height. -/
def maxSide : Nat := UInt32.size - 1

/-- The number that a row of digits gives, if there is one that is no greater than a side may be. -/
def ofDigits? : List Char → Option Nat
  | [] => none
  | digits =>
    if digits.all Char.isDigit then
      if Text.decimalOf digits ≤ maxSide then some (Text.decimalOf digits) else none
    else none

/-- A side of a size. -/
def side? : List Char → Option Nat
  | '+' :: digits => ofDigits? digits
  | digits => ofDigits? digits

/-- The size that a text gives. -/
def ofText? (text : String) : Option Size :=
  match Text.splitAt 'x' text.toList with
  | [left, right] =>
    match side? left, side? right with
    | some width, some height =>
      if width = 0 ∨ height = 0 then none else some ⟨width, height⟩
    | _, _ => none
  | _ => none

end SolarCharts.Size
