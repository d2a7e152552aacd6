import SolarCharts.Text.Digit

/-!
# Decimal numbers

A number written in base 10, such as `-17.25e3`, and the float nearest to it. The text may start with
a sign; digits stand on one side of the point at least, and an exponent may follow. The words for
infinity and for no number are read in any case. Rounding is to the nearest float, and a number
beyond the range of floats becomes infinite.
-/

namespace SolarCharts

/-- A number in base 10. -/
structure Decimal where
  /-- Whether a minus sign stands in front. -/
  negative : Bool
  /-- The digits without the point. -/
  mantissa : Nat
  /-- The power of ten that the mantissa is multiplied by. -/
  exponent : Int
deriving DecidableEq

namespace Decimal

/-- Infinity. -/
def infinity : Float := Float.ofBits 0x7ff0000000000000

/-- What no number is read as. -/
def notANumber : Float := Float.ofBits 0x7ff8000000000000

/-- The nearest float to the size of a decimal number.

The places of the first digit settle what lies far beyond the range of floats, so that no power of
ten is formed for it. -/
def magnitude (d : Decimal) : Float :=
  -- the number is at least 10^(places - 1) and less than 10^places
  let places : Int := (Nat.toDigits 10 d.mantissa).length + d.exponent
  if d.mantissa = 0 ∨ places < -400 then 0.0
  else if 400 < places then infinity
  else Float.ofScientific d.mantissa (d.exponent < 0) d.exponent.natAbs

/-- The nearest float. -/
def toFloat (d : Decimal) : Float := if d.negative then -d.magnitude else d.magnitude

/-- The optional sign at the start of a text, and what follows it. -/
def sign : List Char → Bool × List Char
  | '+' :: rest => (false, rest)
  | '-' :: rest => (true, rest)
  | text => (false, text)

/-- The digits at the start of a text, and what follows them. -/
def digits (text : List Char) : List Char × List Char :=
  (text.takeWhile Char.isDigit, text.dropWhile Char.isDigit)

/-- An exponent that ends the text, or nothing. -/
def exponent? : List Char → Option Int
  | [] => some 0
  | c :: rest =>
    if c = 'e' ∨ c = 'E' then
      let (negative, rest) := sign rest
      let (found, rest) := digits rest
      if found.isEmpty ∨ ¬ rest.isEmpty then none
      else some (if negative then -(Text.decimalOf found : Int) else Text.decimalOf found)
    else none

/-- Reads a number written in digits, after its sign. -/
def ofUnsigned? (negative : Bool) (text : List Char) : Option Decimal :=
  let (whole, rest) := digits text
  let (places, rest) :=
    match rest with
    | '.' :: rest => digits rest
    | _ => ([], rest)
  if whole.isEmpty ∧ places.isEmpty then none
  else
    (exponent? rest).map fun exponent =>
      ⟨negative, Text.decimalOf (whole ++ places), exponent - places.length⟩

/-- Reads a number written in digits. -/
def ofText? (text : List Char) : Option Decimal :=
  ofUnsigned? (sign text).1 (sign text).2

end Decimal

/-- The float that a text gives. -/
def floatOfText? (text : String) : Option Float :=
  let (negative, word) := Decimal.sign text.toList
  let word := String.ofList (word.map Char.toLower)
  if word = "inf" ∨ word = "infinity" then
    some (if negative then -Decimal.infinity else Decimal.infinity)
  else if word = "nan" then some Decimal.notANumber
  else (Decimal.ofText? text.toList).map Decimal.toFloat

end SolarCharts
