import SolarCharts.Text.Split

/-!
# Blank characters

The characters with the Unicode property White_Space, and the removal of them from both ends of a
text. Settings are trimmed this way before they are read.
-/

namespace SolarCharts.Text

/-- Whether a character has the property White_Space. -/
def isBlank (c : Char) : Bool :=
  let n := c.toNat
  (0x9 ≤ n && n ≤ 0xd) || n == 0x20 || n == 0x85 || n == 0xa0 || n == 0x1680
    || (0x2000 ≤ n && n ≤ 0x200a) || n == 0x2028 || n == 0x2029 || n == 0x202f || n == 0x205f
    || n == 0x3000

/-- Drops blank characters from both ends. -/
def trimmed (text : List Char) : List Char := dropEnd isBlank (text.dropWhile isBlank)

/-- Drops blank characters from both ends. -/
def trim (text : String) : String := String.ofList (trimmed text.toList)

/-- Whether a text holds nothing but blank characters. -/
def isAllBlank (text : String) : Bool := text.toList.all isBlank

end SolarCharts.Text
