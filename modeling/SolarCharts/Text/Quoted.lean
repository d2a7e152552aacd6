import SolarCharts.Text.Hidden

/-!
# Quoted texts

How a message shows a text that came from outside: between double quotes, on one line, and with every
character that would not show written by an escape.
-/

namespace SolarCharts.Text

/-- A digit of a number written in base 16. -/
def hexDigit (n : Nat) : Char :=
  if n < 10 then Char.ofNat (48 + n) else Char.ofNat (87 + n)

/-- A number in base 16, in lower case and without leading zeros. -/
def hexadecimal (n : Nat) : List Char := Nat.toDigits 16 n

/-- A character by its number. -/
def byNumber (c : Char) : List Char := ['\\', 'u', '{'] ++ hexadecimal c.toNat ++ ['}']

/-- One character within quotes. -/
def quotedChar (c : Char) : List Char :=
  if c = '"' then ['\\', '"']
  else if c = '\\' then ['\\', '\\']
  else if c = '\n' then ['\\', 'n']
  else if c = '\r' then ['\\', 'r']
  else if c = '\t' then ['\\', 't']
  else if c.toNat = 0 then ['\\', '0']
  else if isHidden c then byNumber c
  else [c]

/-- A text between double quotes. -/
def quoted (text : String) : String :=
  String.ofList ('"' :: text.toList.flatMap quotedChar ++ ['"'])

end SolarCharts.Text
