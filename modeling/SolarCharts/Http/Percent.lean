import SolarCharts.Text.Digit
import SolarCharts.Text.Quoted
import SolarCharts.Text.Utf8

/-!
# Percent-encoding

Within a URL, an octet that may not stand for itself is written as a percent sign and two digits of
base 16. Which octets those are depends on the part of the URL. The value of a parameter is written by
a stricter rule of its own, under which a space is a plus sign.
-/

namespace SolarCharts.Http

/-- An octet as a percent sign and two digits. -/
def percentEncoded (b : UInt8) : List Char :=
  let digit (n : Nat) : Char := (Text.hexDigit n).toUpper
  ['%', digit (b.toNat / 16), digit (b.toNat % 16)]

/-- The octets of a character, each by its number. -/
def encodedChar (c : Char) : List Char :=
  (Utf8.encode (String.singleton c)).flatMap percentEncoded

/-- A text in which the characters of a class are encoded, and all that are not plain ASCII. -/
def percentEncode (special : List Char) (text : List Char) : List Char :=
  text.flatMap fun c =>
    if c.toNat ≤ 31 ∨ 127 ≤ c.toNat ∨ special.contains c then encodedChar c else [c]

/-- The characters that are encoded in a path. -/
def pathSpecials : List Char := " \"#<>?`\x7b\x7d".toList

/-- The characters that are encoded in a query. -/
def querySpecials : List Char := " \"#<>'".toList

/-- The octets of a text whose percent signs are undone. One that two digits do not follow stands for
itself. -/
def percentDecode : List Char → List UInt8
  | '%' :: a :: b :: rest =>
    match Text.hexValue? a, Text.hexValue? b with
    | some high, some low => (16 * high + low).toUInt8 :: percentDecode rest
    | _, _ => 37 :: percentDecode (a :: b :: rest)
  | c :: rest => Utf8.encode (String.singleton c) ++ percentDecode rest
  | [] => []

/-- Whether an octet stands for itself in the value of a parameter. -/
def isPlainInForm (b : UInt8) : Bool :=
  let c := Char.ofNat b.toNat
  b.toNat < 128 && (c.isAlphanum || c == '*' || c == '-' || c == '.' || c == '_')

/-- An octet in the value of a parameter. -/
def formOctet (b : UInt8) : List Char :=
  if b = 32 then ['+'] else if isPlainInForm b then [Char.ofNat b.toNat] else percentEncoded b

/-- The value of a parameter. -/
def formEncoded (text : String) : String :=
  String.ofList ((Utf8.encode text).flatMap formOctet)

end SolarCharts.Http
