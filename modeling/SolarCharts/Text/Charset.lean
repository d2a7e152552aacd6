import SolarCharts.Text.Reader
import SolarCharts.Text.Utf8

/-!
# Character sets

How the octets of a response become text. A byte-order mark at the start settles it and is dropped;
otherwise the charset that the content type names does, and UTF-8 when it names none that is known.
What encodes nothing becomes U+FFFD, so decoding never fails.
-/

namespace SolarCharts.Text

/-! ## The charset of a content type -/

/-- Whether a character can stand in the words of a content type. -/
def isTokenChar (c : Char) : Bool := c.isAlphanum || "!#$%&'*+-.^_`|~".toList.contains c

/-- Takes one word. -/
def token : Reader String := String.ofList <$> Reader.takeWhile1 isTokenChar

/-- Whether a character can stand between quotes. -/
def isQuotable (c : Char) : Bool := 32 ≤ c.toNat && c.toNat < 127 && c != '"'

/-- Passes over spaces. -/
def spaces : Reader Unit := Reader.skip (· == ' ')

/-- Takes the value of a parameter and the semicolon or the end after it. -/
def parameterValue : Reader String := (do
    Reader.expect ['"']
    let value ← Reader.takeWhile1 isQuotable
    Reader.expect ['"']
    spaces
    Reader.expect [';'] <|> Reader.finished
    return String.ofList value)
  <|> do
    let value ← token
    Reader.expect [';'] <|> Reader.finished
    return value

/-- Takes a parameter. -/
def parameter : Reader (String × String) := do
  spaces
  let name ← token
  Reader.expect ['=']
  return (name, ← parameterValue)

/-- Takes a content type and gives its parameters. -/
def contentType : Reader (List (String × String)) := do
  let _ ← token
  Reader.expect ['/']
  let _ ← Reader.takeWhile isTokenChar
  -- a semicolon without parameters after it is accepted
  if ← Reader.takes [';'] then
    let found ← Reader.many parameter
    spaces
    Reader.finished
    return found
  else
    Reader.finished
    return []

/-- The charset that a content type names. -/
def charsetOf? (text : String) : Option String := do
  let parameters ← Reader.run? contentType text.toList
  (parameters.find? fun parameter => parameter.1.toLower == "charset").map (·.2)

/-! ## Charsets -/

/-- A way to encode text. -/
inductive Charset where
  | utf8
  | utf16LittleEndian
  | utf16BigEndian
  | windows1252
deriving DecidableEq

namespace Charset

/-- The names of a charset. -/
def labels : Charset → List String
  | .utf8 =>
    ["unicode-1-1-utf-8", "unicode11utf8", "unicode20utf8", "utf-8", "utf8", "x-unicode20utf8"]
  | .utf16LittleEndian =>
    ["csunicode", "iso-10646-ucs-2", "ucs-2", "unicode", "unicodefeff", "utf-16", "utf-16le"]
  | .utf16BigEndian => ["unicodefffe", "utf-16be"]
  | .windows1252 =>
    [ "ansi_x3.4-1968", "ascii", "cp1252", "cp819", "csisolatin1", "ibm819", "iso-8859-1",
      "iso-ir-100", "iso8859-1", "iso88591", "iso_8859-1", "iso_8859-1:1987", "l1", "latin1",
      "us-ascii", "windows-1252", "x-cp1252" ]

/-- The charset of a name, in any case and with blanks around it. -/
def ofLabel? (label : String) : Option Charset :=
  let name := label.trimAscii.toString.toLower
  [utf8, utf16LittleEndian, utf16BigEndian, windows1252].find? fun charset =>
    charset.labels.contains name

/-- The characters that windows-1252 has for the octets from 0x80 to 0x9f. -/
def windowsUpper : List Nat :=
  [ 0x20ac, 0x81, 0x201a, 0x192, 0x201e, 0x2026, 0x2020, 0x2021, 0x2c6, 0x2030, 0x160, 0x2039,
    0x152, 0x8d, 0x17d, 0x8f, 0x90, 0x2018, 0x2019, 0x201c, 0x201d, 0x2022, 0x2013, 0x2014, 0x2dc,
    0x2122, 0x161, 0x203a, 0x153, 0x9d, 0x17e, 0x178 ]

/-- The character of an octet in windows-1252. -/
def windowsChar (b : UInt8) : Char :=
  if 0x80 ≤ b.toNat ∧ b.toNat ≤ 0x9f then
    Char.ofNat (windowsUpper.getD (b.toNat - 0x80) b.toNat)
  else Char.ofNat b.toNat

/-- The 16-bit units of some octets; nothing stands for an octet left over. -/
def units (littleEndian : Bool) : List UInt8 → List (Option Nat)
  | [] => []
  | [_] => [none]
  | a :: b :: rest =>
    let unit := if littleEndian then a.toNat + 256 * b.toNat else 256 * a.toNat + b.toNat
    some unit :: units littleEndian rest

/-- The characters of some 16-bit units. -/
def charsOfUnits : List (Option Nat) → List Char
  | [] => []
  | none :: rest => Utf8.replacement :: charsOfUnits rest
  | [some unit] =>
    [if 0xd800 ≤ unit ∧ unit < 0xe000 then Utf8.replacement else Char.ofNat unit]
  | some unit :: next :: rest =>
    if 0xd800 ≤ unit ∧ unit < 0xdc00 then
      match next with
      | some low =>
        if 0xdc00 ≤ low ∧ low < 0xe000 then
          Char.ofNat (0x10000 + (unit - 0xd800) * 0x400 + (low - 0xdc00)) :: charsOfUnits rest
        else Utf8.replacement :: charsOfUnits (next :: rest)
      | none => Utf8.replacement :: charsOfUnits rest
    else if 0xdc00 ≤ unit ∧ unit < 0xe000 then
      Utf8.replacement :: charsOfUnits (next :: rest)
    else Char.ofNat unit :: charsOfUnits (next :: rest)

/-- The text of some octets. -/
def decode (charset : Charset) (octets : List UInt8) : String :=
  match charset with
  | .utf8 => Utf8.decodeLossy octets
  | .utf16LittleEndian => String.ofList (charsOfUnits (units true octets))
  | .utf16BigEndian => String.ofList (charsOfUnits (units false octets))
  | .windows1252 => String.ofList (octets.map windowsChar)

/-- The charset that a byte-order mark tells, and the octets after it. -/
def ofMark? : List UInt8 → Option (Charset × List UInt8)
  | 0xef :: 0xbb :: 0xbf :: rest => some (.utf8, rest)
  | 0xff :: 0xfe :: rest => some (.utf16LittleEndian, rest)
  | 0xfe :: 0xff :: rest => some (.utf16BigEndian, rest)
  | _ => none

end Charset

/-- The charset that a content type asks for. -/
def charsetFor (contentType : Option String) : Charset :=
  ((contentType.bind charsetOf?).bind Charset.ofLabel?).getD .utf8

/-- The text of some octets of a content type. -/
def decodeAs (contentType : Option String) (octets : List UInt8) : String :=
  match Charset.ofMark? octets with
  | some (charset, rest) => charset.decode rest
  | none => (charsetFor contentType).decode octets

end SolarCharts.Text
