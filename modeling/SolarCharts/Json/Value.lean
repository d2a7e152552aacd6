import SolarCharts.Text.Digit
import SolarCharts.Text.Reader

/-!
# JSON

What the store is asked in and reports failures in. A string is a row of 16-bit units, since its
escapes may give units that make no text; `textOf?` gives the text when they do. Numbers matter only
in their form, so their value is not read.
-/

namespace SolarCharts.Json

open Text (Reader)

/-- A value. -/
inductive Value where
  | null
  | boolean (value : Bool)
  | number
  | string (units : List Nat)
  | array (elements : List Value)
  | object (entries : List (List Nat × Value))

/-! ## Units -/

/-- The 16-bit units of a character. -/
def unitsOf (c : Char) : List Nat :=
  if c.toNat < 0x10000 then [c.toNat]
  else [0xd800 + (c.toNat - 0x10000) / 0x400, 0xdc00 + (c.toNat - 0x10000) % 0x400]

/-- Whether a unit starts a pair. -/
def isHigh (unit : Nat) : Bool := 0xd800 ≤ unit && unit < 0xdc00

/-- Whether a unit ends a pair. -/
def isLow (unit : Nat) : Bool := 0xdc00 ≤ unit && unit < 0xe000

/-- The characters of some units, if each half of a pair has the other. -/
def charsOf? : List Nat → Option (List Char)
  | [] => some []
  | [unit] => if isHigh unit || isLow unit then none else some [Char.ofNat unit]
  | unit :: next :: rest =>
    if isHigh unit then
      if isLow next then
        (charsOf? rest).map
          (Char.ofNat (0x10000 + (unit - 0xd800) * 0x400 + (next - 0xdc00)) :: ·)
      else none
    else if isLow unit then none
    else (charsOf? (next :: rest)).map (Char.ofNat unit :: ·)

/-- The text of some units, if they make one. -/
def textOf? (units : List Nat) : Option String := (charsOf? units).map String.ofList

/-! ## Reading -/

/-- Passes over blanks and line ends. -/
def blanks : Reader Unit := Reader.skip fun c => c == ' ' || c == '\t' || c == '\n' || c == '\r'

/-- Takes a digit in base 16. -/
def hexDigit : Reader Nat := do Text.hexValue? (← Reader.next)

/-- What a letter stands for after a backslash, if it is not a unit's number. -/
def escapes : List (Char × Nat) :=
  [('"', 34), ('\\', 92), ('/', 47), ('b', 8), ('f', 12), ('n', 10), ('r', 13), ('t', 9)]

/-- Takes what follows a backslash. -/
def escaped : Reader Nat := do
  let c ← Reader.next
  if c = 'u' then
    let a ← hexDigit
    let b ← hexDigit
    let c ← hexDigit
    let d ← hexDigit
    return 4096 * a + 256 * b + 16 * c + d
  else (escapes.find? (·.1 == c)).map (·.2)

/-- Takes one character of a string, or an escape. -/
def stringPart : Reader (List Nat) := do
  let c ← Reader.one fun c => c != '"' && 32 ≤ c.toNat
  if c = '\\' then return [← escaped] else return unitsOf c

/-- Takes a string. -/
def string : Reader (List Nat) := do
  Reader.expect ['"']
  let parts ← Reader.many stringPart
  Reader.expect ['"']
  return parts.flatten

/-- Takes an exponent. -/
def exponent : Reader Unit := do
  let _ ← Reader.one fun c => c == 'e' || c == 'E'
  let _ ← Reader.takes ['+'] <||> Reader.takes ['-']
  let _ ← Reader.takeWhile1 Char.isDigit

/-- Takes a number. -/
def number : Reader Unit := do
  let _ ← Reader.takes ['-']
  -- no digit follows a leading zero
  match ← Reader.peek? with
  | some '0' => Reader.expect ['0']
  | _ => let _ ← Reader.takeWhile1 Char.isDigit
  if ← Reader.takes ['.'] then
    let _ ← Reader.takeWhile1 Char.isDigit
  exponent <|> pure ()

/-- Takes items with a comma between them, up to a closing mark. -/
def items (item : Reader α) (closing : Char) : Reader (List α) := do
  blanks
  if ← Reader.takes [closing] then return []
  let first ← item
  let others ← Reader.many do
    blanks
    Reader.expect [',']
    item
  blanks
  Reader.expect [closing]
  return first :: others

/-- Takes an entry of an object, given how a value is taken. -/
def entry (value : Reader Value) : Reader (List Nat × Value) := do
  blanks
  let name ← string
  blanks
  Reader.expect [':']
  return (name, ← value)

/-- Takes a value that nests less deep than so many levels. -/
def value : Nat → Reader Value
  | 0 => failure
  | depth + 1 => do
    blanks
    match ← Reader.peek? with
    | some '"' => .string <$> string
    | some '[' =>
      Reader.expect ['[']
      .array <$> items (value depth) ']'
    | some '\x7b' =>
      Reader.expect ['\x7b']
      .object <$> items (entry (value depth)) '\x7d'
    | some 'n' => do Reader.expect "null".toList; return .null
    | some 't' => do Reader.expect "true".toList; return .boolean true
    | some 'f' => do Reader.expect "false".toList; return .boolean false
    | _ => do number; return .number

/-- The value that a text gives. -/
def valueOf? (text : String) : Option Value :=
  let whole : Reader Value := do
    let found ← value (text.length + 1)
    blanks
    return found
  Reader.run? whole text.toList

/-! ## Writing -/

/-- A number of four digits in base 16. -/
def fourHexDigits (n : Nat) : List Char :=
  let digits := Nat.toDigits 16 n
  List.replicate (4 - digits.length) '0' ++ digits

/-- One character within quotes. -/
def quotedChar (c : Char) : List Char :=
  if c = '"' then ['\\', '"']
  else if c = '\\' then ['\\', '\\']
  else if c = '\x08' then ['\\', 'b']
  else if c = '\x0c' then ['\\', 'f']
  else if c = '\n' then ['\\', 'n']
  else if c = '\r' then ['\\', 'r']
  else if c = '\t' then ['\\', 't']
  else if c.toNat < 32 then ['\\', 'u'] ++ fourHexDigits c.toNat
  else [c]

/-- A text as a string. -/
def quoted (text : String) : String :=
  String.ofList ('"' :: text.toList.flatMap quotedChar ++ ['"'])

end SolarCharts.Json
