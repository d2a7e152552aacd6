import SolarCharts.Text.Digit
import SolarCharts.Text.Reader

/-!
# Strings and keys of TOML

A string stands between two quotes of one kind or three. Between double quotes, a backslash starts an
escape; between single ones it stands for itself. Between three quotes, lines may end, always as a
single line feed in the value; a line feed right after the opening quotes does not count, up to two
quotes may stand in a row, and a backslash at the end of a line takes all blanks and lines after it.

`scan` takes one character at a time in a `Mode`.
-/

namespace SolarCharts.Toml

open Text (Reader)

/-- How a string is written. -/
structure Quoting where
  /-- The quote on both sides. -/
  quote : Char
  /-- Whether three quotes stand on each side. -/
  long : Bool
deriving DecidableEq

/-- What the next character may be. -/
inductive Mode where
  /-- More of the string. -/
  | plain
  /-- What follows a backslash. -/
  | escape
  /-- A digit of a character's number: so many of them, and the value of those before. -/
  | number (left value : Nat)
  /-- The line feed after a carriage return. -/
  | lineEnd
  /-- Blanks after a backslash, and lines once one has ended. -/
  | folded (ended : Bool)
  /-- The line feed after a carriage return among those blanks. -/
  | foldedLineEnd
  /-- What follows so many quotes within three. -/
  | quotes (count : Nat)
deriving DecidableEq

/-- A blank within a line. -/
def isBlank (c : Char) : Bool := c == ' ' || c == '\t'

/-- Whether a character may stand in strings and comments. -/
def isPrintable (c : Char) : Bool := c == '\t' || (32 ≤ c.toNat && c.toNat ≠ 127)

/-- The character of a number, if there is one. -/
def charOf? (n : Nat) : Option Char := if n.isValidChar then some (Char.ofNat n) else none

/-- What a character does after a backslash: what it stands for, and what may follow. -/
def escaped (long : Bool) (c : Char) : Option (List Char × Mode) :=
  if c = 'b' then some (['\x08'], .plain)
  else if c = 't' then some (['\t'], .plain)
  else if c = 'n' then some (['\n'], .plain)
  else if c = 'f' then some (['\x0c'], .plain)
  else if c = 'r' then some (['\r'], .plain)
  else if c = '"' ∨ c = '\\' then some ([c], .plain)
  else if c = 'u' then some ([], .number 4 0)
  else if c = 'U' then some ([], .number 8 0)
  -- the rest fold the line, which only long strings may do
  else if ¬ long then none
  else if isBlank c then some ([], .folded false)
  else if c = '\n' then some ([], .folded true)
  else if c = '\r' then some ([], .foldedLineEnd)
  else none

/-- What a character does in the middle of a string. -/
def ordinary (quoting : Quoting) (c : Char) : Option (List Char × Mode) :=
  if c = quoting.quote then some ([], .quotes 1)
  else if c = '\\' ∧ quoting.quote = '"' then some ([], .escape)
  else if quoting.long ∧ c = '\n' then some (['\n'], .plain)
  else if quoting.long ∧ c = '\r' then some ([], .lineEnd)
  else if isPrintable c then some ([c], .plain)
  else none

/-- What a character does: what it adds to the string, and what may follow. -/
def step (quoting : Quoting) (mode : Mode) (c : Char) : Option (List Char × Mode) :=
  match mode with
  | .plain => ordinary quoting c
  | .escape => escaped quoting.long c
  | .number left value => do
    let digit ← Text.hexValue? c
    if left = 1 then
      let c ← charOf? (16 * value + digit)
      some ([c], .plain)
    else some ([], .number (left - 1) (16 * value + digit))
  | .lineEnd => if c = '\n' then some (['\n'], .plain) else none
  | .folded ended =>
    if isBlank c then some ([], .folded ended)
    else if c = '\n' then some ([], .folded true)
    else if c = '\r' then some ([], .foldedLineEnd)
    else if ended then ordinary quoting c
    else none
  | .foldedLineEnd => if c = '\n' then some ([], .folded true) else none
  | .quotes count =>
    if c = quoting.quote then some ([], .quotes (count + 1))
    else do
      -- the quotes before this character belonged to the string
      let (found, mode) ← ordinary quoting c
      some (List.replicate count quoting.quote ++ found, mode)

/-- The quotes at the end of a string that belong to it, when it ends after so many. -/
def closing? (quoting : Quoting) (count : Nat) : Option (List Char) :=
  if ¬ quoting.long then (if count = 1 then some [] else none)
  else if 3 ≤ count then some (List.replicate (count - 3) quoting.quote)
  else none

/-- Whether a string that has come to so many quotes goes on, given the next character. -/
def goesOn (quoting : Quoting) (count : Nat) (c : Char) : Bool :=
  quoting.long && (count < 3 || (count < 5 && c == quoting.quote))

/-- Takes the rest of a string and its closing quotes. -/
def scan (quoting : Quoting) : Mode → Reader (List Char)
  | .quotes count, [] => (closing? quoting count).map (·, [])
  | _, [] => none
  | mode, c :: rest =>
    let more := do
      let (found, mode) ← step quoting mode c
      let (others, rest) ← scan quoting mode rest
      some (found ++ others, rest)
    match mode with
    | .quotes count =>
      if goesOn quoting count c then more else (closing? quoting count).map (·, c :: rest)
    | _ => more

/-- Takes a string between single quotes of one kind. -/
def shortString (quote : Char) : Reader String := do
  Reader.expect [quote]
  return String.ofList (← scan ⟨quote, false⟩ .plain)

/-- Takes a line end. -/
def lineEnd : Reader Unit := Reader.expect ['\n'] <|> Reader.expect ['\r', '\n']

/-- Takes a string between three quotes of one kind. -/
def longString (quote : Char) : Reader String := do
  Reader.expect [quote, quote, quote]
  let _ ← (some <$> lineEnd) <|> pure none
  return String.ofList (← scan ⟨quote, true⟩ .plain)

/-- Takes a string of any form. -/
def string (quote : Char) : Reader String := longString quote <|> shortString quote

/-! ## Keys -/

/-- Whether a character can stand in a key without quotes. -/
def isBareKeyChar (c : Char) : Bool := c.isAlphanum || c == '-' || c == '_'

/-- Takes one part of a key. -/
def keyPart : Reader String :=
  shortString '"' <|> shortString '\'' <|> String.ofList <$> Reader.takeWhile1 isBareKeyChar

/-- Takes one part of a key and the blanks around it. -/
def paddedKeyPart : Reader String := do
  Reader.skip isBlank
  let part ← keyPart
  Reader.skip isBlank
  return part

/-- A key has fewer parts than this. -/
def keyLimit : Nat := 80

/-- Takes a key: its parts stand between dots. -/
def key : Reader (List String) := do
  let first ← paddedKeyPart
  let others ← Reader.many do
    Reader.expect ['.']
    paddedKeyPart
  if others.length + 1 < keyLimit then return first :: others else failure

end SolarCharts.Toml
