import SolarCharts.Decimal
import SolarCharts.Text.Reader
import SolarCharts.Time.Calendar
import SolarCharts.Toml.Table

/-!
# Numbers, dates and booleans of TOML

Digits may be grouped by single underscores. A whole number of base 10 has no leading zero, and one of
base 16, 8 or 2 no sign; all lie within 64 bits. A number with a fraction or an exponent is a float,
and one too great to be a float is refused. A date stands alone or with a time and an offset, and a
time may stand alone; seconds are never left out.
-/

namespace SolarCharts.Toml

open Text (Reader)

/-! ## Digits -/

/-- Takes digits of a class, which single underscores may group. -/
def digits (accept : Char → Bool) : Reader (List Char) := do
  let first ← Reader.one accept
  let others ← Reader.many do
    let _ ← Reader.takes ['_']
    Reader.one accept
  return first :: others

/-- Takes a sign, if there is one. -/
def sign : Reader (List Char) :=
  (do return [← Reader.one fun c => c == '+' || c == '-']) <|> pure []

/-- Takes the digits of a whole number: more than one only if the first is not zero. -/
def wholeDigits : Reader (List Char) := do
  match ← Reader.peek? with
  | some '0' => return [← Reader.next]
  | _ => digits Char.isDigit

/-! ## Numbers -/

/-- The least and the greatest whole number. -/
def integerRange : Int × Int := (-0x8000000000000000, 0x7fffffffffffffff)

/-- A whole number, when it is in range. -/
def integerOf? (n : Int) : Option Value :=
  if integerRange.1 ≤ n ∧ n ≤ integerRange.2 then some (.integer n) else none

/-- Takes a whole number of a base other than 10, with its mark. -/
def basedInteger (mark : List Char) (base : Nat) (accept : Char → Bool) : Reader Value := do
  Reader.expect mark
  let found ← digits accept
  integerOf? (found.foldl (fun value c => base * value + (Text.hexValue? c).getD 0) 0)

/-- Takes a whole number. -/
def integer : Reader Value :=
  basedInteger ['0', 'x'] 16 Text.isHexDigit
  <|> basedInteger ['0', 'o'] 8 (fun c => '0' ≤ c && c ≤ '7')
  <|> basedInteger ['0', 'b'] 2 (fun c => c == '0' || c == '1')
  <|> do
    let sign ← sign
    let value := Text.decimalOf (← wholeDigits)
    integerOf? (if sign = ['-'] then -(value : Int) else value)

/-- Takes an exponent. -/
def exponent : Reader (List Char) := do
  let mark ← Reader.one fun c => c == 'e' || c == 'E'
  let sign ← sign
  return mark :: sign ++ (← digits Char.isDigit)

/-- Takes a fraction. -/
def fraction : Reader (List Char) := do
  Reader.expect ['.']
  return '.' :: (← digits Char.isDigit)

/-- Takes a number with a fraction or an exponent. -/
def decimal : Reader Value := do
  let sign ← sign
  let whole ← wholeDigits
  let rest ← exponent <|> do
    let fraction ← fraction
    return fraction ++ (← exponent <|> pure [])
  let value ← floatOfText? (String.ofList (sign ++ whole ++ rest))
  -- a number that only rounds to infinity is out of range
  if value == Decimal.infinity then failure else return .float value

/-- Takes a float that is no number written in digits. -/
def specialFloat : Reader Value := do
  let sign ← sign
  let word ← (do Reader.expect ['i', 'n', 'f']; pure "inf")
    <|> (do Reader.expect ['n', 'a', 'n']; pure "nan")
  return .float (← floatOfText? (String.ofList sign ++ word))

/-- Takes a boolean. -/
def boolean : Reader Value :=
  (do Reader.expect "true".toList; pure (.boolean true))
  <|> (do Reader.expect "false".toList; pure (.boolean false))

/-! ## Dates and times -/

/-- Takes exactly so many digits. -/
def exactDigits : Nat → Reader (List Char)
  | 0 => pure []
  | n + 1 => do
    let c ← Reader.one Char.isDigit
    return c :: (← exactDigits n)

/-- Takes a number of exactly so many digits within bounds. -/
def bounded (count low high : Nat) : Reader (List Char) := do
  let found ← exactDigits count
  let value := Text.decimalOf found
  if low ≤ value ∧ value ≤ high then return found else failure

/-- Takes a date that the calendar has. -/
def date : Reader (List Char) := do
  let year ← bounded 4 0 9999
  Reader.expect ['-']
  let month ← bounded 2 1 12
  Reader.expect ['-']
  let day ← bounded 2 1 31
  let date : Date := ⟨Text.decimalOf year, Text.decimalOf month, Text.decimalOf day⟩
  -- the month may be shorter than 31 days
  if date.isValid then return year ++ ['-'] ++ month ++ ['-'] ++ day else failure

/-- Takes a time of day. -/
def time : Reader (List Char) := do
  let hour ← bounded 2 0 23
  Reader.expect [':']
  let minute ← bounded 2 0 59
  Reader.expect [':']
  let second ← bounded 2 0 60
  let places ← (do
      Reader.expect ['.']
      return '.' :: (← Reader.takeWhile1 Char.isDigit))
    <|> pure []
  return hour ++ [':'] ++ minute ++ [':'] ++ second ++ places

/-- Takes an offset from universal time. -/
def offset : Reader (List Char) :=
  (do return [← Reader.one fun c => c == 'Z' || c == 'z']) <|> do
    let sign ← Reader.one fun c => c == '+' || c == '-'
    let hour ← bounded 2 0 23
    Reader.expect [':']
    return sign :: hour ++ [':'] ++ (← bounded 2 0 59)

/-- Takes what follows a date: a time and an offset. -/
def timeAfterDate : Reader (List Char) := do
  let mark ← Reader.one fun c => c == 'T' || c == 't' || c == ' '
  let time ← time
  return mark :: time ++ (← offset <|> pure [])

/-- Takes a date, a time or both. -/
def dateTime : Reader Value := do
  let found ←
    (do
      let date ← date
      return date ++ (← timeAfterDate <|> pure []))
    <|> time
  return .dateTime (String.ofList found)

/-- Takes a value that has no parts and no quotes. -/
def scalar : Reader Value := dateTime <|> decimal <|> specialFloat <|> integer <|> boolean

end SolarCharts.Toml
