import SolarCharts.Text.Digit
import SolarCharts.Time.Calendar
import SolarCharts.Time.Instant

/-!
# Reading timestamps

A timestamp is written as RFC 3339 says: `2024-05-02T09:00:00.001Z`. `T` may be a small letter or a
space and `Z` a small letter; in place of `Z` stands an offset such as `+02:00`, whose minus may also
be U+2212. The fraction of a second keeps nine digits and drops the rest. Second 60 is accepted in
any minute, and is the leap second of second 59.
-/

namespace SolarCharts.Timestamp

/-- Exactly so many digits, as a number, and what follows them. -/
def digits? : Nat → Nat → List Char → Option (Nat × List Char)
  | 0, value, rest => some (value, rest)
  | _ + 1, _, [] => none
  | count + 1, value, c :: rest =>
    match Text.digit? c with
    | some d => digits? count (10 * value + d) rest
    | none => none

/-- A number of exactly so many digits within bounds, and what follows it. -/
def number? (count low high : Nat) (text : List Char) : Option (Nat × List Char) :=
  match digits? count 0 text with
  | some (value, rest) => if low ≤ value ∧ value ≤ high then some (value, rest) else none
  | none => none

/-- The text after a character of a class. -/
def after? (accept : Char → Bool) : List Char → Option (List Char)
  | [] => none
  | c :: rest => if accept c then some rest else none

/-- The nanoseconds of a fraction: nine digits, the missing ones zero. -/
def nanosOfFraction (fraction : List Char) : Nat :=
  Text.decimalOf (fraction.take 9) * Nat.pow 10 (9 - fraction.length)

/-- The fraction of a second, in nanoseconds, and what follows it. -/
def fraction? : List Char → Option (Nat × List Char)
  | '.' :: rest =>
    let fraction := rest.takeWhile Char.isDigit
    if fraction.isEmpty then none
    else some (nanosOfFraction fraction, rest.drop fraction.length)
  | text => some (0, text)

/-- The offset from universal time in seconds, which must end the text. -/
def offset? : List Char → Option Int
  | [] => none
  | c :: rest =>
    if c = 'Z' ∨ c = 'z' then
      if rest.isEmpty then some 0 else none
    else do
      let sign : Int ← if c = '+' then some 1
        else if c = '-' ∨ c = '\u2212' then some (-1)
        else none
      let (hours, rest) ← number? 2 0 23 rest
      let rest ← after? (· == ':') rest
      let (minutes, rest) ← number? 2 0 59 rest
      if rest.isEmpty then some (sign * (hours * 3600 + minutes * 60)) else none

/-- The date at the start of a text, and what follows it. -/
def date? (text : List Char) : Option (Date × List Char) := do
  let (year, text) ← number? 4 0 9999 text
  let text ← after? (· == '-') text
  let (month, text) ← number? 2 1 12 text
  let text ← after? (· == '-') text
  let (day, text) ← number? 2 1 31 text
  if Date.isValid ⟨year, month, day⟩ then some (⟨year, month, day⟩, text) else none

/-- The instant that a timestamp gives. -/
def read? (text : List Char) : Option Instant := do
  let (date, text) ← date? text
  let text ← after? (fun c => c == 'T' || c == 't' || c == ' ') text
  let (hour, text) ← number? 2 0 23 text
  let text ← after? (· == ':') text
  let (minute, text) ← number? 2 0 59 text
  let text ← after? (· == ':') text
  let (second, text) ← number? 2 0 60 text
  let (nanos, text) ← fraction? text
  let offset ← offset? text
  -- a leap second is the second before it with 10^9 nanoseconds more
  let (second, nanos) :=
    if second = 60 then (59, nanosPerSecond + nanos) else (second, nanos)
  some ⟨date.toDays * 86400 + hour * 3600 + minute * 60 + second - offset, nanos⟩

/-- The instant that a timestamp gives. -/
def ofText? (text : String) : Option Instant := read? text.toList

end SolarCharts.Timestamp
