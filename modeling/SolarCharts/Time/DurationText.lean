import SolarCharts.Text.Blank
import SolarCharts.Text.Digit
import SolarCharts.Time.Span

/-!
# Reading durations

Settings and arguments write a duration as numbers with units, such as `1h 30m` or `2.5s`; the parts
add up, in any order. Blanks may stand between all of them and also between digits. A unit may not
be left out, but for the text `0`, which is the zero duration.

A number and a sum must stay below 2^64 in the grain that they are counted in, which is the nanosecond
for the units up to the millisecond and the second for the others. A fraction must come out whole in
its grain, which is the nanosecond up to the minute and the second from the hour on; the nanosecond
itself takes none.

`step` takes one character at a time, so that reading is one pass over the text.
-/

namespace SolarCharts.DurationText

/-! ## Units -/

/-- A unit of time. -/
structure TimeUnit where
  /-- How it may be written. -/
  names : List String
  /-- Its length in nanoseconds. -/
  size : Nat
  /-- What whole numbers of it are counted in, in nanoseconds. -/
  grain : Nat
  /-- What fractions of it are counted in, in nanoseconds, if it has fractions. -/
  fractionGrain : Option Nat

/-- The units, shortest first. -/
def timeUnits : List TimeUnit :=
  let second := nanosPerSecond
  [ ⟨["ns", "nsec", "nanos"], 1, 1, none⟩,
    ⟨["us", "µs", "usec"], 1000, 1, some 1⟩,
    ⟨["ms", "msec", "millis"], 1000000, 1, some 1⟩,
    ⟨["s", "sec", "secs", "second", "seconds"], second, second, some 1⟩,
    ⟨["m", "min", "mins", "minute", "minutes"], 60 * second, second, some 1⟩,
    ⟨["h", "hr", "hrs", "hour", "hours"], 3600 * second, second, some second⟩,
    ⟨["d", "day", "days"], 86400 * second, second, some second⟩,
    ⟨["w", "wk", "wks", "week", "weeks"], 604800 * second, second, some second⟩,
    ⟨["M", "month", "months"], 2630016 * second, second, some second⟩,
    ⟨["y", "yr", "yrs", "year", "years"], 31557600 * second, second, some second⟩ ]

/-- The unit of a name; case matters. -/
def unitOf? (name : String) : Option TimeUnit := timeUnits.find? fun unit => unit.names.contains name

/-! ## Amounts -/

/-- What every count stays below. -/
def countLimit : Nat := UInt64.size

/-- The digits after a point. -/
structure Fraction where
  /-- Their value as a whole number. -/
  value : Nat
  /-- How many there are. -/
  places : Nat

/-- A number in front of a unit. -/
structure Amount where
  /-- The part before the point. -/
  whole : Nat
  /-- The part after it, if there is a point. -/
  fraction : Option Fraction

/-- A number one digit longer, while it stays below the limit. -/
def appendDigit? (n digit : Nat) : Option Nat :=
  if 10 * n + digit < countLimit then some (10 * n + digit) else none

/-- A fraction one digit longer, of nineteen digits at most. -/
def Fraction.appendDigit? (f : Fraction) (digit : Nat) : Option Fraction :=
  if f.places < 19 then some ⟨10 * f.value + digit, f.places + 1⟩ else none

/-- A sum, while it stays below the limit in seconds.

The nanoseconds that a part is counted in stay below it too, together with those that the sum so far
has beside its seconds. -/
def add? (total : Duration) (nanos grain : Nat) : Option Duration :=
  if grain = 1 ∧ countLimit ≤ total.subsecond + nanos then none
  else if (total.nanos + nanos) / nanosPerSecond < countLimit then some ⟨total.nanos + nanos⟩
  else none

/-- Adds a whole number of a unit. -/
def addWhole? (total : Duration) (n : Nat) (unit : TimeUnit) : Option Duration :=
  if n * unit.size / unit.grain < countLimit then add? total (n * unit.size) unit.grain else none

/-- Adds a fraction of a unit, which must come out whole in its grain. -/
def addFraction? (total : Duration) (f : Fraction) (unit : TimeUnit) : Option Duration :=
  match unit.fractionGrain with
  | none => none
  | some grain =>
    let numerator := f.value * (unit.size / grain)
    if numerator < countLimit ∧ numerator % Nat.pow 10 f.places = 0 then
      add? total (numerator / Nat.pow 10 f.places * grain) grain
    else none

/-- Adds an amount of the unit of a name. -/
def addAmount? (total : Duration) (amount : Amount) (name : String) : Option Duration := do
  let unit ← unitOf? name
  let total ← addWhole? total amount.whole unit
  match amount.fraction with
  | none => some total
  | some f => addFraction? total f unit

/-! ## Reading -/

/-- How far a text has been read. -/
inductive Progress where
  /-- Nothing but blanks. -/
  | start
  /-- Up to a digit before a point. -/
  | whole (total : Duration) (n : Nat)
  /-- Up to a point or a digit after it. -/
  | fraction (total : Duration) (n : Nat) (f : Fraction)
  /-- Up to a letter of a unit; the letters stand with the last one first. -/
  | unit (total : Duration) (amount : Amount) (letters : List Char)
  /-- Up to a blank after a unit. -/
  | between (total : Duration)

/-- Whether a character can stand in the name of a unit. -/
def isUnitLetter (c : Char) : Bool := c.isAlpha || c == 'µ'

/-- Starts a number. -/
def begin? (total : Duration) (c : Char) : Option Progress := (Text.digit? c).map (.whole total)

/-- Takes one more character. -/
def step (progress : Progress) (c : Char) : Option Progress :=
  match progress with
  | .start => if Text.isBlank c then some .start else begin? ⟨0⟩ c
  | .between total => if Text.isBlank c then some (.between total) else begin? total c
  | .whole total n =>
    match Text.digit? c with
    | some digit => (appendDigit? n digit).map (.whole total)
    | none =>
      -- a blank does not end the number: more digits may follow it
      if Text.isBlank c then some progress
      else if isUnitLetter c then some (.unit total ⟨n, none⟩ [c])
      else if c = '.' then some (.fraction total n ⟨0, 0⟩)
      else none
  | .fraction total n f =>
    match Text.digit? c with
    | some digit => (f.appendDigit? digit).map (.fraction total n)
    | none =>
      -- a unit right behind the point is refused
      if Text.isBlank c then some progress
      else if isUnitLetter c ∧ f.places ≠ 0 then some (.unit total ⟨n, some f⟩ [c])
      else none
  | .unit total amount letters =>
    if isUnitLetter c then some (.unit total amount (c :: letters))
    else do
      -- the name is whole: a blank or the next number follows it
      let total ← addAmount? total amount (String.ofList letters.reverse)
      if Text.isBlank c then some (.between total) else begin? total c

/-- What a text comes to that ends here. -/
def finish? : Progress → Option Duration
  | .between total => some total
  | .unit total amount letters => addAmount? total amount (String.ofList letters.reverse)
  | _ => none

/-- The duration that a text of numbers with units gives. -/
def ofParts? (text : List Char) : Option Duration := (text.foldlM step Progress.start).bind finish?

/-- The duration that a text gives. -/
def ofText? (text : String) : Option Duration :=
  if text = "0" then some ⟨0⟩ else ofParts? text.toList

end SolarCharts.DurationText
