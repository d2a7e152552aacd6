import SolarCharts.Time.Span

/-!
# Flux literals

The two literals that a query holds. A string literal escapes the backslash, the double quote and a
dollar sign before an opening brace, which would open an interpolation. A duration literal is a sum of
whole units from hours down to nanoseconds, each at most once and none of them zero; the zero duration
is `0s`.
-/

namespace SolarCharts.Flux

/-! ## Strings -/

/-- One character within a string literal, given the one after it. -/
def escapedChar (c : Char) (next : Option Char) : List Char :=
  if c = '\\' then ['\\', '\\']
  else if c = '"' then ['\\', '"']
  else if c = '$' ∧ next = some '{' then ['\\', '$']
  else [c]

/-- The text between the quotes of a string literal. -/
def escaped : List Char → List Char
  | [] => []
  | c :: rest => escapedChar c rest.head? ++ escaped rest

/-- The string literal of a text. -/
def stringLiteral (text : String) : String :=
  String.ofList ('"' :: escaped text.toList ++ ['"'])

/-! ## Durations -/

/-- A unit of a duration literal. -/
structure TimeUnit where
  /-- How the unit is written. -/
  suffix : String
  /-- Its length in nanoseconds. -/
  size : Nat
deriving DecidableEq

/-- The units, longest first. -/
def timeUnits : List TimeUnit :=
  [⟨"h", 3600000000000⟩, ⟨"m", 60000000000⟩, ⟨"s", 1000000000⟩, ⟨"ms", 1000000⟩, ⟨"us", 1000⟩,
    ⟨"ns", 1⟩]

/-- How often each unit is counted when the longest ones are taken first. -/
def counts : List TimeUnit → Nat → List (Nat × TimeUnit)
  | [], _ => []
  | unit :: units, nanos => (nanos / unit.size, unit) :: counts units (nanos % unit.size)

/-- One part of a duration literal, left out when it is zero. -/
def partText (part : Nat × TimeUnit) : String :=
  if part.1 = 0 then "" else toString part.1 ++ part.2.suffix

/-- The duration literal of a duration. -/
def durationLiteral (d : Duration) : String :=
  if d.nanos = 0 then "0s" else String.join ((counts timeUnits d.nanos).map partText)

end SolarCharts.Flux
