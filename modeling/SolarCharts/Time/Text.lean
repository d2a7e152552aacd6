import SolarCharts.Time.Calendar
import SolarCharts.Time.Instant

/-!
# Instants and spans in messages

An instant is shown as `2024-05-02 09:00:00.001 UTC`: the fraction has three, six or nine digits or is
left out, a year outside 0 to 9999 carries its sign, and a leap second is second 60. A span is shown
in seconds as `PT7200S`, with as many places as it needs.
-/

namespace SolarCharts

/-- A number with at least so many digits. -/
def padded (width n : Nat) : String :=
  let digits := toString n
  String.ofList (List.replicate (width - digits.length) '0') ++ digits

/-- A year: four digits, and a sign when it is not one of 0 to 9999. -/
def Date.yearText (year : Int) : String :=
  if 0 ≤ year ∧ year ≤ 9999 then padded 4 year.toNat
  else (if year < 0 then "-" else "+") ++ padded 4 year.natAbs

/-- A date as `2024-05-02`. -/
def Date.text (date : Date) : String :=
  yearText date.year ++ "-" ++ padded 2 date.month ++ "-" ++ padded 2 date.day

/-- The fraction of a second, with three, six or nine digits as it needs. -/
def fractionText (nanos : Nat) : String :=
  if nanos = 0 then ""
  else if nanos % 1000000 = 0 then "." ++ padded 3 (nanos / 1000000)
  else if nanos % 1000 = 0 then "." ++ padded 6 (nanos / 1000)
  else "." ++ padded 9 nanos

/-- An instant as `2024-05-02 09:00:00.001 UTC`. -/
def Instant.text (t : Instant) : String :=
  let date := Date.ofDays (t.seconds / 86400)
  let secondOfDay := (t.seconds % 86400).toNat
  -- second 60 is shown for a leap second
  let (leap, nanos) :=
    if t.nanos < nanosPerSecond then (0, t.nanos) else (1, t.nanos - nanosPerSecond)
  date.text ++ " " ++ padded 2 (secondOfDay / 3600) ++ ":" ++ padded 2 (secondOfDay / 60 % 60)
    ++ ":" ++ padded 2 (secondOfDay % 60 + leap) ++ fractionText nanos ++ " UTC"

/-- The places after the point of a number of seconds, without closing zeros. -/
def placesText (nanos : Nat) : String :=
  if nanos = 0 then ""
  else
    "." ++ String.ofList (((padded 9 nanos).toList.reverse.dropWhile (· == '0')).reverse)

/-- A span as `PT7200S`, and as `P0D` when it is zero. -/
def Span.text (s : Span) : String :=
  let length : Duration := ⟨s.nanos.natAbs⟩
  (if s.nanos < 0 then "-P" else "P")
    ++ if s.nanos = 0 then "0D"
      else "T" ++ toString length.seconds ++ placesText length.subsecond ++ "S"

end SolarCharts
