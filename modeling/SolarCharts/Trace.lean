import SolarCharts.Sample
import SolarCharts.Time.Text

/-!
# MPPT traces

A `Trace` is what the time charts of one host show: its voltages and its currents, each over time and
in arrival order, with every time moved by the display offset.

The move is checked for every sample, also for one whose field no chart shows: `Trace.ofSamples`
fails with the first sample in arrival order that the offset takes out of the representable range.
-/

namespace SolarCharts

/-- The display offset takes an instant out of the representable range. -/
structure ShiftError where
  time : Instant
  offset : Span
deriving DecidableEq

/-- What a display offset out of range is reported as. -/
def ShiftError.message (e : ShiftError) : String :=
  "display offset " ++ e.offset.text ++ " moves " ++ e.time.text
    ++ " out of the representable range"

/-- Voltage and current of one host over time. -/
structure Trace where
  /-- The voltages, in volts. -/
  voltage : List (Instant × Float)
  /-- The currents, in amperes. -/
  current : List (Instant × Float)
deriving DecidableEq

namespace Trace

/-- A trace without points. -/
def empty : Trace := ⟨[], []⟩

/-- Puts a point in front of the series of its field. -/
def cons (field : Field) (point : Instant × Float) (trace : Trace) : Trace :=
  match field with
  | .voltage => { trace with voltage := point :: trace.voltage }
  | .current => { trace with current := point :: trace.current }
  | .other _ => trace

/-- The trace of a host's samples, every time moved by the offset. -/
def ofSamples (offset : Span) : List Sample → Except ShiftError Trace
  | [] => .ok empty
  | sample :: rest =>
    match sample.time.shift? offset with
    | none => .error ⟨sample.time, offset⟩
    | some time => (ofSamples offset rest).map (cons sample.field (time, sample.value))

/-- Whether there is nothing to draw. -/
def isEmpty (trace : Trace) : Bool := trace.voltage.isEmpty && trace.current.isEmpty

end Trace

end SolarCharts
