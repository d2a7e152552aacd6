import SolarCharts.Sample
import Std.Data.HashMap

/-!
# I-V and P-V curves of the latest sweep

A sweep writes voltages and currents as separate samples that share a time. Its newest burst is the
span of a given window that ends at the latest sample, and a curve point stands wherever a voltage
and a current carry the identical time.

Points come voltage by voltage in arrival order, and for one voltage by the arrival order of the
currents; several samples at one time give one point for each combination.
-/

namespace SolarCharts.Sweep

/-- The samples strictly newer than the latest one less the window.

One exactly the window before the latest is outside. A window that reaches back past the earliest
representable instant keeps every sample. -/
def latestWindow (samples : List Sample) (window : Span) : List Sample :=
  match Instant.latest (samples.map (·.time)) with
  | none => []
  | some newest =>
    match newest.shift? (-window) with
    | some start => samples.filter fun sample => start < sample.time
    | none => samples

/-- What one pass over samples gathers: the voltages in a row, the currents under their times. -/
structure Gathered where
  /-- The voltages with their times, in arrival order. -/
  voltages : Array (Instant × Float)
  /-- The currents at each time, in arrival order. -/
  currents : Std.HashMap Instant (Array Float)

namespace Gathered

/-- Before the first sample. -/
def empty : Gathered := ⟨#[], ∅⟩

/-- Takes one sample. -/
def add (gathered : Gathered) (sample : Sample) : Gathered :=
  match sample.field with
  | .voltage =>
    { gathered with voltages := gathered.voltages.push (sample.time, sample.value) }
  | .current =>
    { gathered with
      currents :=
        gathered.currents.insert sample.time
          ((gathered.currents.getD sample.time #[]).push sample.value) }
  | .other _ => gathered

/-- Takes samples in arrival order. -/
def ofList (samples : List Sample) : Gathered := samples.foldl add empty

/-- Every voltage with every current that is gathered under its time. -/
def points (gathered : Gathered) : List CurvePoint :=
  gathered.voltages.toList.flatMap fun (time, voltage) =>
    (gathered.currents.getD time #[]).toList.map (CurvePoint.ofPair voltage)

end Gathered

/-- Every voltage with every current of the identical time. -/
def pairs (samples : List Sample) : List CurvePoint := (Gathered.ofList samples).points

/-- The curve of the latest sweep. -/
def curve (samples : List Sample) (window : Span) : List CurvePoint :=
  pairs (latestWindow samples window)

end SolarCharts.Sweep
