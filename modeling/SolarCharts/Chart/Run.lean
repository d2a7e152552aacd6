import SolarCharts.Chart.Gallery
import SolarCharts.HostSeries
import SolarCharts.Sweep
import SolarCharts.Trace

/-!
# The charts of a run

A run draws one of two sets of charts, host by host: voltage and current over time, or the curves of
the latest sweep. All that can be checked is checked for every host before the first chart is written.
-/

namespace SolarCharts

/-- Why the charts of a run are not drawn. -/
inductive DrawError where
  /-- The display offset takes a time of a host out of the representable range. -/
  | shift (host : String) (error : ShiftError)
  | chart (error : ChartError)
deriving DecidableEq

/-- What charts that are not drawn are reported as. -/
def DrawError.message : DrawError → String
  | .shift host error => "Failed to shift timestamps of host " ++ host ++ ": " ++ error.message
  | .chart error => error.message

/-! ## Traces -/

/-- The time charts of a host. -/
def Trace.charts (host : String) (trace : Trace) : List Chart :=
  [⟨⟨host, .voltage⟩, .overTime trace.voltage⟩, ⟨⟨host, .current⟩, .overTime trace.current⟩]

/-- The time charts of some hosts, every time moved by the display offset. -/
def traceCharts (offset : Span) : List (String × List Sample) → Except DrawError (List Chart)
  | [] => .ok []
  | (host, samples) :: rest =>
    -- the first host out of range is reported, and no chart is drawn
    match Trace.ofSamples offset samples with
    | .error e => .error (.shift host e)
    | .ok trace => (traceCharts offset rest).map (trace.charts host ++ ·)

/-! ## Curves -/

/-- The charts of a host's curve. -/
def curveCharts (host : String) (curve : List CurvePoint) : List Chart :=
  [ ⟨⟨host, .iv⟩, .overQuantity (curve.map fun point => (point.voltage, point.current))⟩,
    ⟨⟨host, .pv⟩, .overQuantity (curve.map fun point => (point.voltage, point.power))⟩ ]

/-- The charts of the latest sweep of some hosts. -/
def sweepCharts (window : Span) (hosts : List (String × List Sample)) : List Chart :=
  hosts.flatMap fun (host, samples) => curveCharts host (Sweep.curve samples window)

/-! ## Drawing -/

namespace Gallery

/-- Draws the charts of a run. -/
def drawCharts (gallery : Gallery) (charts : List Chart) : Gallery × Except DrawError Unit :=
  let (gallery, drawn) := gallery.drawRun charts
  (gallery, drawn.mapError .chart)

/-- Draws the time charts of every host. -/
def drawTraces (gallery : Gallery) (hosts : HostSeries) (offset : Span) :
    Gallery × Except DrawError Unit :=
  match traceCharts offset hosts.toList with
  | .error e => (gallery, .error e)
  | .ok charts => gallery.drawCharts charts

/-- Draws the curves of the latest sweep of every host. -/
def drawSweeps (gallery : Gallery) (hosts : HostSeries) (window : Span) :
    Gallery × Except DrawError Unit :=
  gallery.drawCharts (sweepCharts window hosts.toList)

/-- What a run says about the charts that it wrote. -/
def report (gallery : Gallery) : String :=
  if gallery.written.isEmpty then "No charts generated\n"
  else String.join (gallery.written.map fun path => "✅ Chart generated: " ++ path.text ++ "\n")

end Gallery

end SolarCharts
