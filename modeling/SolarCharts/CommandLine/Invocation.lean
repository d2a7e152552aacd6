import SolarCharts.Chart.Gallery
import SolarCharts.Flux.Query
import SolarCharts.Settings

/-!
# Invocations

What a command line asks for: one of two commands, which data it shows and where the charts go. What
is left out has a built-in value, or comes from the settings.
-/

namespace SolarCharts

/-- What is charted. -/
inductive Command where
  /-- Voltage and current over time, as means over windows of one length. -/
  | mppt (every : Duration)
  /-- The curves of the latest sweep, over a window that the settings give when it is left out. -/
  | sweep (window : Option Duration)
deriving DecidableEq

/-- What a command line asks for. -/
structure Invocation where
  settingsFile : Option Path
  command : Command
  measurement : String
  /-- The bucket that is read, when it is not that of the settings. -/
  bucket : Option String
  /-- How far back from now data is read. -/
  lookback : Duration
  /-- The hosts that are read; all of them when none is named. -/
  hosts : List String
  output : Path
  /-- The size of every chart, as it was written. -/
  size : String
  /-- Whether files that were there before are replaced. -/
  force : Bool
deriving DecidableEq

namespace Invocation

/-- Where charts go and how they are made, when the size can be read. -/
def chartOptions (invocation : Invocation) : Except ChartError ChartOptions :=
  match Size.ofText? invocation.size with
  | some size => .ok { directory := invocation.output, size, force := invocation.force }
  | none => .error (.invalidSize invocation.size)

/-- The query for the samples, without an aggregation. -/
def baseQuery (invocation : Invocation) (settings : Settings) : Flux.Query :=
  ((Flux.Query.new (invocation.bucket.getD (settings.value .bucket)) invocation.measurement)
    |>.rangeStart invocation.lookback).forHosts invocation.hosts

/-- The query for the samples. -/
def query (invocation : Invocation) (settings : Settings) : Flux.Query :=
  match invocation.command with
  | .mppt every => (invocation.baseQuery settings).aggregateWindow every .mean
  | .sweep _ => invocation.baseQuery settings

end Invocation

end SolarCharts
