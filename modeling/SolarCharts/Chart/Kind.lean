/-!
# Kinds of charts

A kind of chart has a name, which ends the names of its files, and a label for each axis. Any texts will
do. Runs draw charts of four kinds: voltage and current over time, which show a trace, and current and
power over voltage, which show a curve.
-/

namespace SolarCharts

/-- What a chart shows. -/
structure ChartKind where
  /-- The name of the kind, which ends the names of its files. It goes into them as it is. -/
  name : String
  /-- The label of the horizontal axis. -/
  xLabel : String
  /-- The label of the vertical axis. -/
  yLabel : String
deriving DecidableEq

namespace ChartKind

/-- Voltage over time. -/
def voltage : ChartKind := ⟨"voltage", "Time", "Voltage (V)"⟩

/-- Current over time. -/
def current : ChartKind := ⟨"current", "Time", "Current (A)"⟩

/-- Current over voltage. -/
def iv : ChartKind := ⟨"iv", "Voltage (V)", "Current (A)"⟩

/-- Power over voltage. -/
def pv : ChartKind := ⟨"pv", "Voltage (V)", "Power (W)"⟩

/-- The kinds of the charts that runs draw. -/
def standard : List ChartKind := [voltage, current, iv, pv]

/-- The title of a host's chart. -/
def title (kind : ChartKind) (host : String) : String := host ++ " " ++ kind.yLabel

end ChartKind

end SolarCharts
