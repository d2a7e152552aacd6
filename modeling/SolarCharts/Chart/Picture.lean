import SolarCharts.Chart.Axis

/-!
# Pictures

What a chart file holds: a picture of a size, under a title, between two axes with a label on each.
-/

namespace SolarCharts

/-- A width and a height in pixels. -/
structure Size where
  width : Nat
  height : Nat
deriving DecidableEq

/-- The axes of a chart. -/
inductive Axes where
  | overTime (time : Range Instant) (value : Range Float)
  | overQuantity (x y : Range Float)
deriving DecidableEq

/-- The picture of a chart. -/
structure Picture where
  size : Size
  title : String
  xLabel : String
  yLabel : String
  axes : Axes
deriving DecidableEq

end SolarCharts
