import SolarCharts.Time.Instant

/-!
# Samples

What the store returns: one value of one field of one host at one instant. A voltage and a current
that belong together make a `CurvePoint`, whose power is their product.
-/

namespace SolarCharts

/-- The quantity a sample holds. -/
inductive Field where
  | voltage
  | current
  /-- Any other quantity, which no chart shows. -/
  | other (name : String)
deriving DecidableEq

namespace Field

/-- The field of a name; case matters. -/
def ofName (name : String) : Field :=
  if name = "voltage" then .voltage
  else if name = "current" then .current
  else .other name

/-- The name of a field. -/
def name : Field → String
  | .voltage => "voltage"
  | .current => "current"
  | .other name => name

theorem name_ofName (name : String) : (ofName name).name = name := by
  unfold ofName
  split
  · simp_all [Field.name]
  · split <;> simp_all [Field.name]

end Field

/-- One measured value. -/
structure Sample where
  time : Instant
  host : String
  field : Field
  value : Float
deriving DecidableEq

/-- A point of an I-V or P-V curve. -/
structure CurvePoint where
  /-- In volts. -/
  voltage : Float
  /-- In amperes. -/
  current : Float
  /-- In watts. -/
  power : Float
deriving DecidableEq

/-- The point of a voltage and the current measured with it. -/
def CurvePoint.ofPair (voltage current : Float) : CurvePoint := ⟨voltage, current, voltage * current⟩

end SolarCharts
