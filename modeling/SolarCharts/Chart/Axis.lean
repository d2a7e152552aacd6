import SolarCharts.Time.Instant

/-!
# Axes

What an axis of a chart shows. An axis of numbers reaches past the finite values by a tenth of their
spread on both sides; values that are not finite do not count. When all values are the same, it
reaches past them by a tenth of their size, or by one around zero. An axis of time runs from the
earliest to the latest instant, and one second past a single instant where that can be represented.
-/

namespace SolarCharts

/-- The part of an axis that is shown. -/
structure Range (α : Type) where
  low : α
  high : α
deriving DecidableEq

/-! ## Numbers -/

/-- The lesser of two numbers, the first of two that are equal. -/
def lesser (a b : Float) : Float := if b < a then b else a

/-- The greater of two numbers, the first of two that are equal. -/
def greater (a b : Float) : Float := if a < b then b else a

/-- How far an axis reaches past its values. -/
def padding (low high : Float) : Float :=
  if 0 < high - low then (high - low) * 0.1
  else if low == 0 then 1
  else low.abs * 0.1

/-- The axis of some numbers, if one of them is finite. -/
def numberRange (values : List Float) : Option (Range Float) :=
  match values.filter Float.isFinite with
  | [] => none
  | value :: rest =>
    let low := rest.foldl lesser value
    let high := rest.foldl greater value
    some ⟨low - padding low high, high + padding low high⟩

/-! ## Time -/

/-- The span of one second. -/
def oneSecond : Span := .ofParts 1 0

/-- The instant a span away, or the instant itself where that cannot be represented. -/
def shiftOrStay (t : Instant) (d : Span) : Instant := (t.shift? d).getD t

/-- The axis of some instants, if there are any. -/
def timeRange (times : List Instant) : Option (Range Instant) :=
  match Instant.earliest times, Instant.latest times with
  | some first, some last =>
    if first = last then some ⟨shiftOrStay first (-oneSecond), shiftOrStay last oneSecond⟩
    else some ⟨first, last⟩
  | _, _ => none

end SolarCharts
