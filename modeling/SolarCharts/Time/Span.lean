/-!
# Lengths of time

Two kinds of length occur: a `Duration`, which has no sign and is what settings and arguments hold,
and a `Span`, which may be negative and is what an instant is moved by. Both count nanoseconds; the
whole seconds and what is left beside them are views.

A span is bounded: it holds at most `Span.limit` nanoseconds either way, which is 2^63 - 1
milliseconds. `Span.ofDuration?` is where that bound is checked.
-/

namespace SolarCharts

/-- Nanoseconds in one second. -/
def nanosPerSecond : Nat := 1000000000

/-! ## Durations -/

/-- A length of time without a sign. -/
structure Duration where
  nanos : Nat
deriving DecidableEq

namespace Duration

/-- A duration of whole seconds and nanoseconds. -/
def ofParts (seconds nanos : Nat) : Duration := ⟨seconds * nanosPerSecond + nanos⟩

/-- A duration of whole seconds. -/
def ofSeconds (seconds : Nat) : Duration := ofParts seconds 0

/-- The whole seconds of a duration. -/
def seconds (d : Duration) : Nat := d.nanos / nanosPerSecond

/-- The nanoseconds left beside the whole seconds. -/
def subsecond (d : Duration) : Nat := d.nanos % nanosPerSecond

theorem seconds_mul_add_subsecond (d : Duration) :
    d.seconds * nanosPerSecond + d.subsecond = d.nanos := by
  rw [Nat.mul_comm]
  exact Nat.div_add_mod d.nanos nanosPerSecond

theorem subsecond_lt (d : Duration) : d.subsecond < nanosPerSecond :=
  Nat.mod_lt _ (by decide)

end Duration

/-! ## Spans -/

/-- A length of time with a sign. -/
structure Span where
  nanos : Int
deriving DecidableEq

namespace Span

/-- The greatest number of nanoseconds in a span of either sign. -/
def limit : Nat := 0x7fffffffffffffff * 1000000

/-- A span of whole seconds, counted with their sign, and nanoseconds that count upward. -/
def ofParts (seconds : Int) (nanos : Nat) : Span := ⟨seconds * nanosPerSecond + nanos⟩

/-- The whole seconds of a span, cut toward zero. -/
def seconds (s : Span) : Int := s.nanos.tdiv nanosPerSecond

/-- The nanoseconds beside the whole seconds, with the sign of the span. -/
def subsecond (s : Span) : Int := s.nanos.tmod nanosPerSecond

/-- The same length the other way. -/
def neg (s : Span) : Span := ⟨-s.nanos⟩

instance : Neg Span := ⟨neg⟩

/-- A duration as a span, when it is short enough to be one. -/
def ofDuration? (d : Duration) : Option Span :=
  if d.nanos ≤ limit then some ⟨d.nanos⟩ else none

theorem seconds_mul_add_subsecond (s : Span) :
    s.seconds * nanosPerSecond + s.subsecond = s.nanos := by
  rw [Int.mul_comm]
  exact Int.mul_tdiv_add_tmod s.nanos nanosPerSecond

end Span

end SolarCharts
