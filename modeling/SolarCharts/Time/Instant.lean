import SolarCharts.Time.Span

/-!
# Instants

An `Instant` is a number of seconds since 1970-01-01T00:00:00Z and the nanoseconds beside them. A
leap second has no second of its own: it is the second before it with 10^9 or more nanoseconds, so
it differs from the second that follows and sorts before it.

`Instant.shift?` moves an instant by a span. Between ordinary instants this is addition of
nanoseconds. A leap second is left in one of three ways, which depend on the whole seconds and the
rest of the span; the function spells them out.
-/

namespace SolarCharts

/-- A point in time. -/
structure Instant where
  /-- Seconds since 1970-01-01T00:00:00Z. -/
  seconds : Int
  /-- Nanoseconds beside the seconds; 10^9 or more within a leap second. -/
  nanos : Nat
deriving DecidableEq, Hashable

namespace Instant

/-! ## Order -/

/-- Earlier: by seconds, then by nanoseconds. -/
def Earlier (a b : Instant) : Prop :=
  a.seconds < b.seconds ∨ (a.seconds = b.seconds ∧ a.nanos < b.nanos)

instance : LT Instant := ⟨Earlier⟩

instance : DecidableRel (α := Instant) (· < ·) := fun a b =>
  inferInstanceAs (Decidable
    (a.seconds < b.seconds ∨ (a.seconds = b.seconds ∧ a.nanos < b.nanos)))

theorem lt_iff {a b : Instant} :
    a < b ↔ a.seconds < b.seconds ∨ (a.seconds = b.seconds ∧ a.nanos < b.nanos) :=
  Iff.rfl

theorem not_lt_self (a : Instant) : ¬ a < a := by
  rw [lt_iff]
  omega

theorem lt_trans {a b c : Instant} (hab : a < b) (hbc : b < c) : a < c := by
  rw [lt_iff] at *
  omega

theorem eq_of_not_lt {a b : Instant} (hab : ¬ a < b) (hba : ¬ b < a) : a = b := by
  cases a
  cases b
  simp only [lt_iff] at hab hba
  simp only [Instant.mk.injEq]
  omega

/-- The later of two instants. -/
def later (a b : Instant) : Instant := if a < b then b else a

/-- The earlier of two instants. -/
def earlier (a b : Instant) : Instant := if b < a then b else a

/-- The latest of some instants. -/
def latest : List Instant → Option Instant
  | [] => none
  | t :: ts => some (ts.foldl later t)

/-- The earliest of some instants. -/
def earliest : List Instant → Option Instant
  | [] => none
  | t :: ts => some (ts.foldl earlier t)

/-! ## The representable range -/

/-- The first representable second, -262143-01-01T00:00:00Z. -/
def minSeconds : Int := -8334601228800

/-- The last representable second, +262142-12-31T23:59:59Z. -/
def maxSeconds : Int := 8210266876799

/-- Whether a calendar date can be given for an instant. -/
def Representable (t : Instant) : Prop := minSeconds ≤ t.seconds ∧ t.seconds ≤ maxSeconds

instance (t : Instant) : Decidable t.Representable :=
  inferInstanceAs (Decidable (minSeconds ≤ t.seconds ∧ t.seconds ≤ maxSeconds))

/-! ## Moving an instant -/

/-- Whether an instant lies within a leap second. -/
def InLeapSecond (t : Instant) : Prop := nanosPerSecond ≤ t.nanos

instance (t : Instant) : Decidable t.InLeapSecond :=
  inferInstanceAs (Decidable (nanosPerSecond ≤ t.nanos))

/-- Nanoseconds since 1970-01-01T00:00:00Z. -/
def total (t : Instant) : Int := t.seconds * nanosPerSecond + t.nanos

/-- The ordinary instant at a number of nanoseconds since 1970-01-01T00:00:00Z. -/
def ofTotal (n : Int) : Instant := ⟨n / nanosPerSecond, (n % nanosPerSecond).toNat⟩

/-- The instant a span away, in or out of the representable range.

Forward out of a leap second the second is dropped; backward out of it, it counts as the second that
follows; a move that does not leave it changes the nanoseconds alone. -/
def shift (t : Instant) (d : Span) : Instant :=
  if t.InLeapSecond then
    -- forward out of the leap second, which is dropped
    if 0 < d.seconds ∨ (0 < d.subsecond ∧ 2 * nanosPerSecond ≤ t.nanos + d.subsecond) then
      ofTotal (t.total - nanosPerSecond + d.nanos)
    -- backward out of it: it counts as the second that follows
    else if d.seconds < 0 then
      ofTotal (t.total + d.nanos)
    -- still within it
    else
      ⟨t.seconds, (t.nanos + d.subsecond).toNat⟩
  else
    ofTotal (t.total + d.nanos)

/-- The instant a span away, when it is representable. -/
def shift? (t : Instant) (d : Span) : Option Instant :=
  if (t.shift d).Representable then some (t.shift d) else none

theorem shift_of_not_inLeapSecond {t : Instant} (h : ¬ t.InLeapSecond) (d : Span) :
    t.shift d = ofTotal (t.total + d.nanos) := by
  simp [shift, h]

end Instant

end SolarCharts
