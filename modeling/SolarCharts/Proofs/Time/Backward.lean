import Mathlib.Tactic.SplitIfs
import SolarCharts.Time.Instant

/-!
# Moving backward

A clock gives instants within a leap second too, and a span leads back from those in two ways: one
shorter than a second takes nanoseconds off the leap second, and a longer one counts it as the second
that follows. `shift_back` puts both beside the plain subtraction of nanoseconds, and what is said of
the way back follows from it.

* `shift_back_lt`, `not_shift_back_lt` — a span back leads to an earlier instant, and a longer one to
  none that is later.
* `representable_of_longer` — where a longer span back stays representable, a shorter one does.
* `shift_back_lt_iff` — between ordinary instants, being less than a span apart is a matter of
  nanoseconds, also where the way back leaves the representable range (`lt_of_not_representable`).
-/

namespace SolarCharts.Instant

/-! ## Instants of a clock -/

/-- An instant as a clock gives it, in a leap second at most. -/
def Proper (t : Instant) : Prop := t.nanos < 2 * nanosPerSecond

instance (t : Instant) : Decidable t.Proper :=
  inferInstanceAs (Decidable (t.nanos < 2 * nanosPerSecond))

/-- An instant as a clock gives it, on a day that has a date. -/
structure Valid (t : Instant) : Prop where
  proper : t.Proper
  representable : t.Representable

/-- An instant outside leap seconds, on a day that has a date. -/
structure Ordinary (t : Instant) : Prop where
  notLeap : ¬ t.InLeapSecond
  representable : t.Representable

/-- The order of ordinary instants is that of their nanoseconds. -/
theorem total_le_iff {a b : Instant} (ha : a.Ordinary) (hb : b.Ordinary) :
    a.total ≤ b.total ↔ ¬ b < a := by
  have hNanosA := ha.notLeap
  have hNanosB := hb.notLeap
  simp only [lt_iff, total, InLeapSecond, nanosPerSecond] at *
  omega

/-! ## Where a move leads -/

section

variable {t u : Instant} {span shorter longer : Span}

/-- A move that is tried gives where the span leads, if that is representable. -/
theorem shift?_eq_some_iff : t.shift? span = some u ↔ t.shift span = u ∧ u.Representable := by
  unfold shift?
  split
  · next hIn =>
    rw [Option.some_inj]
    exact ⟨fun h => ⟨h, h ▸ hIn⟩, And.left⟩
  · next hOut =>
    constructor
    · intro h
      cases h
    · rintro ⟨rfl, hIn⟩
      exact absurd hIn hOut

/-- It gives nothing exactly if that is not. -/
theorem shift?_eq_none_iff : t.shift? span = none ↔ ¬ (t.shift span).Representable := by
  unfold shift?
  split <;> simp [*]

/-- The parts of a span that is not positive: those of its length, with its sign. -/
theorem parts_of_nonpos (h : span.nanos ≤ 0) :
    span.seconds = -(-span.nanos / nanosPerSecond) ∧
      span.subsecond = -(-span.nanos % nanosPerSecond) := by
  obtain ⟨length, hLength⟩ : ∃ length, span.nanos = -length := ⟨-span.nanos, by omega⟩
  have hNonneg : 0 ≤ length := by omega
  rw [Span.seconds, Span.subsecond, hLength, Int.neg_tdiv, Int.neg_tmod, Int.neg_neg,
    Int.tdiv_eq_ediv_of_nonneg hNonneg, Int.tmod_eq_emod_of_nonneg hNonneg]
  exact ⟨rfl, rfl⟩

/-- Back by a span that is not negative. Only a part of a second stays within a leap second. -/
theorem shift_back (t : Instant) (hSpan : 0 ≤ span.nanos) :
    t.shift (-span) =
      if t.InLeapSecond ∧ span.nanos < nanosPerSecond then ⟨t.seconds, (t.nanos - span.nanos).toNat⟩
      else ofTotal (t.total - span.nanos) := by
  have hNanos : (-span).nanos = -span.nanos := rfl
  have hBack : (-span).nanos ≤ 0 := by omega
  obtain ⟨hSeconds, hSubsecond⟩ := parts_of_nonpos hBack
  rw [hNanos, Int.neg_neg] at hSeconds hSubsecond
  by_cases hLeap : t.InLeapSecond
  · -- neither part of the span is positive, so the second is not dropped
    have hStill : ¬ (0 < (-span).seconds ∨
        (0 < (-span).subsecond ∧ 2 * nanosPerSecond ≤ t.nanos + (-span).subsecond)) := by
      simp only [nanosPerSecond] at *
      omega
    rw [shift, if_pos hLeap, if_neg hStill]
    by_cases hShort : span.nanos < nanosPerSecond
    · have hNone : ¬ (-span).seconds < 0 := by
        simp only [nanosPerSecond] at *
        omega
      have hRest : (-span).subsecond = -span.nanos := by
        simp only [nanosPerSecond] at *
        omega
      rw [if_neg hNone, if_pos ⟨hLeap, hShort⟩, hRest]
      rfl
    · -- a whole second is taken off at least, which ends the leap second
      have hWhole : (-span).seconds < 0 := by
        simp only [nanosPerSecond] at *
        omega
      rw [if_pos hWhole, if_neg fun h => hShort h.2]
      rfl
  · rw [shift_of_not_inLeapSecond hLeap, if_neg fun h => hLeap h.1]
    rfl

/-! ## Order -/

/-- A span back leads to an earlier instant. -/
theorem shift_back_lt (hProper : t.Proper) (hSpan : 0 < span.nanos) : t.shift (-span) < t := by
  rw [shift_back t (by omega), lt_iff]
  split_ifs with h
  · -- within the leap second only the nanoseconds change
    refine Or.inr ⟨rfl, ?_⟩
    simp only [InLeapSecond, nanosPerSecond] at *
    omega
  · simp only [ofTotal, total, Proper, InLeapSecond, nanosPerSecond] at *
    omega

/-- A longer span back leads to no later instant. -/
theorem not_shift_back_lt (hProper : t.Proper) (hShorter : 0 ≤ shorter.nanos)
    (hLonger : shorter.nanos ≤ longer.nanos) : ¬ t.shift (-shorter) < t.shift (-longer) := by
  rw [shift_back t hShorter, shift_back t (by omega)]
  -- the shorter span may stay within a leap second that the longer one leaves, but not the other way
  split_ifs with hShort hLong hLong <;>
    · simp only [lt_iff, ofTotal, total, Proper, InLeapSecond, nanosPerSecond] at *
      omega

/-- A span that is not negative does not lead forward. -/
theorem not_lt_shift_back (hProper : t.Proper) (hSpan : 0 ≤ span.nanos) :
    ¬ t < t.shift (-span) := by
  rw [shift_back t hSpan, lt_iff]
  split_ifs with h <;>
    · simp only [ofTotal, total, Proper, InLeapSecond, nanosPerSecond] at *
      omega

/-- Where a longer span back stays representable, a shorter one does. -/
theorem representable_of_longer (ht : t.Valid) (hShorter : 0 ≤ shorter.nanos)
    (hLonger : shorter.nanos ≤ longer.nanos) (h : (t.shift (-longer)).Representable) :
    (t.shift (-shorter)).Representable := by
  -- the way back can only leave the range at its start, and the longer span is nearer to that
  have hStart := not_shift_back_lt ht.proper hShorter hLonger
  have hEnd := not_lt_shift_back ht.proper hShorter
  have hRange := ht.representable
  simp only [lt_iff, Representable] at *
  omega

/-! ## Nanoseconds -/

/-- Between ordinary instants, to be later than the start of a window is to be less than the window
behind. -/
theorem shift_back_lt_iff (ht : t.Ordinary) (hu : u.Ordinary) (hSpan : 0 ≤ span.nanos) :
    t.shift (-span) < u ↔ t.total - u.total < span.nanos := by
  have hNanos := hu.notLeap
  rw [shift_back t hSpan, if_neg fun h => ht.notLeap h.1, lt_iff]
  simp only [ofTotal, total, InLeapSecond, nanosPerSecond] at *
  omega

/-- A window that reaches back past the first instant holds every ordinary one. -/
theorem lt_of_not_representable (ht : t.Ordinary) (hu : u.Ordinary) (hSpan : 0 ≤ span.nanos)
    (h : ¬ (t.shift (-span)).Representable) : t.total - u.total < span.nanos := by
  -- what the span leads to is before the first second, and no instant is
  have hFirst := hu.representable
  have hLast := ht.representable
  have hNanos := ht.notLeap
  rw [shift_back t hSpan, if_neg fun h => ht.notLeap h.1] at h
  simp only [ofTotal, total, Representable, InLeapSecond, nanosPerSecond] at *
  omega

end

end SolarCharts.Instant
