import SolarCharts.Chart.Axis
import SolarCharts.Proofs.Time.Extremes
import SolarCharts.Proofs.Time.Moving

/-!
# The axis of time has a width

An axis that starts where it ends shows nothing. The axis of several instants runs from the earliest to
the latest of them; that of a single instant is a second longer on both sides, and where a side would
leave the representable range it stays at the instant. There is more room than a second between both
ends of the range, so one side at least moves, and it moves away from the other.

* `ReachesBy` — the side of an axis: a span away, or where it was when that cannot be represented.
* `canMove_either_way` — a second fits on one side of every instant.
* `timeRange_exact` — what axis there is, for any instants in any order.
-/

namespace SolarCharts

namespace Instant

variable {t u : Instant} {span : Span}

/-! ## One side -/

/-- The instant is a span away from another, or is the other itself where that is not representable. -/
def ReachesBy (t : Instant) (span : Span) (u : Instant) : Prop :=
  (t.Moves span u ∧ u.Representable) ∨ (¬ t.CanMove span ∧ u = t)

/-- A side of an axis of one instant is where that reaches by a second. -/
theorem reachesBy_shiftOrStay (t : Instant) (span : Span) : t.ReachesBy span (shiftOrStay t span) := by
  unfold shiftOrStay
  cases hShift : t.shift? span with
  | none => exact Or.inr ⟨not_canMove_iff.mpr hShift, rfl⟩
  | some u => exact Or.inl (shift?_eq_some_iff_moves.mp hShift)

/-- What a representable instant reaches is representable: it is that instant itself otherwise. -/
theorem ReachesBy.representable (h : t.ReachesBy span u) (ht : t.Representable) :
    u.Representable := by
  rcases h with ⟨-, hIn⟩ | ⟨-, rfl⟩
  · exact hIn
  · exact ht

/-- Forward, a later instant is reached, or the instant stays where it is. -/
theorem ReachesBy.forward (h : t.ReachesBy span u) (hSpan : 0 < span.nanos) :
    t < u ∨ (¬ t.CanMove span ∧ u = t) := by
  rcases h with ⟨hMoves, -⟩ | hStays
  · have hLater := lt_shift t hSpan
    rw [moves_iff.mp hMoves] at hLater
    exact Or.inl hLater
  · exact Or.inr hStays

/-- Backward, an earlier one is reached, or the instant stays where it is. -/
theorem ReachesBy.backward (h : t.ReachesBy (-span) u) (hProper : t.Proper)
    (hSpan : 0 < span.nanos) : u < t ∨ (¬ t.CanMove (-span) ∧ u = t) := by
  rcases h with ⟨hMoves, -⟩ | hStays
  · have hEarlier := shift_back_lt hProper hSpan
    rw [moves_iff.mp hMoves] at hEarlier
    exact Or.inl hEarlier
  · exact Or.inr hStays

/-- One second leads no further than to the next second or to the one before. -/
theorem seconds_of_moves (ht : t.Proper) (h : t.Moves span u)
    (hSecond : span = oneSecond ∨ span = -oneSecond) :
    t.seconds - 1 ≤ u.seconds ∧ u.seconds ≤ t.seconds + 1 := by
  have hLength : span.nanos = 1000000000 ∨ span.nanos = -1000000000 := by
    rcases hSecond with rfl | rfl
    · exact Or.inl rfl
    · exact Or.inr rfl
  have hParts := Span.seconds_mul_add_subsecond span
  -- a second has nothing beside its whole seconds
  have hRest : span.subsecond = 0 := by
    rcases hSecond with rfl | rfl <;> rfl
  cases h with
  | plain hFrom hTo hTotal =>
    simp only [total, InLeapSecond, nanosPerSecond] at *
    omega
  | forward hFrom hOut hTo hTotal =>
    simp only [total, InLeapSecond, Proper, nanosPerSecond] at *
    omega
  | backward hFrom hOut hTo hTotal =>
    simp only [total, InLeapSecond, Proper, nanosPerSecond] at *
    omega
  | within hFrom hWhole hShort hSeconds hNanos =>
    omega

/-- A second fits into the representable range on one side of an instant at least. -/
theorem canMove_either_way (ht : t.Valid) : t.CanMove (-oneSecond) ∨ t.CanMove oneSecond := by
  by_contra hNeither
  rw [not_or, not_canMove_iff, not_canMove_iff, shift?_eq_none_iff, shift?_eq_none_iff] at hNeither
  obtain ⟨hBack, hForward⟩ := hNeither
  have hRange := ht.representable
  have hBefore :=
    seconds_of_moves ht.proper (moves_iff.mpr rfl : t.Moves (-oneSecond) _) (Or.inr rfl)
  have hAfter := seconds_of_moves ht.proper (moves_iff.mpr rfl : t.Moves oneSecond _) (Or.inl rfl)
  -- either way the range would be left at its nearer end, and the ends are far apart
  have hEarlier : t.shift (-oneSecond) < t := shift_back_lt ht.proper (by decide)
  have hLater : t < t.shift oneSecond := lt_shift t (by decide)
  simp only [lt_iff, Representable, minSeconds, maxSeconds] at *
  omega

end Instant

/-! ## Both sides -/

/-- The axis shows all of some instants, and no more than is needed for that and for a width. -/
structure Range.Frames (range : Range Instant) (times : List Instant) : Prop where
  width : range.low < range.high
  covers : ∀ t ∈ times, ¬ t < range.low ∧ ¬ range.high < t
  representable : range.low.Representable ∧ range.high.Representable
  /-- Where two instants differ, the axis starts and ends with one of them. -/
  tight : (∃ t ∈ times, ∃ u ∈ times, t ≠ u) → range.low ∈ times ∧ range.high ∈ times
  /-- Where all are one instant, both sides are a second away from it unless that is not representable,
  which is never so on both. -/
  widened : ∀ t, t ∈ times → (∀ u ∈ times, u = t) →
    t.ReachesBy (-oneSecond) range.low ∧ t.ReachesBy oneSecond range.high ∧
      (t.CanMove (-oneSecond) ∨ t.CanMove oneSecond)

section

variable {times : List Instant} {first last : Instant}

/-- An axis around one instant frames that instant. -/
theorem frames_of_single {low high : Instant} (hSame : ∀ t ∈ times, t = first)
    (hFirst : first.Valid) (hReachLow : first.ReachesBy (-oneSecond) low)
    (hReachHigh : first.ReachesBy oneSecond high) : (Range.mk low high).Frames times := by
  have hEither := Instant.canMove_either_way hFirst
  have hLow := hReachLow.backward hFirst.proper (by decide)
  have hHigh := hReachHigh.forward (by decide)
  refine
    { width := ?_
      covers := ?_
      representable :=
        ⟨hReachLow.representable hFirst.representable, hReachHigh.representable hFirst.representable⟩
      tight := ?_
      widened := ?_ }
  · -- width: one side moves at least, and away from the other
    rcases hLow with hBefore | ⟨hStuckLow, rfl⟩
    · rcases hHigh with hAfter | ⟨-, rfl⟩
      · exact Instant.lt_trans hBefore hAfter
      · exact hBefore
    · rcases hHigh with hAfter | ⟨hStuckHigh, -⟩
      · exact hAfter
      · exact absurd hEither (not_or.mpr ⟨hStuckLow, hStuckHigh⟩)
  · -- covers: neither side moves toward the other
    intro t ht
    rw [hSame t ht]
    constructor
    · intro hOutside
      rcases hLow with hBefore | ⟨-, rfl⟩
      · exact Instant.not_lt_self first (Instant.lt_trans hOutside hBefore)
      · exact Instant.not_lt_self low hOutside
    · intro hOutside
      rcases hHigh with hAfter | ⟨-, rfl⟩
      · exact Instant.not_lt_self first (Instant.lt_trans hAfter hOutside)
      · exact Instant.not_lt_self high hOutside
  · rintro ⟨t, ht, u, hu, hNe⟩
    exact absurd ((hSame t ht).trans (hSame u hu).symm) hNe
  · intro t ht hAll
    rw [hSame t ht]
    exact ⟨hReachLow, hReachHigh, hEither⟩

/-- The axis from the earliest of several instants to the latest frames them. -/
theorem frames_of_distinct (hFirst : Instant.earliest times = some first)
    (hLast : Instant.latest times = some last) (hNe : first ≠ last)
    (hTimes : ∀ t ∈ times, t.Valid) : (Range.mk first last).Frames times := by
  obtain ⟨hFirstMem, hNoneBefore⟩ := Instant.earliest_eq_some_iff.mp hFirst
  obtain ⟨hLastMem, hNoneAfter⟩ := Instant.latest_eq_some_iff.mp hLast
  refine
    { width := ?_
      covers := fun t ht => ⟨hNoneBefore t ht, hNoneAfter t ht⟩
      representable := ⟨(hTimes first hFirstMem).representable, (hTimes last hLastMem).representable⟩
      tight := fun _ => ⟨hFirstMem, hLastMem⟩
      widened := ?_ }
  · -- the earliest is not later than the latest, so they would be the same
    by_contra hNot
    exact hNe (Instant.eq_of_not_lt hNot (hNoneBefore last hLastMem))
  · intro t _ hAll
    exact absurd ((hAll first hFirstMem).trans (hAll last hLastMem).symm) hNe

/-- The earliest and the latest instant settle the axis. -/
theorem timeRange_of_ends (hFirst : Instant.earliest times = some first)
    (hLast : Instant.latest times = some last) :
    timeRange times =
      some (if first = last then ⟨shiftOrStay first (-oneSecond), shiftOrStay last oneSecond⟩
        else ⟨first, last⟩) := by
  simp only [timeRange, hFirst, hLast]
  split <;> rfl

/-- Any instants but none have an axis, and it frames them. -/
theorem exists_frames (hSome : times ≠ []) (hTimes : ∀ t ∈ times, t.Valid) :
    ∃ range, timeRange times = some range ∧ range.Frames times := by
  obtain ⟨time, rest, hCons⟩ := List.exists_cons_of_ne_nil hSome
  obtain ⟨first, hFirst⟩ : ∃ first, Instant.earliest times = some first := ⟨_, by rw [hCons]; rfl⟩
  obtain ⟨last, hLast⟩ : ∃ last, Instant.latest times = some last := ⟨_, by rw [hCons]; rfl⟩
  refine ⟨_, timeRange_of_ends hFirst hLast, ?_⟩
  by_cases hSame : first = last
  · -- nothing lies between an instant and itself
    obtain ⟨hMem, hNoneBefore⟩ := Instant.earliest_eq_some_iff.mp hFirst
    obtain ⟨-, hNoneAfter⟩ := Instant.latest_eq_some_iff.mp hLast
    rw [if_pos hSame, ← hSame]
    refine frames_of_single (fun t ht => ?_) (hTimes first hMem)
      (Instant.reachesBy_shiftOrStay first _) (Instant.reachesBy_shiftOrStay first _)
    exact Instant.eq_of_not_lt (hNoneBefore t ht) (hSame ▸ hNoneAfter t ht)
  · rw [if_neg hSame]
    exact frames_of_distinct hFirst hLast hSame hTimes

end

/-- **The axis of time has a width.** There is an axis for any points but none, whatever their order and
however often they come at one time. It starts before it ends and shows the time of every point. Where
two points have different times it runs from the earliest of them to the latest; where all have the same
time it reaches a second past that on either side, or ends there if the side cannot be represented, and
one side at least can. -/
theorem timeRange_exact (points : List (Instant × Float))
    (hTimes : ∀ point ∈ points, point.1.Valid) :
    (timeRange (points.map (·.1)) = none ↔ points = []) ∧
      (points ≠ [] → ∃ range, timeRange (points.map (·.1)) = some range ∧
        range.Frames (points.map (·.1))) := by
  have hFrames : points ≠ [] → ∃ range, timeRange (points.map (·.1)) = some range ∧
      range.Frames (points.map (·.1)) := by
    intro hSome
    refine exists_frames (by simpa using hSome) ?_
    rw [List.forall_mem_map]
    exact hTimes
  refine ⟨⟨fun hNone => ?_, ?_⟩, hFrames⟩
  · by_contra hSome
    obtain ⟨range, hRange, -⟩ := hFrames hSome
    rw [hNone] at hRange
    cases hRange
  · rintro rfl
    rfl

/-- Two points at one time, within a leap second at the very end of the representable range. -/
def atLastSecond : List (Instant × Float) :=
  [(⟨Instant.maxSeconds, 1500000000⟩, 1), (⟨Instant.maxSeconds, 1500000000⟩, 2)]

/-- Their axis reaches back into the second before the leap second, and no further than they do. -/
theorem timeRange_atLastSecond :
    (∀ point ∈ atLastSecond, point.1.Valid) ∧ atLastSecond ≠ [] ∧
      timeRange (atLastSecond.map (·.1)) =
        some ⟨⟨Instant.maxSeconds, 500000000⟩, ⟨Instant.maxSeconds, 1500000000⟩⟩ ∧
      (Range.mk (⟨Instant.maxSeconds, 500000000⟩ : Instant)
        ⟨Instant.maxSeconds, 1500000000⟩).Frames (atLastSecond.map (·.1)) := by
  -- both points are at the one instant, which is in a leap second
  have hTimes : ∀ point ∈ atLastSecond, point.1.Valid := by
    intro point hPoint
    have hTime : point.1 = ⟨Instant.maxSeconds, 1500000000⟩ := by
      rcases List.mem_cons.mp hPoint with rfl | hPoint
      · rfl
      · rw [List.mem_singleton.mp hPoint]
    rw [hTime]
    exact ⟨by decide, by decide⟩
  have hRange : timeRange (atLastSecond.map (·.1)) =
      some ⟨⟨Instant.maxSeconds, 500000000⟩, ⟨Instant.maxSeconds, 1500000000⟩⟩ := by
    decide +kernel
  have hSome : atLastSecond ≠ [] := List.cons_ne_nil _ _
  obtain ⟨range, hFound, hFrames⟩ := (timeRange_exact atLastSecond hTimes).2 hSome
  obtain rfl := Option.some.inj (hRange.symm.trans hFound)
  exact ⟨hTimes, hSome, hRange, hFrames⟩

end SolarCharts
