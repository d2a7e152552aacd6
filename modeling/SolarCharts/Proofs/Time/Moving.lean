import SolarCharts.Proofs.Time.Backward

/-!
# Moving an instant

Moved by a span, an instant outside leap seconds has that many more nanoseconds or fewer. `Moves` says
this, and what becomes of an instant within a leap second: forward out of it the second is dropped,
backward out of it the second counts as the one that follows, and a shorter way stays within it.

* `moves_iff` — `shift` leads where the rule says, and nowhere else.
* `lt_shift` — forward it leads to a later instant, also out of a leap second and within it.
* `canMove_iff_total` — outside leap seconds, the nanoseconds alone decide whether a move stays
  representable, up to the very first and the very last of them.
-/

namespace SolarCharts.Instant

variable {t u v : Instant} {span : Span}

/-- A span leads from an instant to another, by the rule for where the first of them lies. -/
inductive Moves (t : Instant) (span : Span) (u : Instant) : Prop
  | plain (hFrom : ¬ t.InLeapSecond) (hTo : ¬ u.InLeapSecond)
      (hTotal : u.total = t.total + span.nanos)
  | forward (hFrom : t.InLeapSecond)
      (hOut : 0 < span.seconds ∨
        (0 < span.subsecond ∧ 2 * nanosPerSecond ≤ t.nanos + span.subsecond))
      (hTo : ¬ u.InLeapSecond) (hTotal : u.total + nanosPerSecond = t.total + span.nanos)
  | backward (hFrom : t.InLeapSecond) (hOut : span.seconds < 0) (hTo : ¬ u.InLeapSecond)
      (hTotal : u.total = t.total + span.nanos)
  /-- The result need not lie within the leap second still, but it has the same second. -/
  | within (hFrom : t.InLeapSecond) (hWhole : span.seconds = 0)
      (hShort : span.subsecond ≤ 0 ∨ t.nanos + span.subsecond < 2 * nanosPerSecond)
      (hSeconds : u.seconds = t.seconds) (hNanos : (u.nanos : Int) = t.nanos + span.subsecond)

/-- The instant at a number of nanoseconds is the only ordinary one with so many. -/
theorem ofTotal_eq_iff {n : Int} : ofTotal n = u ↔ ¬ u.InLeapSecond ∧ u.total = n := by
  obtain ⟨seconds, nanos⟩ := u
  simp only [ofTotal, InLeapSecond, total, nanosPerSecond, Instant.mk.injEq]
  omega

/-- The whole seconds of a span and what is left beside them never have opposite signs. -/
theorem parts_same_sign (span : Span) :
    (0 ≤ span.seconds ∧ 0 ≤ span.subsecond) ∨ (span.seconds ≤ 0 ∧ span.subsecond ≤ 0) := by
  rcases Int.le_total 0 span.nanos with hForward | hBack
  · exact Or.inl ⟨Int.tdiv_nonneg hForward (by decide), Int.tmod_nonneg _ hForward⟩
  · obtain ⟨hSeconds, hSubsecond⟩ := parts_of_nonpos hBack
    simp only [nanosPerSecond] at hSeconds hSubsecond
    omega

/-- The rule says where `shift` leads. -/
theorem moves_iff : t.Moves span u ↔ t.shift span = u := by
  have hSign := parts_same_sign span
  have hRest : -(nanosPerSecond : Int) < span.subsecond := Int.lt_tmod_of_pos _ (by decide)
  constructor
  · intro h
    cases h with
    | plain hFrom hTo hTotal =>
      rw [shift_of_not_inLeapSecond hFrom]
      exact ofTotal_eq_iff.mpr ⟨hTo, hTotal⟩
    | forward hFrom hOut hTo hTotal =>
      rw [shift, if_pos hFrom, if_pos hOut]
      exact ofTotal_eq_iff.mpr ⟨hTo, by omega⟩
    | backward hFrom hOut hTo hTotal =>
      -- a span backward is no way out forward, since its parts have one sign
      rw [shift, if_pos hFrom, if_neg (by omega), if_pos hOut]
      exact ofTotal_eq_iff.mpr ⟨hTo, hTotal⟩
    | within hFrom hWhole hShort hSeconds hNanos =>
      rw [shift, if_pos hFrom, if_neg (by omega), if_neg (by omega), ← hNanos, ← hSeconds]
      rfl
  · intro h
    by_cases hFrom : t.InLeapSecond
    · -- the two ways out of the leap second are tried first
      rw [shift, if_pos hFrom] at h
      split at h
      · next hOut =>
        obtain ⟨hTo, hTotal⟩ := ofTotal_eq_iff.mp h
        exact .forward hFrom hOut hTo (by omega)
      · next hNotForward =>
        split at h
        · next hOut =>
          obtain ⟨hTo, hTotal⟩ := ofTotal_eq_iff.mp h
          exact .backward hFrom hOut hTo hTotal
        · next hNotBackward =>
          -- a leap second has more nanoseconds than are taken off it
          have hLeap : nanosPerSecond ≤ t.nanos := hFrom
          rw [← h]
          refine .within hFrom (by omega) (by omega) rfl ?_
          show ((t.nanos + span.subsecond).toNat : Int) = _
          omega
    · rw [shift_of_not_inLeapSecond hFrom] at h
      obtain ⟨hTo, hTotal⟩ := ofTotal_eq_iff.mp h
      exact .plain hFrom hTo hTotal

/-- An instant is moved to one instant only. -/
theorem Moves.unique (hu : t.Moves span u) (hv : t.Moves span v) : u = v :=
  (moves_iff.mp hu).symm.trans (moves_iff.mp hv)

/-- An instant as a clock gives it is moved to one. -/
theorem Moves.proper (h : t.Moves span u) (ht : t.Proper) : u.Proper := by
  simp only [Proper, nanosPerSecond] at *
  cases h with
  | plain hFrom hTo hTotal | forward hFrom hOut hTo hTotal | backward hFrom hOut hTo hTotal =>
    simp only [InLeapSecond, nanosPerSecond] at hTo
    omega
  | within hFrom hWhole hShort hSeconds hNanos =>
    simp only [nanosPerSecond] at hShort
    omega

/-- A span forward leads to a later instant. -/
theorem lt_shift (t : Instant) (hSpan : 0 < span.nanos) : t < t.shift span := by
  obtain ⟨u, hu⟩ : ∃ u, t.shift span = u := ⟨_, rfl⟩
  have hParts := Span.seconds_mul_add_subsecond span
  have hRest : span.subsecond < nanosPerSecond := Int.tmod_lt_of_pos _ (by decide)
  have hSign := parts_same_sign span
  rw [hu, lt_iff]
  cases moves_iff.mpr hu with
  | plain hFrom hTo hTotal =>
    simp only [total, InLeapSecond, nanosPerSecond] at *
    omega
  | forward hFrom hOut hTo hTotal =>
    -- what is left of the leap second is dropped, so the second after it is reached at least
    simp only [total, InLeapSecond, nanosPerSecond] at *
    omega
  | backward hFrom hOut hTo hTotal =>
    simp only [total, InLeapSecond, nanosPerSecond] at *
    omega
  | within hFrom hWhole hShort hSeconds hNanos =>
    simp only [nanosPerSecond] at *
    omega

/-! ## The representable range -/

/-- The instant that a span leads to is representable. -/
def CanMove (t : Instant) (span : Span) : Prop := ∃ u, t.Moves span u ∧ u.Representable

/-- A move that is tried comes to where the span leads, if that is representable. -/
theorem shift?_eq_some_iff_moves : t.shift? span = some u ↔ t.Moves span u ∧ u.Representable := by
  rw [shift?_eq_some_iff, moves_iff]

/-- An instant can be moved where trying it succeeds. -/
theorem canMove_iff : t.CanMove span ↔ ∃ u, t.shift? span = some u := by
  simp only [CanMove, shift?_eq_some_iff_moves]

/-- It cannot where trying fails, which has one way only. -/
theorem not_canMove_iff : ¬ t.CanMove span ↔ t.shift? span = none := by
  rw [canMove_iff, ← Option.isSome_iff_exists, Option.not_isSome_iff_eq_none]

instance (t : Instant) (span : Span) : Decidable (t.CanMove span) :=
  decidable_of_iff ((t.shift? span).isSome = true) (Option.isSome_iff_exists.trans canMove_iff.symm)

/-- Outside leap seconds a move stays representable exactly where the sum of nanoseconds does not go
before the first of them or beyond the last. -/
theorem canMove_iff_total (hFrom : ¬ t.InLeapSecond) :
    t.CanMove span ↔ minSeconds * nanosPerSecond ≤ t.total + span.nanos ∧
      t.total + span.nanos < (maxSeconds + 1) * nanosPerSecond := by
  -- an ordinary instant is representable if its nanoseconds are within bounds
  have hRange : ∀ u : Instant, ¬ u.InLeapSecond → (u.Representable ↔
      minSeconds * nanosPerSecond ≤ u.total ∧ u.total < (maxSeconds + 1) * nanosPerSecond) := by
    intro u hOrdinary
    simp only [Representable, total, InLeapSecond, nanosPerSecond, minSeconds, maxSeconds] at *
    omega
  constructor
  · rintro ⟨u, hMoves, hRepresentable⟩
    rw [moves_iff, shift_of_not_inLeapSecond hFrom] at hMoves
    obtain ⟨hTo, hTotal⟩ := ofTotal_eq_iff.mp hMoves
    rw [← hTotal]
    exact (hRange u hTo).mp hRepresentable
  · intro hTotal
    obtain ⟨hTo, hSum⟩ := ofTotal_eq_iff.mp (rfl : ofTotal (t.total + span.nanos) = _)
    rw [← hSum] at hTotal
    exact ⟨_, .plain hFrom hTo hSum, (hRange _ hTo).mpr hTotal⟩

end SolarCharts.Instant
