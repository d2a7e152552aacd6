import Mathlib.Data.List.Forall2
import SolarCharts.Proofs.Time.Moving
import SolarCharts.Trace

/-!
# What a trace is made of

A trace shows the voltages and the currents of a host, each in arrival order, with its time moved by the
display offset. The move is tried for every sample on the way, whatever its field, and the first one
that leads out of the representable range ends it.

* `firstStuck?` — the first sample that cannot be moved.
* `ofSamples_of_stuck`, `ofSamples_of_none_stuck` — a trace fails with that sample, and where there is
  none its points are `IsOf` the samples.
* `ofSamples_exact` — both ways of it, with the time of every point told by `Instant.Moves`.
-/

namespace SolarCharts.Trace

variable {offset : Span} {samples : List Sample} {sample : Sample} {trace other : Trace}
  {field : Field} {points others : List (Instant × Float)}

/-! ## The first sample that cannot be moved -/

/-- The first sample in arrival order that the offset takes out of the representable range. -/
def firstStuck? (offset : Span) (samples : List Sample) : Option Sample :=
  samples.find? fun sample => ¬ sample.time.CanMove offset

/-- No sample is stuck where all can be moved. -/
theorem firstStuck?_eq_none_iff :
    firstStuck? offset samples = none ↔ ∀ sample ∈ samples, sample.time.CanMove offset := by
  simp [firstStuck?]

/-- The stuck sample is the one behind samples that can all be moved. -/
theorem firstStuck?_eq_some_iff :
    firstStuck? offset samples = some sample ↔ ∃ before after, samples = before ++ sample :: after ∧
      (∀ other ∈ before, other.time.CanMove offset) ∧ ¬ sample.time.CanMove offset := by
  rw [firstStuck?, List.find?_eq_some_iff_append]
  constructor
  · rintro ⟨hStuck, before, after, hSplit, hBefore⟩
    refine ⟨before, after, hSplit, fun other hOther => ?_, by simpa using hStuck⟩
    simpa using hBefore other hOther
  · rintro ⟨before, after, hSplit, hBefore, hStuck⟩
    refine ⟨by simpa using hStuck, before, after, hSplit, fun other hOther => ?_⟩
    simpa using hBefore other hOther

/-! ## One sample -/

/-- A sample that can be moved adds a point in front of those of the rest. -/
theorem ofSamples_cons_of_shift {time : Instant} (h : sample.time.shift? offset = some time)
    (rest : List Sample) :
    ofSamples offset (sample :: rest) =
      (ofSamples offset rest).map (cons sample.field (time, sample.value)) := by
  rw [ofSamples, h]

/-- One that cannot be moved ends the trace, whatever its field. -/
theorem ofSamples_cons_of_stuck (h : ¬ sample.time.CanMove offset) (rest : List Sample) :
    ofSamples offset (sample :: rest) = .error ⟨sample.time, offset⟩ := by
  rw [ofSamples, Instant.not_canMove_iff.mp h]

/-! ## All samples -/

/-- A trace fails with the stuck sample, although the samples before it could be moved. -/
theorem ofSamples_of_stuck (h : firstStuck? offset samples = some sample) :
    ofSamples offset samples = .error ⟨sample.time, offset⟩ := by
  induction samples with
  | nil => cases h
  | cons first rest ih =>
    rw [firstStuck?, List.find?_cons] at h
    -- the first sample is stuck itself, or the one that is stuck is further on
    by_cases hMove : first.time.CanMove offset
    · simp only [hMove, not_true_eq_false, decide_false] at h
      obtain ⟨time, hTime⟩ := Instant.canMove_iff.mp hMove
      -- the failure further on takes the place of what was collected before it
      rw [ofSamples_cons_of_shift hTime, ih h]
      rfl
    · simp only [hMove, not_false_eq_true, decide_true, Option.some.injEq] at h
      rw [ofSamples_cons_of_stuck hMove, h]

/-- The points of one field: its samples in arrival order, each at the time that it is moved to. -/
def Shows (offset : Span) (field : Field) (samples : List Sample)
    (points : List (Instant × Float)) : Prop :=
  List.Forall₂ (fun sample point => sample.time.Moves offset point.1 ∧ point.2 = sample.value)
    (samples.filter (·.field = field)) points

/-- A sample of the field stands in front of the points of the rest. -/
theorem Shows.cons {time : Instant} (h : Shows offset field samples points)
    (hField : sample.field = field) (hTime : sample.time.Moves offset time) :
    Shows offset field (sample :: samples) ((time, sample.value) :: points) := by
  rw [Shows, List.filter_cons_of_pos (by simpa using hField)]
  exact .cons ⟨hTime, rfl⟩ h

/-- A sample of another field has no point. -/
theorem Shows.skip (h : Shows offset field samples points) (hField : sample.field ≠ field) :
    Shows offset field (sample :: samples) points := by
  rw [Shows, List.filter_cons_of_neg (by simpa using hField)]
  exact h

/-- No other points stand for the same samples. -/
theorem Shows.unique (h : Shows offset field samples points)
    (hOther : Shows offset field samples others) : points = others := by
  -- a sample leads to one point only, since it is moved to one instant only
  have hUnique : Relator.RightUnique fun (sample : Sample) (point : Instant × Float) =>
      sample.time.Moves offset point.1 ∧ point.2 = sample.value := by
    rintro sample ⟨time, value⟩ ⟨time', value'⟩ ⟨hTime, hValue⟩ ⟨hTime', hValue'⟩
    rw [Prod.mk.injEq]
    exact ⟨hTime.unique hTime', hValue.trans hValue'.symm⟩
  exact hUnique.forall₂ h hOther

/-- There are points unless no sample has the field. -/
theorem Shows.isEmpty_eq (h : Shows offset field samples points) :
    points.isEmpty = !samples.any (·.field = field) := by
  have hLength := h.length_eq
  rw [Bool.eq_iff_iff, List.isEmpty_iff_length_eq_zero, ← hLength, List.length_eq_zero_iff,
    List.filter_eq_nil_iff]
  simp

/-- What a trace has to be: both of its series show the samples of their field. -/
def IsOf (offset : Span) (samples : List Sample) (trace : Trace) : Prop :=
  Shows offset .voltage samples trace.voltage ∧ Shows offset .current samples trace.current

/-- No other trace is of the same samples. -/
theorem IsOf.unique (h : IsOf offset samples trace) (hOther : IsOf offset samples other) :
    trace = other := by
  obtain ⟨voltage, current⟩ := trace
  rw [Trace.mk.injEq]
  exact ⟨h.1.unique hOther.1, h.2.unique hOther.2⟩

/-- One more sample goes to the series of its field and leaves the other as it is. -/
theorem IsOf.cons {time : Instant} (h : IsOf offset samples trace)
    (hTime : sample.time.Moves offset time) :
    IsOf offset (sample :: samples) (trace.cons sample.field (time, sample.value)) := by
  obtain ⟨hVoltage, hCurrent⟩ := h
  cases hField : sample.field with
  | voltage => exact ⟨hVoltage.cons hField hTime, hCurrent.skip (by simp [hField])⟩
  | current => exact ⟨hVoltage.skip (by simp [hField]), hCurrent.cons hField hTime⟩
  | other name => exact ⟨hVoltage.skip (by simp [hField]), hCurrent.skip (by simp [hField])⟩

/-- Where no sample is stuck there is a trace, and it is of the samples. -/
theorem ofSamples_of_none_stuck (h : ∀ sample ∈ samples, sample.time.CanMove offset) :
    ∃ trace, ofSamples offset samples = .ok trace ∧ IsOf offset samples trace := by
  induction samples with
  | nil => exact ⟨empty, rfl, .nil, .nil⟩
  | cons sample rest ih =>
    obtain ⟨hFirst, hRest⟩ := List.forall_mem_cons.mp h
    obtain ⟨time, hTime⟩ := Instant.canMove_iff.mp hFirst
    obtain ⟨trace, hTrace, hIsOf⟩ := ih hRest
    have hMoves : sample.time.Moves offset time := (Instant.shift?_eq_some_iff_moves.mp hTime).1
    refine ⟨trace.cons sample.field (time, sample.value), ?_, hIsOf.cons hMoves⟩
    rw [ofSamples_cons_of_shift hTime, hTrace]
    rfl

/-- A trace fails exactly with the stuck sample. -/
theorem ofSamples_eq_error_iff {e : ShiftError} :
    ofSamples offset samples = .error e ↔
      ∃ sample, firstStuck? offset samples = some sample ∧ e = ⟨sample.time, offset⟩ := by
  constructor
  · intro h
    cases hStuck : firstStuck? offset samples with
    | none =>
      -- there would be a trace
      obtain ⟨trace, hTrace, -⟩ := ofSamples_of_none_stuck (firstStuck?_eq_none_iff.mp hStuck)
      rw [hTrace] at h
      cases h
    | some sample =>
      rw [ofSamples_of_stuck hStuck] at h
      exact ⟨sample, rfl, (Except.error.inj h).symm⟩
  · rintro ⟨sample, hStuck, rfl⟩
    exact ofSamples_of_stuck hStuck

/-- There is exactly the trace that is of the samples, and only where all can be moved. -/
theorem ofSamples_eq_ok_iff :
    ofSamples offset samples = .ok trace ↔
      (∀ sample ∈ samples, sample.time.CanMove offset) ∧ IsOf offset samples trace := by
  constructor
  · intro h
    -- a sample that is stuck would make the trace fail
    have hAll : ∀ sample ∈ samples, sample.time.CanMove offset := by
      rw [← firstStuck?_eq_none_iff, Option.eq_none_iff_forall_ne_some]
      intro sample hStuck
      rw [ofSamples_of_stuck hStuck] at h
      cases h
    obtain ⟨found, hFound, hIsOf⟩ := ofSamples_of_none_stuck hAll
    rw [hFound] at h
    obtain rfl := Except.ok.inj h
    exact ⟨hAll, hIsOf⟩
  · rintro ⟨hAll, hIsOf⟩
    obtain ⟨found, hFound, hFoundOf⟩ := ofSamples_of_none_stuck hAll
    -- the trace that there is can be no other than this one
    rw [hFound, hFoundOf.unique hIsOf]

/-- **Nothing is lost on the way.** There is a trace exactly if the offset keeps the time of every sample
representable, and it has the voltages and the currents, each in arrival order, with the values they had
and at the times that the offset leads to. Otherwise the first sample in arrival order that the offset
takes out of the range is what the failure names, with the offset. -/
theorem ofSamples_exact (offset : Span) (samples : List Sample) :
    ((∃ trace, ofSamples offset samples = .ok trace) ↔
        ∀ sample ∈ samples, sample.time.CanMove offset) ∧
      (∀ trace, ofSamples offset samples = .ok trace ↔
        (∀ sample ∈ samples, sample.time.CanMove offset) ∧
          Shows offset .voltage samples trace.voltage ∧
          Shows offset .current samples trace.current) ∧
      (∀ e, ofSamples offset samples = .error e ↔
        ∃ before sample after, samples = before ++ sample :: after ∧
          (∀ other ∈ before, other.time.CanMove offset) ∧ ¬ sample.time.CanMove offset ∧
          e = ⟨sample.time, offset⟩) ∧
      ∀ sample ∈ samples, ¬ sample.time.InLeapSecond →
        (sample.time.CanMove offset ↔
          Instant.minSeconds * nanosPerSecond ≤ sample.time.total + offset.nanos ∧
            sample.time.total + offset.nanos < (Instant.maxSeconds + 1) * nanosPerSecond) := by
  refine ⟨⟨?_, ?_⟩, fun trace => ofSamples_eq_ok_iff, fun e => ?_, ?_⟩
  · rintro ⟨trace, hTrace⟩
    exact (ofSamples_eq_ok_iff.mp hTrace).1
  · intro hAll
    obtain ⟨trace, hTrace, -⟩ := ofSamples_of_none_stuck hAll
    exact ⟨trace, hTrace⟩
  · -- the failure is told by the samples around the stuck one
    simp only [ofSamples_eq_error_iff, firstStuck?_eq_some_iff]
    constructor
    · rintro ⟨sample, ⟨before, after, hSplit, hBefore, hStuck⟩, hError⟩
      exact ⟨before, sample, after, hSplit, hBefore, hStuck, hError⟩
    · rintro ⟨before, sample, after, hSplit, hBefore, hStuck, hError⟩
      exact ⟨sample, ⟨before, after, hSplit, hBefore, hStuck⟩, hError⟩
  · intro sample _ hOrdinary
    exact Instant.canMove_iff_total hOrdinary

/-- A voltage one nanosecond before the end of time, a current within a leap second, a temperature. -/
def atTheEnd : List Sample :=
  [⟨⟨Instant.maxSeconds, 999999998⟩, "a", .voltage, 1⟩, ⟨⟨1483228799, 1500000000⟩, "a", .current, 2⟩,
    ⟨⟨0, 0⟩, "a", .other "temperature", 3⟩]

/-- By one nanosecond all can be moved, and by two the voltage cannot. -/
theorem ofSamples_atTheEnd :
    ofSamples ⟨1⟩ atTheEnd = .ok
        ⟨[(⟨Instant.maxSeconds, 999999999⟩, 1)], [(⟨1483228799, 1500000001⟩, 2)]⟩ ∧
      ofSamples ⟨2⟩ atTheEnd = .error ⟨⟨Instant.maxSeconds, 999999998⟩, ⟨2⟩⟩ := by
  obtain ⟨-, hOk, -, -⟩ := ofSamples_exact ⟨1⟩ atTheEnd
  obtain ⟨-, -, hError, -⟩ := ofSamples_exact ⟨2⟩ atTheEnd
  constructor
  · refine (hOk _).mpr ⟨by decide +kernel, ?_, ?_⟩
    · exact List.Forall₂.cons ⟨Instant.moves_iff.mpr (by decide +kernel), rfl⟩ .nil
    · exact List.Forall₂.cons ⟨Instant.moves_iff.mpr (by decide +kernel), rfl⟩ .nil
  · exact (hError _).mpr ⟨[], _, _, rfl, nofun, by decide +kernel, rfl⟩

end SolarCharts.Trace
