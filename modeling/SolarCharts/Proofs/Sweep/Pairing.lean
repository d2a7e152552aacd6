import SolarCharts.Sweep

/-!
# Pairing by time agrees with the nested loop

`Sweep.pairs` goes over the samples once and looks currents up under their times. The plain way to
say what it should give is `nestedPairs`: go over all samples for every sample, and make a point
where a voltage meets a current of the identical time. The two give the same list, so no point is
lost, made twice or moved, however often a time occurs on either side.

* `Gathered.Holds` — what the pass has gathered after some samples: the voltages among them in a
  row, and under every time the currents of that time, both in arrival order.
* `Gathered.Holds.add`, `Gathered.holds_ofList` — one sample keeps it, so it holds of every pass.
* `pairs_eq_nestedPairs` — the agreement.
-/

namespace SolarCharts.Sweep

/-! ## The nested loop -/

/-- Every voltage with every current of the identical time, by going over all samples for each. -/
def nestedPairs (samples : List Sample) : List CurvePoint :=
  samples.flatMap fun v =>
    samples.flatMap fun c =>
      if v.field = .voltage ∧ c.field = .current ∧ v.time = c.time then
        [CurvePoint.ofPair v.value c.value]
      else []

/-! ## What a pass has gathered -/

/-- The voltages among samples, with their times. -/
def voltagesOf (samples : List Sample) : List (Instant × Float) :=
  (samples.filter (·.field = .voltage)).map fun s => (s.time, s.value)

/-- The currents among samples that were measured at a time. -/
def currentsAt (time : Instant) (samples : List Sample) : List Float :=
  (samples.filter fun s => s.field = .current ∧ s.time = time).map (·.value)

theorem voltagesOf_append (a b : List Sample) :
    voltagesOf (a ++ b) = voltagesOf a ++ voltagesOf b := by
  simp [voltagesOf]

theorem currentsAt_append (time : Instant) (a b : List Sample) :
    currentsAt time (a ++ b) = currentsAt time a ++ currentsAt time b := by
  simp [currentsAt]

namespace Gathered

/-- The invariant of the pass: `samples` are those taken so far. -/
structure Holds (gathered : Gathered) (samples : List Sample) : Prop where
  voltages : gathered.voltages.toList = voltagesOf samples
  currents : ∀ time, (gathered.currents.getD time #[]).toList = currentsAt time samples

theorem holds_empty : empty.Holds [] :=
  ⟨rfl, fun time => by simp [empty, currentsAt]⟩

/-- One more sample keeps the invariant. -/
theorem Holds.add {gathered : Gathered} {samples : List Sample} (h : gathered.Holds samples)
    (sample : Sample) : (gathered.add sample).Holds (samples ++ [sample]) := by
  -- one case for each way that a sample is taken in
  cases hField : sample.field with
  | voltage =>
    refine ⟨?_, fun time => ?_⟩
    · rw [voltagesOf_append, ← h.voltages]
      simp [Gathered.add, voltagesOf, hField]
    · rw [currentsAt_append, ← h.currents time]
      simp [Gathered.add, currentsAt, hField]
  | current =>
    refine ⟨?_, fun time => ?_⟩
    · rw [voltagesOf_append, ← h.voltages]
      simp [Gathered.add, voltagesOf, hField]
    · rw [currentsAt_append, ← h.currents time]
      -- the sample joins the currents of its own time and leaves those of all others
      by_cases hTime : sample.time = time
      · subst hTime
        simp [Gathered.add, currentsAt, hField]
      · simp [Gathered.add, currentsAt, hField, hTime, Std.HashMap.getD_insert]
  | other name =>
    refine ⟨?_, fun time => ?_⟩
    · rw [voltagesOf_append, ← h.voltages]
      simp [Gathered.add, voltagesOf, hField]
    · rw [currentsAt_append, ← h.currents time]
      simp [Gathered.add, currentsAt, hField]

theorem Holds.foldl {gathered : Gathered} {taken : List Sample} (h : gathered.Holds taken)
    (samples : List Sample) : (samples.foldl Gathered.add gathered).Holds (taken ++ samples) := by
  induction samples generalizing gathered taken with
  | nil => simpa using h
  | cons sample rest ih =>
    rw [List.foldl_cons, List.append_cons]
    exact ih (h.add sample)

/-- A pass over samples has gathered exactly those samples. -/
theorem holds_ofList (samples : List Sample) : (ofList samples).Holds samples :=
  holds_empty.foldl samples

/-- The points of a pass, read off the samples it has taken. -/
theorem Holds.points_eq {gathered : Gathered} {samples : List Sample}
    (h : gathered.Holds samples) :
    gathered.points =
      (voltagesOf samples).flatMap fun (time, voltage) =>
        (currentsAt time samples).map (CurvePoint.ofPair voltage) := by
  rw [points, h.voltages]
  simp only [h.currents]

end Gathered

/-! ## Agreement -/

/-- The inner loop, for a voltage: the points it makes with the currents of its time. -/
theorem inner_loop_eq {v : Sample} (hField : v.field = .voltage) (samples : List Sample) :
    (samples.flatMap fun c =>
      if v.field = .voltage ∧ c.field = .current ∧ v.time = c.time then
        [CurvePoint.ofPair v.value c.value]
      else []) =
      (currentsAt v.time samples).map (CurvePoint.ofPair v.value) := by
  induction samples with
  | nil => rfl
  | cons c rest ih =>
    rw [List.flatMap_cons, ih]
    by_cases hMeets : c.field = .current ∧ v.time = c.time
    · simp [currentsAt, hField, hMeets]
    · have hDrops : ¬ (c.field = .current ∧ c.time = v.time) := fun h => hMeets ⟨h.1, h.2.symm⟩
      simp [currentsAt, hField, hMeets, hDrops]

/-- The outer loop goes over the voltages alone; every other sample makes no point. -/
theorem outer_loop_eq (outer samples : List Sample) :
    (outer.flatMap fun v =>
      samples.flatMap fun c =>
        if v.field = .voltage ∧ c.field = .current ∧ v.time = c.time then
          [CurvePoint.ofPair v.value c.value]
        else []) =
      (voltagesOf outer).flatMap fun (time, voltage) =>
        (currentsAt time samples).map (CurvePoint.ofPair voltage) := by
  induction outer with
  | nil => rfl
  | cons v rest ih =>
    rw [List.flatMap_cons, ih]
    -- the field is asked in the inner loop, where it is the same for every other sample
    by_cases hField : v.field = .voltage
    · rw [inner_loop_eq hField]
      simp [voltagesOf, hField]
    · simp [voltagesOf, hField]

/-- **Pairing is the nested loop.** Looking currents up by time gives the points of the nested loop:
the same ones, as often, in the same order. -/
theorem pairs_eq_nestedPairs (samples : List Sample) : pairs samples = nestedPairs samples := by
  rw [pairs, (Gathered.holds_ofList samples).points_eq, nestedPairs, outer_loop_eq]

end SolarCharts.Sweep
