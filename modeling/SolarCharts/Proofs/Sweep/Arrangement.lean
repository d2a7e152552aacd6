import Mathlib.Data.List.Perm.Basic
import SolarCharts.Proofs.Sweep.Pairing
import SolarCharts.Proofs.Time.Backward
import SolarCharts.Proofs.Time.Extremes

/-!
# A curve does not depend on how its samples are arranged

The store is free to answer with voltages and currents mixed in any way, and with rows that no curve
shows. What a curve is made of are the rows of its sweep alone: the voltages in their order, and for
each time the currents of that time in theirs.

* `latestWindow_eq_filter` — the window keeps the samples that are recent seen from the newest one.
* `SameRows.pairs_eq` — samples with the same rows give the same points.
* `Interspersed.newest?_eq`, `Interspersed.sameRows` — samples that are idle change neither the newest
  instant nor the rows of the sweep, wherever they are put in.
* `curve_of_arrangement` — so the curve stays, and reordering all samples only reorders its points.
-/

namespace SolarCharts.Sweep

/-! ## The samples of the latest sweep -/

/-- The time of the newest of some samples. -/
def newest? (samples : List Sample) : Option Instant := Instant.latest (samples.map (·.time))

/-- Whether a sample is newer than an instant less a window. All are, where that is no instant. -/
def isRecent (newest : Instant) (window : Span) (sample : Sample) : Bool :=
  match newest.shift? (-window) with
  | some start => start < sample.time
  | none => true

/-- The window keeps the samples that are recent seen from the newest one. -/
theorem latestWindow_eq_filter {samples : List Sample} {newest : Instant}
    (h : newest? samples = some newest) (window : Span) :
    latestWindow samples window = samples.filter (isRecent newest window) := by
  rw [newest?] at h
  simp only [latestWindow, h]
  cases hStart : newest.shift? (-window) with
  | none =>
    have hAll : ∀ sample ∈ samples, isRecent newest window sample = true := fun sample _ => by
      simp [isRecent, hStart]
    exact (List.filter_eq_self.mpr hAll).symm
  | some start => exact List.filter_congr fun sample _ => by simp [isRecent, hStart]

theorem latestWindow_of_none {samples : List Sample} (h : newest? samples = none) (window : Span) :
    latestWindow samples window = [] := by
  rw [newest?] at h
  simp only [latestWindow, h]

/-- The newest time is that of a sample, and no other sample is newer. -/
theorem newest?_eq_some_iff {samples : List Sample} {newest : Instant} :
    newest? samples = some newest ↔
      (∃ sample ∈ samples, sample.time = newest) ∧ ∀ sample ∈ samples, ¬ newest < sample.time := by
  rw [newest?, Instant.latest_eq_some_iff]
  rw [List.mem_map, List.forall_mem_map]

theorem newest?_of_perm {a b : List Sample} (h : a.Perm b) : newest? a = newest? b :=
  Instant.latest_of_perm (h.map _)

/-! ## Rows -/

/-- The points of some samples, voltage by voltage. -/
theorem pairs_eq (samples : List Sample) :
    pairs samples =
      (voltagesOf samples).flatMap fun (time, voltage) =>
        (currentsAt time samples).map (CurvePoint.ofPair voltage) :=
  (Gathered.holds_ofList samples).points_eq

/-- Two lists of samples have the same voltages, and for each time the same currents, in the same
order. -/
structure SameRows (a b : List Sample) : Prop where
  voltages : voltagesOf a = voltagesOf b
  currents : ∀ time, currentsAt time a = currentsAt time b

/-- Samples with the same rows give the same points. -/
theorem SameRows.pairs_eq {a b : List Sample} (h : SameRows a b) : pairs a = pairs b := by
  rw [Sweep.pairs_eq, Sweep.pairs_eq, h.voltages]
  simp only [h.currents]

/-- What the rows of a field are, its rows of a sweep are. -/
theorem sameRows_of_fields {a b : List Sample}
    (hVoltages : a.filter (·.field = .voltage) = b.filter (·.field = .voltage))
    (hCurrents : a.filter (·.field = .current) = b.filter (·.field = .current))
    (keep : Sample → Bool) : SameRows (a.filter keep) (b.filter keep) := by
  -- picking a field and picking what is kept may be done in either order
  have hCommute : ∀ (samples : List Sample) (field : Field),
      (samples.filter keep).filter (·.field = field) =
        (samples.filter (·.field = field)).filter keep := by
    intro samples field
    rw [List.filter_filter, List.filter_filter]
    simp only [Bool.and_comm]
  refine ⟨?_, fun time => ?_⟩
  · rw [voltagesOf, voltagesOf, hCommute, hCommute, hVoltages]
  · have hAt : ∀ samples : List Sample, currentsAt time samples =
        ((samples.filter (·.field = .current)).filter (·.time = time)).map (·.value) := by
      intro samples
      rw [currentsAt, List.filter_filter]
      simp only [Bool.decide_and, Bool.and_comm]
    rw [hAt, hAt, hCommute, hCommute, hCurrents]

/-! ## Idle samples -/

/-- A sample that has no part in the sweep that ends at an instant: an older one, or one of a field
that no curve shows which is not newer than the end of the sweep. -/
def Idle (newest : Instant) (window : Span) (sample : Sample) : Prop :=
  isRecent newest window sample = false ∨
    (sample.field ≠ .voltage ∧ sample.field ≠ .current ∧ ¬ newest < sample.time)

/-- Some samples, and the same ones with further samples put in anywhere. -/
inductive Interspersed (Further : Sample → Prop) : List Sample → List Sample → Prop
  | nil : Interspersed Further [] []
  | keep (sample : Sample) {a b : List Sample} (h : Interspersed Further a b) :
    Interspersed Further (sample :: a) (sample :: b)
  | insert {sample : Sample} {a b : List Sample} (hFurther : Further sample)
    (h : Interspersed Further a b) : Interspersed Further a (sample :: b)

/-- An idle sample is not newer than the newest one. -/
theorem Idle.not_newer {newest : Instant} {window : Span} {sample : Sample}
    (h : Idle newest window sample) (hProper : newest.Proper) (hWindow : 0 ≤ window.nanos) :
    ¬ newest < sample.time := by
  rcases h with hOld | ⟨-, -, hTime⟩
  · rw [isRecent] at hOld
    split at hOld
    · next start hStart =>
      rw [decide_eq_false_iff_not, ← (Instant.shift?_eq_some_iff.mp hStart).1] at hOld
      exact Instant.not_lt_trans (Instant.not_lt_shift_back hProper hWindow) hOld
    · cases hOld
  · exact hTime

namespace Interspersed

variable {Further : Sample → Prop} {a b : List Sample}

theorem mem_of_mem (h : Interspersed Further a b) {sample : Sample} (hMem : sample ∈ a) :
    sample ∈ b := by
  induction h with
  | nil => exact hMem
  | keep first _ ih =>
    rcases List.mem_cons.mp hMem with rfl | hRest
    · exact List.mem_cons_self
    · exact List.mem_cons_of_mem _ (ih hRest)
  | insert _ _ ih => exact List.mem_cons_of_mem _ (ih hMem)

/-- What came in is one of the further samples. -/
theorem mem_or_further (h : Interspersed Further a b) {sample : Sample} (hMem : sample ∈ b) :
    sample ∈ a ∨ Further sample := by
  induction h with
  | nil => exact Or.inl hMem
  | keep first _ ih =>
    rcases List.mem_cons.mp hMem with rfl | hRest
    · exact Or.inl List.mem_cons_self
    · exact (ih hRest).imp_left (List.mem_cons_of_mem _)
  | insert hFurther _ ih =>
    rcases List.mem_cons.mp hMem with rfl | hRest
    · exact Or.inr hFurther
    · exact ih hRest

/-- Further samples that are not newer leave the newest time as it is. -/
theorem newest?_eq {newest : Instant} (h : Interspersed Further a b)
    (hNewest : newest? a = some newest)
    (hFurther : ∀ sample, Further sample → ¬ newest < sample.time) : newest? b = some newest := by
  rw [newest?_eq_some_iff] at hNewest ⊢
  obtain ⟨⟨sample, hMem, hTime⟩, hLast⟩ := hNewest
  refine ⟨⟨sample, h.mem_of_mem hMem, hTime⟩, fun other hOther => ?_⟩
  rcases h.mem_or_further hOther with hOld | hNew
  · exact hLast other hOld
  · exact hFurther other hNew

/-- Further samples that are idle leave the rows of the sweep as they are. -/
theorem sameRows {newest : Instant} {window : Span}
    (h : Interspersed (Idle newest window) a b) :
    SameRows (a.filter (isRecent newest window)) (b.filter (isRecent newest window)) := by
  induction h with
  | nil => exact ⟨rfl, fun _ => rfl⟩
  | keep sample _ ih =>
    cases hRecent : isRecent newest window sample with
    | false => simpa [hRecent] using ih
    | true =>
      -- it comes first in the rows of both
      rw [List.filter_cons_of_pos hRecent, List.filter_cons_of_pos hRecent]
      refine ⟨?_, fun time => ?_⟩
      · rw [← List.singleton_append, voltagesOf_append, ih.voltages, ← voltagesOf_append]
        rfl
      · rw [← List.singleton_append, currentsAt_append, ih.currents, ← currentsAt_append]
        rfl
  | @insert sample a b hIdle _ ih =>
    rcases hIdle with hOld | ⟨hVoltage, hCurrent, -⟩
    · rwa [List.filter_cons_of_neg (by simp [hOld])]
    · -- neither a voltage nor a current, it is in no row
      cases hRecent : isRecent newest window sample with
      | false => simpa [hRecent] using ih
      | true =>
        rw [List.filter_cons_of_pos hRecent]
        refine ⟨?_, fun time => ?_⟩
        · rw [ih.voltages]
          simp [voltagesOf, hVoltage]
        · rw [ih.currents]
          simp [currentsAt, hCurrent]

end Interspersed

/-! ## The curve -/

/-- Two sweeps that end at one instant and have the same rows give the same curve. -/
theorem curve_of_sameRows {a b : List Sample} {newest : Instant} {window : Span}
    (hA : newest? a = some newest) (hB : newest? b = some newest)
    (hRows : SameRows (a.filter (isRecent newest window)) (b.filter (isRecent newest window))) :
    curve b window = curve a window := by
  rw [curve, curve, latestWindow_eq_filter hA, latestWindow_eq_filter hB, hRows.pairs_eq]

theorem pairs_perm {a b : List Sample} (h : a.Perm b) : (pairs a).Perm (pairs b) := by
  rw [pairs_eq, pairs_eq]
  refine List.Perm.flatMap ((h.filter _).map _) fun row _ => ?_
  exact ((h.filter _).map _).map _

theorem latestWindow_perm {a b : List Sample} (h : a.Perm b) (window : Span) :
    (latestWindow a window).Perm (latestWindow b window) := by
  have hSame := newest?_of_perm h
  cases hNewest : newest? a with
  | none =>
    rw [latestWindow_of_none hNewest, latestWindow_of_none (hSame ▸ hNewest)]
  | some newest =>
    rw [latestWindow_eq_filter hNewest, latestWindow_eq_filter (hSame ▸ hNewest)]
    exact h.filter _

/-- **The curve does not depend on the arrangement.** For a window that is not negative: samples that
end at the same instant and have the same rows in the sweep that ends there give the same curve. So do
samples among which idle ones are put in, and samples whose voltages and whose currents are merged in
another way. And samples in another order give the same points in another order. -/
theorem curve_of_arrangement {window : Span} (hWindow : 0 ≤ window.nanos) (a b : List Sample) :
    (∀ newest, newest? a = some newest → newest? b = some newest →
        SameRows (a.filter (isRecent newest window)) (b.filter (isRecent newest window)) →
          curve b window = curve a window) ∧
      (∀ newest, newest? a = some newest → newest.Proper →
        Interspersed (Idle newest window) a b → curve b window = curve a window) ∧
      (newest? a = newest? b →
        a.filter (·.field = .voltage) = b.filter (·.field = .voltage) →
        a.filter (·.field = .current) = b.filter (·.field = .current) →
          curve b window = curve a window) ∧
      (a.Perm b → (curve b window).Perm (curve a window)) := by
  refine ⟨fun newest => curve_of_sameRows, fun newest hNewest hProper h => ?_,
    fun hSame hVoltages hCurrents => ?_, fun h => ?_⟩
  · -- idle samples are not newer, so the sweep ends where it did
    have hLast : newest? b = some newest :=
      h.newest?_eq hNewest fun sample hIdle => hIdle.not_newer hProper hWindow
    exact curve_of_sameRows hNewest hLast h.sameRows
  · cases hNewest : newest? a with
    | none =>
      rw [curve, curve, latestWindow_of_none hNewest, latestWindow_of_none (hSame ▸ hNewest)]
    | some newest =>
      exact curve_of_sameRows hNewest (hSame ▸ hNewest) (sameRows_of_fields hVoltages hCurrents _)
  · exact pairs_perm (latestWindow_perm h.symm window)

/-- Two voltages and the current of their time. -/
def burst : List Sample :=
  [⟨⟨10, 0⟩, "a", .voltage, 17⟩, ⟨⟨10, 0⟩, "a", .current, 0.5⟩, ⟨⟨10, 0⟩, "a", .voltage, 18⟩]

/-- The burst with a current one second before it and a temperature among its samples. -/
def mixedBurst : List Sample :=
  [⟨⟨9, 0⟩, "a", .current, 0.4⟩, ⟨⟨10, 0⟩, "a", .voltage, 17⟩,
    ⟨⟨10, 0⟩, "a", .other "temperature", 30⟩, ⟨⟨10, 0⟩, "a", .current, 0.5⟩,
    ⟨⟨10, 0⟩, "a", .voltage, 18⟩]

/-- The burst with its current in front of its voltages. -/
def currentFirst : List Sample :=
  [⟨⟨10, 0⟩, "a", .current, 0.5⟩, ⟨⟨10, 0⟩, "a", .voltage, 17⟩, ⟨⟨10, 0⟩, "a", .voltage, 18⟩]

/-- In a window of one second the burst has two points, also with idle samples in it, with its current
in front, and backward. -/
theorem curve_of_burst :
    0 ≤ (Span.ofParts 1 0).nanos ∧
      newest? burst = some ⟨10, 0⟩ ∧ Instant.Proper ⟨10, 0⟩ ∧
      Interspersed (Idle ⟨10, 0⟩ (.ofParts 1 0)) burst mixedBurst ∧
      curve burst (.ofParts 1 0) = [⟨17, 0.5, 8.5⟩, ⟨18, 0.5, 9⟩] ∧
      curve mixedBurst (.ofParts 1 0) = curve burst (.ofParts 1 0) ∧
      curve currentFirst (.ofParts 1 0) = curve burst (.ofParts 1 0) ∧
      (curve burst.reverse (.ofParts 1 0)).Perm (curve burst (.ofParts 1 0)) := by
  have hWindow : 0 ≤ (Span.ofParts 1 0).nanos := by decide
  have hNewest : newest? burst = some ⟨10, 0⟩ := by decide
  have hProper : Instant.Proper ⟨10, 0⟩ := by decide
  have hMixed : Interspersed (Idle ⟨10, 0⟩ (.ofParts 1 0)) burst mixedBurst :=
    .insert (Or.inl (by decide))
      (.keep _ (.insert (Or.inr ⟨by decide, by decide, by decide⟩) (.keep _ (.keep _ .nil))))
  have hPoints : curve burst (.ofParts 1 0) = [⟨17, 0.5, 8.5⟩, ⟨18, 0.5, 9⟩] := by
    rw [curve, pairs_eq]
    decide +kernel
  exact ⟨hWindow, hNewest, hProper, hMixed, hPoints,
    (curve_of_arrangement hWindow burst mixedBurst).2.1 _ hNewest hProper hMixed,
    (curve_of_arrangement hWindow burst currentFirst).2.2.1 (by decide) (by decide) (by decide),
    (curve_of_arrangement hWindow burst burst.reverse).2.2.2 (List.reverse_perm burst).symm⟩

end SolarCharts.Sweep
