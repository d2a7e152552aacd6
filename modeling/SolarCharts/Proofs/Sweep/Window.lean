import Mathlib.Data.List.Flatten
import SolarCharts.Proofs.Sweep.Arrangement

/-!
# What the window of a sweep keeps

A sample is kept by how far it is behind the newest one. Outside leap seconds that is a number of
nanoseconds, and the window is exact to one of them. A leap second is left backward in one of two ways,
and the range of instants may be left as well; still a sample that is kept keeps all later ones, and a
longer window keeps what a shorter one does.

* `within`, `latestWindow_exact` — the samples less than the window behind the newest, by nanoseconds.
* `isRecent_of_later`, `isRecent_of_longer` — what is recent stays so later, and in a longer window.
* `latestWindow_nested` — the window of a window is that window, windows and their curves are nested,
  and the newest samples are kept.
-/

namespace SolarCharts.Sweep

variable {samples : List Sample} {newest : Instant} {window shorter longer : Span}

/-! ## To the nanosecond -/

/-- The samples less than a number of nanoseconds behind the newest. -/
def within (samples : List Sample) (length : Int) : List Sample :=
  match (samples.map (·.time.total)).max? with
  | none => []
  | some last => samples.filter fun sample => last - sample.time.total < length

/-- Between ordinary instants, recent is less than the window behind in nanoseconds. -/
theorem isRecent_iff (hNewest : newest.Ordinary) {sample : Sample} (hSample : sample.time.Ordinary)
    (hWindow : 0 ≤ window.nanos) :
    isRecent newest window sample = true ↔ newest.total - sample.time.total < window.nanos := by
  unfold isRecent
  split
  · next start hStart =>
    rw [decide_eq_true_iff, ← (Instant.shift?_eq_some_iff.mp hStart).1]
    exact Instant.shift_back_lt_iff hNewest hSample hWindow
  · next hStart =>
    -- the window reaches past the first instant, and every sample is behind that
    have hOut := Instant.shift?_eq_none_iff.mp hStart
    exact iff_of_true rfl (Instant.lt_of_not_representable hNewest hSample hWindow hOut)

/-- There is a newest time unless there are no samples. -/
theorem newest?_eq_none_iff : newest? samples = none ↔ samples = [] := by
  rw [newest?, Instant.latest_eq_none_iff, List.map_eq_nil_iff]

/-- Outside leap seconds the newest sample is the one with the most nanoseconds. -/
theorem max?_total (hTimes : ∀ sample ∈ samples, sample.time.Ordinary) :
    (samples.map (·.time.total)).max? = (newest? samples).map Instant.total := by
  cases hNewest : newest? samples with
  | none =>
    rw [newest?_eq_none_iff] at hNewest
    rw [hNewest]
    rfl
  | some newest =>
    obtain ⟨⟨last, hMem, rfl⟩, hLast⟩ := newest?_eq_some_iff.mp hNewest
    rw [Option.map_some, List.max?_eq_some_iff, List.forall_mem_map]
    refine ⟨List.mem_map_of_mem hMem, ?_⟩
    intro sample hSample
    have hNotLater := hLast sample hSample
    exact (Instant.total_le_iff (hTimes sample hSample) (hTimes last hMem)).mpr hNotLater

/-- Outside leap seconds, what the window keeps is told by nanoseconds. -/
theorem latestWindow_eq_within (hTimes : ∀ sample ∈ samples, sample.time.Ordinary)
    (hWindow : 0 ≤ window.nanos) : latestWindow samples window = within samples window.nanos := by
  rw [within, max?_total hTimes]
  cases hNewest : newest? samples with
  | none => exact latestWindow_of_none hNewest window
  | some newest =>
    obtain ⟨last, hMem, rfl⟩ := (newest?_eq_some_iff.mp hNewest).1
    rw [latestWindow_eq_filter hNewest]
    -- both filters ask the same of every sample
    apply List.filter_congr
    intro sample hSample
    rw [Bool.eq_iff_iff, isRecent_iff (hTimes last hMem) (hTimes sample hSample) hWindow,
      decide_eq_true_iff]

/-- With the most nanoseconds known, what is within a length is a filter. -/
theorem within_of_max? {last : Int} (h : (samples.map (·.time.total)).max? = some last)
    (length : Int) :
    within samples length = samples.filter fun sample => last - sample.time.total < length := by
  rw [within, h]

/-- **The window is exact.** Outside leap seconds, a window that is not negative keeps the samples less
than its length behind the newest, in nanoseconds and in arrival order. So it drops a sample exactly its
length behind, keeps all where it reaches back past the first representable instant, keeps the newest
samples unless it is empty, and nothing when it is. -/
theorem latestWindow_exact (hTimes : ∀ sample ∈ samples, sample.time.Ordinary)
    (hWindow : 0 ≤ window.nanos) :
    latestWindow samples window = within samples window.nanos ∧
      (∀ last, (samples.map (·.time.total)).max? = some last →
        (∀ sample ∈ samples, last - sample.time.total = window.nanos →
            sample ∉ latestWindow samples window) ∧
          (last - window.nanos < Instant.minSeconds * nanosPerSecond →
            latestWindow samples window = samples) ∧
          (0 < window.nanos → ∀ sample ∈ samples, sample.time.total = last →
            sample ∈ latestWindow samples window)) ∧
      (window.nanos = 0 → latestWindow samples window = []) := by
  have hExact := latestWindow_eq_within hTimes hWindow
  refine ⟨hExact, ?_, ?_⟩
  · intro last hLast
    rw [hExact, within_of_max? hLast]
    refine ⟨?_, ?_, ?_⟩
    · intro sample hSample hBehind hKept
      have hCloser := (List.mem_filter.mp hKept).2
      rw [decide_eq_true_iff] at hCloser
      omega
    · -- no sample is before the first second, so none is the whole window behind
      intro hOut
      rw [List.filter_eq_self]
      intro sample hSample
      have hFirst := (hTimes sample hSample).representable.1
      rw [decide_eq_true_iff]
      simp only [Instant.total, Instant.minSeconds, nanosPerSecond] at *
      omega
    · intro hPos sample hSample hTime
      rw [List.mem_filter, hTime, decide_eq_true_iff]
      exact ⟨hSample, by omega⟩
  · intro hEmpty
    rw [hExact, hEmpty]
    cases hLast : (samples.map (·.time.total)).max? with
    | none => rw [within, hLast]
    | some last =>
      rw [within_of_max? hLast, List.filter_eq_nil_iff]
      intro sample hSample
      have hBehind := (List.max?_eq_some_iff.mp hLast).2 _ (List.mem_map_of_mem hSample)
      rw [decide_eq_true_iff]
      omega

/-- Two samples around the start of a window before 1970, out of order. -/
def aroundStart : List Sample :=
  [⟨⟨-2, 0⟩, "a", .current, 0.5⟩, ⟨⟨-1, 3⟩, "a", .voltage, 17⟩, ⟨⟨-3, 999999999⟩, "a", .voltage, 18⟩]

/-- The one exactly the window behind is out, and the one a nanosecond later is in. -/
theorem latestWindow_aroundStart :
    (∀ sample ∈ aroundStart, sample.time.Ordinary) ∧ 0 ≤ (Span.ofParts 1 4).nanos ∧
      latestWindow aroundStart (.ofParts 1 4) =
        [⟨⟨-2, 0⟩, "a", .current, 0.5⟩, ⟨⟨-1, 3⟩, "a", .voltage, 17⟩] ∧
      ⟨⟨-3, 999999999⟩, "a", .voltage, 18⟩ ∉ latestWindow aroundStart (.ofParts 1 4) := by
  have hTimes : ∀ sample ∈ aroundStart, sample.time.Ordinary := by
    simp only [aroundStart, List.forall_mem_cons]
    exact ⟨⟨by decide, by decide⟩, ⟨by decide, by decide⟩, ⟨by decide, by decide⟩, nofun⟩
  have hWindow : 0 ≤ (Span.ofParts 1 4).nanos := by decide
  have hExact := latestWindow_exact hTimes hWindow
  have hLast : (aroundStart.map (·.time.total)).max? = some (-999999997) := by decide
  exact ⟨hTimes, hWindow, hExact.1.trans (by decide),
    (hExact.2.1 _ hLast).1 _ (by simp [aroundStart]) (by decide)⟩

/-! ## Windows within windows -/

/-- A sample that is no earlier than a recent one is recent. -/
theorem isRecent_of_later {sample other : Sample} (h : isRecent newest window sample = true)
    (hLater : ¬ other.time < sample.time) : isRecent newest window other = true := by
  unfold isRecent at h ⊢
  split
  · next start hStart =>
    simp only [hStart, decide_eq_true_iff] at h ⊢
    exact Instant.lt_of_lt_of_not_lt h hLater
  · rfl

/-- A sample that is recent in a window is recent in a longer one. -/
theorem isRecent_of_longer (hNewest : newest.Valid) (hShorter : 0 ≤ shorter.nanos)
    (hLonger : shorter.nanos ≤ longer.nanos) {sample : Sample}
    (h : isRecent newest shorter sample = true) : isRecent newest longer sample = true := by
  unfold isRecent at h ⊢
  split
  · next start hStart =>
    obtain ⟨rfl, hIn⟩ := Instant.shift?_eq_some_iff.mp hStart
    -- the shorter window starts in the range as well, and not before the longer one
    have hInner := Instant.shift?_eq_some_iff.mpr
      ⟨rfl, Instant.representable_of_longer hNewest hShorter hLonger hIn⟩
    rw [hInner, decide_eq_true_iff] at h
    rw [decide_eq_true_iff]
    exact Instant.lt_of_not_lt_of_lt (Instant.not_shift_back_lt hNewest.proper hShorter hLonger) h
  · rfl

/-- The newest sample is recent unless the window is empty. -/
theorem isRecent_newest (hProper : newest.Proper) (hWindow : 0 < window.nanos) {sample : Sample}
    (hTime : sample.time = newest) : isRecent newest window sample = true := by
  unfold isRecent
  split
  · next start hStart =>
    rw [decide_eq_true_iff, hTime, ← (Instant.shift?_eq_some_iff.mp hStart).1]
    exact Instant.shift_back_lt hProper hWindow
  · rfl

/-- What the window keeps is its own window, whatever its length. -/
theorem latestWindow_latestWindow (samples : List Sample) (window : Span) :
    latestWindow (latestWindow samples window) window = latestWindow samples window := by
  cases hNewest : newest? samples with
  | none =>
    rw [latestWindow_of_none hNewest]
    rfl
  | some newest =>
    obtain ⟨⟨last, hMem, rfl⟩, hLast⟩ := newest?_eq_some_iff.mp hNewest
    rw [latestWindow_eq_filter hNewest]
    by_cases hKept : isRecent last.time window last = true
    · -- the newest sample is kept, so the same samples are recent again
      have hSame : newest? (samples.filter (isRecent last.time window)) = some last.time := by
        rw [newest?_eq_some_iff]
        refine ⟨⟨last, List.mem_filter.mpr ⟨hMem, hKept⟩, rfl⟩, ?_⟩
        intro sample hSample
        exact hLast sample (List.mem_filter.mp hSample).1
      rw [latestWindow_eq_filter hSame, List.filter_filter]
      simp only [Bool.and_self]
    · -- the newest sample is not recent, so none is
      have hNone : samples.filter (isRecent last.time window) = [] := by
        rw [List.filter_eq_nil_iff]
        intro sample hSample hRecent
        exact hKept (isRecent_of_later hRecent (hLast sample hSample))
      rw [hNone]
      rfl

/-- A longer window keeps all that a shorter one does. -/
theorem latestWindow_sublist (hTimes : ∀ sample ∈ samples, sample.time.Valid)
    (hShorter : 0 ≤ shorter.nanos) (hLonger : shorter.nanos ≤ longer.nanos) :
    (latestWindow samples shorter).Sublist (latestWindow samples longer) := by
  cases hNewest : newest? samples with
  | none =>
    rw [latestWindow_of_none hNewest, latestWindow_of_none hNewest]
  | some newest =>
    obtain ⟨last, hMem, rfl⟩ := (newest?_eq_some_iff.mp hNewest).1
    rw [latestWindow_eq_filter hNewest, latestWindow_eq_filter hNewest]
    apply List.monotone_filter_right
    intro sample hRecent
    exact isRecent_of_longer (hTimes last hMem) hShorter hLonger hRecent

/-- A part of some samples in their order has a part of their points in the order of those. -/
theorem pairs_sublist {a b : List Sample} (h : a.Sublist b) : (pairs a).Sublist (pairs b) := by
  rw [pairs_eq, pairs_eq]
  have hVoltages : (voltagesOf a).Sublist (voltagesOf b) := (h.filter _).map _
  have hCurrents : ∀ time, (currentsAt time a).Sublist (currentsAt time b) := by
    intro time
    exact (h.filter _).map _
  -- first the currents of each voltage, then the voltages
  refine List.Sublist.trans (List.Sublist.flatMap_right _ ?_) (hVoltages.flatMap _)
  intro row _
  exact (hCurrents row.1).map _

/-- **Windows are nested**, within leap seconds too. The window of what a window keeps is that again. Of
two windows that are not negative, the longer one keeps all that the shorter one does, in the same order,
and so does its curve. A window that is not empty keeps all samples of the newest time. -/
theorem latestWindow_nested (hTimes : ∀ sample ∈ samples, sample.time.Valid) :
    (∀ window : Span,
        latestWindow (latestWindow samples window) window = latestWindow samples window) ∧
      (∀ shorter longer : Span, 0 ≤ shorter.nanos → shorter.nanos ≤ longer.nanos →
        (latestWindow samples shorter).Sublist (latestWindow samples longer) ∧
          (curve samples shorter).Sublist (curve samples longer)) ∧
      ∀ window : Span, 0 < window.nanos → samples ≠ [] →
        ∃ newest, newest? samples = some newest ∧
          (latestWindow samples window).filter (·.time = newest) =
            samples.filter (·.time = newest) := by
  refine ⟨latestWindow_latestWindow samples, ?_, ?_⟩
  · intro shorter longer hShorter hLonger
    have hKept := latestWindow_sublist hTimes hShorter hLonger
    exact ⟨hKept, pairs_sublist hKept⟩
  · intro window hWindow hSome
    cases hNewest : newest? samples with
    | none => exact absurd (newest?_eq_none_iff.mp hNewest) hSome
    | some newest =>
      obtain ⟨last, hMem, rfl⟩ := (newest?_eq_some_iff.mp hNewest).1
      refine ⟨last.time, rfl, ?_⟩
      rw [latestWindow_eq_filter hNewest, List.filter_filter]
      -- a sample of the newest time is kept, and one of another time is left out on both sides
      apply List.filter_congr
      intro sample _
      by_cases hTime : sample.time = last.time
      · simp [hTime, isRecent_newest (hTimes last hMem).proper hWindow hTime]
      · simp [hTime]

/-- A voltage and a current at each of three times, the last of them in a leap second. -/
def leapBurst : List Sample :=
  [⟨⟨59, 500000000⟩, "a", .voltage, 18⟩, ⟨⟨59, 500000000⟩, "a", .current, 0.5⟩,
    ⟨⟨59, 1500000000⟩, "a", .voltage, 17⟩, ⟨⟨59, 600000001⟩, "a", .current, 0.25⟩,
    ⟨⟨59, 1500000000⟩, "a", .current, 1⟩, ⟨⟨59, 600000001⟩, "a", .voltage, 16⟩]

/-- A window of 0.9 s does not lead out of the leap second, and one of more than a second does: it keeps
what the other keeps, and the samples of a tenth of a second before as well. -/
theorem leapBurst_nested :
    (∀ sample ∈ leapBurst, sample.time.Valid) ∧
      (latestWindow leapBurst (.ofParts 0 900000000)).length = 4 ∧
      (latestWindow leapBurst (.ofParts 1 1)).length = 6 ∧
      (latestWindow leapBurst (.ofParts 0 900000000)).Sublist
        (latestWindow leapBurst (.ofParts 1 1)) ∧
      (curve leapBurst (.ofParts 0 900000000)).Sublist (curve leapBurst (.ofParts 1 1)) ∧
      ∃ newest, newest? leapBurst = some newest ∧
        (latestWindow leapBurst (.ofParts 0 900000000)).filter (·.time = newest) =
          leapBurst.filter (·.time = newest) := by
  have hTimes : ∀ sample ∈ leapBurst, sample.time.Valid := by
    simp only [leapBurst, List.forall_mem_cons]
    exact ⟨⟨by decide, by decide⟩, ⟨by decide, by decide⟩, ⟨by decide, by decide⟩,
      ⟨by decide, by decide⟩, ⟨by decide, by decide⟩, ⟨by decide, by decide⟩, nofun⟩
  obtain ⟨-, hLonger, hNewest⟩ := latestWindow_nested hTimes
  obtain ⟨hKept, hCurve⟩ :=
    hLonger (.ofParts 0 900000000) (.ofParts 1 1) (by decide) (by decide)
  exact ⟨hTimes, by decide, by decide, hKept, hCurve,
    hNewest (.ofParts 0 900000000) (by decide) (List.cons_ne_nil _ _)⟩

end SolarCharts.Sweep
