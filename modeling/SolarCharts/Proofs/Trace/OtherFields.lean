import SolarCharts.Proofs.Chart.Preflight
import SolarCharts.Proofs.HostSeries.Grouping
import SolarCharts.Proofs.Trace.Splitting
import SolarCharts.Chart.Run

/-!
# Samples of other fields

No chart over time shows a sample of another field, but the offset has to move it still. So such samples
make no difference as long as they can be moved, and one that cannot stops the charts of all hosts.

* `stuckTime?`, `stuckHost?` — the time that ends a trace, and the host of that time in a run.
* `ofSamples_eq_iff`, `drawTraces_eq_iff` — among samples that show the same, this alone tells traces
  apart, and runs.
* `otherFields_matter_iff` — both, and when a trace differs from that of the shown samples.
-/

namespace SolarCharts

/-- Whether charts over time show a field. -/
def Field.isShown : Field → Bool
  | .voltage | .current => true
  | .other _ => false

namespace Trace

variable {offset : Span} {samples samples' before after : List Sample} {trace : Trace}

/-- The samples that charts over time show. -/
def shown (samples : List Sample) : List Sample := samples.filter (·.field.isShown)

theorem shown_shown (samples : List Sample) : shown (shown samples) = shown samples := by
  simp [shown]

theorem shown_append (before after : List Sample) :
    shown (before ++ after) = shown before ++ shown after := List.filter_append ..

theorem shown_cons_of_shown {sample : Sample} (h : sample.field.isShown = true) (rest : List Sample) :
    shown (sample :: rest) = sample :: shown rest := List.filter_cons_of_pos h

theorem shown_cons_of_other {sample : Sample} (h : sample.field.isShown = false)
    (rest : List Sample) : shown (sample :: rest) = shown rest :=
  List.filter_cons_of_neg (by simp [h])

/-! ## The time that ends a trace -/

/-- The time of the first sample that cannot be moved. -/
def stuckTime? (offset : Span) (samples : List Sample) : Option Instant :=
  (firstStuck? offset samples).map (·.time)

/-- There is none where all samples can be moved. -/
theorem stuckTime?_eq_none_iff :
    stuckTime? offset samples = none ↔ ∀ sample ∈ samples, sample.time.CanMove offset := by
  rw [stuckTime?, Option.map_eq_none_iff, firstStuck?_eq_none_iff]

theorem stuckTime?_append (h : ∀ sample ∈ before, sample.time.CanMove offset) (after : List Sample) :
    stuckTime? offset (before ++ after) = stuckTime? offset after := by
  have hBefore : firstStuck? offset before = none := firstStuck?_eq_none_iff.mpr h
  rw [stuckTime?, firstStuck?, List.find?_append, ← firstStuck?, hBefore]
  rfl

theorem stuckTime?_cons_of_stuck {sample : Sample} (h : ¬ sample.time.CanMove offset)
    (rest : List Sample) : stuckTime? offset (sample :: rest) = some sample.time := by
  simp [stuckTime?, firstStuck?, h]

/-- There the trace ends with an error that names the time. -/
theorem ofSamples_of_stuckTime {time : Instant} (h : stuckTime? offset samples = some time) :
    ofSamples offset samples = .error ⟨time, offset⟩ := by
  obtain ⟨sample, hSample, rfl⟩ := Option.map_eq_some_iff.mp h
  exact ofSamples_of_stuck hSample

/-- What is shown of samples that can be moved is passed over, too. -/
theorem stuckTime?_shown_append (h : ∀ sample ∈ before, sample.time.CanMove offset)
    (after : List Sample) :
    stuckTime? offset (shown (before ++ after)) = stuckTime? offset (shown after) := by
  rw [shown_append]
  refine stuckTime?_append (fun sample hSample => ?_) _
  exact h sample (List.mem_filter.mp hSample).1

/-- The shown samples end at the same time, unless the time that ends all of them is one of another
field, and the shown samples behind it do not end at that time too. -/
theorem stuckTime?_shown_iff :
    stuckTime? offset samples = stuckTime? offset (shown samples) ↔
      ∀ before sample after, samples = before ++ sample :: after →
        (∀ other ∈ before, other.time.CanMove offset) → ¬ sample.time.CanMove offset →
        sample.field.isShown = false → stuckTime? offset (shown after) = some sample.time := by
  constructor
  · rintro h before sample after rfl hBefore hStuck hField
    rw [stuckTime?_append hBefore, stuckTime?_cons_of_stuck hStuck, stuckTime?_shown_append hBefore,
      shown_cons_of_other hField] at h
    exact h.symm
  · intro h
    cases hFirst : firstStuck? offset samples with
    -- where all can be moved, neither ends
    | none =>
      have hAll := firstStuck?_eq_none_iff.mp hFirst
      have hShown := stuckTime?_shown_append hAll []
      rw [List.append_nil] at hShown
      rw [stuckTime?_eq_none_iff.mpr hAll, hShown]
      rfl
    | some sample =>
      obtain ⟨before, after, rfl, hBefore, hStuck⟩ := firstStuck?_eq_some_iff.mp hFirst
      rw [stuckTime?_append hBefore, stuckTime?_cons_of_stuck hStuck, stuckTime?_shown_append hBefore]
      cases hField : sample.field.isShown with
      | true =>
        -- then it is the first shown one that cannot be moved, too
        rw [shown_cons_of_shown hField, stuckTime?_cons_of_stuck hStuck]
      | false =>
        rw [shown_cons_of_other hField]
        exact (h before sample after rfl hBefore hStuck hField).symm

/-! ## Traces -/

/-- A shown field has the same points among the shown samples. -/
theorem shows_shown_iff {field : Field} (hField : field.isShown = true)
    {points : List (Instant × Float)} :
    Shows offset field (shown samples) points ↔ Shows offset field samples points := by
  have hSame : (shown samples).filter (·.field = field) = samples.filter (·.field = field) := by
    rw [shown, List.filter_filter]
    refine List.filter_congr fun sample _ => ?_
    by_cases hEq : sample.field = field
    · simp [hEq, hField]
    · simp [hEq]
  rw [Shows, hSame]
  rfl

/-- So the trace of the shown samples is that of all. -/
theorem isOf_shown_iff : IsOf offset (shown samples) trace ↔ IsOf offset samples trace :=
  and_congr (shows_shown_iff rfl) (shows_shown_iff rfl)

/-- Samples that show the same have one trace exactly if that ends at one time, or not at all. -/
theorem ofSamples_eq_iff (hShown : shown samples = shown samples') :
    ofSamples offset samples = ofSamples offset samples' ↔
      stuckTime? offset samples = stuckTime? offset samples' := by
  -- where none is stuck the shown samples make up the trace, and else the time makes up the error
  cases hTime : stuckTime? offset samples with
  | none =>
    obtain ⟨trace, hTrace, hIsOf⟩ := ofSamples_of_none_stuck (stuckTime?_eq_none_iff.mp hTime)
    rw [hTrace]
    constructor
    · intro h
      exact (stuckTime?_eq_none_iff.mpr (ofSamples_eq_ok_iff.mp h.symm).1).symm
    · intro h
      have hIsOf' : IsOf offset samples' trace := by
        rw [← isOf_shown_iff, ← hShown, isOf_shown_iff]
        exact hIsOf
      exact (ofSamples_eq_ok_iff.mpr ⟨stuckTime?_eq_none_iff.mp h.symm, hIsOf'⟩).symm
  | some time =>
    rw [ofSamples_of_stuckTime hTime]
    constructor
    · intro h
      obtain ⟨sample, hSample, hError⟩ := ofSamples_eq_error_iff.mp h.symm
      rw [stuckTime?, hSample, (ShiftError.mk.inj hError).1]
      rfl
    · intro h
      exact (ofSamples_of_stuckTime h.symm).symm

end Trace

/-! ## Charts without points -/

namespace Gallery

variable {gallery : Gallery} {charts charts' : List Chart}

/-- The charts that have points. -/
def pointed (charts : List Chart) : List Chart := charts.filter fun chart => !chart.points.isEmpty

/-- Only those are drawn. -/
theorem drawAll_pointed (gallery : Gallery) (charts : List Chart) :
    gallery.drawAll (pointed charts) = gallery.drawAll charts := by
  induction charts generalizing gallery with
  | nil => rfl
  | cons chart rest ih =>
    by_cases hEmpty : chart.points.isEmpty = true
    · rw [drawAll_cons_of_isEmpty hEmpty, ← ih, pointed, List.filter_cons_of_neg (by simp [hEmpty])]
      rfl
    · rw [pointed, List.filter_cons_of_pos (by simp [hEmpty]), ← pointed, drawAll, drawAll]
      simp only [ih]

/-- A run is the same with the charts without points and without them. -/
theorem drawCharts_congr (h : pointed charts = pointed charts') (gallery : Gallery) :
    gallery.drawCharts charts = gallery.drawCharts charts' := by
  have hTargets : targetsOf charts = targetsOf charts' := congrArg (List.map Chart.target) h
  rw [drawCharts, drawCharts, drawRun, drawRun, hTargets, ← drawAll_pointed gallery charts, h,
    drawAll_pointed]

/-- Drawing never fails for a time. -/
theorem drawCharts_ne_shift (gallery : Gallery) (charts : List Chart) (host : String)
    (e : ShiftError) : (gallery.drawCharts charts).2 ≠ .error (.shift host e) := by
  intro h
  unfold drawCharts at h
  cases hDrawn : (gallery.drawRun charts).2 with
  | ok _ => simp [hDrawn, Except.mapError] at h
  | error e' => simp [hDrawn, Except.mapError] at h

end Gallery

/-! ## Runs -/

namespace Trace

/-- The hosts that have shown samples, with these. -/
def shownGroups : List (String × List Sample) → List (String × List Sample)
  | [] => []
  | (host, samples) :: rest =>
    if (shown samples).isEmpty then shownGroups rest else (host, shown samples) :: shownGroups rest

/-- The first host with a sample that cannot be moved, and the time of its first such sample. -/
def stuckHost? (offset : Span) (groups : List (String × List Sample)) : Option (String × Instant) :=
  groups.findSome? fun (host, samples) => (stuckTime? offset samples).map (host, ·)

theorem stuckHost?_cons (offset : Span) (host : String) (samples : List Sample)
    (rest : List (String × List Sample)) :
    stuckHost? offset ((host, samples) :: rest) =
      ((stuckTime? offset samples).map (host, ·)).or (stuckHost? offset rest) := by
  cases hTime : stuckTime? offset samples with
  | none => simp [stuckHost?, hTime]
  | some time => simp [stuckHost?, hTime]

/-- Where a host is stuck there are no charts, but an error that names it. -/
theorem traceCharts_of_stuckHost {groups : List (String × List Sample)} {host : String}
    {time : Instant} (h : stuckHost? offset groups = some (host, time)) :
    traceCharts offset groups = .error (.shift host ⟨time, offset⟩) := by
  induction groups with
  | nil => cases h
  | cons group rest ih =>
    obtain ⟨first, samples⟩ := group
    rw [stuckHost?_cons] at h
    cases hTime : stuckTime? offset samples with
    | some first =>
      rw [hTime] at h
      obtain ⟨rfl, rfl⟩ := Prod.mk.inj (Option.some.inj h)
      simp only [traceCharts, ofSamples_of_stuckTime hTime]
    | none =>
      -- no sample of this host is stuck, so the host is further on
      rw [hTime] at h
      change stuckHost? offset rest = some (host, time) at h
      obtain ⟨trace, hTrace, -⟩ := ofSamples_of_none_stuck (stuckTime?_eq_none_iff.mp hTime)
      simp only [traceCharts, hTrace, ih h]
      rfl

/-- Where every sample can be moved, the shown ones give the same charts but for charts without
points. -/
theorem traceCharts_of_none_stuck {groups : List (String × List Sample)}
    (h : stuckHost? offset groups = none) :
    ∃ charts fewer, traceCharts offset groups = .ok charts ∧
      traceCharts offset (shownGroups groups) = .ok fewer ∧
      Gallery.pointed charts = Gallery.pointed fewer := by
  induction groups with
  | nil => exact ⟨[], [], rfl, rfl, rfl⟩
  | cons group rest ih =>
    obtain ⟨host, samples⟩ := group
    rw [stuckHost?_cons, Option.or_eq_none_iff, Option.map_eq_none_iff] at h
    obtain ⟨hTime, hRest⟩ := h
    obtain ⟨charts, fewer, hCharts, hFewer, hPointed⟩ := ih hRest
    obtain ⟨trace, hTrace, hIsOf⟩ := ofSamples_of_none_stuck (stuckTime?_eq_none_iff.mp hTime)
    have hShown : ofSamples offset (shown samples) = .ok trace := by
      have hMove := stuckTime?_eq_none_iff.mp hTime
      refine ofSamples_eq_ok_iff.mpr ⟨fun sample hSample => ?_, isOf_shown_iff.mpr hIsOf⟩
      exact hMove sample (List.mem_filter.mp hSample).1
    refine ⟨trace.charts host ++ charts, ?_⟩
    by_cases hNone : (shown samples).isEmpty = true
    · -- neither chart of this host has points
      rw [List.isEmpty_iff.mp hNone] at hShown
      obtain rfl := Except.ok.inj hShown
      refine ⟨fewer, ?_, ?_, hPointed⟩
      · simp only [traceCharts, hTrace, hCharts]
        rfl
      · rw [shownGroups, if_pos hNone, hFewer]
    · refine ⟨trace.charts host ++ fewer, ?_, ?_, ?_⟩
      · simp only [traceCharts, hTrace, hCharts]
        rfl
      · rw [shownGroups, if_neg hNone]
        simp only [traceCharts, hShown, hFewer]
        rfl
      · rw [Gallery.pointed, List.filter_append, ← Gallery.pointed, ← Gallery.pointed, hPointed]
        exact (List.filter_append _ _).symm

/-- A run that is stuck draws nothing. -/
theorem drawTraces_of_stuckHost {gallery : Gallery} {hosts : HostSeries} {host : String}
    {time : Instant} (h : stuckHost? offset hosts.toList = some (host, time)) :
    gallery.drawTraces hosts offset = (gallery, .error (.shift host ⟨time, offset⟩)) := by
  rw [Gallery.drawTraces, traceCharts_of_stuckHost h]

/-- A run that ends with a time out of range is stuck there. -/
theorem stuckHost?_of_drawTraces {gallery : Gallery} {hosts : HostSeries} {host : String}
    {e : ShiftError} (h : (gallery.drawTraces hosts offset).2 = .error (.shift host e)) :
    stuckHost? offset hosts.toList = some (host, e.time) := by
  cases hStuck : stuckHost? offset hosts.toList with
  | none =>
    obtain ⟨charts, -, hCharts, -⟩ := traceCharts_of_none_stuck hStuck
    rw [Gallery.drawTraces, hCharts] at h
    exact absurd h (gallery.drawCharts_ne_shift charts host e)
  | some stuck =>
    obtain ⟨first, time⟩ := stuck
    rw [drawTraces_of_stuckHost hStuck] at h
    obtain ⟨rfl, rfl⟩ := DrawError.shift.inj (Except.error.inj h)
    rfl

/-- Runs that show the same end the same exactly if they are stuck at the same host and time, or at
none. -/
theorem drawTraces_eq_iff {gallery : Gallery} {hosts hosts' : HostSeries}
    (hShown : shownGroups hosts.toList = shownGroups hosts'.toList) :
    gallery.drawTraces hosts offset = gallery.drawTraces hosts' offset ↔
      stuckHost? offset hosts.toList = stuckHost? offset hosts'.toList := by
  constructor
  · intro h
    cases hStuck : stuckHost? offset hosts.toList with
    | none =>
      cases hStuck' : stuckHost? offset hosts'.toList with
      | none => rfl
      | some stuck =>
        -- a run that ends with a time out of range is stuck there
        rw [drawTraces_of_stuckHost hStuck'] at h
        rw [stuckHost?_of_drawTraces (congrArg Prod.snd h)] at hStuck
        cases hStuck
    | some stuck =>
      rw [drawTraces_of_stuckHost hStuck] at h
      exact (stuckHost?_of_drawTraces (congrArg Prod.snd h).symm).symm
  · intro h
    cases hStuck : stuckHost? offset hosts.toList with
    | none =>
      obtain ⟨charts, fewer, hCharts, hFewer, hPointed⟩ := traceCharts_of_none_stuck hStuck
      obtain ⟨charts', fewer', hCharts', hFewer', hPointed'⟩ :=
        traceCharts_of_none_stuck (h.symm.trans hStuck)
      -- both draw the charts of the shown samples, but for charts without points
      rw [hShown, hFewer'] at hFewer
      obtain rfl := Except.ok.inj hFewer
      simp only [Gallery.drawTraces, hCharts, hCharts']
      exact Gallery.drawCharts_congr (hPointed.trans hPointed'.symm) gallery
    | some stuck =>
      rw [drawTraces_of_stuckHost hStuck, drawTraces_of_stuckHost (h.symm.trans hStuck)]

/-- Where all samples of other fields can be moved, the shown ones tell which host is stuck. -/
theorem stuckHost?_shownGroups {groups : List (String × List Sample)}
    (h : ∀ group ∈ groups, ∀ sample ∈ group.2, sample.field.isShown = false →
      sample.time.CanMove offset) :
    stuckHost? offset (shownGroups groups) = stuckHost? offset groups := by
  induction groups with
  | nil => rfl
  | cons group rest ih =>
    obtain ⟨host, samples⟩ := group
    obtain ⟨hFirst, hRest⟩ := List.forall_mem_cons.mp h
    have hSame : stuckTime? offset samples = stuckTime? offset (shown samples) := by
      refine stuckTime?_shown_iff.mpr fun before sample after hSplit _ hStuck hField => ?_
      exact absurd (hFirst sample (by simp [hSplit]) hField) hStuck
    by_cases hNone : (shown samples).isEmpty = true
    · rw [List.isEmpty_iff.mp hNone] at hSame
      rw [shownGroups, if_pos hNone, ih hRest, stuckHost?_cons, hSame]
      rfl
    · rw [shownGroups, if_neg hNone, stuckHost?_cons, ← hSame, ih hRest, stuckHost?_cons]

/-- **What other fields change.** A trace differs from that of its shown samples exactly if a sample of
another field is the first that the offset takes out of the representable range, and the first shown one
behind it that is taken out, if there is any, has another time. Runs with the same shown samples end the
same exactly if they are stuck at the same host and time, or both at none, and this they are as long as
the offset moves every sample of another field. A run that is stuck draws nothing. -/
theorem otherFields_matter_iff (gallery : Gallery) (hosts : HostSeries) (offset : Span)
    (samples : List Sample) :
    (ofSamples offset samples = ofSamples offset (shown samples) ↔
      ∀ before sample after, samples = before ++ sample :: after →
        (∀ other ∈ before, other.time.CanMove offset) → ¬ sample.time.CanMove offset →
        sample.field.isShown = false → stuckTime? offset (shown after) = some sample.time) ∧
    (∀ hosts' : HostSeries, shownGroups hosts.toList = shownGroups hosts'.toList →
      (gallery.drawTraces hosts offset = gallery.drawTraces hosts' offset ↔
        stuckHost? offset hosts.toList = stuckHost? offset hosts'.toList) ∧
      ((∀ group ∈ hosts.toList ++ hosts'.toList, ∀ sample ∈ group.2,
          sample.field.isShown = false → sample.time.CanMove offset) →
        gallery.drawTraces hosts offset = gallery.drawTraces hosts' offset)) ∧
    ∀ host time, stuckHost? offset hosts.toList = some (host, time) →
      gallery.drawTraces hosts offset = (gallery, .error (.shift host ⟨time, offset⟩)) := by
  refine ⟨?_, fun hosts' hShown => ⟨drawTraces_eq_iff hShown, fun hMove => ?_⟩, ?_⟩
  · rw [ofSamples_eq_iff (shown_shown samples).symm, stuckTime?_shown_iff]
  · obtain ⟨hHosts, hHosts'⟩ := List.forall_mem_append.mp hMove
    rw [drawTraces_eq_iff hShown, ← stuckHost?_shownGroups hHosts, hShown,
      stuckHost?_shownGroups hHosts']
  · intro host time hStuck
    exact drawTraces_of_stuckHost hStuck

/-! ## A temperature beside a voltage -/

/-- A voltage and a temperature of one host. -/
def withTemperature (seconds : Int) : List Sample :=
  [⟨⟨0, 0⟩, "a", .voltage, 1⟩, ⟨⟨seconds, 0⟩, "a", .other "temperature", 1⟩]

/-- They are the one host, with both samples or the voltage alone. -/
theorem toList_withTemperature (seconds : Int) :
    (HostSeries.ofList (withTemperature seconds)).toList = [("a", withTemperature seconds)] ∧
      (HostSeries.ofList (shown (withTemperature seconds))).toList =
        [("a", shown (withTemperature seconds))] := by
  rw [(HostSeries.holds_ofList _).groups, (HostSeries.holds_ofList _).groups]
  simp [withTemperature, shown, Field.isShown, HostSeries.hostsOf, HostSeries.samplesFrom,
    List.eraseDups_cons]

/-- A temperature that can be moved changes nothing. -/
theorem temperature_ignored :
    (Gallery.besideFile "charts" "charts/b.png").drawTraces (.ofList (withTemperature 0))
        (.ofParts 1 0) =
      (Gallery.besideFile "charts" "charts/b.png").drawTraces
        (.ofList (shown (withTemperature 0))) (.ofParts 1 0) := by
  obtain ⟨hAll, hShown⟩ := toList_withTemperature 0
  have hSame : shownGroups (HostSeries.ofList (withTemperature 0)).toList =
      shownGroups (HostSeries.ofList (shown (withTemperature 0))).toList := by
    rw [hAll, hShown]
    decide +kernel
  obtain ⟨-, hRuns, -⟩ := otherFields_matter_iff (.besideFile "charts" "charts/b.png")
    (.ofList (withTemperature 0)) (.ofParts 1 0) (withTemperature 0)
  refine (hRuns _ hSame).2 ?_
  rw [hAll, hShown]
  decide +kernel

/-- **A field that no chart shows stops the charts.** A second later the temperature is out of range, and
neither the trace nor the chart of the voltage is made. -/
theorem temperature_stops_run :
    ofSamples (.ofParts 1 0) (withTemperature Instant.maxSeconds) =
        .error ⟨⟨Instant.maxSeconds, 0⟩, .ofParts 1 0⟩ ∧
      ofSamples (.ofParts 1 0) (shown (withTemperature Instant.maxSeconds)) =
        .ok ⟨[(⟨1, 0⟩, 1)], []⟩ ∧
      ((Gallery.besideFile "charts" "charts/b.png").drawTraces
          (.ofList (withTemperature Instant.maxSeconds)) (.ofParts 1 0)).2 =
        .error (.shift "a" ⟨⟨Instant.maxSeconds, 0⟩, .ofParts 1 0⟩) ∧
      ((Gallery.besideFile "charts" "charts/b.png").drawTraces
          (.ofList (withTemperature Instant.maxSeconds)) (.ofParts 1 0)).1.written = [] ∧
      ((Gallery.besideFile "charts" "charts/b.png").drawTraces
          (.ofList (shown (withTemperature Instant.maxSeconds))) (.ofParts 1 0)).2 = .ok () ∧
      ((Gallery.besideFile "charts" "charts/b.png").drawTraces
          (.ofList (shown (withTemperature Instant.maxSeconds))) (.ofParts 1 0)).1.written =
        [.ofText "charts/a_voltage.png"] := by
  obtain ⟨hAll, hShown⟩ := toList_withTemperature Instant.maxSeconds
  simp only [Gallery.drawTraces, hAll, hShown]
  decide +kernel

end Trace

end SolarCharts
