import SolarCharts.Proofs.Chart.Completion
import SolarCharts.Proofs.Sweep.Arrangement

/-!
# What a run leaves behind that comes to a chart without finite values

Points can be drawn when every axis has a finite value to show. Whether that holds of a chart is settled
when it is drawn, once the output directory is made and the charts before it are written. A run that
fails for it should write nothing; it does so only when no chart with points comes before.

* `Points.axes?_eq_none_iff` — the axes are missing exactly when no value of one of them is finite.
* `drawAll_eq_error` — a run that fails has drawn the charts before the one that it fails for.
* `Completes.leaves_opened` — making the output directory once more leaves those charts as they are.
* `Plan.draw_unshowable` — so what the run leaves are the charts before the first that has points and no
  axes, and it writes nothing exactly when there are none.
* `Plan.unshowable_run_writes` — runs that leave charts behind.
-/

namespace SolarCharts

/-! ## Axes with nothing to show -/

/-- An axis of numbers is missing exactly when no number is finite. -/
theorem numberRange_eq_none_iff (values : List Float) :
    numberRange values = none ↔ ∀ value ∈ values, value.isFinite = false := by
  unfold numberRange
  cases hFinite : values.filter Float.isFinite with
  | nil =>
    refine iff_of_true rfl fun value hValue => ?_
    simpa using List.filter_eq_nil_iff.mp hFinite value hValue
  | cons value rest =>
    have hMem : value ∈ values.filter Float.isFinite := by
      rw [hFinite]
      exact List.mem_cons_self
    -- the first of the finite values is one of the values
    obtain ⟨hIn, hValue⟩ := List.mem_filter.mp hMem
    refine iff_of_false (by simp) fun hAll => ?_
    rw [hAll value hIn] at hValue
    cases hValue

/-- Instants always have an axis, unless there are none. -/
theorem exists_timeRange {times : List Instant} (h : times ≠ []) :
    ∃ range, timeRange times = some range := by
  obtain ⟨time, rest, rfl⟩ := List.exists_cons_of_ne_nil h
  simp only [timeRange, Instant.earliest, Instant.latest]
  split
  · exact ⟨_, rfl⟩
  · exact ⟨_, rfl⟩

/-- Points of which none has a finite value on some axis of numbers. -/
def Points.Unshowable : Points → Prop
  | .overTime points => ∀ point ∈ points, point.2.isFinite = false
  | .overQuantity points =>
    (∀ point ∈ points, point.1.isFinite = false) ∨ ∀ point ∈ points, point.2.isFinite = false

/-- Points cannot be drawn exactly where they have no finite value on some axis of numbers. -/
theorem Points.axes?_eq_none_iff {points : Points} (h : points.isEmpty = false) :
    points.axes? = none ↔ points.Unshowable := by
  cases points with
  | overTime points =>
    have hTimes : points.map (·.1) ≠ [] := by simpa [isEmpty] using h
    -- there is always a range of times, so only the values can be missing
    obtain ⟨time, hTime⟩ := exists_timeRange hTimes
    have hValues := numberRange_eq_none_iff (points.map (·.2))
    rw [List.forall_mem_map] at hValues
    rw [Unshowable, ← hValues, axes?, hTime]
    cases numberRange (points.map (·.2)) <;> simp
  | overQuantity points =>
    -- either quantity can be missing
    have hX := numberRange_eq_none_iff (points.map (·.1))
    have hY := numberRange_eq_none_iff (points.map (·.2))
    rw [List.forall_mem_map] at hX hY
    rw [Unshowable, ← hX, ← hY, axes?]
    cases numberRange (points.map (·.1)) <;> cases numberRange (points.map (·.2)) <;> simp

/-- A chart with points that cannot be shown. -/
def Chart.Unshowable (chart : Chart) : Prop :=
  chart.points.isEmpty = false ∧ chart.points.Unshowable

namespace Gallery

variable {gallery gallery' gallery'' : Gallery}

/-! ## The chart that a run fails for -/

/-- Preparing a file never fails for the values of its chart. -/
theorem prepare_error_ne {path : Path} {e : ChartError}
    (h : gallery.prepare path = (gallery', .error e)) : e ≠ .noFiniteValue := by
  rintro rfl
  unfold prepare at h
  split at h
  · cases (Prod.mk.inj h).2
  · split at h
    · cases (Prod.mk.inj h).2
    · dsimp only at h
      split at h <;> cases (Prod.mk.inj h).2

/-- Where a chart fails for its values, its directory is made and nothing else is done. -/
theorem draw_noFiniteValue {chart : Chart}
    (h : gallery.draw chart = (gallery', .error .noFiniteValue)) :
    chart.Unshowable ∧ gallery' = gallery.openedFor (gallery.options.pathOf chart.target) := by
  have hPoints : chart.points.isEmpty = false := by
    by_contra hEmpty
    rw [draw, if_pos (by simpa using hEmpty)] at h
    cases (Prod.mk.inj h).2
  rw [draw, if_neg (by simp [hPoints])] at h
  dsimp only at h
  split at h
  · next prepared e hPrepare =>
    obtain ⟨-, hError⟩ := Prod.mk.inj h
    exact absurd (Except.error.inj hError) (prepare_error_ne hPrepare)
  · next prepared hPrepare =>
    obtain ⟨-, -, rfl, -⟩ := prepare_eq_ok hPrepare
    unfold paint at h
    split at h
    · next hAxes =>
      -- the axes come first in painting, before anything is written
      exact ⟨⟨hPoints, (Points.axes?_eq_none_iff hPoints).mp hAxes⟩, (Prod.mk.inj h).1.symm⟩
    · split at h <;> cases (Prod.mk.inj h).2

/-- A chart that is drawn can be shown, or has no points. -/
theorem not_unshowable_of_draw {chart : Chart} {file : Option Path}
    (h : gallery.draw chart = (gallery', .ok file)) : ¬ chart.Unshowable := by
  rintro ⟨hPoints, hUnshowable⟩
  rw [draw, if_neg (by simp [hPoints])] at h
  dsimp only at h
  split at h
  · cases (Prod.mk.inj h).2
  · rw [paint, (Points.axes?_eq_none_iff hPoints).mpr hUnshowable] at h
    cases (Prod.mk.inj h).2

/-- A run that fails has drawn the charts before the one that it fails for. -/
theorem drawAll_eq_error {charts : List Chart} {e : ChartError}
    (h : gallery.drawAll charts = (gallery', .error e)) :
    ∃ before chart after between, charts = before ++ chart :: after ∧
      gallery.drawAll before = (between, .ok ()) ∧ between.draw chart = (gallery', .error e) := by
  induction charts generalizing gallery with
  | nil => cases (Prod.mk.inj h).2
  | cons chart charts ih =>
    rw [drawAll] at h
    rcases hDraw : gallery.draw chart with ⟨next, e' | file⟩
    · rw [hDraw] at h
      obtain ⟨rfl, hCause⟩ := Prod.mk.inj h
      cases hCause
      -- the first chart is the one
      exact ⟨[], chart, charts, gallery, rfl, rfl, hDraw⟩
    · rw [hDraw] at h
      obtain ⟨before, failing, after, between, hSplit, hBefore, hFails⟩ := ih h
      refine ⟨chart :: before, failing, after, between, by rw [hSplit, List.cons_append], ?_, hFails⟩
      -- the first chart is drawn, and goes with those before the one
      rw [drawAll, hDraw]
      exact hBefore

/-- So can all charts of a run that comes to its end. -/
theorem not_unshowable_of_drawAll {charts : List Chart}
    (h : gallery.drawAll charts = (gallery', .ok ())) : ∀ chart ∈ charts, ¬ chart.Unshowable := by
  induction charts generalizing gallery with
  | nil => exact fun _ hChart => nomatch hChart
  | cons first charts ih =>
    rw [List.forall_mem_cons]
    rcases drawAll_cons_eq_ok h with ⟨hPoints, hDrawn⟩ | ⟨-, next, file, hDraw, hDrawn⟩
    · refine ⟨fun hUnshowable => ?_, ih hDrawn⟩
      rw [hUnshowable.1] at hPoints
      cases hPoints
    · exact ⟨not_unshowable_of_draw hDraw, ih hDrawn⟩

/-! ## What is left behind -/

/-- Charts are drawn, and nothing else is changed but that directories are made on the way to the output
directory. -/
structure Leaves (gallery : Gallery) (targets : List ChartTarget) (gallery' : Gallery) : Prop where
  written : gallery'.written = gallery.written ++ targets.map gallery.options.pathOf
  shows : ∀ target ∈ targets, gallery'.Shows target
  others : ∀ place, (∀ target ∈ targets, ¬ gallery'.PlaceOf place target) →
    gallery'.files.entryAt? place = gallery.files.entryAt? place ∨
      (place ∈ gallery.trail ∧ gallery.files.entryAt? place = none ∧
        gallery'.files.entryAt? place = some .directory)

/-- No chart is listed that was not, and no file is created or changed: at most directories are made on
the way to the output directory. -/
def WritesNothing (gallery gallery' : Gallery) : Prop :=
  gallery'.written = gallery.written ∧
    ∀ place, gallery'.files.entryAt? place = gallery.files.entryAt? place ∨
      (place ∈ gallery.trail ∧ gallery.files.entryAt? place = none ∧
        gallery'.files.entryAt? place = some .directory)

/-- Where charts are left, nothing was written exactly if there are none. -/
theorem Leaves.writesNothing_iff {targets : List ChartTarget}
    (h : gallery.Leaves targets gallery') : gallery.WritesNothing gallery' ↔ targets = [] := by
  constructor
  · rintro ⟨hSame, -⟩
    rw [h.written] at hSame
    simpa using hSame
  · rintro rfl
    have hSame := h.written
    rw [List.map_nil, List.append_nil] at hSame
    exact ⟨hSame, fun place => h.others place fun _ hTarget => nomatch hTarget⟩

/-- Complete charts stay as they are when the output directory is made. -/
theorem Completes.leaves_opened {targets : List ChartTarget}
    (h : gallery.Completes targets gallery') : gallery.Leaves targets gallery'.opened := by
  have hKeeps : gallery'.files.Keeps gallery'.opened.files := FileTree.keeps_makeDirectories _ _
  have hGrows : gallery'.files.Grows gallery'.opened.files gallery'.trail :=
    FileTree.grows_makeDirectories gallery'.files gallery'.options.directory.trimmed
  rw [h.trail_eq] at hGrows
  refine ⟨h.written, fun target hTarget => ?_, fun place hElsewhere => ?_⟩
  · obtain ⟨place, axes, hPlace, hEntry⟩ := h.shows target hTarget
    exact ⟨place, axes, FileTree.placeOf_of_retains hKeeps.retains hPlace, hGrows.entryAt?_eq hEntry⟩
  · have hBefore := h.others place fun target hTarget hPlace =>
      hElsewhere target hTarget (FileTree.placeOf_of_retains hKeeps.retains hPlace)
    rcases hBefore with hSame | ⟨hTrail, hNone, hMade⟩
    · -- what was left alone may be made a directory now, and what was made one stays one
      have hAfter := hGrows place
      rwa [hSame] at hAfter
    · exact Or.inr ⟨hTrail, hNone, hKeeps.directory place hMade⟩

/-- A run that its check lets pass and that fails for the values of a chart leaves the charts before
that one. -/
theorem drawAll_leaves {charts : List Chart}
    (hPlain : ∀ target ∈ targetsOf charts, target.kind.IsPlain)
    (h : gallery.drawAll charts = (gallery', .error .noFiniteValue)) :
    ∃ before chart after, charts = before ++ chart :: after ∧ chart.Unshowable ∧
      (∀ other ∈ before, ¬ other.Unshowable) ∧ gallery.Leaves (targetsOf before) gallery' := by
  obtain ⟨before, chart, after, between, hSplit, hBefore, hFails⟩ := drawAll_eq_error h
  obtain ⟨hUnshowable, rfl⟩ := draw_noFiniteValue hFails
  rw [hSplit, targetsOf_append, targetsOf_cons_of_points hUnshowable.1, List.forall_mem_append,
    List.forall_mem_cons] at hPlain
  -- the charts in front are complete, and then the directory is made once more
  have hCompletes := drawAll_completes hPlain.1 hBefore
  rw [openedFor_pathOf hPlain.2.1]
  exact ⟨before, chart, after, hSplit, hUnshowable, not_unshowable_of_drawAll hBefore,
    hCompletes.leaves_opened⟩

/-- A check fails only by refusing a file. -/
theorem checkAfter_error {seen : List Path} {targets : List ChartTarget} {e : ChartError}
    (h : gallery.checkAfter seen targets = .error e) : e.IsRefusal := by
  induction targets generalizing seen with
  | nil => cases h
  | cons target targets ih =>
    rw [checkAfter] at h
    -- a path that was seen, a file in the way, and else a later one
    split at h
    · rw [← Except.error.inj h]
      trivial
    · split at h
      · rw [← Except.error.inj h]
        trivial
      · exact ih h

/-- A run that fails for the values of a chart leaves the charts before that one. -/
theorem drawRun_leaves {charts : List Chart}
    (hPlain : ∀ target ∈ targetsOf charts, target.kind.IsPlain)
    (h : gallery.drawRun charts = (gallery', .error .noFiniteValue)) :
    ∃ before chart after, charts = before ++ chart :: after ∧ chart.Unshowable ∧
      (∀ other ∈ before, ¬ other.Unshowable) ∧ gallery.Leaves (targetsOf before) gallery' := by
  rw [drawRun] at h
  split at h
  · next e hCheck =>
    -- the check refuses files, and does not look at values
    rw [Except.error.inj (Prod.mk.inj h).2] at hCheck
    exact (checkAfter_error hCheck).elim
  · exact drawAll_leaves hPlain h

end Gallery

/-! ## The charts of a plan -/

/-- Time charts are not made only for a time that cannot be moved. -/
theorem traceCharts_error {offset : Span} {groups : List (String × List Sample)} {e : DrawError}
    (h : traceCharts offset groups = .error e) : ∃ host error, e = .shift host error := by
  induction groups with
  | nil => cases h
  | cons group groups ih =>
    obtain ⟨host, samples⟩ := group
    rw [traceCharts] at h
    split at h
    · next error _ => exact ⟨host, error, (Except.error.inj h).symm⟩
    · -- the trace of this host is there, so the error is that of a later one
      cases hRest : traceCharts offset groups with
      | error e' =>
        rw [hRest] at h
        obtain rfl := Except.error.inj h
        exact ih hRest
      | ok rest =>
        rw [hRest] at h
        cases h

namespace Plan

variable {plan : Plan} {gallery : Gallery} {hosts : HostSeries}

/-- So it is with all charts of a plan. -/
theorem charts_error {e : DrawError} (h : plan.charts hosts = .error e) :
    ∃ host error, e = .shift host error := by
  unfold Plan.charts at h
  split at h
  · exact traceCharts_error h
  · cases h

/-- **What a run leaves behind that comes to a chart without finite values.** It is the first chart of
the run that has points and no finite value on some axis, and the run leaves the charts before it: they
are listed and hold their pictures, and nothing else is changed but that directories are made. So the
run writes nothing exactly when no chart before it has points. -/
theorem draw_unshowable (hError : (plan.draw gallery hosts).2 = .error (.chart .noFiniteValue)) :
    ∃ before chart after, plan.charts hosts = .ok (before ++ chart :: after) ∧
      chart.Unshowable ∧ (∀ other ∈ before, ¬ other.Unshowable) ∧
      gallery.Leaves (Gallery.targetsOf before) (plan.draw gallery hosts).1 ∧
      (gallery.WritesNothing (plan.draw gallery hosts).1 ↔
        ∀ other ∈ before, other.points.isEmpty = true) := by
  cases hCharts : plan.charts hosts with
  | error e =>
    rw [draw_of_charts_error hCharts] at hError
    -- a time that cannot be moved is another error
    obtain ⟨host, error, rfl⟩ := charts_error hCharts
    cases hError
  | ok charts =>
    rw [draw_of_charts hCharts, Gallery.drawCharts] at hError ⊢
    rcases hRun : gallery.drawRun charts with ⟨gallery', e | _⟩
    · rw [hRun] at hError
      have hCause : e = .noFiniteValue := DrawError.chart.inj (Except.error.inj hError)
      rw [hCause] at hRun
      obtain ⟨before, chart, after, rfl, hUnshowable, hBefore, hLeaves⟩ :=
        Gallery.drawRun_leaves (isPlain_of_charts hCharts) hRun
      refine ⟨before, chart, after, rfl, hUnshowable, hBefore, hLeaves, ?_⟩
      rw [hLeaves.writesNothing_iff]
      simp [Gallery.targetsOf]
    · rw [hRun] at hError
      cases hError

/-! ## Values that are no finite numbers -/

/-- A voltage of each of two hosts. -/
def voltages (a b : Float) : List Sample :=
  [⟨⟨0, 0⟩, "a", .voltage, a⟩, ⟨⟨0, 0⟩, "b", .voltage, b⟩]

/-- The charts of the two voltages, those of the currents being empty. -/
theorem charts_voltages (a b : Float) :
    unmoved.charts (.ofList (voltages a b)) = .ok
      [ ⟨⟨"a", .voltage⟩, .overTime [(⟨0, 0⟩, a)]⟩, ⟨⟨"a", .current⟩, .overTime []⟩,
        ⟨⟨"b", .voltage⟩, .overTime [(⟨0, 0⟩, b)]⟩, ⟨⟨"b", .current⟩, .overTime []⟩ ] := by
  have hGroups : (HostSeries.ofList (voltages a b)).toList =
      [("a", [⟨⟨0, 0⟩, "a", .voltage, a⟩]), ("b", [⟨⟨0, 0⟩, "b", .voltage, b⟩])] := by
    rw [(HostSeries.holds_ofList (voltages a b)).groups]
    simp [HostSeries.hostsOf, HostSeries.samplesFrom, voltages, List.eraseDups_cons]
  have hTime : Instant.shift? ⟨0, 0⟩ ⟨0⟩ = some ⟨0, 0⟩ := by decide +kernel
  have hCharts : unmoved.charts (.ofList (voltages a b)) =
      traceCharts ⟨0⟩ (HostSeries.ofList (voltages a b)).toList := rfl
  rw [hCharts, hGroups]
  simp only [traceCharts, Trace.ofSamples, hTime]
  rfl

/-- A plan for the curves of sweeps of one second. -/
def sweeping : Plan := { unmoved with drawing := .sweeps (.ofParts 1 0) }

/-- Two pairs, each with a finite value, and neither power is finite. -/
def halfBurst : List Sample :=
  [⟨⟨0, 0⟩, "a", .voltage, 1 / 0⟩, ⟨⟨0, 0⟩, "a", .current, 2⟩,
    ⟨⟨0, 1000000⟩, "a", .voltage, 1⟩, ⟨⟨0, 1000000⟩, "a", .current, 0 / 0⟩]

/-- The curves of the two pairs. -/
theorem charts_halfBurst :
    sweeping.charts (.ofList halfBurst) = .ok
      [ ⟨⟨"a", .iv⟩, .overQuantity [(1 / 0, 2), (1, 0 / 0)]⟩,
        ⟨⟨"a", .pv⟩, .overQuantity [(1 / 0, 1 / 0), (1, 0 / 0)]⟩ ] := by
  have hCurve : Sweep.curve halfBurst (.ofParts 1 0) =
      [⟨1 / 0, 2, 1 / 0⟩, ⟨1, 0 / 0, 0 / 0⟩] := by
    rw [Sweep.curve, Sweep.pairs_eq]
    decide +kernel
  have hGroups : (HostSeries.ofList halfBurst).toList = [("a", halfBurst)] := by
    rw [(HostSeries.holds_ofList halfBurst).groups]
    decide +kernel
  have hCharts : sweeping.charts (.ofList halfBurst) =
      .ok (sweepCharts (.ofParts 1 0) (HostSeries.ofList halfBurst).toList) := rfl
  rw [hCharts, hGroups, sweepCharts, List.flatMap_singleton]
  simp only [hCurve]
  rfl

/-- Where the first host's voltage is no number, nothing is written for the second host either. -/
theorem draw_unshowable_first :
    (unmoved.draw (.new unmoved.options (.empty ["work"])) (.ofList (voltages (0 / 0) 1))).2 =
        .error (.chart .noFiniteValue) ∧
      (Gallery.new unmoved.options (.empty ["work"])).WritesNothing
        (unmoved.draw (.new unmoved.options (.empty ["work"]))
          (.ofList (voltages (0 / 0) 1))).1 := by
  have hError :
      (unmoved.draw (.new unmoved.options (.empty ["work"])) (.ofList (voltages (0 / 0) 1))).2 =
        .error (.chart .noFiniteValue) := by
    rw [draw_of_charts (charts_voltages (0 / 0) 1)]
    decide +kernel
  obtain ⟨before, chart, after, hCharts, -, hBefore, -, hIff⟩ := draw_unshowable hError
  rw [charts_voltages] at hCharts
  refine ⟨hError, hIff.mpr fun other hOther => ?_⟩
  cases before with
  | nil => cases hOther
  | cons first before =>
    -- the first chart cannot be shown, so none comes before the one that the run fails for
    obtain ⟨rfl, -⟩ := List.cons.inj (Except.ok.inj hCharts)
    refine absurd ⟨rfl, fun point hPoint => ?_⟩ (hBefore _ List.mem_cons_self)
    rw [List.mem_singleton.mp hPoint]
    decide +kernel

/-- **A run that cannot be charted writes.** The first host's chart stays behind where the second host's
voltage is no number, and the currents of a sweep stay behind where none of its powers is finite. -/
theorem unshowable_run_writes :
    (unmoved.draw (.new unmoved.options (.empty ["work"])) (.ofList (voltages 1 (0 / 0)))).2 =
        .error (.chart .noFiniteValue) ∧
      (unmoved.draw (.new unmoved.options (.empty ["work"]))
        (.ofList (voltages 1 (0 / 0)))).1.written = [.ofText "charts/a_voltage.png"] ∧
      (unmoved.draw (.new unmoved.options (.empty ["work"]))
        (.ofList (voltages 1 (0 / 0)))).1.files.contains (.ofText "charts/a_voltage.png") = true ∧
      (sweeping.draw (.new sweeping.options (.empty ["work"])) (.ofList halfBurst)).2 =
        .error (.chart .noFiniteValue) ∧
      (sweeping.draw (.new sweeping.options (.empty ["work"])) (.ofList halfBurst)).1.written =
        [.ofText "charts/a_iv.png"] ∧
      (sweeping.draw (.new sweeping.options (.empty ["work"]))
        (.ofList halfBurst)).1.files.contains (.ofText "charts/a_iv.png") = true ∧
      (FileTree.empty ["work"]).contains (.ofText "charts/a_voltage.png") = false ∧
      (FileTree.empty ["work"]).contains (.ofText "charts/a_iv.png") = false := by
  rw [draw_of_charts (charts_voltages 1 (0 / 0)), draw_of_charts charts_halfBurst]
  decide +kernel

end Plan

end SolarCharts
