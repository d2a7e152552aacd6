import SolarCharts.Proofs.Chart.Preflight
import SolarCharts.Proofs.HostSeries.Grouping
import SolarCharts.Run

/-!
# What a rejected run leaves behind

A run of charts is rejected for a time that cannot be moved, for a file that is in the way, or for one
that would be written twice. All three are looked for before the first chart is drawn, so a rejected
run should leave everything as it was. The last two can come up once more while charts are drawn.

* `drawAll_ne_of_check` — a run that its check lets pass and that is rejected all the same has written
  a chart by then.
* `Plan.draw_eq_self_iff` — so a rejected run leaves everything as it was exactly when the check does
  not let it pass, which it wrongly does only for a file that it overlooks.
* `Plan.rejected_run_writes` — it overlooks one, and a chart stays behind.
-/

namespace SolarCharts

/-- An error that rejects a run: a time cannot be moved, or a file is refused for its name. -/
def DrawError.IsRejection : DrawError → Prop
  | .shift _ _ => True
  | .chart error => error.IsRefusal

namespace Gallery

variable {gallery gallery' : Gallery}

/-! ## The charts written so far -/

/-- Preparing a file lists nothing. -/
theorem written_prepare (gallery : Gallery) (path : Path) :
    (gallery.prepare path).1.written = gallery.written := by
  unfold prepare
  split
  · rfl
  · split
    · rfl
    · dsimp only
      split <;> rfl

/-- Painting lists one more file at the end, or none. -/
theorem written_prefix_paint (gallery : Gallery) (path : Path) (chart : Chart) :
    gallery.written <+: (gallery.paint path chart).1.written := by
  unfold paint
  split
  · exact List.prefix_rfl
  · split
    · exact List.prefix_rfl
    · exact List.prefix_append _ _

/-- So does drawing. -/
theorem written_prefix_draw (gallery : Gallery) (chart : Chart) :
    gallery.written <+: (gallery.draw chart).1.written := by
  unfold draw
  split
  · exact List.prefix_rfl
  · have hPrepare := written_prepare gallery (gallery.options.pathOf chart.target)
    dsimp only
    split
    · next prepared _ hResult =>
      rw [hResult] at hPrepare
      rw [← hPrepare]
    · next prepared hResult =>
      rw [hResult] at hPrepare
      rw [← hPrepare]
      exact written_prefix_paint prepared _ chart

/-- Whatever becomes of a run, the charts written before it stay listed, and first. -/
theorem written_prefix_drawAll (gallery : Gallery) (charts : List Chart) :
    gallery.written <+: (gallery.drawAll charts).1.written := by
  induction charts generalizing gallery with
  | nil => exact List.prefix_rfl
  | cons chart charts ih =>
    have hDraw := written_prefix_draw gallery chart
    rw [drawAll]
    split
    · next after _ hResult =>
      rw [hResult] at hDraw
      exact hDraw
    · next after _ hResult =>
      rw [hResult] at hDraw
      exact hDraw.trans (ih after)

/-! ## Rejected while drawing -/

/-- A run that is let pass and then rejected has written its first chart by then. -/
theorem drawAll_ne_of_check {charts : List Chart} {e : ChartError}
    (hCheck : gallery.check (targetsOf charts) = .ok ())
    (hError : (gallery.drawAll charts).2 = .error e) (hRefusal : e.IsRefusal) :
    (gallery.drawAll charts).1.written ≠ gallery.written := by
  induction charts with
  | nil => cases hError
  | cons chart charts ih =>
    by_cases hPoints : chart.points.isEmpty = true
    · rw [targetsOf_cons_of_isEmpty hPoints] at hCheck
      rw [drawAll_cons_of_isEmpty hPoints] at hError ⊢
      exact ih hCheck hError
    · rw [Bool.not_eq_true] at hPoints
      rw [targetsOf_cons_of_points hPoints] at hCheck
      -- the check has found nothing against the first chart, and the files are still as it found them
      obtain ⟨hNew, hFree, -⟩ := checkAfter_eq_ok hCheck
      rcases draw_of_free hPoints hNew hFree with ⟨after, file, hDraw⟩ | ⟨after, other, hDraw, hOther⟩
      · have hPrefix := written_prefix_drawAll after charts
        rw [(draws_of_draw hPoints hDraw).written] at hPrefix
        rw [drawAll_cons_of_draw hDraw]
        intro hSame
        -- one more path would be no more than before
        have hLength := hPrefix.length_le
        rw [hSame, List.length_append, List.length_singleton] at hLength
        omega
      · -- the run ended with this chart, and not by a refusal
        rw [drawAll_cons_of_error hDraw] at hError
        cases hError
        exact absurd hRefusal hOther

/-! ## Rejected runs -/

/-- The check lets a run pass although one of its files is in the way once it has begun. -/
def LetsThrough (gallery : Gallery) (targets : List ChartTarget) : Prop :=
  gallery.check targets = .ok () ∧ gallery.Overlooks targets

theorem not_letsThrough_nil : ¬ gallery.LetsThrough [] := by
  rintro ⟨-, before, target, after, hSplit, -⟩
  cases before with
  | nil => cases hSplit
  | cons first before => cases hSplit

/-- A rejected run of charts of plain kinds leaves the gallery as it was, unless the check lets it
through. -/
theorem drawRun_eq_self_iff {charts : List Chart} {e : ChartError}
    (hPlain : ∀ target ∈ targetsOf charts, target.kind.IsPlain)
    (hError : (gallery.drawRun charts).2 = .error e) (hRefusal : e.IsRefusal) :
    (gallery.drawRun charts).1 = gallery ↔ ¬ gallery.LetsThrough (targetsOf charts) := by
  cases hCheck : gallery.check (targetsOf charts) with
  | error e' =>
    refine iff_of_true (by rw [drawRun, hCheck]) fun h => ?_
    rw [LetsThrough, hCheck] at h
    cases h.1
  | ok _ =>
    have hRun : gallery.drawRun charts = gallery.drawAll charts := by rw [drawRun, hCheck]
    rw [hRun] at hError ⊢
    have hDrawn : ∀ e', (gallery.drawAll charts).2 = .error e' → e'.IsRefusal := by
      intro e' hError'
      rw [hError] at hError'
      exact Except.error.inj hError' ▸ hRefusal
    -- the run and its check end differently, so a file is overlooked
    have hRuns : gallery.RunsInto charts := by
      by_contra hNot
      have hSame := (drawAll_eq_check_iff_not_runsInto hDrawn).mpr hNot
      rw [hError, hCheck] at hSame
      cases hSame
    refine iff_of_false (fun hEq => ?_) (not_not_intro ⟨hCheck, hRuns.overlooks hPlain⟩)
    exact drawAll_ne_of_check hCheck hError hRefusal (congrArg written hEq)

/-- So does a rejected run of a plan's charts, whose errors are those of the charts. -/
theorem drawCharts_eq_self_iff {charts : List Chart} {e : DrawError}
    (hPlain : ∀ target ∈ targetsOf charts, target.kind.IsPlain)
    (hError : (gallery.drawCharts charts).2 = .error e) (hRejected : e.IsRejection) :
    (gallery.drawCharts charts).1 = gallery ↔ ¬ gallery.LetsThrough (targetsOf charts) := by
  rcases hRun : gallery.drawRun charts with ⟨after, e' | _⟩
  · have hCause : e = .chart e' := by
      rw [drawCharts, hRun] at hError
      exact (Except.error.inj hError).symm
    rw [hCause] at hRejected
    have hEnds : (gallery.drawRun charts).2 = .error e' := by rw [hRun]
    have hIff := drawRun_eq_self_iff hPlain hEnds hRejected
    rwa [drawCharts, hRun, ← hRun]
  · rw [drawCharts, hRun] at hError
    cases hError

end Gallery

/-! ## The charts of a plan -/

/-- Time charts are those of the first host and those of the rest. -/
theorem traceCharts_cons_eq_ok {offset : Span} {host : String} {samples : List Sample}
    {groups : List (String × List Sample)} {charts : List Chart}
    (h : traceCharts offset ((host, samples) :: groups) = .ok charts) :
    ∃ trace rest, Trace.ofSamples offset samples = .ok trace ∧
      traceCharts offset groups = .ok rest ∧ charts = trace.charts host ++ rest := by
  rw [traceCharts] at h
  split at h
  · cases h
  · next trace hTrace =>
    cases hRest : traceCharts offset groups with
    | error e =>
      rw [hRest] at h
      cases h
    | ok rest =>
      rw [hRest] at h
      exact ⟨trace, rest, hTrace, rfl, (Except.ok.inj h).symm⟩

/-- Every time chart shows the trace of one of the hosts. -/
theorem exists_trace_of_mem {offset : Span} {groups : List (String × List Sample)}
    {charts : List Chart} (h : traceCharts offset groups = .ok charts) {chart : Chart}
    (hChart : chart ∈ charts) :
    ∃ host samples trace, (host, samples) ∈ groups ∧ Trace.ofSamples offset samples = .ok trace ∧
      chart ∈ trace.charts host := by
  induction groups generalizing charts with
  | nil =>
    cases h
    cases hChart
  | cons group groups ih =>
    obtain ⟨first, samples⟩ := group
    obtain ⟨trace, rest, hTrace, hRest, rfl⟩ := traceCharts_cons_eq_ok h
    rcases List.mem_append.mp hChart with hHere | hFurther
    · exact ⟨first, samples, trace, List.mem_cons_self, hTrace, hHere⟩
    · obtain ⟨host, samples', trace', hMem, hTrace', hChart'⟩ := ih hRest hFurther
      exact ⟨host, samples', trace', List.mem_cons_of_mem _ hMem, hTrace', hChart'⟩

/-- Time charts are of two of the standard kinds. -/
theorem standard_of_mem_traceCharts {offset : Span} {groups : List (String × List Sample)}
    {charts : List Chart} (h : traceCharts offset groups = .ok charts) :
    ∀ chart ∈ charts, chart.target.kind ∈ ChartKind.standard := by
  intro chart hChart
  obtain ⟨host, samples, trace, -, -, hMem⟩ := exists_trace_of_mem h hChart
  have hTrace : ∀ chart ∈ trace.charts host, chart.target.kind ∈ ChartKind.standard := by
    simp [Trace.charts, ChartKind.standard]
  exact hTrace chart hMem

/-- The curves of sweeps are of the other two. -/
theorem standard_of_mem_sweepCharts {window : Span} {groups : List (String × List Sample)} :
    ∀ chart ∈ sweepCharts window groups, chart.target.kind ∈ ChartKind.standard := by
  intro chart hChart
  obtain ⟨group, -, hMem⟩ := List.mem_flatMap.mp hChart
  have hCurve : ∀ chart ∈ curveCharts group.1 (Sweep.curve group.2 window),
      chart.target.kind ∈ ChartKind.standard := by simp [curveCharts, ChartKind.standard]
  exact hCurve chart hMem

namespace Plan

variable {plan : Plan} {gallery : Gallery} {hosts : HostSeries}

/-- The charts that a plan makes of some hosts, those without points among them. -/
def charts (plan : Plan) (hosts : HostSeries) : Except DrawError (List Chart) :=
  match plan.drawing with
  | .traces offset => traceCharts offset hosts.toList
  | .sweeps window => .ok (sweepCharts window hosts.toList)

/-- A plan draws the charts that it makes, or does nothing where it makes none. -/
theorem draw_eq (plan : Plan) (gallery : Gallery) (hosts : HostSeries) :
    plan.draw gallery hosts =
      match plan.charts hosts with
      | .error e => (gallery, .error e)
      | .ok charts => gallery.drawCharts charts := by
  unfold draw Plan.charts
  cases plan.drawing with
  | traces offset => rfl
  | sweeps window => rfl

theorem draw_of_charts {charts : List Chart} (h : plan.charts hosts = .ok charts) :
    plan.draw gallery hosts = gallery.drawCharts charts := by
  rw [draw_eq, h]

theorem draw_of_charts_error {e : DrawError} (h : plan.charts hosts = .error e) :
    plan.draw gallery hosts = (gallery, .error e) := by
  rw [draw_eq, h]

/-- All charts of a plan are of standard kinds, and so of plain ones. -/
theorem isPlain_of_charts {charts : List Chart} (h : plan.charts hosts = .ok charts) :
    ∀ target ∈ Gallery.targetsOf charts, target.kind.IsPlain := by
  have hStandard : ∀ chart ∈ charts, chart.target.kind ∈ ChartKind.standard := by
    unfold Plan.charts at h
    cases hDrawing : plan.drawing with
    | traces offset =>
      rw [hDrawing] at h
      exact standard_of_mem_traceCharts h
    | sweeps window =>
      rw [hDrawing] at h
      obtain rfl := Except.ok.inj h
      exact standard_of_mem_sweepCharts
  intro target hTarget
  obtain ⟨chart, hChart, rfl⟩ := List.mem_map.mp hTarget
  exact ChartKind.isPlain_of_standard (hStandard chart (List.mem_filter.mp hChart).1)

/-- The charts with points that a plan draws, none where a time cannot be moved. -/
def targets (plan : Plan) (hosts : HostSeries) : List ChartTarget :=
  match plan.drawing with
  | .traces offset =>
    match traceCharts offset hosts.toList with
    | .ok charts => Gallery.targetsOf charts
    | .error _ => []
  | .sweeps window => Gallery.targetsOf (sweepCharts window hosts.toList)

/-- The targets are those of the charts that a plan makes. -/
theorem targets_eq (plan : Plan) (hosts : HostSeries) :
    plan.targets hosts =
      match plan.charts hosts with
      | .ok charts => Gallery.targetsOf charts
      | .error _ => [] := by
  unfold targets Plan.charts
  cases plan.drawing with
  | traces offset => rfl
  | sweeps window => rfl

/-- **What a rejected run leaves behind.** A run that is rejected leaves the files, and the list of
charts written, as they were, unless the check lets it pass and overlooks a file. That takes an output
directory which is not there yet, the path of which goes up, and that files are not replaced. -/
theorem draw_eq_self_iff {e : DrawError} (hError : (plan.draw gallery hosts).2 = .error e)
    (hRejected : e.IsRejection) :
    ((plan.draw gallery hosts).1 = gallery ↔ ¬ gallery.LetsThrough (plan.targets hosts)) ∧
      (gallery.LetsThrough (plan.targets hosts) →
        gallery.options.force = false ∧ ¬ gallery.IsOpen ∧
          (gallery.files.Rooted → ".." ∈ gallery.options.directory.parts)) := by
  cases hCharts : plan.charts hosts with
  | error e' =>
    -- without charts there is nothing to let through
    have hNone : ¬ gallery.LetsThrough (plan.targets hosts) := by
      rw [targets_eq, hCharts]
      exact Gallery.not_letsThrough_nil
    refine ⟨iff_of_true ?_ hNone, fun h => absurd h hNone⟩
    rw [draw_of_charts_error hCharts]
  | ok charts =>
    have hPlain := isPlain_of_charts hCharts
    rw [targets_eq, hCharts]
    rw [draw_of_charts hCharts] at hError ⊢
    refine ⟨Gallery.drawCharts_eq_self_iff hPlain hError hRejected, fun h => ?_⟩
    exact ⟨h.2.force_eq_false, h.2.not_isOpen, h.2.goes_up hPlain⟩

/-! ## Two hosts -/

/-- A plan for time charts whose times stay as they are. -/
def unmoved : Plan :=
  { drawing := .traces ⟨0⟩
    options := ⟨.ofText "charts", ⟨80, 60⟩, false⟩
    connection := ⟨"http://localhost:8086", "home", "secret", .ofSeconds 300⟩
    query := .new "rooftop" "mppt" }

/-- One voltage of each of two hosts. -/
def twoVoltages : List Sample :=
  [⟨⟨0, 0⟩, "a", .voltage, 1⟩, ⟨⟨0, 0⟩, "b", .voltage, 1⟩]

/-- A run sees the groups of a series and not its index. -/
theorem draw_congr {hosts' : HostSeries} (h : hosts.toList = hosts'.toList) :
    plan.draw gallery hosts = plan.draw gallery hosts' := by
  unfold draw
  cases plan.drawing with
  | traces offset => simp only [Gallery.drawTraces, h]
  | sweeps window => simp only [Gallery.drawSweeps, h]

/-- The series of the two voltages, written out. -/
theorem draw_twoVoltages (gallery : Gallery) :
    unmoved.draw gallery (.ofList twoVoltages) =
      unmoved.draw gallery
        ⟨#[⟨"a", #[⟨⟨0, 0⟩, "a", .voltage, 1⟩]⟩, ⟨"b", #[⟨⟨0, 0⟩, "b", .voltage, 1⟩]⟩], ∅⟩ := by
  apply draw_congr
  rw [(HostSeries.holds_ofList twoVoltages).groups]
  decide

/-- A file of the second host that is there already rejects the run, and the first host's chart is not
drawn. -/
theorem draw_eq_self_of_existing :
    (unmoved.draw (.besideFile "charts" "charts/b_voltage.png") (.ofList twoVoltages)).2 =
        .error (.chart (.outputExists (.ofText "charts/b_voltage.png"))) ∧
      (DrawError.chart (.outputExists (.ofText "charts/b_voltage.png"))).IsRejection ∧
      (unmoved.draw (.besideFile "charts" "charts/b_voltage.png") (.ofList twoVoltages)).1 =
        .besideFile "charts" "charts/b_voltage.png" := by
  have hError :
      (unmoved.draw (.besideFile "charts" "charts/b_voltage.png") (.ofList twoVoltages)).2 =
        .error (.chart (.outputExists (.ofText "charts/b_voltage.png"))) := by
    rw [draw_twoVoltages]
    decide +kernel
  obtain ⟨hIff, hUp⟩ := draw_eq_self_iff hError trivial
  refine ⟨hError, trivial, hIff.mpr fun h => ?_⟩
  -- the directory is there, so nothing is overlooked
  refine (hUp h).2.1 (Or.inr ⟨by decide +kernel, ["work", "charts"], by decide +kernel⟩)

/-- **A rejected run writes.** The directory is not found before `missing` is made, and the file of the
second host in it neither, so the run is let pass and rejected when the first host's chart is there. -/
theorem rejected_run_writes :
    (unmoved.draw (.besideFile "missing/../charts" "charts/b_voltage.png")
        (.ofList twoVoltages)).2 =
        .error (.chart (.outputExists (.ofText "missing/../charts/b_voltage.png"))) ∧
      (unmoved.draw (.besideFile "missing/../charts" "charts/b_voltage.png")
        (.ofList twoVoltages)).1.written = [.ofText "missing/../charts/a_voltage.png"] ∧
      (Gallery.besideFile "missing/../charts" "charts/b_voltage.png").files.contains
        (.ofText "charts/a_voltage.png") = false ∧
      (unmoved.draw (.besideFile "missing/../charts" "charts/b_voltage.png")
        (.ofList twoVoltages)).1.files.contains (.ofText "charts/a_voltage.png") = true := by
  rw [draw_twoVoltages]
  decide +kernel

end Plan

end SolarCharts
