import SolarCharts.Proofs.Chart.Rejection
import SolarCharts.Proofs.Files.Trail
import SolarCharts.Proofs.Trace.Splitting

/-!
# What a completed run leaves behind

A run that comes to its end has drawn every chart that has something to show, and nothing else: each
chart into a file of its own, in the order of the hosts. Beside these files only directories are made,
on the way to the output directory, and not even those when there is nothing to show.

* `Path.Distinct` — paths of which no two count as one, such as those that a gallery lists.
* `draw_completes` — this of one chart, as a relation between the galleries before and after it.
* `Completes.trans`, `drawAll_completes` — the relation holds along a whole run: what later charts do
  leaves the earlier ones.
* `Plan.charts_shown` — the charts of a plan that have points are those that its samples give.
* `Plan.draw_completed` — what a completed run leaves, told by the samples alone.
-/

namespace SolarCharts

/-! ## Paths that are all different -/

namespace Path

/-- No two of some paths count as one, so none of them comes twice. -/
def Distinct (paths : List Path) : Prop := (paths.map components).Nodup

theorem distinct_nil : Distinct [] := List.nodup_nil

theorem distinct_singleton (path : Path) : Distinct [path] := List.nodup_singleton _

theorem distinct_append {paths more : List Path} :
    Distinct (paths ++ more) ↔
      Distinct paths ∧ Distinct more ∧ ∀ path ∈ more, ¬ path.IsAmong paths := by
  rw [Distinct, List.map_append, List.nodup_append', Distinct, Distinct]
  constructor
  · rintro ⟨hPaths, hMore, hApart⟩
    exact ⟨hPaths, hMore, fun path hPath hAmong => hApart hAmong (List.mem_map_of_mem hPath)⟩
  · rintro ⟨hPaths, hMore, hApart⟩
    refine ⟨hPaths, hMore, fun key hKey hLater => ?_⟩
    obtain ⟨path, hPath, rfl⟩ := List.mem_map.mp hLater
    exact hApart path hPath hKey

theorem distinct_cons {path : Path} {paths : List Path} :
    Distinct (path :: paths) ↔ (∀ other ∈ paths, ¬ other.Same path) ∧ Distinct paths := by
  rw [← List.singleton_append, distinct_append]
  simp only [isAmong_singleton, distinct_singleton, true_and, and_comm]

/-- A path that counts as none of some distinct ones can be listed behind them. -/
theorem Distinct.append_one {paths : List Path} (h : Distinct paths) {path : Path}
    (hNew : ¬ path.IsAmong paths) : Distinct (paths ++ [path]) :=
  distinct_append.mpr ⟨h, distinct_singleton path, fun _ hMem => by rwa [List.mem_singleton.mp hMem]⟩

end Path

namespace Gallery

variable {gallery gallery' gallery'' : Gallery}

/-! ## Galleries in use -/

/-- A gallery that came about by its own operations, while the files may change at any time. -/
inductive Reached : Gallery → Prop
  | new (options : ChartOptions) (files : FileTree) : Reached (.new options files)
  | elsewhere {gallery : Gallery} (files : FileTree) (h : Reached gallery) :
    Reached { gallery with files }
  | draw {gallery : Gallery} (chart : Chart) (h : Reached gallery) : Reached (gallery.draw chart).1

/-- A chart that fails leaves the list of charts as it was. -/
theorem written_of_draw_error {chart : Chart} {e : ChartError}
    (h : gallery.draw chart = (gallery', .error e)) : gallery'.written = gallery.written := by
  have hPrepare := written_prepare gallery (gallery.options.pathOf chart.target)
  unfold draw at h
  split at h
  · cases (Prod.mk.inj h).2
  · dsimp only at h
    split at h
    · next prepared _ hResult =>
      rw [hResult] at hPrepare
      rw [← (Prod.mk.inj h).1]
      exact hPrepare
    · next prepared hResult =>
      rw [hResult] at hPrepare
      -- preparing lists nothing, and neither does painting that fails
      unfold paint at h
      split at h
      · rw [← (Prod.mk.inj h).1]
        exact hPrepare
      · split at h
        · rw [← (Prod.mk.inj h).1]
          exact hPrepare
        · cases (Prod.mk.inj h).2

/-- Drawing lists a path that is like none listed before, or none. -/
theorem distinct_written_draw (h : Path.Distinct gallery.written) (chart : Chart) :
    Path.Distinct (gallery.draw chart).1.written := by
  rcases hDraw : gallery.draw chart with ⟨gallery', e | file⟩
  · -- what fails lists nothing
    have hKept := written_of_draw_error hDraw
    rwa [hKept]
  · by_cases hPoints : chart.points.isEmpty = true
    · rw [draw, if_pos hPoints] at hDraw
      rwa [← (Prod.mk.inj hDraw).1]
    · rw [Bool.not_eq_true] at hPoints
      rw [(draws_of_draw hPoints hDraw).written]
      exact h.append_one (draw_eq_ok hPoints hDraw).1

/-- A gallery in use lists no path twice, however it is written and whatever the kinds of its charts. -/
theorem Reached.distinct (h : gallery.Reached) : Path.Distinct gallery.written := by
  induction h with
  | new options files => exact Path.distinct_nil
  | elsewhere files _ ih => exact ih
  | draw chart _ ih => exact distinct_written_draw ih chart

/-! ## Complete charts -/

/-- The output directory and what its path leads through. -/
def trail (gallery : Gallery) : List Place :=
  FileTree.trail (gallery.files.origin gallery.options.directory.trimmed)
    gallery.options.directory.trimmed.parts

/-- The place is that of the file of a chart. -/
def PlaceOf (gallery : Gallery) (place : Place) (target : ChartTarget) : Prop :=
  gallery.files.placeOf (gallery.options.pathOf target) = .ok place

/-- The file of a chart holds its picture. -/
def Shows (gallery : Gallery) (target : ChartTarget) : Prop :=
  ∃ place axes, gallery.PlaceOf place target ∧
    gallery.files.entryAt? place = some (.file (.picture (gallery.options.picture target axes)))

/-- Charts of plain kinds are drawn, each into a new file of its own, and nothing else is changed but that
directories are made on the way to them. -/
structure Completes (gallery : Gallery) (targets : List ChartTarget) (gallery' : Gallery) : Prop where
  plain : ∀ target ∈ targets, target.kind.IsPlain
  options : gallery'.options = gallery.options
  written : gallery'.written = gallery.written ++ targets.map gallery.options.pathOf
  fresh : ∀ target ∈ targets, ¬ (gallery.options.pathOf target).IsAmong gallery.written
  distinct : Path.Distinct (targets.map gallery.options.pathOf)
  keeps : gallery.files.Keeps gallery'.files
  shows : ∀ target ∈ targets, gallery'.Shows target
  others : ∀ place, (∀ target ∈ targets, ¬ gallery'.PlaceOf place target) →
    gallery'.files.entryAt? place = gallery.files.entryAt? place ∨
      (place ∈ gallery.trail ∧ gallery.files.entryAt? place = none ∧
        gallery'.files.entryAt? place = some .directory)
  unchanged : targets = [] → gallery' = gallery

/-- Charts of plain kinds whose files have different paths have them in different places. -/
theorem pathOf_eq_of_placeOf {place : Place} {a b : ChartTarget} (hPlainA : a.kind.IsPlain)
    (hPlainB : b.kind.IsPlain) (ha : gallery.PlaceOf place a) (hb : gallery.PlaceOf place b) :
    gallery.options.pathOf a = gallery.options.pathOf b := by
  have hNameA := ChartTarget.ordinary_fileName hPlainA
  have hNameB := ChartTarget.ordinary_fileName hPlainB
  obtain ⟨dest, hWalk⟩ := FileTree.exists_walk_of_placeOf_join hNameA ha
  have hPlaceA := FileTree.eq_of_placeOf_join hNameA hWalk ha
  have hPlaceB := FileTree.eq_of_placeOf_join hNameB hWalk hb
  -- both lie in one directory, so the last name of the place is the file's
  have hName : a.fileName = b.fileName := by
    rw [hPlaceA] at hPlaceB
    simpa using hPlaceB
  rw [ChartOptions.pathOf, hName, ChartOptions.pathOf]

namespace Completes

variable {targets more : List ChartTarget}

theorem refl (gallery : Gallery) : gallery.Completes [] gallery where
  plain := fun _ hTarget => nomatch hTarget
  options := rfl
  written := by rw [List.map_nil, List.append_nil]
  fresh := fun _ hTarget => nomatch hTarget
  distinct := Path.distinct_nil
  keeps := FileTree.Keeps.refl _
  shows := fun _ hTarget => nomatch hTarget
  others := fun _ _ => Or.inl rfl
  unchanged := fun _ => rfl

theorem placeOf (h : gallery.Completes targets gallery') {place : Place} {target : ChartTarget}
    (hPlace : gallery.PlaceOf place target) : gallery'.PlaceOf place target := by
  unfold PlaceOf
  rw [h.options]
  exact FileTree.placeOf_of_retains h.keeps.retains hPlace

/-- The output directory and what its path leads through stay where they were. -/
theorem trail_eq (h : gallery.Completes targets gallery') : gallery'.trail = gallery.trail := by
  unfold trail
  rw [h.options, FileTree.origin_of_retains h.keeps.retains]

/-- A chart stays as it is drawn, whatever is drawn after it. -/
theorem shows_of_written (h : gallery.Completes targets gallery') {target : ChartTarget}
    (hPlain : target.kind.IsPlain) (hShows : gallery.Shows target)
    (hWritten : gallery.options.pathOf target ∈ gallery.written) : gallery'.Shows target := by
  obtain ⟨place, axes, hPlace, hEntry⟩ := hShows
  -- a chart in the same place would have the same path, which is listed already
  have hElsewhere : ∀ other ∈ targets, ¬ gallery'.PlaceOf place other := by
    intro other hOther hSame
    have hPath := pathOf_eq_of_placeOf hPlain (h.plain other hOther) (h.placeOf hPlace) hSame
    rw [h.options] at hPath
    exact h.fresh other hOther (hPath ▸ Path.isAmong_of_mem hWritten)
  rcases h.others place hElsewhere with hKept | ⟨-, hNone, -⟩
  · refine ⟨place, axes, h.placeOf hPlace, ?_⟩
    rw [hKept, hEntry, h.options]
  · rw [hEntry] at hNone
    cases hNone

/-- Charts that are completed one after the other are completed together. -/
theorem trans (h : gallery.Completes targets gallery') (h' : gallery'.Completes more gallery'') :
    gallery.Completes (targets ++ more) gallery'' := by
  have hPaths : more.map gallery'.options.pathOf = more.map gallery.options.pathOf := by
    rw [h.options]
  -- what comes later is new to all that was drawn before
  have hLater : ∀ target ∈ more,
      ¬ (gallery.options.pathOf target).IsAmong gallery.written ∧
        ¬ (gallery.options.pathOf target).IsAmong (targets.map gallery.options.pathOf) := by
    intro target hTarget
    have hFresh := h'.fresh target hTarget
    rwa [h.options, h.written, Path.isAmong_append, not_or] at hFresh
  refine
    { plain := List.forall_mem_append.mpr ⟨h.plain, h'.plain⟩
      options := h'.options.trans h.options
      written := ?_
      fresh := ?_
      distinct := ?_
      keeps := h.keeps.trans h'.keeps
      shows := ?_
      others := ?_
      unchanged := ?_ }
  · rw [h'.written, h.written, hPaths, List.map_append, List.append_assoc]
  · -- fresh: what is new to the gallery between them is new to the first one
    intro target hTarget
    rcases List.mem_append.mp hTarget with hFirst | hSecond
    · exact h.fresh target hFirst
    · exact (hLater target hSecond).1
  · -- distinct
    rw [List.map_append, Path.distinct_append]
    refine ⟨h.distinct, hPaths ▸ h'.distinct, ?_⟩
    intro path hSecond
    obtain ⟨target, hTarget, rfl⟩ := List.mem_map.mp hSecond
    exact (hLater target hTarget).2
  · -- shows: the earlier charts are listed by now, so nothing later takes their files
    intro target hTarget
    rcases List.mem_append.mp hTarget with hFirst | hSecond
    · refine h'.shows_of_written (h.plain target hFirst) (h.shows target hFirst) ?_
      rw [h.options, h.written]
      exact List.mem_append_right _ (List.mem_map_of_mem hFirst)
    · exact h'.shows target hSecond
  · -- others
    intro place hElsewhere
    -- the place is not that of any of the charts, neither of the first nor of the others
    have hFirst := h.others place fun target hTarget hPlace =>
      hElsewhere target (List.mem_append_left _ hTarget) (h'.placeOf hPlace)
    have hSecond := h'.others place fun target hTarget =>
      hElsewhere target (List.mem_append_right _ hTarget)
    rw [h.trail_eq] at hSecond
    rcases hFirst with hSame | ⟨hTrail, hNone, hMade⟩
    · rwa [hSame] at hSecond
    · rcases hSecond with hSame' | ⟨-, hNone', -⟩
      · exact Or.inr ⟨hTrail, hNone, hSame'.trans hMade⟩
      · -- a directory that was made is not made again
        rw [hMade] at hNone'
        cases hNone'
  · intro hEmpty
    obtain ⟨hFirst, hSecond⟩ := List.append_eq_nil_iff.mp hEmpty
    rw [h'.unchanged hSecond, h.unchanged hFirst]

end Completes

/-! ## One chart -/

/-- A picture written into the output directory, once that is there, completes its chart. -/
theorem paint_completes {chart : Chart} {file : Option Path} (hPlain : chart.target.kind.IsPlain)
    (hNew : ¬ (gallery.options.pathOf chart.target).IsAmong gallery.written)
    (h : gallery.opened.paint (gallery.options.pathOf chart.target) chart = (gallery', .ok file)) :
    gallery.Completes [chart.target] gallery' := by
  obtain ⟨axes, files, hWrite, rfl⟩ := paint_ok h
  obtain ⟨place, hPlace, hFree, rfl⟩ := FileTree.write_eq_ok hWrite
  have hKeeps : gallery.opened.files.Keeps _ := FileTree.keeps_write hWrite
  have hOutside := FileTree.not_isPrefixOf_home hFree
  have hTarget := FileTree.placeOf_of_retains hKeeps.retains hPlace
  refine
    { plain := fun target hMem => by rw [List.mem_singleton.mp hMem]; exact hPlain
      options := rfl
      written := rfl
      fresh := fun target hMem => by rw [List.mem_singleton.mp hMem]; exact hNew
      distinct := Path.distinct_singleton _
      keeps := (FileTree.keeps_makeDirectories _ _).trans hKeeps
      shows := fun target hMem => ?_
      others := fun other hElsewhere => ?_
      unchanged := fun hEmpty => nomatch hEmpty }
  · rw [List.mem_singleton.mp hMem]
    exact ⟨place, axes, hTarget, FileTree.entryAt?_put_self _ hOutside⟩
  · have hOther : other ≠ place := by
      rintro rfl
      exact hElsewhere chart.target List.mem_cons_self hTarget
    rw [show (FileTree.put gallery.opened.files place _).entryAt? other =
      gallery.opened.files.entryAt? other from FileTree.entryAt?_put_of_ne _ hOther]
    -- elsewhere, only making the output directory can have changed something
    exact FileTree.grows_makeDirectories gallery.files gallery.options.directory.trimmed other

/-- A chart that is drawn is complete; one without points leaves everything as it was. -/
theorem draw_completes {chart : Chart} {file : Option Path} (hPlain : chart.target.kind.IsPlain)
    (h : gallery.draw chart = (gallery', .ok file)) :
    gallery.Completes (targetsOf [chart]) gallery' := by
  by_cases hPoints : chart.points.isEmpty = true
  · rw [targetsOf_cons_of_isEmpty hPoints]
    rw [draw, if_pos hPoints] at h
    rw [← (Prod.mk.inj h).1]
    exact Completes.refl gallery
  · rw [Bool.not_eq_true] at hPoints
    rw [targetsOf_cons_of_points hPoints]
    obtain ⟨hNew, -, -, hPaint⟩ := draw_eq_ok hPoints h
    rw [openedFor_pathOf hPlain] at hPaint
    exact paint_completes hPlain hNew hPaint

/-! ## All charts -/

/-- A run of charts of plain kinds that comes to its end completes all that have points. -/
theorem drawAll_completes {charts : List Chart}
    (hPlain : ∀ target ∈ targetsOf charts, target.kind.IsPlain)
    (h : gallery.drawAll charts = (gallery', .ok ())) :
    gallery.Completes (targetsOf charts) gallery' := by
  induction charts generalizing gallery with
  | nil =>
    rw [← (Prod.mk.inj h).1]
    exact Completes.refl gallery
  | cons chart charts ih =>
    rcases drawAll_cons_eq_ok h with ⟨hPoints, hDrawn⟩ | ⟨hPoints, next, file, hDraw, hDrawn⟩
    · rw [targetsOf_cons_of_isEmpty hPoints] at hPlain ⊢
      exact ih hPlain hDrawn
    · -- the first chart is complete, and so are the others behind it
      rw [targetsOf_cons_of_points hPoints, List.forall_mem_cons] at hPlain
      have hFirst := draw_completes hPlain.1 hDraw
      rw [← List.singleton_append, targetsOf_append]
      exact hFirst.trans (ih hPlain.2 hDrawn)

end Gallery

/-! ## The charts that samples give -/

/-- The charts of a host that have something to show: its voltages and its currents over time, or the
two curves of a sweep that has points. -/
def Drawing.shown (drawing : Drawing) (host : String) (samples : List Sample) : List ChartTarget :=
  match drawing with
  | .traces _ =>
    (if samples.any (·.field = .voltage) then [⟨host, .voltage⟩] else []) ++
      if samples.any (·.field = .current) then [⟨host, .current⟩] else []
  | .sweeps window =>
    if (Sweep.curve samples window).isEmpty then [] else [⟨host, .iv⟩, ⟨host, .pv⟩]

/-- The time charts of a host that have points are those that its samples give. -/
theorem targetsOf_trace {offset : Span} {host : String} {samples : List Sample} {trace : Trace}
    (h : Trace.ofSamples offset samples = .ok trace) :
    Gallery.targetsOf (trace.charts host) = (Drawing.traces offset).shown host samples := by
  obtain ⟨-, hVoltages, hCurrents⟩ := Trace.ofSamples_eq_ok_iff.mp h
  have hVoltage := hVoltages.isEmpty_eq
  have hCurrent := hCurrents.isEmpty_eq
  unfold Trace.charts Gallery.targetsOf Drawing.shown
  -- each series is empty or not, and so is its chart
  cases hV : samples.any (·.field = .voltage) <;> cases hC : samples.any (·.field = .current) <;>
    simp_all [Points.isEmpty]

/-- The time charts of all hosts that have points are those that the samples give. -/
theorem targetsOf_traceCharts {offset : Span} {groups : List (String × List Sample)}
    {charts : List Chart} (h : traceCharts offset groups = .ok charts) :
    Gallery.targetsOf charts =
      groups.flatMap fun (host, samples) => (Drawing.traces offset).shown host samples := by
  induction groups generalizing charts with
  | nil =>
    cases h
    rfl
  | cons group groups ih =>
    obtain ⟨host, samples⟩ := group
    obtain ⟨trace, rest, hTrace, hRest, rfl⟩ := traceCharts_cons_eq_ok h
    rw [Gallery.targetsOf_append, targetsOf_trace hTrace, ih hRest, List.flatMap_cons]

/-- So are the charts of their sweeps. -/
theorem targetsOf_sweepCharts (window : Span) (groups : List (String × List Sample)) :
    Gallery.targetsOf (sweepCharts window groups) =
      groups.flatMap fun (host, samples) => (Drawing.sweeps window).shown host samples := by
  induction groups with
  | nil => rfl
  | cons group groups ih =>
    obtain ⟨host, samples⟩ := group
    have hCurve : Gallery.targetsOf (curveCharts host (Sweep.curve samples window)) =
        (Drawing.sweeps window).shown host samples := by
      rw [Drawing.shown]
      -- the two charts of a curve have points, or neither has
      cases Sweep.curve samples window with
      | nil => rfl
      | cons point curve => rfl
    have hCharts : sweepCharts window ((host, samples) :: groups) =
        curveCharts host (Sweep.curve samples window) ++ sweepCharts window groups := rfl
    rw [hCharts, Gallery.targetsOf_append, hCurve, ih, List.flatMap_cons]

namespace Plan

variable {plan : Plan} {gallery : Gallery} {hosts : HostSeries}

/-- The charts that have something to show, host by host. -/
def shown (plan : Plan) (hosts : HostSeries) : List ChartTarget :=
  hosts.toList.flatMap fun (host, samples) => plan.drawing.shown host samples

/-- The charts of a plan that have points are those that the samples give. -/
theorem charts_shown {charts : List Chart} (h : plan.charts hosts = .ok charts) :
    Gallery.targetsOf charts = plan.shown hosts := by
  unfold Plan.charts at h
  unfold shown
  cases hDrawing : plan.drawing with
  | traces offset =>
    rw [hDrawing] at h
    exact targetsOf_traceCharts h
  | sweeps window =>
    rw [hDrawing] at h
    rw [← Except.ok.inj h]
    exact targetsOf_sweepCharts window hosts.toList

/-- A run that comes to its end has come through its check and every chart. -/
theorem completes_of_draw (h : (plan.draw gallery hosts).2 = .ok ()) :
    gallery.Completes (plan.shown hosts) (plan.draw gallery hosts).1 := by
  cases hCharts : plan.charts hosts with
  | error e =>
    rw [draw_of_charts_error hCharts] at h
    cases h
  | ok charts =>
    rw [draw_of_charts hCharts, Gallery.drawCharts] at h ⊢
    rw [← charts_shown hCharts]
    cases hCheck : gallery.check (Gallery.targetsOf charts) with
    | error e => simp [Gallery.drawRun, hCheck, Except.mapError] at h
    | ok _ =>
      -- the check has passed, so the run is what is drawn
      have hRun : gallery.drawRun charts = gallery.drawAll charts := by
        rw [Gallery.drawRun, hCheck]
      rw [hRun] at h ⊢
      rcases hDrawn : gallery.drawAll charts with ⟨after, e | _⟩
      · rw [hDrawn] at h
        cases h
      · exact Gallery.drawAll_completes (isPlain_of_charts hCharts) hDrawn

/-- **What a completed run leaves behind.** A run that comes to its end lists, behind what was listed
before, the files of the charts that have something to show, host by host, and no file twice. Each holds
the picture of its chart. Nothing else is changed, but that directories are made, where nothing was, for
the output directory and those that its path leads through. A run with nothing to show changes nothing. -/
theorem draw_completed (hDistinct : Path.Distinct gallery.written)
    (hEnd : (plan.draw gallery hosts).2 = .ok ()) :
    (plan.draw gallery hosts).1.written =
        gallery.written ++ (plan.shown hosts).map gallery.options.pathOf ∧
      Path.Distinct (plan.draw gallery hosts).1.written ∧
      (∀ target ∈ plan.shown hosts, (plan.draw gallery hosts).1.Shows target) ∧
      (∀ place,
        (∀ target ∈ plan.shown hosts, ¬ (plan.draw gallery hosts).1.PlaceOf place target) →
          (plan.draw gallery hosts).1.files.entryAt? place = gallery.files.entryAt? place ∨
            (place ∈ gallery.trail ∧ gallery.files.entryAt? place = none ∧
              (plan.draw gallery hosts).1.files.entryAt? place = some .directory)) ∧
      (plan.shown hosts = [] → (plan.draw gallery hosts).1 = gallery) := by
  have h := completes_of_draw hEnd
  refine ⟨h.written, ?_, h.shows, h.others, h.unchanged⟩
  rw [h.written, Path.distinct_append]
  refine ⟨hDistinct, h.distinct, ?_⟩
  -- what is listed in the run was new to what was listed before
  intro path hNew
  obtain ⟨target, hTarget, rfl⟩ := List.mem_map.mp hNew
  exact h.fresh target hTarget

/-- Two hosts, each with one voltage: two files in a directory that is made for them. -/
theorem draw_completed_unmoved :
    Path.Distinct (Gallery.new unmoved.options (.empty ["work"])).written ∧
      (unmoved.draw (.new unmoved.options (.empty ["work"])) (.ofList twoVoltages)).2 = .ok () ∧
      (unmoved.draw (.new unmoved.options (.empty ["work"])) (.ofList twoVoltages)).1.written =
        [.ofText "charts/a_voltage.png", .ofText "charts/b_voltage.png"] := by
  have hDistinct := (Gallery.Reached.new unmoved.options (.empty ["work"])).distinct
  have hEnd :
      (unmoved.draw (.new unmoved.options (.empty ["work"])) (.ofList twoVoltages)).2 = .ok () := by
    rw [draw_twoVoltages]
    decide +kernel
  refine ⟨hDistinct, hEnd, ?_⟩
  rw [(draw_completed hDistinct hEnd).1, shown, (HostSeries.holds_ofList twoVoltages).groups]
  decide +kernel

end Plan

end SolarCharts
