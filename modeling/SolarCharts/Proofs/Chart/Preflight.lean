import SolarCharts.Chart.Gallery
import SolarCharts.Proofs.Files.Rooted

/-!
# The check before a run of charts

`Gallery.check` goes through the charts of a run before anything is written, and looks at the files
as they are. `Gallery.drawAll` meets each chart with the files that the charts before it left: their
directories are made by then, and their own files are there. So the two can differ only where a chart
that the check passes has its file come into view while the run is under way.

* `draw_of_free` — a chart whose file is neither listed nor in the way is drawn, or the run stops for
  something that no name refuses.
* `drawAll_eq_checkAfter_iff` — the check and the run go through the charts side by side and end alike,
  unless the run `RunsInto` a file that the check passed.
* `blocks_of_drawAll` — where no kind has a slash in its name, all files lie in the output directory, and
  a run changes which of them are in the way only by making that directory.
* `runsInto_iff_overlooks` — so then what a run runs into is told before it, by the files as they are and
  as they are once the output directory is made.
* `drawAll_eq_check_iff` — the check and the run end alike, down to the file they name, exactly unless the
  run runs into a file, and what that takes.
-/

namespace SolarCharts

/-! ## File names -/

/-- The name of a kind has no slash, so it ends the name of a file and leads into no other directory. -/
def ChartKind.IsPlain (kind : ChartKind) : Prop := '/' ∉ kind.name.toList

instance (kind : ChartKind) : Decidable kind.IsPlain :=
  inferInstanceAs (Decidable ('/' ∉ kind.name.toList))

/-- The kinds that runs draw are plain. -/
theorem ChartKind.isPlain_of_standard {kind : ChartKind} (h : kind ∈ standard) : kind.IsPlain := by
  have hAll : ∀ kind ∈ standard, kind.IsPlain := by decide
  exact hAll kind h

/-- No slash is left in a text that file names can hold. -/
theorem slash_not_mem_sanitized (text : String) : '/' ∉ (sanitized text).toList := by
  rw [sanitized, String.toList_ofList, List.mem_map]
  rintro ⟨c, -, hSlash⟩
  split at hSlash
  · exact absurd hSlash (by decide)
  · -- a slash is among the characters that are replaced
    next hKept =>
    rw [hSlash] at hKept
    exact hKept (by decide)

/-- The file name of a chart of a plain kind is a single name, and none of a directory itself or of the
one above it. -/
theorem ChartTarget.ordinary_fileName {target : ChartTarget} (hPlain : target.kind.IsPlain) :
    Path.Ordinary target.fileName := by
  have hNe : ∀ name : String, name.length ≤ 4 → target.fileName ≠ name := by
    intro name hShort hEq
    -- the kind and the ending alone are longer than such a name
    have hLength : target.fileName.length =
        (sanitized target.host).length + 1 + target.kind.name.length + 4 := by
      simp only [fileName, String.length_append]
      rfl
    rw [hEq] at hLength
    omega
  refine ⟨?_, ?_, hNe ".." (by decide)⟩
  · simp only [fileName, String.toList_append, List.mem_append, not_or]
    exact ⟨⟨⟨slash_not_mem_sanitized _, by decide⟩, hPlain⟩, by decide⟩
  · rw [Path.stays, Bool.or_eq_false_iff, beq_eq_false_iff_ne, beq_eq_false_iff_ne]
    exact ⟨hNe "" (by decide), hNe "." (by decide)⟩

/-- An error that refuses a file for its name: it was there, or a chart of this run has it. -/
def ChartError.IsRefusal : ChartError → Prop
  | .outputExists _ | .duplicateOutput _ => True
  | _ => False

namespace Gallery

variable {gallery gallery' now : Gallery}

/-! ## Directories -/

/-- The gallery once the directory of a file is made, as far as it can be. -/
def openedFor (gallery : Gallery) (path : Path) : Gallery :=
  { gallery with files := (gallery.files.makeDirectories path.folder).1 }

/-- The gallery once its output directory is made. -/
def opened (gallery : Gallery) : Gallery :=
  { gallery with
    files := (gallery.files.makeDirectories gallery.options.directory.trimmed).1 }

/-- Whether the output directory is there. -/
def IsOpen (gallery : Gallery) : Prop := gallery.files.IsOpen gallery.options.directory.trimmed

/-- Where the output directory is there, nothing is left to make. -/
theorem IsOpen.opened_eq (h : gallery.IsOpen) : gallery.opened = gallery := by
  rw [opened, FileTree.IsOpen.makeDirectories_eq h]

/-- The charts of plain kinds lie in the output directory. -/
theorem openedFor_pathOf {target : ChartTarget} (hPlain : target.kind.IsPlain) :
    gallery.openedFor (gallery.options.pathOf target) = gallery.opened := by
  rw [openedFor, opened, ChartOptions.pathOf,
    FileTree.makeDirectories_folder_join _ _ (ChartTarget.ordinary_fileName hPlain)]

/-- The folder of a chart of a plain kind is open exactly if the output directory is. -/
theorem isOpen_folder_pathOf (gallery : Gallery) {target : ChartTarget}
    (hPlain : target.kind.IsPlain) :
    gallery.files.IsOpen (gallery.options.pathOf target).folder ↔ gallery.IsOpen :=
  FileTree.isOpen_folder_join _ _ (ChartTarget.ordinary_fileName hPlain)

/-- Making directories takes nothing from the files. -/
theorem keeps_openedFor (gallery : Gallery) (path : Path) :
    gallery.files.Keeps (gallery.openedFor path).files :=
  FileTree.keeps_makeDirectories gallery.files path.folder

/-- A file that is in the way stays in the way as long as nothing is taken from the files. -/
theorem blocks_of_keeps (hOptions : gallery'.options = gallery.options)
    (hKeeps : gallery.files.Keeps gallery'.files) {path : Path} (h : gallery.blocks path = true) :
    gallery'.blocks path = true := by
  rw [blocks, Bool.and_eq_true] at h ⊢
  rw [hOptions]
  exact ⟨FileTree.contains_of_keeps hKeeps h.1, h.2⟩

/-! ## Drawing one chart -/

/-- A path that is listed is refused first, whatever the files are. -/
theorem prepare_of_written {path : Path} (h : path.IsAmong gallery.written) :
    gallery.prepare path = (gallery, .error (.duplicateOutput path)) := by
  rw [prepare, if_pos h]

/-- A new path whose file is in the way is refused next. -/
theorem prepare_of_blocks {path : Path} (hNew : ¬ path.IsAmong gallery.written)
    (h : gallery.blocks path = true) :
    gallery.prepare path = (gallery, .error (.outputExists path)) := by
  rw [prepare, if_neg hNew, if_pos h]

/-- A file that is not refused is prepared by making its directory, or fails for that. -/
theorem prepare_of_free {path : Path} (hNew : ¬ path.IsAmong gallery.written)
    (hFree : gallery.blocks path = false) :
    (gallery.prepare path = (gallery.openedFor path, .ok ()) ∧
        (gallery.openedFor path).files.IsOpen path.folder) ∨
      ∃ e, ¬ e.IsRefusal ∧ gallery.prepare path = (gallery.openedFor path, .error e) := by
  rcases hMade : gallery.files.makeDirectories path.folder with ⟨files, made⟩
  -- what the directories come to is all that is left to go wrong
  cases made with
  | ok _ =>
    have hOpened : gallery.openedFor path = { gallery with files } := by rw [openedFor, hMade]
    refine Or.inl ⟨?_, ?_⟩
    · simp [prepare, hNew, hFree, hMade, hOpened]
    · rw [hOpened]
      exact FileTree.isOpen_of_makeDirectories hMade
  | error e =>
    refine Or.inr ⟨.noDirectory path.folder e, id, ?_⟩
    simp [prepare, hNew, hFree, hMade, openedFor]

/-- A file is prepared when it is not refused and its directory can be made. -/
theorem prepare_eq_ok {path : Path} (h : gallery.prepare path = (gallery', .ok ())) :
    ¬ path.IsAmong gallery.written ∧ gallery.blocks path = false ∧
      gallery' = gallery.openedFor path ∧ (gallery.openedFor path).files.IsOpen path.folder := by
  -- both refusals come before the directory is made
  by_cases hNew : path.IsAmong gallery.written
  · rw [prepare_of_written hNew] at h
    cases (Prod.mk.inj h).2
  · by_cases hFree : gallery.blocks path = true
    · rw [prepare_of_blocks hNew hFree] at h
      cases (Prod.mk.inj h).2
    · rw [Bool.not_eq_true] at hFree
      rcases prepare_of_free hNew hFree with ⟨hPrepare, hOpen⟩ | ⟨e, -, hPrepare⟩
      · rw [hPrepare] at h
        exact ⟨hNew, hFree, (Prod.mk.inj h).1.symm, hOpen⟩
      · rw [hPrepare] at h
        cases (Prod.mk.inj h).2

/-- Painting refuses no name: it fails for the values or for the file. -/
theorem paint_error {path : Path} {chart : Chart} {e : ChartError}
    (h : gallery.paint path chart = (gallery', .error e)) : ¬ e.IsRefusal := by
  -- either an axis has nothing to show, or the file cannot be written
  unfold paint at h
  split at h
  · obtain ⟨-, hError⟩ := Prod.mk.inj h
    rw [← Except.error.inj hError]
    exact id
  · split at h
    · obtain ⟨-, hError⟩ := Prod.mk.inj h
      rw [← Except.error.inj hError]
      exact id
    · simp at h

/-- A chart that is painted is the picture of it between the axes that its points have. -/
theorem paint_ok {path : Path} {chart : Chart} {file : Option Path}
    (h : gallery.paint path chart = (gallery', .ok file)) :
    ∃ axes files, gallery.files.write path
        (.picture (gallery.options.picture chart.target axes)) = .ok files ∧
      gallery' = { gallery with files, written := gallery.written ++ [path] } := by
  unfold paint at h
  split at h
  · simp at h
  · next axes _ =>
    split at h
    · simp at h
    · next files hWrite => exact ⟨axes, files, hWrite, (Prod.mk.inj h).1.symm⟩

/-- A chart with points whose path is listed is refused as a duplicate, and nothing is done. -/
theorem draw_of_written {chart : Chart} (hPoints : chart.points.isEmpty = false)
    (h : (gallery.options.pathOf chart.target).IsAmong gallery.written) :
    gallery.draw chart =
      (gallery, .error (.duplicateOutput (gallery.options.pathOf chart.target))) := by
  simp [draw, hPoints, prepare_of_written h]

/-- A chart with points whose file is in the way is refused, and nothing is done. -/
theorem draw_of_blocks {chart : Chart} (hPoints : chart.points.isEmpty = false)
    (hNew : ¬ (gallery.options.pathOf chart.target).IsAmong gallery.written)
    (h : gallery.blocks (gallery.options.pathOf chart.target) = true) :
    gallery.draw chart = (gallery, .error (.outputExists (gallery.options.pathOf chart.target))) := by
  simp [draw, hPoints, prepare_of_blocks hNew h]

/-- A chart with points whose file is not refused is drawn, or the run fails for something that no name
refuses. -/
theorem draw_of_free {chart : Chart} (hPoints : chart.points.isEmpty = false)
    (hNew : ¬ (gallery.options.pathOf chart.target).IsAmong gallery.written)
    (hFree : gallery.blocks (gallery.options.pathOf chart.target) = false) :
    (∃ gallery' file, gallery.draw chart = (gallery', .ok file)) ∨
      ∃ gallery' e, gallery.draw chart = (gallery', .error e) ∧ ¬ e.IsRefusal := by
  rcases prepare_of_free hNew hFree with ⟨hPrepare, -⟩ | ⟨e, hRefusal, hPrepare⟩
  · have hDraw : gallery.draw chart = (gallery.openedFor (gallery.options.pathOf chart.target)).paint
        (gallery.options.pathOf chart.target) chart := by
      simp [draw, hPoints, hPrepare]
    rcases hPaint : (gallery.openedFor (gallery.options.pathOf chart.target)).paint
      (gallery.options.pathOf chart.target) chart with ⟨gallery', e | file⟩
    · exact Or.inr ⟨gallery', e, hDraw.trans hPaint, paint_error hPaint⟩
    · exact Or.inl ⟨gallery', file, hDraw.trans hPaint⟩
  · refine Or.inr ⟨gallery.openedFor (gallery.options.pathOf chart.target), e, ?_, hRefusal⟩
    simp [draw, hPoints, hPrepare]

/-- A chart with points that is drawn is painted once its directory is made, and its file was neither
listed nor in the way. -/
theorem draw_eq_ok {chart : Chart} {file : Option Path} (hPoints : chart.points.isEmpty = false)
    (h : gallery.draw chart = (gallery', .ok file)) :
    ¬ (gallery.options.pathOf chart.target).IsAmong gallery.written ∧
      gallery.blocks (gallery.options.pathOf chart.target) = false ∧
      (gallery.openedFor (gallery.options.pathOf chart.target)).files.IsOpen
        (gallery.options.pathOf chart.target).folder ∧
      (gallery.openedFor (gallery.options.pathOf chart.target)).paint
        (gallery.options.pathOf chart.target) chart = (gallery', .ok file) := by
  rw [draw, if_neg (by simp [hPoints])] at h
  dsimp only at h
  split at h
  · cases (Prod.mk.inj h).2
  · next prepared hPrepare =>
    obtain ⟨hNew, hFree, rfl, hOpen⟩ := prepare_eq_ok hPrepare
    exact ⟨hNew, hFree, hOpen, h⟩

/-- What drawing a chart leaves: one more file is listed, and nothing is taken from the files. -/
structure Draws (gallery : Gallery) (target : ChartTarget) (gallery' : Gallery) : Prop where
  options : gallery'.options = gallery.options
  written : gallery'.written = gallery.written ++ [gallery.options.pathOf target]
  keeps : gallery.files.Keeps gallery'.files

/-- A chart with points that is drawn is listed, and nothing is taken from the files. -/
theorem draws_of_draw {chart : Chart} {file : Option Path} (hPoints : chart.points.isEmpty = false)
    (h : gallery.draw chart = (gallery', .ok file)) : gallery.Draws chart.target gallery' := by
  obtain ⟨-, -, -, hPaint⟩ := draw_eq_ok hPoints h
  obtain ⟨axes, files, hWrite, rfl⟩ := paint_ok hPaint
  refine ⟨rfl, rfl, ?_⟩
  -- making the directory takes nothing, and neither does writing the file
  exact (gallery.keeps_openedFor _).trans (FileTree.keeps_write hWrite)

/-! ## The charts of a run -/

theorem drawAll_cons_of_isEmpty {chart : Chart} (h : chart.points.isEmpty = true)
    (charts : List Chart) : gallery.drawAll (chart :: charts) = gallery.drawAll charts := by
  simp [drawAll, draw, h]

theorem drawAll_cons_of_draw {chart : Chart} {file : Option Path}
    (h : gallery.draw chart = (gallery', .ok file)) (charts : List Chart) :
    gallery.drawAll (chart :: charts) = gallery'.drawAll charts := by
  rw [drawAll, h]

theorem drawAll_cons_of_error {chart : Chart} {e : ChartError}
    (h : gallery.draw chart = (gallery', .error e)) (charts : List Chart) :
    gallery.drawAll (chart :: charts) = (gallery', .error e) := by
  rw [drawAll, h]

/-- How a run comes to its end: a chart without points is passed over, and one with points is drawn. -/
theorem drawAll_cons_eq_ok {chart : Chart} {charts : List Chart}
    (h : gallery.drawAll (chart :: charts) = (gallery', .ok ())) :
    (chart.points.isEmpty = true ∧ gallery.drawAll charts = (gallery', .ok ())) ∨
      (chart.points.isEmpty = false ∧ ∃ next file, gallery.draw chart = (next, .ok file) ∧
        next.drawAll charts = (gallery', .ok ())) := by
  by_cases hPoints : chart.points.isEmpty = true
  · rw [drawAll_cons_of_isEmpty hPoints] at h
    exact Or.inl ⟨hPoints, h⟩
  · rw [Bool.not_eq_true] at hPoints
    rcases hDraw : gallery.draw chart with ⟨next, e | file⟩
    · rw [drawAll_cons_of_error hDraw] at h
      cases (Prod.mk.inj h).2
    · rw [drawAll_cons_of_draw hDraw] at h
      exact Or.inr ⟨hPoints, next, file, rfl, h⟩

/-- A run that fails fails with whatever charts come after. -/
theorem drawAll_append_of_error {before : List Chart} {e : ChartError}
    (h : (gallery.drawAll before).2 = .error e) (charts : List Chart) :
    (gallery.drawAll (before ++ charts)).2 = .error e := by
  induction before generalizing gallery with
  | nil => cases h
  | cons chart before ih =>
    rw [List.cons_append]
    -- the first chart fails itself, or is drawn and one of the others fails
    rcases hDraw : gallery.draw chart with ⟨next, e' | file⟩
    · rw [drawAll_cons_of_error hDraw] at h ⊢
      exact h
    · rw [drawAll_cons_of_draw hDraw] at h ⊢
      exact ih h

theorem targetsOf_cons_of_isEmpty {chart : Chart} (h : chart.points.isEmpty = true)
    (charts : List Chart) : targetsOf (chart :: charts) = targetsOf charts := by
  simp [targetsOf, h]

theorem targetsOf_cons_of_points {chart : Chart} (h : chart.points.isEmpty = false)
    (charts : List Chart) : targetsOf (chart :: charts) = chart.target :: targetsOf charts := by
  simp [targetsOf, h]

theorem targetsOf_append (charts more : List Chart) :
    targetsOf (charts ++ more) = targetsOf charts ++ targetsOf more := by
  simp [targetsOf]

/-- The chart of a target among those of a run, with the charts before it. -/
theorem exists_split_of_targetsOf {charts : List Chart} {before after : List ChartTarget}
    {target : ChartTarget} (h : targetsOf charts = before ++ target :: after) :
    ∃ front chart back, charts = front ++ chart :: back ∧ targetsOf front = before ∧
      chart.target = target ∧ chart.points.isEmpty = false := by
  rw [targetsOf, List.map_eq_append_iff] at h
  obtain ⟨first, second, hFilter, hBefore, hSecond⟩ := h
  obtain ⟨chart, rest, rfl, hTarget, -⟩ := List.map_eq_cons_iff.mp hSecond
  obtain ⟨front, others, rfl, hFront, hOthers⟩ := List.filter_eq_append_iff.mp hFilter
  obtain ⟨skipped, back, rfl, hSkipped, hPoints, -⟩ := List.filter_eq_cons_iff.mp hOthers
  -- the charts that are skipped have no points, so they go with those in front
  refine ⟨front ++ skipped, chart, back, by rw [List.append_assoc], ?_, hTarget, by simpa using hPoints⟩
  have hNone : targetsOf skipped = [] := by
    rw [targetsOf, List.map_eq_nil_iff, List.filter_eq_nil_iff]
    exact hSkipped
  rw [targetsOf_append, hNone, List.append_nil, targetsOf, hFront, hBefore]

/-- A run without points does nothing. -/
theorem drawAll_of_targetsOf_eq_nil {charts : List Chart} (h : targetsOf charts = []) :
    gallery.drawAll charts = (gallery, .ok ()) := by
  induction charts with
  | nil => rfl
  | cons chart charts ih =>
    by_cases hPoints : chart.points.isEmpty = true
    · rw [targetsOf_cons_of_isEmpty hPoints] at h
      rw [drawAll_cons_of_isEmpty hPoints, ih h]
    · rw [targetsOf_cons_of_points (by simpa using hPoints)] at h
      cases h

/-! ## The check of a run -/

theorem checkAfter_of_seen {seen : List Path} {target : ChartTarget}
    (h : (gallery.options.pathOf target).IsAmong seen) (targets : List ChartTarget) :
    gallery.checkAfter seen (target :: targets) =
      .error (.duplicateOutput (gallery.options.pathOf target)) := by
  simp [checkAfter, h]

theorem checkAfter_of_blocks {seen : List Path} {target : ChartTarget}
    (hNew : ¬ (gallery.options.pathOf target).IsAmong seen)
    (h : gallery.blocks (gallery.options.pathOf target) = true) (targets : List ChartTarget) :
    gallery.checkAfter seen (target :: targets) =
      .error (.outputExists (gallery.options.pathOf target)) := by
  simp [checkAfter, hNew, h]

theorem checkAfter_of_free {seen : List Path} {target : ChartTarget}
    (hNew : ¬ (gallery.options.pathOf target).IsAmong seen)
    (hFree : gallery.blocks (gallery.options.pathOf target) = false) (targets : List ChartTarget) :
    gallery.checkAfter seen (target :: targets) =
      gallery.checkAfter (gallery.options.pathOf target :: seen) targets := by
  simp [checkAfter, hNew, hFree]

/-- A chart that the check passes is new and not in the way, and the check goes on behind it. -/
theorem checkAfter_eq_ok {seen : List Path} {target : ChartTarget} {targets : List ChartTarget}
    (h : gallery.checkAfter seen (target :: targets) = .ok ()) :
    ¬ (gallery.options.pathOf target).IsAmong seen ∧
      gallery.blocks (gallery.options.pathOf target) = false ∧
      gallery.checkAfter (gallery.options.pathOf target :: seen) targets = .ok () := by
  by_cases hNew : (gallery.options.pathOf target).IsAmong seen
  · rw [checkAfter_of_seen hNew] at h
    cases h
  · by_cases hFree : gallery.blocks (gallery.options.pathOf target) = true
    · rw [checkAfter_of_blocks hNew hFree] at h
      cases h
    · rw [Bool.not_eq_true] at hFree
      rw [checkAfter_of_free hNew hFree] at h
      exact ⟨hNew, hFree, h⟩

/-- What the check passes behind other charts shares its path with none of them and with none seen
before, and is not in the way. -/
theorem checkAfter_append_eq_ok {seen : List Path} {before : List ChartTarget} {target : ChartTarget}
    (h : gallery.checkAfter seen (before ++ [target]) = .ok ()) :
    gallery.checkAfter seen before = .ok () ∧
      ¬ (gallery.options.pathOf target).IsAmong (before.map gallery.options.pathOf) ∧
      ¬ (gallery.options.pathOf target).IsAmong seen ∧
      gallery.blocks (gallery.options.pathOf target) = false := by
  induction before generalizing seen with
  -- the last chart alone is checked against what was seen
  | nil =>
    obtain ⟨hNew, hFree, -⟩ := checkAfter_eq_ok h
    exact ⟨rfl, Path.not_isAmong_nil, hNew, hFree⟩
  | cons first before ih =>
    obtain ⟨hFirst, hFirstFree, hRest⟩ := checkAfter_eq_ok h
    obtain ⟨hBefore, hOther, hNew, hFree⟩ := ih hRest
    -- what is new behind the first chart is neither its path nor one seen before
    rw [Path.isAmong_cons, not_or] at hNew
    refine ⟨(checkAfter_of_free hFirst hFirstFree before).trans hBefore, ?_, hNew.2, hFree⟩
    rw [List.map_cons, Path.isAmong_cons, not_or]
    exact ⟨hNew.1, hOther⟩

/-- A check never ends with the file in the way that it has seen: that would be a duplicate. -/
theorem not_isAmong_of_checkAfter {seen : List Path} {targets : List ChartTarget} {path : Path}
    (h : gallery.checkAfter seen targets = .error (.outputExists path)) : ¬ path.IsAmong seen := by
  induction targets generalizing seen with
  | nil => simp [checkAfter] at h
  | cons target targets ih =>
    by_cases hNew : (gallery.options.pathOf target).IsAmong seen
    · simp [checkAfter_of_seen hNew] at h
    · by_cases hFree : gallery.blocks (gallery.options.pathOf target) = true
      · rw [checkAfter_of_blocks hNew hFree] at h
        obtain rfl := ChartError.outputExists.inj (Except.error.inj h)
        exact hNew
      · -- what was not seen together with this path was not seen before it
        rw [checkAfter_of_free hNew (by simpa using hFree)] at h
        exact fun hAmong => ih h (Path.isAmong_cons.mpr (Or.inr hAmong))

/-! ## The check and the run side by side -/

/-- While charts are drawn from one gallery on, one of them has its file in the way, and the check of
another gallery passes it behind the charts before it. -/
def Meets (gallery now : Gallery) (seen : List Path) (charts : List Chart) : Prop :=
  ∃ before chart after between, charts = before ++ chart :: after ∧
    now.drawAll before = (between, .ok ()) ∧ chart.points.isEmpty = false ∧
      gallery.checkAfter seen (targetsOf before ++ [chart.target]) = .ok () ∧
        between.blocks (gallery.options.pathOf chart.target) = true

theorem not_meets_nil (seen : List Path) : ¬ gallery.Meets now seen [] := by
  rintro ⟨_ | ⟨first, before⟩, chart, after, between, hSplit, -⟩
  · cases hSplit
  · cases hSplit

/-- A chart without points is not the one that meets a file, and is passed over on the way there. -/
theorem meets_cons_of_isEmpty {seen : List Path} {chart : Chart} (h : chart.points.isEmpty = true)
    (charts : List Chart) :
    gallery.Meets now seen (chart :: charts) ↔ gallery.Meets now seen charts := by
  constructor
  · rintro ⟨_ | ⟨first, before⟩, met, after, between, hSplit, hDrawn, hPoints, hCheck, hBlocks⟩
    · obtain ⟨rfl, -⟩ := List.cons.inj hSplit
      -- the chart that meets a file has points
      rw [h] at hPoints
      cases hPoints
    · obtain ⟨rfl, hRest⟩ := List.cons.inj hSplit
      rw [drawAll_cons_of_isEmpty h] at hDrawn
      rw [targetsOf_cons_of_isEmpty h] at hCheck
      exact ⟨before, met, after, between, hRest, hDrawn, hPoints, hCheck, hBlocks⟩
  · rintro ⟨before, met, after, between, hRest, hDrawn, hPoints, hCheck, hBlocks⟩
    refine ⟨chart :: before, met, after, between, by rw [hRest, List.cons_append], ?_, hPoints, ?_,
      hBlocks⟩
    · rw [drawAll_cons_of_isEmpty h]
      exact hDrawn
    · rw [targetsOf_cons_of_isEmpty h]
      exact hCheck

/-- A check that stops at the first chart passes none. -/
theorem not_meets_of_rejected {seen : List Path} {chart : Chart} {e : ChartError}
    (hPoints : chart.points.isEmpty = false)
    (h : ∀ more, gallery.checkAfter seen (chart.target :: more) = .error e) (charts : List Chart) :
    ¬ gallery.Meets now seen (chart :: charts) := by
  rintro ⟨_ | ⟨first, before⟩, met, after, between, hSplit, -, -, hCheck, -⟩
  · obtain ⟨rfl, -⟩ := List.cons.inj hSplit
    rw [targetsOf, List.filter_nil, List.map_nil, List.nil_append, h] at hCheck
    cases hCheck
  · obtain ⟨rfl, -⟩ := List.cons.inj hSplit
    rw [targetsOf_cons_of_points hPoints, List.cons_append, h] at hCheck
    cases hCheck

/-- Where the first chart is passed and drawn, only the others are left to meet a file. -/
theorem meets_cons_of_draw {seen : List Path} {chart : Chart} {file : Option Path}
    (hPoints : chart.points.isEmpty = false)
    (hNew : ¬ (gallery.options.pathOf chart.target).IsAmong seen)
    (hFree : gallery.blocks (gallery.options.pathOf chart.target) = false)
    (hFreeNow : now.blocks (gallery.options.pathOf chart.target) = false)
    (hDraw : now.draw chart = (gallery', .ok file)) (charts : List Chart) :
    gallery.Meets now seen (chart :: charts) ↔
      gallery.Meets gallery' (gallery.options.pathOf chart.target :: seen) charts := by
  constructor
  · rintro ⟨_ | ⟨first, before⟩, met, after, between, hSplit, hDrawn, hMet, hCheck, hBlocks⟩
    · obtain ⟨rfl, -⟩ := List.cons.inj hSplit
      -- the first chart itself meets no file, for its own is not in the way
      rw [← (Prod.mk.inj hDrawn).1, hFreeNow] at hBlocks
      cases hBlocks
    · obtain ⟨rfl, hRest⟩ := List.cons.inj hSplit
      rw [drawAll_cons_of_draw hDraw] at hDrawn
      rw [targetsOf_cons_of_points hPoints, List.cons_append, checkAfter_of_free hNew hFree] at hCheck
      exact ⟨before, met, after, between, hRest, hDrawn, hMet, hCheck, hBlocks⟩
  · rintro ⟨before, met, after, between, hRest, hDrawn, hMet, hCheck, hBlocks⟩
    refine ⟨chart :: before, met, after, between, by rw [hRest, List.cons_append], ?_, hMet, ?_,
      hBlocks⟩
    · rw [drawAll_cons_of_draw hDraw]
      exact hDrawn
    · rw [targetsOf_cons_of_points hPoints, List.cons_append, checkAfter_of_free hNew hFree]
      exact hCheck

/-- **The check and the run side by side.** The check looks at the files of one gallery, and the run goes
on from a later one, in which nothing is taken from these files and what the check has seen is listed.
Where nothing but a name stops the run, both end alike, unless the run meets a file that the check
passes. -/
theorem drawAll_eq_checkAfter_iff {seen : List Path} {charts : List Chart}
    (hOptions : now.options = gallery.options)
    (hSeen : ∀ path : Path, path.IsAmong now.written ↔ path.IsAmong seen)
    (hKeeps : gallery.files.Keeps now.files)
    (hDrawn : ∀ e, (now.drawAll charts).2 = .error e → e.IsRefusal) :
    (now.drawAll charts).2 = gallery.checkAfter seen (targetsOf charts) ↔
      ¬ gallery.Meets now seen charts := by
  induction charts generalizing now seen with
  | nil => exact iff_of_true rfl (not_meets_nil seen)
  | cons chart charts ih =>
    by_cases hPoints : chart.points.isEmpty = true
    · -- without points it is neither drawn nor checked
      rw [drawAll_cons_of_isEmpty hPoints] at hDrawn ⊢
      rw [targetsOf_cons_of_isEmpty hPoints, meets_cons_of_isEmpty hPoints]
      exact ih hOptions hSeen hKeeps hDrawn
    · rw [Bool.not_eq_true] at hPoints
      rw [targetsOf_cons_of_points hPoints]
      have hPath : now.options.pathOf chart.target = gallery.options.pathOf chart.target := by
        rw [hOptions]
      by_cases hNew : (gallery.options.pathOf chart.target).IsAmong seen
      · -- both refuse a path that is listed
        have hListed : (now.options.pathOf chart.target).IsAmong now.written := by
          rwa [hPath, hSeen]
        refine iff_of_true ?_ (not_meets_of_rejected hPoints (checkAfter_of_seen hNew) charts)
        rw [checkAfter_of_seen hNew, drawAll_cons_of_error (draw_of_written hPoints hListed), hPath]
      · have hUnlisted : ¬ (now.options.pathOf chart.target).IsAmong now.written := by
          rwa [hPath, hSeen]
        by_cases hFreeNow : now.blocks (gallery.options.pathOf chart.target) = true
        · have hRun : (now.drawAll (chart :: charts)).2 =
              .error (.outputExists (gallery.options.pathOf chart.target)) := by
            have hBlocks : now.blocks (now.options.pathOf chart.target) = true := by rwa [hPath]
            rw [drawAll_cons_of_error (draw_of_blocks hPoints hUnlisted hBlocks), hPath]
          rw [hRun]
          by_cases hFree : gallery.blocks (gallery.options.pathOf chart.target) = true
          · -- what was in the way before is found by both
            refine iff_of_true ?_ (not_meets_of_rejected hPoints (checkAfter_of_blocks hNew hFree) charts)
            rw [checkAfter_of_blocks hNew hFree]
          · rw [Bool.not_eq_true] at hFree
            -- the check goes on, and cannot end with a file that it has seen by then
            rw [checkAfter_of_free hNew hFree]
            refine iff_of_false (fun hEq => ?_) (not_not_intro ?_)
            · exact not_isAmong_of_checkAfter hEq.symm (Path.isAmong_of_mem List.mem_cons_self)
            · exact ⟨[], chart, charts, now, rfl, rfl, hPoints, checkAfter_of_free hNew hFree [], hFreeNow⟩
        · -- what is free now was free before, since nothing was taken away
          have hFree : gallery.blocks (gallery.options.pathOf chart.target) = false := by
            by_contra hBlocks
            exact hFreeNow (blocks_of_keeps hOptions hKeeps (by simpa using hBlocks))
          rw [Bool.not_eq_true, ← hPath] at hFreeNow
          rcases draw_of_free hPoints hUnlisted hFreeNow with
            ⟨next, file, hDraw⟩ | ⟨next, e, hDraw, hRefusal⟩
          · have hDraws := draws_of_draw hPoints hDraw
            rw [drawAll_cons_of_draw hDraw] at hDrawn ⊢
            rw [hPath] at hFreeNow
            rw [checkAfter_of_free hNew hFree, meets_cons_of_draw hPoints hNew hFree hFreeNow hDraw]
            -- the run lists the path that the check has seen, so they are side by side again
            refine ih (hDraws.options.trans hOptions) (fun path => ?_) (hKeeps.trans hDraws.keeps) hDrawn
            rw [hDraws.written, Path.isAmong_append, Path.isAmong_singleton, Path.isAmong_cons, hSeen,
              hPath, or_comm]
          · -- what stopped the run is no refusal
            have hError : (now.drawAll (chart :: charts)).2 = .error e := by
              rw [drawAll_cons_of_error hDraw]
            exact absurd (hDrawn e hError) hRefusal

/-- A run runs into a file: the check passes a chart of it behind those before it, and once these are
drawn its file is in the way. -/
def RunsInto (gallery : Gallery) (charts : List Chart) : Prop :=
  gallery.Meets gallery gallery.written charts

/-- A run that nothing but a name stops ends as its check says, unless it runs into a file. -/
theorem drawAll_eq_check_iff_not_runsInto {charts : List Chart}
    (hDrawn : ∀ e, (gallery.drawAll charts).2 = .error e → e.IsRefusal) :
    (gallery.drawAll charts).2 = gallery.check (targetsOf charts) ↔ ¬ gallery.RunsInto charts :=
  drawAll_eq_checkAfter_iff rfl (fun _ => Iff.rfl) (FileTree.Keeps.refl _) hDrawn

/-- A run does not change its options. -/
theorem options_drawAll {charts : List Chart} (h : gallery.drawAll charts = (gallery', .ok ())) :
    gallery'.options = gallery.options := by
  induction charts generalizing gallery with
  | nil => rw [← (Prod.mk.inj h).1]
  | cons chart charts ih =>
    rcases drawAll_cons_eq_ok h with ⟨-, hRest⟩ | ⟨hPoints, next, file, hDraw, hRest⟩
    · exact ih hRest
    · exact (ih hRest).trans (draws_of_draw hPoints hDraw).options

/-- More charts at the end do not keep a run from what it runs into. -/
theorem RunsInto.append {charts : List Chart} (h : gallery.RunsInto charts) (more : List Chart) :
    gallery.RunsInto (charts ++ more) := by
  obtain ⟨before, chart, after, between, rfl, hMet⟩ := h
  exact ⟨before, chart, after ++ more, between, by rw [List.append_assoc, List.cons_append], hMet⟩

/-- A run that may replace files runs into none. -/
theorem RunsInto.force_eq_false {charts : List Chart} (h : gallery.RunsInto charts) :
    gallery.options.force = false := by
  obtain ⟨before, chart, after, between, -, hDrawn, -, -, hBlocks⟩ := h
  rw [blocks, options_drawAll hDrawn, Bool.and_eq_true] at hBlocks
  simpa using hBlocks.2

/-! ## Charts of plain kinds -/

/-- A chart of a plain kind that is drawn leaves the output directory open, and no other file of it comes
or goes but by making it. -/
theorem blocks_of_draw {chart : Chart} {file : Option Path} (hPlain : chart.target.kind.IsPlain)
    (hPoints : chart.points.isEmpty = false) (h : gallery.draw chart = (gallery', .ok file)) :
    gallery'.IsOpen ∧ ∀ other : ChartTarget, other.kind.IsPlain →
      gallery.options.pathOf other ≠ gallery.options.pathOf chart.target →
        gallery'.blocks (gallery.options.pathOf other) =
          gallery.opened.blocks (gallery.options.pathOf other) := by
  obtain ⟨-, -, hOpen, hPaint⟩ := draw_eq_ok hPoints h
  rw [openedFor_pathOf hPlain] at hOpen hPaint
  have hIsOpen : gallery.opened.IsOpen := (gallery.opened.isOpen_folder_pathOf hPlain).mp hOpen
  obtain ⟨axes, files, hWrite, rfl⟩ := paint_ok hPaint
  -- painting comes after the directory is made, and writes one file into it
  refine ⟨FileTree.IsOpen.of_retains hIsOpen (FileTree.keeps_write hWrite).retains, ?_⟩
  intro other hOther hNe
  -- in one directory, another path is another name
  have hName : other.fileName ≠ chart.target.fileName := fun hEq => hNe (by
    rw [ChartOptions.pathOf, hEq, ChartOptions.pathOf])
  have hContains := FileTree.contains_write_of_ne hIsOpen (ChartTarget.ordinary_fileName hPlain)
    (ChartTarget.ordinary_fileName hOther) hName hWrite
  simp only [Gallery.blocks, ChartOptions.pathOf]
  rw [show (opened gallery).options = gallery.options from rfl] at hContains ⊢
  rw [hContains]

/-- In an output directory that is there, a run of charts of plain kinds leaves every other file as much
in the way as it was. -/
theorem blocks_of_drawAll {charts : List Chart} (hOpen : gallery.IsOpen)
    (hPlain : ∀ target ∈ targetsOf charts, target.kind.IsPlain)
    (h : gallery.drawAll charts = (gallery', .ok ())) {other : ChartTarget}
    (hOther : other.kind.IsPlain)
    (hNew : gallery.options.pathOf other ∉ (targetsOf charts).map gallery.options.pathOf) :
    gallery'.blocks (gallery.options.pathOf other) =
      gallery.blocks (gallery.options.pathOf other) := by
  induction charts generalizing gallery with
  | nil => rw [← (Prod.mk.inj h).1]
  | cons chart charts ih =>
    rcases drawAll_cons_eq_ok h with ⟨hPoints, hDrawn⟩ | ⟨hPoints, next, file, hDraw, hDrawn⟩
    · rw [targetsOf_cons_of_isEmpty hPoints] at hPlain hNew
      exact ih hOpen hPlain hDrawn hNew
    · rw [targetsOf_cons_of_points hPoints, List.forall_mem_cons] at hPlain
      rw [targetsOf_cons_of_points hPoints, List.map_cons, List.mem_cons, not_or] at hNew
      -- the first chart leaves the directory open for the others, and no other file of it changes
      obtain ⟨hOpen', hBlocks⟩ := blocks_of_draw hPlain.1 hPoints hDraw
      have hOptions := (draws_of_draw hPoints hDraw).options
      have hRest := ih hOpen' hPlain.2 hDrawn (by rw [hOptions]; exact hNew.2)
      rw [hOptions] at hRest
      rw [hRest, hBlocks other hOther hNew.1, hOpen.opened_eq]

/-- A run that has drawn charts of plain kinds finds the other files as they are once the output
directory is made. -/
theorem blocks_of_drawAll_opened {charts : List Chart} (hSome : targetsOf charts ≠ [])
    (hPlain : ∀ target ∈ targetsOf charts, target.kind.IsPlain)
    (h : gallery.drawAll charts = (gallery', .ok ())) {other : ChartTarget}
    (hOther : other.kind.IsPlain)
    (hNew : gallery.options.pathOf other ∉ (targetsOf charts).map gallery.options.pathOf) :
    gallery'.blocks (gallery.options.pathOf other) =
      gallery.opened.blocks (gallery.options.pathOf other) := by
  induction charts generalizing gallery with
  | nil => exact absurd rfl hSome
  | cons chart charts ih =>
    rcases drawAll_cons_eq_ok h with ⟨hPoints, hDrawn⟩ | ⟨hPoints, next, file, hDraw, hDrawn⟩
    · rw [targetsOf_cons_of_isEmpty hPoints] at hSome hPlain hNew
      exact ih hSome hPlain hDrawn hNew
    · rw [targetsOf_cons_of_points hPoints, List.forall_mem_cons] at hPlain
      rw [targetsOf_cons_of_points hPoints, List.map_cons, List.mem_cons, not_or] at hNew
      -- the first chart opens the output directory, and the others find it open
      obtain ⟨hOpen, hBlocks⟩ := blocks_of_draw hPlain.1 hPoints hDraw
      have hOptions := (draws_of_draw hPoints hDraw).options
      have hRest := blocks_of_drawAll hOpen hPlain.2 hDrawn hOther (by rw [hOptions]; exact hNew.2)
      rw [hOptions] at hRest
      rw [hRest, hBlocks other hOther hNew.1]

/-- A run overlooks a file: a chart after the first passes the check, and once the output directory is
made its file is in the way. -/
def Overlooks (gallery : Gallery) (targets : List ChartTarget) : Prop :=
  ∃ before target after, targets = before ++ target :: after ∧ before ≠ [] ∧
    gallery.check (before ++ [target]) = .ok () ∧
      gallery.opened.blocks (gallery.options.pathOf target) = true

/-- What a run of charts of plain kinds runs into is what it overlooks. -/
theorem RunsInto.overlooks {charts : List Chart} (h : gallery.RunsInto charts)
    (hPlain : ∀ target ∈ targetsOf charts, target.kind.IsPlain) :
    gallery.Overlooks (targetsOf charts) := by
  obtain ⟨before, chart, after, between, rfl, hDrawn, hPoints, hCheck, hBlocks⟩ := h
  obtain ⟨-, hOther, -, hFree⟩ := checkAfter_append_eq_ok hCheck
  have hSplit : targetsOf (before ++ chart :: after) =
      targetsOf before ++ chart.target :: targetsOf after := by
    rw [targetsOf_append, targetsOf_cons_of_points hPoints]
  rw [hSplit] at hPlain ⊢
  have hNew : gallery.options.pathOf chart.target ∉
      (targetsOf before).map gallery.options.pathOf := fun hMem => hOther (Path.isAmong_of_mem hMem)
  have hSome : targetsOf before ≠ [] := by
    intro hNone
    -- without charts before it the files are those that the check looks at
    rw [drawAll_of_targetsOf_eq_nil hNone] at hDrawn
    rw [← (Prod.mk.inj hDrawn).1, hFree] at hBlocks
    cases hBlocks
  -- between the check and the chart nothing but the output directory came in
  refine ⟨targetsOf before, chart.target, targetsOf after, rfl, hSome, hCheck, ?_⟩
  rw [← blocks_of_drawAll_opened hSome (fun target hTarget => hPlain target (List.mem_append_left _ hTarget))
    hDrawn (hPlain chart.target (List.mem_append_right _ List.mem_cons_self)) hNew]
  exact hBlocks

/-- Conversely, a run of charts of plain kinds that overlooks a file runs into one. -/
theorem Overlooks.runsInto {charts : List Chart} (h : gallery.Overlooks (targetsOf charts))
    (hPlain : ∀ target ∈ targetsOf charts, target.kind.IsPlain)
    (hDrawn : ∀ e, (gallery.drawAll charts).2 = .error e → e.IsRefusal) :
    gallery.RunsInto charts := by
  obtain ⟨before, target, after, hSplit, hSome, hCheck, hBlocks⟩ := h
  obtain ⟨front, chart, back, rfl, rfl, rfl, hPoints⟩ := exists_split_of_targetsOf hSplit
  obtain ⟨hBefore, hOther, -, -⟩ := checkAfter_append_eq_ok hCheck
  rw [hSplit] at hPlain
  by_contra hNot
  -- the charts before it run into nothing either, so they end as their check does, which passes them
  have hFront : ¬ gallery.RunsInto front := fun hRuns => hNot (hRuns.append (chart :: back))
  have hFrontDrawn : ∀ e, (gallery.drawAll front).2 = .error e → e.IsRefusal := fun e hError =>
    hDrawn e (drawAll_append_of_error hError (chart :: back))
  have hEnds := (drawAll_eq_check_iff_not_runsInto hFrontDrawn).mpr hFront
  rcases hRun : gallery.drawAll front with ⟨between, result⟩
  rw [hRun] at hEnds
  obtain rfl : result = .ok () := hEnds.trans hBefore
  refine hNot ⟨front, chart, back, between, rfl, hRun, hPoints, hCheck, ?_⟩
  have hNew : gallery.options.pathOf chart.target ∉ (targetsOf front).map gallery.options.pathOf :=
    fun hMem => hOther (Path.isAmong_of_mem hMem)
  rw [blocks_of_drawAll_opened hSome (fun target hTarget => hPlain target (List.mem_append_left _ hTarget))
    hRun (hPlain chart.target (List.mem_append_right _ List.mem_cons_self)) hNew]
  exact hBlocks

/-! ## What it takes to overlook a file -/

/-- The chart that a run overlooks is not in the way of its check. -/
theorem Overlooks.comes_into_view {targets : List ChartTarget} (h : gallery.Overlooks targets) :
    ∃ target ∈ targets, gallery.blocks (gallery.options.pathOf target) = false ∧
      gallery.opened.blocks (gallery.options.pathOf target) = true := by
  obtain ⟨before, target, after, rfl, -, hCheck, hBlocks⟩ := h
  obtain ⟨-, -, -, hFree⟩ := checkAfter_append_eq_ok hCheck
  exact ⟨target, List.mem_append_right _ List.mem_cons_self, hFree, hBlocks⟩

/-- A run that may replace files overlooks none. -/
theorem Overlooks.force_eq_false {targets : List ChartTarget} (h : gallery.Overlooks targets) :
    gallery.options.force = false := by
  obtain ⟨target, -, -, hBlocks⟩ := h.comes_into_view
  have hOptions : gallery.opened.options = gallery.options := rfl
  rw [blocks, hOptions, Bool.and_eq_true] at hBlocks
  simpa using hBlocks.2

/-- A run overlooks no file of an output directory that is there. -/
theorem Overlooks.not_isOpen {targets : List ChartTarget} (h : gallery.Overlooks targets) :
    ¬ gallery.IsOpen := by
  obtain ⟨target, -, hFree, hBlocks⟩ := h.comes_into_view
  intro hOpen
  rw [hOpen.opened_eq, hFree] at hBlocks
  cases hBlocks

/-- A run of charts of plain kinds overlooks a file only where the path of the output directory goes
up. -/
theorem Overlooks.goes_up {targets : List ChartTarget} (h : gallery.Overlooks targets)
    (hPlain : ∀ target ∈ targets, target.kind.IsPlain) (hRooted : gallery.files.Rooted) :
    ".." ∈ gallery.options.directory.parts := by
  obtain ⟨target, hTarget, hFree, hBlocks⟩ := h.comes_into_view
  by_contra hLevel
  -- a path that does not go up brings nothing into view
  have hContains := hRooted.contains_makeDirectories hLevel
    (ChartTarget.ordinary_fileName (hPlain target hTarget))
  rw [blocks, ChartOptions.pathOf, opened, hContains] at hBlocks
  rw [blocks, ChartOptions.pathOf, hBlocks] at hFree
  cases hFree

/-! ## The check and the run -/

/-- **The check before a run.** Where nothing but a name stops a run of charts, the check of their targets
ends as the run does, with the same error for the same file, exactly unless the run runs into a file that
the check passes. No run does that which may replace files. Where no kind has a slash in its name, it can
be told before the run, and takes an output directory that is not there, the path of which goes up. -/
theorem drawAll_eq_check_iff {charts : List Chart}
    (hDrawn : ∀ e, (gallery.drawAll charts).2 = .error e → e.IsRefusal) :
    ((gallery.drawAll charts).2 = gallery.check (targetsOf charts) ↔ ¬ gallery.RunsInto charts) ∧
      (gallery.RunsInto charts → gallery.options.force = false) ∧
      ((∀ target ∈ targetsOf charts, target.kind.IsPlain) →
        (gallery.RunsInto charts ↔ gallery.Overlooks (targetsOf charts)) ∧
        (gallery.RunsInto charts → ¬ gallery.IsOpen ∧
          (gallery.files.Rooted → ".." ∈ gallery.options.directory.parts))) := by
  refine ⟨drawAll_eq_check_iff_not_runsInto hDrawn, RunsInto.force_eq_false, fun hPlain => ⟨?_, ?_⟩⟩
  · exact ⟨fun h => h.overlooks hPlain, fun h => h.runsInto hPlain hDrawn⟩
  · intro h
    have hOverlooks := h.overlooks hPlain
    exact ⟨hOverlooks.not_isOpen, hOverlooks.goes_up hPlain⟩

/-- A chart of one point. -/
def dotChart (host : String) : Chart := ⟨⟨host, .iv⟩, .overQuantity [(1, 2)]⟩

/-- A gallery over one empty file. -/
def besideFile (directory file : String) : Gallery :=
  new ⟨.ofText directory, ⟨80, 60⟩, false⟩
    ((FileTree.empty ["work"]).add (.ofText file) (.file (.octets [])))

/-- Two hosts that share a file name are refused by the check as they are by the run, since the output
directory is there. -/
theorem drawAll_eq_check_of_collision :
    (∀ e, ((besideFile "charts" "charts/c.png").drawAll [dotChart "a/b", dotChart "a:b"]).2 =
      .error e → e.IsRefusal) ∧
    (∀ target ∈ targetsOf [dotChart "a/b", dotChart "a:b"], target.kind.IsPlain) ∧
    ((besideFile "charts" "charts/c.png").drawAll [dotChart "a/b", dotChart "a:b"]).2 =
      (besideFile "charts" "charts/c.png").check (targetsOf [dotChart "a/b", dotChart "a:b"]) := by
  -- both hosts are written alike, so the second chart has the path of the first
  have hRun : ((besideFile "charts" "charts/c.png").drawAll [dotChart "a/b", dotChart "a:b"]).2 =
      .error (.duplicateOutput (.ofText "charts/a_b_iv.png")) := by decide +kernel
  have hDrawn : ∀ e, ((besideFile "charts" "charts/c.png").drawAll
      [dotChart "a/b", dotChart "a:b"]).2 = .error e → e.IsRefusal := by
    intro e hError
    rw [hRun] at hError
    obtain rfl := Except.error.inj hError
    trivial
  have hPlain : ∀ target ∈ targetsOf [dotChart "a/b", dotChart "a:b"], target.kind.IsPlain := by
    decide
  -- the file beside them put the output directory there
  have hOpen : (besideFile "charts" "charts/c.png").IsOpen :=
    Or.inr ⟨by decide +kernel, ["work", "charts"], by decide +kernel⟩
  obtain ⟨hIff, -, hTold⟩ := drawAll_eq_check_iff hDrawn
  exact ⟨hDrawn, hPlain, hIff.mpr fun hRuns => ((hTold hPlain).2 hRuns).1 hOpen⟩

/-- **The check passes what the run refuses.** The file of the second host is only found once `missing` is
made, and that is done for the first host's chart. -/
theorem check_ne_drawAll :
    (besideFile "missing/../charts" "charts/b_iv.png").check
        (targetsOf [dotChart "a", dotChart "b"]) = .ok () ∧
    ((besideFile "missing/../charts" "charts/b_iv.png").drawAll [dotChart "a", dotChart "b"]).2 =
      .error (.outputExists (.ofText "missing/../charts/b_iv.png")) := by
  decide +kernel

/-- A run that something else stops is not told by its check: here the output directory is a file, so the
run does not come to the second chart, which the check refuses. -/
example :
    (besideFile "charts" "charts").check (targetsOf [dotChart "a", dotChart "a"]) =
      .error (.duplicateOutput (.ofText "charts/a_iv.png")) ∧
    ((besideFile "charts" "charts").drawAll [dotChart "a", dotChart "a"]).2 =
      .error (.noDirectory (.ofText "charts") .exists) := by
  decide +kernel

/-- With a slash in the name of a kind a run also runs into files of its own, where its output directory
is there. -/
example :
    (besideFile "charts" "charts/c.png").check
        [⟨"b", ⟨"/../a_iv", "", ""⟩⟩, ⟨"a", .iv⟩] = .ok () ∧
    ((besideFile "charts" "charts/c.png").drawAll
        [⟨⟨"b", ⟨"/../a_iv", "", ""⟩⟩, .overQuantity [(1, 2)]⟩, dotChart "a"]).2 =
      .error (.outputExists (.ofText "charts/a_iv.png")) := by
  decide +kernel

end Gallery

end SolarCharts
