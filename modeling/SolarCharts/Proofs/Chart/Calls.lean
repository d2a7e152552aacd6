import SolarCharts.Proofs.Chart.Completion

/-!
# Files under any sequence of calls

A gallery takes calls in any order: to draw a chart, and to check charts that are to come. What draws the
pictures may fail, and may then leave anything in the file that it was to write; it writes no other one.

A gallery tells files apart by their paths, and different paths can lead to one place: through a `..` in
the path of the output directory, or in the name of a kind. So what calls keep is said of paths, and what
they leave of a file is said of the place where it is.

* `step_call` — what one call can come to, said once.
* `follows_after` — what all calls keep: a path that is listed stays listed, and none is listed twice.
* `forall_after_iff_not_takes` — a file stays under all calls exactly when these lead to no gallery in
  which a chart `Takes` its place.
* `not_takes_of_written`, `Stands.not_takes` — where no kind has a slash in its name, no chart takes the
  place of a file that is listed, nor that of another one, unless it does so from the start.
* `after_calls` — all of it, for a gallery that has written nothing.
* `existing_file_overwritten` — a file that one call brings into view and overwrites.
-/

namespace SolarCharts

/-! ## What draws the pictures -/

/-- What puts pictures into files. It may fail, and it changes nothing but the file it is asked for. -/
structure Painter where
  /-- Puts a picture into a file, and says whether that worked. -/
  write : FileTree → Path → Picture → FileTree × Except ChartError Unit
  retains : ∀ (tree : FileTree) path picture, tree.Retains (write tree path picture).1
  elsewhere : ∀ (tree : FileTree) path picture place, tree.placeOf path ≠ .ok place →
    (write tree path picture).1.entryAt? place = tree.entryAt? place

namespace Painter

/-- Writes the whole picture, or fails and changes nothing. -/
def writePicture (tree : FileTree) (path : Path) (picture : Picture) :
    FileTree × Except ChartError Unit :=
  match tree.write path (.picture picture) with
  | .ok files => (files, .ok ())
  | .error e => (tree, .error (.notWritten e))

/-- The painter of a gallery's own charts. -/
def system : Painter where
  write := writePicture
  retains tree path picture := by
    unfold writePicture
    split
    · next hWrite => exact (FileTree.keeps_write hWrite).retains
    · exact FileTree.Retains.refl tree
  elsewhere tree path picture place hElsewhere := by
    unfold writePicture
    split
    · next hWrite =>
      obtain ⟨target, hTarget, -, rfl⟩ := FileTree.write_eq_ok hWrite
      refine FileTree.entryAt?_put_of_ne _ fun hSame => hElsewhere ?_
      rw [hTarget, hSame]
    · rfl

end Painter

/-- A call of a gallery. -/
inductive Call where
  | draw (painter : Painter) (chart : Chart)
  | check (targets : List ChartTarget)

/-- Whether a call is to draw a chart that has points. -/
def Call.draws : Call → Bool
  | .draw _ chart => !chart.points.isEmpty
  | .check _ => false

/-- A call that draws no chart but of a plain kind. -/
def Call.IsPlain : Call → Prop
  | .draw _ chart => chart.target.kind.IsPlain
  | .check _ => True

namespace Gallery

variable {gallery gallery' gallery'' : Gallery}

/-- Has a painter put a picture into a file, and lists the file if it does. -/
def hand (gallery : Gallery) (painter : Painter) (path : Path) (picture : Picture) :
    Gallery × Except ChartError (Option Path) :=
  match painter.write gallery.files path picture with
  | (files, .error e) => ({ gallery with files }, .error e)
  | (files, .ok ()) => ({ gallery with files, written := gallery.written ++ [path] }, .ok (some path))

/-- Has a painter write the picture of a chart, if its points can be shown. -/
def paintBy (gallery : Gallery) (painter : Painter) (path : Path) (chart : Chart) :
    Gallery × Except ChartError (Option Path) :=
  match chart.points.axes? with
  | none => (gallery, .error .noFiniteValue)
  | some axes => gallery.hand painter path (gallery.options.picture chart.target axes)

/-- Has a painter draw a chart and gives its file, if it has points. -/
def drawBy (gallery : Gallery) (painter : Painter) (chart : Chart) :
    Gallery × Except ChartError (Option Path) :=
  if chart.points.isEmpty then (gallery, .ok none)
  else
    let path := gallery.options.pathOf chart.target
    match gallery.prepare path with
    | (gallery, .error e) => (gallery, .error e)
    | (gallery, .ok ()) => gallery.paintBy painter path chart

/-- The painter of a gallery's own charts paints as the gallery does. -/
theorem paintBy_system (gallery : Gallery) (path : Path) (chart : Chart) :
    gallery.paintBy .system path chart = gallery.paint path chart := by
  unfold paintBy paint hand Painter.system Painter.writePicture
  cases chart.points.axes? with
  | none => rfl
  | some axes =>
    dsimp only
    cases gallery.files.write path (.picture (gallery.options.picture chart.target axes)) with
    | error e => rfl
    | ok files => rfl

/-- A gallery draws its charts with the painter of its own. -/
theorem drawBy_system (gallery : Gallery) (chart : Chart) :
    gallery.drawBy .system chart = gallery.draw chart := by
  unfold drawBy draw
  split
  · rfl
  · dsimp only
    rcases gallery.prepare (gallery.options.pathOf chart.target) with ⟨prepared, e | _⟩
    · rfl
    · exact paintBy_system prepared _ chart

/-- The gallery after a call, and what the call gives. -/
def call (gallery : Gallery) : Call → Gallery × Except ChartError (Option Path)
  | .draw painter chart => gallery.drawBy painter chart
  | .check targets => (gallery, (gallery.check targets).map fun _ => none)

/-- The gallery after some calls, whatever they give. -/
def after (gallery : Gallery) (calls : List Call) : Gallery :=
  calls.foldl (fun gallery call => (gallery.call call).1) gallery

theorem after_append (gallery : Gallery) (calls more : List Call) :
    gallery.after (calls ++ more) = (gallery.after calls).after more := by
  rw [after, List.foldl_append, after, after]

/-! ## One call -/

/-- What a call can come to. Nothing is done; or the directory of a chart's file is made, as far as it can
be; or a painter is handed the picture of a chart, whose file is not listed and not in the way. -/
inductive Step (gallery : Gallery) : Call → Gallery × Except ChartError (Option Path) → Prop
  | idle (call : Call) (result : Except ChartError (Option Path))
    (hNone : ∀ path, result ≠ .ok (some path)) : Step gallery call (gallery, result)
  | opened (painter : Painter) (chart : Chart) (e : ChartError) :
    Step gallery (.draw painter chart)
      (gallery.openedFor (gallery.options.pathOf chart.target), .error e)
  | handed (painter : Painter) (chart : Chart) (picture : Picture)
    (hNew : ¬ (gallery.options.pathOf chart.target).IsAmong gallery.written)
    (hFree : gallery.blocks (gallery.options.pathOf chart.target) = false)
    (hOpen : (gallery.openedFor (gallery.options.pathOf chart.target)).files.IsOpen
      (gallery.options.pathOf chart.target).folder) :
    Step gallery (.draw painter chart)
      ((gallery.openedFor (gallery.options.pathOf chart.target)).hand painter
        (gallery.options.pathOf chart.target) picture)

/-- A chart without points is not drawn, whatever would draw it. -/
theorem drawBy_of_isEmpty {chart : Chart} (h : chart.points.isEmpty = true) (painter : Painter) :
    gallery.drawBy painter chart = (gallery, .ok none) := by
  rw [drawBy, if_pos h]

/-- A chart whose path is listed is refused as a duplicate, and nothing is done. -/
theorem drawBy_of_written {chart : Chart} (hPoints : chart.points.isEmpty = false)
    (h : (gallery.options.pathOf chart.target).IsAmong gallery.written) (painter : Painter) :
    gallery.drawBy painter chart =
      (gallery, .error (.duplicateOutput (gallery.options.pathOf chart.target))) := by
  simp [drawBy, hPoints, prepare_of_written h]

/-- Every call comes to one of these. -/
theorem step_call (gallery : Gallery) (call : Call) : gallery.Step call (gallery.call call) := by
  cases call with
  | check targets =>
    -- a check gives no file and changes nothing
    refine .idle _ _ fun path hResult => ?_
    cases hCheck : gallery.check targets with
    | error e =>
      rw [hCheck] at hResult
      cases hResult
    | ok _ =>
      rw [hCheck] at hResult
      cases hResult
  | draw painter chart =>
    rw [Gallery.call]
    by_cases hPoints : chart.points.isEmpty = true
    · rw [drawBy_of_isEmpty hPoints]
      exact .idle _ _ fun path hResult => nomatch hResult
    · rw [Bool.not_eq_true] at hPoints
      -- a file that is listed or in the way is refused before anything is made
      by_cases hNew : (gallery.options.pathOf chart.target).IsAmong gallery.written
      · rw [drawBy_of_written hPoints hNew]
        exact .idle _ _ fun path hResult => nomatch hResult
      · rw [drawBy, if_neg (by simp [hPoints])]
        by_cases hFree : gallery.blocks (gallery.options.pathOf chart.target) = true
        · simp only [prepare_of_blocks hNew hFree]
          exact .idle _ _ fun path hResult => nomatch hResult
        · rw [Bool.not_eq_true] at hFree
          rcases prepare_of_free hNew hFree with ⟨hPrepare, hOpen⟩ | ⟨e, -, hPrepare⟩
          · simp only [hPrepare, paintBy]
            cases chart.points.axes? with
            -- the directory is made by now, although there is nothing to show
            | none => exact .opened painter chart .noFiniteValue
            | some axes => exact .handed painter chart _ hNew hFree hOpen
          · simp only [hPrepare]
            exact .opened painter chart e

/-- A call that draws nothing changes nothing. -/
theorem call_of_not_draws {call : Call} (h : call.draws = false) : (gallery.call call).1 = gallery := by
  cases call with
  | check targets => rfl
  | draw painter chart =>
    have hPoints : chart.points.isEmpty = true := by simpa [Call.draws] using h
    rw [Gallery.call, drawBy_of_isEmpty hPoints]

/-- A painter that is handed a picture fails and lists nothing, or lists the one file. -/
theorem hand_cases (gallery : Gallery) (painter : Painter) (path : Path) (picture : Picture) :
    (∃ e, gallery.hand painter path picture =
      ({ gallery with files := (painter.write gallery.files path picture).1 }, .error e)) ∨
    gallery.hand painter path picture =
      ({ gallery with
          files := (painter.write gallery.files path picture).1
          written := gallery.written ++ [path] }, .ok (some path)) := by
  unfold hand
  rcases painter.write gallery.files path picture with ⟨files, e | _⟩
  · exact Or.inl ⟨e, rfl⟩
  · exact Or.inr rfl

/-- The files after a painter was handed a picture are those that it leaves, whether it fails or not.
-/
theorem files_hand (gallery : Gallery) (painter : Painter) (path : Path) (picture : Picture) :
    (gallery.hand painter path picture).1.files =
      (painter.write gallery.files path picture).1 := by
  rcases hand_cases gallery painter path picture with ⟨e, hHand⟩ | hHand
  · rw [hHand]
  · rw [hHand]

theorem options_hand (gallery : Gallery) (painter : Painter) (path : Path) (picture : Picture) :
    (gallery.hand painter path picture).1.options = gallery.options := by
  rcases hand_cases gallery painter path picture with ⟨e, hHand⟩ | hHand
  · rw [hHand]
  · rw [hHand]

/-- A file that a painter gives is the one it was asked for, and is listed. -/
theorem hand_eq_ok {painter : Painter} {path file : Path} {picture : Picture}
    (h : (gallery.hand painter path picture).2 = .ok (some file)) :
    file = path ∧ (gallery.hand painter path picture).1.written = gallery.written ++ [path] := by
  rcases hand_cases gallery painter path picture with ⟨e, hHand⟩ | hHand
  · rw [hHand] at h
    cases h
  · rw [hHand] at h ⊢
    exact ⟨(Option.some.inj (Except.ok.inj h)).symm, rfl⟩

/-- An output directory that is there is there in every gallery that retains its directories. -/
theorem IsOpen.of_retains (h : gallery.IsOpen) (hOptions : gallery'.options = gallery.options)
    (hRetains : gallery.files.Retains gallery'.files) : gallery'.IsOpen := by
  unfold IsOpen
  rw [hOptions]
  exact FileTree.IsOpen.of_retains h hRetains

/-- A directory that is there is there whatever a painter does. -/
theorem IsOpen.hand (h : gallery.IsOpen) (painter : Painter) (path : Path) (picture : Picture) :
    (gallery.hand painter path picture).1.IsOpen := by
  refine h.of_retains (options_hand gallery painter path picture) ?_
  rw [files_hand]
  exact painter.retains _ _ _

namespace Step

variable {call : Call} {result : Gallery × Except ChartError (Option Path)}

/-- A call that gives no file lists none. -/
theorem written_eq (h : gallery.Step call result) (hNone : ∀ path, result.2 ≠ .ok (some path)) :
    result.1.written = gallery.written := by
  cases h with
  | idle call result _ => rfl
  | opened painter chart e => rfl
  | handed painter chart picture _ _ _ =>
    -- the painter fails, and then nothing is listed, or it gives the file
    rcases hand_cases (gallery.openedFor (gallery.options.pathOf chart.target)) painter
      (gallery.options.pathOf chart.target) picture with ⟨e, hHand⟩ | hHand
    · rw [hHand]
      rfl
    · rw [hHand] at hNone
      exact absurd rfl (hNone _)

/-- A call that gives a file is to draw the chart of that file, and lists it. -/
theorem of_file (h : gallery.Step call result) {path : Path} (hFile : result.2 = .ok (some path)) :
    result.1.written = gallery.written ++ [path] ∧
      ∃ painter chart, call = .draw painter chart ∧ path = result.1.options.pathOf chart.target := by
  cases h with
  | idle call result hNone => exact absurd hFile (hNone path)
  | opened painter chart e => cases hFile
  | handed painter chart picture _ _ _ =>
    obtain ⟨hPath, hWritten⟩ := hand_eq_ok hFile
    refine ⟨?_, painter, chart, rfl, ?_⟩
    · rw [hPath]
      exact hWritten
    · rw [hPath, options_hand]
      rfl

/-- A call for a chart of a plain kind that gives a file leaves the output directory open. -/
theorem isOpen_of_file (h : gallery.Step call result) (hPlain : call.IsPlain) {path : Path}
    (hFile : result.2 = .ok (some path)) : result.1.IsOpen := by
  cases h with
  | idle call result hNone => exact absurd hFile (hNone path)
  | opened painter chart e => cases hFile
  | handed painter chart picture _ _ hOpen =>
    rw [openedFor_pathOf hPlain] at hOpen ⊢
    have hIsOpen : gallery.opened.IsOpen := (gallery.opened.isOpen_folder_pathOf hPlain).mp hOpen
    exact hIsOpen.hand painter _ picture

end Step

/-! ## What calls keep -/

/-- What is the same from one gallery to a later one: a path that is listed stays listed, none is listed
twice, and directories stay. -/
structure Follows (gallery gallery' : Gallery) : Prop where
  options : gallery'.options = gallery.options
  retains : gallery.files.Retains gallery'.files
  written : gallery.written <+: gallery'.written
  distinct : Path.Distinct gallery.written → Path.Distinct gallery'.written

namespace Follows

theorem refl (gallery : Gallery) : gallery.Follows gallery where
  options := rfl
  retains := FileTree.Retains.refl _
  written := List.prefix_rfl
  distinct := id

theorem trans (h : gallery.Follows gallery') (h' : gallery'.Follows gallery'') :
    gallery.Follows gallery'' where
  options := h'.options.trans h.options
  retains := h.retains.trans h'.retains
  written := h.written.trans h'.written
  distinct := fun hDistinct => h'.distinct (h.distinct hDistinct)

theorem isOpen (h : gallery.Follows gallery') (hOpen : gallery.IsOpen) : gallery'.IsOpen :=
  hOpen.of_retains h.options h.retains

theorem placeOf (h : gallery.Follows gallery') {place : Place} {target : ChartTarget}
    (hPlace : gallery.PlaceOf place target) : gallery'.PlaceOf place target := by
  unfold PlaceOf
  rw [h.options]
  exact FileTree.placeOf_of_retains h.retains hPlace

end Follows

/-- A gallery goes on from one whose directories are made. -/
theorem follows_openedFor (gallery : Gallery) (path : Path) :
    gallery.Follows (gallery.openedFor path) where
  options := rfl
  retains := (gallery.keeps_openedFor path).retains
  written := List.prefix_rfl
  distinct := id

/-- A gallery goes on from one whose painter was handed the picture of a new file. -/
theorem follows_hand {path : Path} (hNew : ¬ path.IsAmong gallery.written) (painter : Painter)
    (picture : Picture) : gallery.Follows (gallery.hand painter path picture).1 where
  options := options_hand gallery painter path picture
  retains := by
    rw [files_hand]
    exact painter.retains _ _ _
  written := by
    rcases hand_cases gallery painter path picture with ⟨e, hHand⟩ | hHand
    · rw [hHand]
    · rw [hHand]
      exact List.prefix_append _ _
  distinct := by
    intro hDistinct
    rcases hand_cases gallery painter path picture with ⟨e, hHand⟩ | hHand
    · rw [hHand]
      exact hDistinct
    · rw [hHand]
      -- the file is listed last, and was not listed before
      exact hDistinct.append_one hNew

/-- Every call leads to a gallery that follows. -/
theorem Step.follows {call : Call} {result : Gallery × Except ChartError (Option Path)}
    (h : gallery.Step call result) : gallery.Follows result.1 := by
  cases h with
  | idle call result _ => exact Follows.refl gallery
  | opened painter chart e => exact gallery.follows_openedFor _
  | handed painter chart picture hNew _ _ =>
    exact (gallery.follows_openedFor _).trans
      (@follows_hand (gallery.openedFor _) _ hNew painter picture)

/-- What one call keeps, all calls keep. -/
theorem follows_after (gallery : Gallery) (calls : List Call) :
    gallery.Follows (gallery.after calls) := by
  induction calls generalizing gallery with
  | nil => exact Follows.refl gallery
  | cons call calls ih => exact (gallery.step_call call).follows.trans (ih (gallery.call call).1)

/-- Whatever calls come, a path stays listed, and a call for it is refused and changes nothing, however
it is written. -/
structure Lasts (gallery : Gallery) (path : Path) : Prop where
  listed : ∀ calls, path ∈ (gallery.after calls).written
  refused : ∀ calls painter chart, chart.points.isEmpty = false →
    (gallery.options.pathOf chart.target).Same path →
      (gallery.after calls).drawBy painter chart =
        (gallery.after calls, .error (.duplicateOutput (gallery.options.pathOf chart.target)))

/-- A path that is listed lasts. -/
theorem lasts_of_written {path : Path} (h : path ∈ gallery.written) : gallery.Lasts path where
  listed := fun calls => (gallery.follows_after calls).written.subset h
  refused := by
    intro calls painter chart hPoints hSame
    have hFollows := gallery.follows_after calls
    rw [← hFollows.options] at hSame ⊢
    refine drawBy_of_written hPoints ?_ painter
    exact hSame.isAmong_iff.mpr (Path.isAmong_of_mem (hFollows.written.subset h))

/-! ## Places that charts take -/

/-- A chart takes a place: nothing refuses its file, its directory can be made, and once that is done its
path leads there. -/
structure Takes (gallery : Gallery) (target : ChartTarget) (place : Place) : Prop where
  new : ¬ (gallery.options.pathOf target).IsAmong gallery.written
  free : gallery.blocks (gallery.options.pathOf target) = false
  isOpen : (gallery.openedFor (gallery.options.pathOf target)).files.IsOpen
    (gallery.options.pathOf target).folder
  leads : (gallery.openedFor (gallery.options.pathOf target)).PlaceOf place target

/-- Making directories leaves what is there. -/
theorem entryAt?_openedFor {place : Place} {entry : Entry}
    (h : gallery.files.entryAt? place = some entry) (path : Path) :
    (gallery.openedFor path).files.entryAt? place = some entry :=
  (FileTree.grows_makeDirectories gallery.files path.folder).entryAt?_eq h

/-- A call leaves every file but that of a place which its own chart takes. -/
theorem Step.entryAt?_eq {call : Call} {result : Gallery × Except ChartError (Option Path)}
    (h : gallery.Step call result) {place : Place} {content : Content}
    (hFile : gallery.files.entryAt? place = some (.file content))
    (hNot : ∀ painter chart, call = .draw painter chart → ¬ gallery.Takes chart.target place) :
    result.1.files.entryAt? place = some (.file content) := by
  cases h with
  | idle call result _ => exact hFile
  | opened painter chart e => exact entryAt?_openedFor hFile _
  | handed painter chart picture hNew hFree hOpen =>
    -- the painter leaves every place but that of the chart's path
    rw [files_hand, painter.elsewhere]
    · exact entryAt?_openedFor hFile _
    · exact fun hPlace => hNot painter chart rfl ⟨hNew, hFree, hOpen, hPlace⟩

/-- Calls leave a file as long as none of their charts takes its place when its turn comes. -/
theorem entryAt?_after {calls : List Call} {place : Place} {content : Content}
    (hFile : gallery.files.entryAt? place = some (.file content))
    (hNot : ∀ before painter chart after, calls = before ++ .draw painter chart :: after →
      (gallery.after before).files.entryAt? place = some (.file content) →
        ¬ (gallery.after before).Takes chart.target place) :
    (gallery.after calls).files.entryAt? place = some (.file content) := by
  induction calls generalizing gallery with
  | nil => exact hFile
  | cons call calls ih =>
    -- the first call leaves the file, and the others are asked about the gallery behind it
    have hNext := (gallery.step_call call).entryAt?_eq hFile fun painter chart hCall =>
      hNot [] painter chart calls (by rw [hCall, List.nil_append]) hFile
    refine ih hNext fun before painter chart after hSplit hStill => ?_
    exact hNot (call :: before) painter chart after (by rw [hSplit, List.cons_append]) hStill

/-- Points over one voltage. -/
def dots (value : Float) : Points := .overQuantity [(1, value)]

/-- There are two charts with different axes. -/
theorem axes?_dots :
    ∃ axes axes', (dots 2).axes? = some axes ∧ (dots 3).axes? = some axes' ∧ axes ≠ axes' := by
  have hSome : (dots 2).axes?.isSome ∧ (dots 3).axes?.isSome := by decide +kernel
  have hNe : (dots 2).axes? ≠ (dots 3).axes? := by decide +kernel
  obtain ⟨axes, hAxes⟩ := Option.isSome_iff_exists.mp hSome.1
  obtain ⟨axes', hAxes'⟩ := Option.isSome_iff_exists.mp hSome.2
  refine ⟨axes, axes', hAxes, hAxes', fun hSame => hNe ?_⟩
  rw [hAxes, hAxes', hSame]

/-- A file whose place a chart takes is overwritten by that chart. -/
theorem Takes.entryAt?_draw {target : ChartTarget} {place : Place} (h : gallery.Takes target place)
    {content : Content} (hFile : gallery.files.entryAt? place = some (.file content))
    {points : Points} {axes : Axes} (hPoints : points.isEmpty = false)
    (hAxes : points.axes? = some axes) :
    (gallery.draw ⟨target, points⟩).1.files.entryAt? place =
      some (.file (.picture (gallery.options.picture target axes))) := by
  obtain ⟨hNew, hFree, hOpen, hLeads⟩ := h
  -- the directory is open once it is made, so nothing stopped that
  have hMade : gallery.files.makeDirectories (gallery.options.pathOf target).folder =
      ((gallery.openedFor (gallery.options.pathOf target)).files, .ok ()) :=
    FileTree.makeDirectories_of_isOpen hOpen
  have hPrepare : gallery.prepare (gallery.options.pathOf target) =
      (gallery.openedFor (gallery.options.pathOf target), .ok ()) := by
    rw [prepare, if_neg hNew, if_neg (by simp [hFree])]
    simp only [hMade]
    rfl
  -- the file is there still, and can be written
  obtain ⟨files, hWrite, hEntry⟩ := FileTree.exists_write_of_file hLeads
    (entryAt?_openedFor hFile _) (.picture (gallery.options.picture target axes))
  have hOptions : (gallery.openedFor (gallery.options.pathOf target)).options = gallery.options := rfl
  have hDraw : (gallery.draw ⟨target, points⟩).1.files = files := by
    rw [draw, if_neg (by simp [hPoints])]
    rw [hOptions] at hWrite
    simp only [hPrepare, paint, hAxes, hOptions, hWrite]
  rw [hDraw]
  exact hEntry

/-- A file whose place a chart takes is not left as it is by all calls, not even by all single ones. -/
theorem Takes.not_kept {target : ChartTarget} {place : Place} (h : gallery.Takes target place)
    {content : Content} (hFile : gallery.files.entryAt? place = some (.file content)) :
    ¬ ∀ points, (gallery.after [.draw .system ⟨target, points⟩]).files.entryAt? place =
      some (.file content) := by
  intro hKept
  -- two charts with different pictures, which cannot both be what the file held
  have hHolds : ∀ (points : Points) axes, points.isEmpty = false → points.axes? = some axes →
      content = .picture (gallery.options.picture target axes) := by
    intro points axes hPoints hAxes
    have hDrawn := h.entryAt?_draw hFile hPoints hAxes
    rw [← drawBy_system] at hDrawn
    exact Entry.file.inj (Option.some.inj ((hKept points).symm.trans hDrawn))
  obtain ⟨axes, axes', hAxes, hAxes', hNe⟩ := axes?_dots
  have hSame := (hHolds _ axes rfl hAxes).symm.trans (hHolds _ axes' rfl hAxes')
  exact hNe (congrArg Picture.axes (Content.picture.inj hSame))

/-- **Which files are left.** A file stays as it is under all calls exactly when these lead to no gallery
in which a chart takes its place. -/
theorem forall_after_iff_not_takes {place : Place} {content : Content}
    (hFile : gallery.files.entryAt? place = some (.file content)) :
    (∀ calls, (gallery.after calls).files.entryAt? place = some (.file content)) ↔
      ∀ calls target, ¬ (gallery.after calls).Takes target place := by
  constructor
  · intro hKept calls target hTakes
    refine hTakes.not_kept (hKept calls) fun points => ?_
    -- the chart that takes the place may come behind any calls
    rw [← after_append]
    exact hKept _
  · exact fun hNot calls => entryAt?_after hFile fun before _ chart _ _ _ => hNot before chart.target

/-! ## Charts of plain kinds -/

/-- No chart of a plain kind takes the place of a file that is listed for one. -/
theorem not_takes_of_written {target other : ChartTarget} {place : Place} (hOpen : gallery.IsOpen)
    (hPlain : target.kind.IsPlain) (hListed : gallery.options.pathOf target ∈ gallery.written)
    (hPlace : gallery.PlaceOf place target) (hOther : other.kind.IsPlain) :
    ¬ gallery.Takes other place := by
  rintro ⟨hNew, -, -, hLeads⟩
  rw [openedFor_pathOf hOther, hOpen.opened_eq] at hLeads
  -- in one place, it would be the same file
  rw [← pathOf_eq_of_placeOf hPlain hOther hPlace hLeads] at hNew
  exact hNew (Path.isAmong_of_mem hListed)

/-- The file of a chart of a plain kind stays as it is once it is listed, as long as only charts of plain
kinds are drawn. -/
theorem entryAt?_of_written {target : ChartTarget} {place : Place} {content : Content}
    (hOpen : gallery.IsOpen) (hPlain : target.kind.IsPlain)
    (hListed : gallery.options.pathOf target ∈ gallery.written)
    (hPlace : gallery.PlaceOf place target) {calls : List Call} (hCalls : ∀ call ∈ calls, call.IsPlain)
    (hFile : gallery.files.entryAt? place = some (.file content)) :
    (gallery.after calls).files.entryAt? place = some (.file content) := by
  refine entryAt?_after hFile fun before painter chart after hSplit _ => ?_
  have hFollows := gallery.follows_after before
  have hOther : chart.target.kind.IsPlain :=
    hCalls (.draw painter chart) (by rw [hSplit]; exact List.mem_append_right _ List.mem_cons_self)
  refine not_takes_of_written (hFollows.isOpen hOpen) hPlain ?_ (hFollows.placeOf hPlace) hOther
  -- the path is listed still when the other chart's turn comes
  rw [hFollows.options]
  exact hFollows.written.subset hListed

/-- Making the output directory a second time makes nothing more. -/
theorem opened_opened (gallery : Gallery) : gallery.opened.opened = gallery.opened := by
  simp only [opened, FileTree.makeDirectories_makeDirectories]

/-- As long as the output directory is not there, the files are those of the start, or what making the
directory came to. -/
structure Stands (gallery gallery' : Gallery) : Prop where
  options : gallery'.options = gallery.options
  files : gallery'.IsOpen ∨ gallery'.files = gallery.files ∨ gallery'.files = gallery.opened.files

/-- That is so after one more call, if it draws no chart but of a plain kind. -/
theorem Stands.step {call : Call} {result : Gallery × Except ChartError (Option Path)}
    (h : gallery.Stands gallery') (hPlain : call.IsPlain) (hStep : gallery'.Step call result) :
    gallery.Stands result.1 := by
  cases hStep with
  | idle call result _ => exact h
  | opened painter chart e =>
    rw [openedFor_pathOf hPlain]
    refine ⟨h.options, ?_⟩
    have hMade : gallery'.opened.files =
        (gallery'.files.makeDirectories gallery.options.directory.trimmed).1 := by
      rw [opened, h.options]
    rcases h.files with hOpen | hSame | hOpened
    · rw [hOpen.opened_eq]
      exact Or.inl hOpen
    · rw [hMade, hSame]
      exact Or.inr (Or.inr rfl)
    · -- what could not be made the first time is not made the second time
      rw [hMade, hOpened]
      exact Or.inr (Or.inr (congrArg Gallery.files gallery.opened_opened))
  | handed painter chart picture _ _ hOpen =>
    rw [openedFor_pathOf hPlain] at hOpen ⊢
    -- a painter is handed a picture only where the directory could be made
    have hIsOpen : gallery'.opened.IsOpen := (gallery'.opened.isOpen_folder_pathOf hPlain).mp hOpen
    refine ⟨?_, Or.inl (hIsOpen.hand painter _ picture)⟩
    rw [options_hand]
    exact h.options

/-- And so after any such calls. -/
theorem stands_after {calls : List Call} (hPlain : ∀ call ∈ calls, call.IsPlain)
    (h : gallery.Stands gallery') : gallery.Stands (gallery'.after calls) := by
  induction calls generalizing gallery' with
  | nil => exact h
  | cons call calls ih =>
    rw [List.forall_mem_cons] at hPlain
    exact ih hPlain.2 (h.step hPlain.1 (gallery'.step_call call))

/-- Without force, no chart of a plain kind takes the place of a file later on, unless it takes that
place at the start. -/
theorem Stands.not_takes (h : gallery.Stands gallery') (hForce : gallery.options.force = false)
    (hNew : gallery.written = []) {target : ChartTarget} (hPlain : target.kind.IsPlain) {place : Place}
    (hStart : ¬ gallery.Takes target place) {content : Content}
    (hFile : gallery'.files.entryAt? place = some (.file content)) : ¬ gallery'.Takes target place := by
  rintro ⟨-, hFree, hOpen, hLeads⟩
  have hAbsent : gallery'.files.contains (gallery.options.pathOf target) = false := by
    rw [blocks, h.options, hForce] at hFree
    simpa using hFree
  rw [openedFor_pathOf hPlain] at hOpen hLeads
  -- were the directory there, the file would be found
  have hClosed : ¬ gallery'.IsOpen := by
    intro hIsOpen
    rw [hIsOpen.opened_eq, PlaceOf, h.options] at hLeads
    have hFound := FileTree.contains_iff.mpr ⟨place, hLeads, by rw [hFile]; rfl⟩
    rw [hAbsent] at hFound
    cases hFound
  obtain ⟨options, written, files⟩ := gallery'
  obtain rfl : options = gallery.options := h.options
  rcases h.files with hIsOpen | rfl | rfl
  · exact hClosed hIsOpen
  · refine hStart ⟨?_, ?_, ?_, ?_⟩
    · rw [hNew]
      exact Path.not_isAmong_nil
    · rw [blocks, hAbsent]
      rfl
    · rw [openedFor_pathOf hPlain]
      exact hOpen
    · rw [openedFor_pathOf hPlain]
      exact hLeads
  · -- making the directory again changes nothing, so it is there already
    have hSame : (Gallery.mk gallery.options written gallery.opened.files).opened.files =
        gallery.opened.files := by simp only [opened, FileTree.makeDirectories_makeDirectories]
    refine hClosed ?_
    have hIsOpen := (FileTree.isOpen_folder_join _ _ (ChartTarget.ordinary_fileName hPlain)).mp hOpen
    unfold IsOpen
    rwa [hSame] at hIsOpen

/-- Without force, and with charts of plain kinds alone, a file that was there before stays as it is under
all calls exactly when no chart takes its place at the start. -/
theorem forall_plain_after_iff (hForce : gallery.options.force = false) (hNew : gallery.written = [])
    {place : Place} {content : Content}
    (hFile : gallery.files.entryAt? place = some (.file content)) :
    (∀ calls, (∀ call ∈ calls, call.IsPlain) →
        (gallery.after calls).files.entryAt? place = some (.file content)) ↔
      ∀ target, target.kind.IsPlain → ¬ gallery.Takes target place := by
  constructor
  · intro hKept target hPlain hTakes
    -- charts of the kind that takes the place are plain too
    refine hTakes.not_kept hFile fun points => hKept _ fun call hCall => ?_
    rw [List.mem_singleton.mp hCall]
    exact hPlain
  · intro hStart calls hCalls
    refine entryAt?_after hFile fun before painter chart after hSplit hStill => ?_
    rw [hSplit, List.forall_mem_append, List.forall_mem_cons] at hCalls
    -- the calls in front come to a gallery where the files stand as they did, or the directory is
    -- there
    have hStands : gallery.Stands (gallery.after before) :=
      stands_after hCalls.1 ⟨rfl, Or.inr (Or.inl rfl)⟩
    exact hStands.not_takes hForce hNew hCalls.2.1 (hStart chart.target hCalls.2.1) hStill

/-- Without force, a chart of a plain kind takes the place of a file only where the output directory is
not there and its path goes up. -/
theorem Takes.goes_up {target : ChartTarget} {place : Place} (h : gallery.Takes target place)
    (hForce : gallery.options.force = false) (hPlain : target.kind.IsPlain) {content : Content}
    (hFile : gallery.files.entryAt? place = some (.file content)) :
    ¬ gallery.IsOpen ∧ (gallery.files.Rooted → ".." ∈ gallery.options.directory.parts) := by
  obtain ⟨-, hFree, -, hLeads⟩ := h
  have hAbsent : gallery.files.contains (gallery.options.pathOf target) = false := by
    rw [blocks, hForce] at hFree
    simpa using hFree
  have hThere := entryAt?_openedFor hFile (gallery.options.pathOf target)
  rw [openedFor_pathOf hPlain] at hLeads hThere
  have hFound : gallery.opened.files.contains (gallery.options.pathOf target) = true :=
    FileTree.contains_iff.mpr ⟨place, hLeads, by rw [hThere]; rfl⟩
  refine ⟨fun hOpen => ?_, fun hRooted => ?_⟩
  · rw [hOpen.opened_eq, hAbsent] at hFound
    cases hFound
  · by_contra hLevel
    -- without going up, making the directory would have brought nothing into view
    have hSame := hRooted.contains_makeDirectories hLevel (ChartTarget.ordinary_fileName hPlain)
    rw [opened, ChartOptions.pathOf, hSame] at hFound
    rw [ChartOptions.pathOf, hFound] at hAbsent
    cases hAbsent

/-! ## Any sequence of calls -/

/-- **Files under any sequence of calls.** No path is listed twice. A call that gives a file lists its path;
from then on the path stays listed, and every call for it is refused and changes nothing, with force or
without. Any other call lists nothing, and one that has nothing to draw changes nothing. A file stays as it
is under all calls exactly when they lead to no gallery in which a chart takes its place.

Where no kind has a slash in its name, that is so of every file that is listed: it is never written again,
with force or without. Without force it is so of a file that was there before exactly when no chart takes
its place at the start; where one does, the output directory is not there, and its path goes up. -/
theorem after_calls (hNew : gallery.written = []) :
    (∀ calls, Path.Distinct (gallery.after calls).written) ∧
      (∀ calls call path, ((gallery.after calls).call call).2 = .ok (some path) →
        ((gallery.after calls).call call).1.written = (gallery.after calls).written ++ [path] ∧
          ((gallery.after calls).call call).1.Lasts path) ∧
      (∀ calls call, (∀ path, ((gallery.after calls).call call).2 ≠ .ok (some path)) →
        ((gallery.after calls).call call).1.written = (gallery.after calls).written) ∧
      (∀ calls call, call.draws = false →
        ((gallery.after calls).call call).1 = gallery.after calls) ∧
      (∀ calls place content, (gallery.after calls).files.entryAt? place = some (.file content) →
        ((∀ more, ((gallery.after calls).after more).files.entryAt? place = some (.file content)) ↔
          ∀ more target, ¬ ((gallery.after calls).after more).Takes target place)) ∧
      (∀ calls call path, call.IsPlain → ((gallery.after calls).call call).2 = .ok (some path) →
        ∀ place content, ((gallery.after calls).call call).1.files.placeOf path = .ok place →
          ((gallery.after calls).call call).1.files.entryAt? place = some (.file content) →
            ∀ more, (∀ call ∈ more, call.IsPlain) →
              (((gallery.after calls).call call).1.after more).files.entryAt? place =
                some (.file content)) ∧
      (gallery.options.force = false → ∀ place content,
        gallery.files.entryAt? place = some (.file content) →
          ((∀ calls, (∀ call ∈ calls, call.IsPlain) →
              (gallery.after calls).files.entryAt? place = some (.file content)) ↔
            ∀ target, target.kind.IsPlain → ¬ gallery.Takes target place) ∧
          (∀ target, target.kind.IsPlain → gallery.Takes target place → ¬ gallery.IsOpen ∧
            (gallery.files.Rooted → ".." ∈ gallery.options.directory.parts))) := by
  refine ⟨fun calls => ?_, fun calls call path hFile => ?_, fun calls call => ?_,
    fun calls call => call_of_not_draws, fun calls place content => forall_after_iff_not_takes,
    fun calls call path hPlain hFile place content hPlace hHeld more hMore => ?_,
    fun hForce place content hFile => ?_⟩
  · refine (gallery.follows_after calls).distinct ?_
    rw [hNew]
    exact Path.distinct_nil
  · obtain ⟨hWritten, -⟩ := ((gallery.after calls).step_call call).of_file hFile
    refine ⟨hWritten, lasts_of_written ?_⟩
    rw [hWritten]
    exact List.mem_append_right _ (List.mem_singleton_self _)
  · exact ((gallery.after calls).step_call call).written_eq
  · -- a call that gives a file opens the directory and lists the path
    have hStep := (gallery.after calls).step_call call
    have hOpen := hStep.isOpen_of_file hPlain hFile
    obtain ⟨hWritten, painter, chart, rfl, rfl⟩ := hStep.of_file hFile
    refine entryAt?_of_written hOpen hPlain ?_ hPlace hMore hHeld
    rw [hWritten]
    exact List.mem_append_right _ (List.mem_singleton_self _)
  · refine ⟨forall_plain_after_iff hForce hNew hFile, fun target hPlain hTakes => ?_⟩
    exact hTakes.goes_up hForce hPlain hFile

/-- Beside the first host's file, the second host's chart is drawn once and for all, and the first host's
file is never replaced. -/
theorem after_calls_beside :
    (besideFile "charts" "charts/a_iv.png").written = [] ∧
      ((besideFile "charts" "charts/a_iv.png").call (.draw .system (dotChart "b"))).2 =
        .ok (some (.ofText "charts/b_iv.png")) ∧
      ((besideFile "charts" "charts/a_iv.png").call (.draw .system (dotChart "b"))).1.Lasts
        (.ofText "charts/b_iv.png") ∧
      ∀ calls, (∀ call ∈ calls, call.IsPlain) →
        ((besideFile "charts" "charts/a_iv.png").after calls).files.entryAt?
          ["work", "charts", "a_iv.png"] = some (.file (.octets [])) := by
  have hNew : (besideFile "charts" "charts/a_iv.png").written = [] := rfl
  have hDrawn : ((besideFile "charts" "charts/a_iv.png").call (.draw .system (dotChart "b"))).2 =
      .ok (some (.ofText "charts/b_iv.png")) := by decide +kernel
  have hOpen : (besideFile "charts" "charts/a_iv.png").IsOpen :=
    Or.inr ⟨by decide +kernel, ["work", "charts"], by decide +kernel⟩
  obtain ⟨-, hFile, -, -, -, -, hKept⟩ := after_calls hNew
  obtain ⟨hIff, hUp⟩ := hKept rfl ["work", "charts", "a_iv.png"] (.octets []) (by decide +kernel)
  refine ⟨hNew, hDrawn, (hFile [] _ _ hDrawn).2, hIff.mpr fun target hPlain hTakes => ?_⟩
  exact (hUp target hPlain hTakes).1 hOpen

/-- **An existing file is overwritten.** It is not found before `missing` is made, and then it is written
without being looked for again. -/
theorem existing_file_overwritten :
    (besideFile "missing/../charts" "charts/b_iv.png").options.force = false ∧
      (besideFile "missing/../charts" "charts/b_iv.png").files.entryAt?
        ["work", "charts", "b_iv.png"] = some (.file (.octets [])) ∧
      ((besideFile "missing/../charts" "charts/b_iv.png").draw (dotChart "b")).2 =
        .ok (some (.ofText "missing/../charts/b_iv.png")) ∧
      ((besideFile "missing/../charts" "charts/b_iv.png").draw (dotChart "b")).1.files.entryAt?
        ["work", "charts", "b_iv.png"] ≠ some (.file (.octets [])) := by
  decide +kernel

/-- With a slash in the name of a kind a file that is listed is written again too, under another path, and
with no `..` in that of the output directory. -/
example :
    ((besideFile "charts" "charts/c.png").drawAll
        [dotChart "a", ⟨⟨"b", ⟨"/../a_iv", "", ""⟩⟩, .overQuantity [(1, 3)]⟩]).2 = .ok () ∧
      ((besideFile "charts" "charts/c.png").drawAll
        [dotChart "a", ⟨⟨"b", ⟨"/../a_iv", "", ""⟩⟩, .overQuantity [(1, 3)]⟩]).1.written =
          [.ofText "charts/a_iv.png", .ofText "charts/b_/../a_iv.png"] ∧
      ((besideFile "charts" "charts/c.png").drawAll [dotChart "a"]).1.files.entryAt?
          ["work", "charts", "a_iv.png"] ≠
        ((besideFile "charts" "charts/c.png").drawAll
          [dotChart "a", ⟨⟨"b", ⟨"/../a_iv", "", ""⟩⟩, .overQuantity [(1, 3)]⟩]).1.files.entryAt?
            ["work", "charts", "a_iv.png"] := by
  decide +kernel

end Gallery

end SolarCharts
