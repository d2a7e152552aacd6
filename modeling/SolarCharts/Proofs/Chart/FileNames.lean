import Mathlib.Data.List.Forall2
import SolarCharts.Proofs.Chart.NoFiniteValue
import SolarCharts.Proofs.Trace.OtherFields

/-!
# When charts share a file

The file of a chart is named for its host and its kind. A host may be any text, so the characters that
file names cannot hold are replaced, and hosts that differ only there share their files. They should
share no others, and a run should be stopped for it only when two hosts have something to show in one
and the same file.

* `sanitized_eq_iff` — two hosts are written alike in file names exactly when they `ShareName`.
* `ChartTarget.fileName_eq_iff` — of the standard kinds no ending ends another one, so a file name tells
  its kind even where a host looks like a file name itself.
* `ChartOptions.pathOf_liesIn` — for a kind without a slash, whatever the host, the file lies in the output
  directory and not below or above it.
* `Gallery.drawRun_duplicate_iff` — a run that may replace files is stopped for a duplicate exactly when
  two paths of its charts count as one.
* `Plan.mem_shown`, `Plan.nodup_shown` — each host stands once in a series, so these charts are all
  different, and which there are is told by the samples of each host.
* `Plan.charts_collide_iff` — so two hosts collide only when they must.
-/

namespace SolarCharts

/-! ## Hosts in file names -/

/-- The characters that file names cannot hold. -/
def reserved : List Char := ['/', '\\', ':', '*', '?', '"', '<', '>', '|']

/-- The characters that file names do not tell apart. -/
def blurred : List Char := '_' :: reserved

/-- Two characters stand for each other in file names. -/
def SameInName (c d : Char) : Prop := c = d ∨ (c ∈ blurred ∧ d ∈ blurred)

/-- Two hosts are as long and have, character by character, what stands for each other. -/
def ShareName (host other : String) : Prop := List.Forall₂ SameInName host.toList other.toList

theorem isReserved_iff {c : Char} : isReserved c = true ↔ c ∈ reserved := List.contains_iff_mem

theorem underscore_not_reserved : '_' ∉ reserved := by decide

/-- What a character is replaced by in file names, or the character itself. -/
theorem replaced_eq_iff (c d : Char) :
    ((if isReserved c then '_' else c) = if isReserved d then '_' else d) ↔ SameInName c d := by
  simp only [isReserved_iff, SameInName, blurred, List.mem_cons]
  -- an underscore is what the others become, so it counts with them though it is not replaced
  by_cases hLeft : c ∈ reserved
  · by_cases hRight : d ∈ reserved
    · simp [hLeft, hRight]
    · have hNe : c ≠ d := fun hEq => hRight (hEq ▸ hLeft)
      simp [hLeft, hRight, hNe, eq_comm]
  · by_cases hRight : d ∈ reserved
    · have hNe : c ≠ d := fun hEq => hLeft (hEq ▸ hRight)
      simp [hLeft, hRight, hNe]
    · simp only [hLeft, hRight, if_false, or_false]
      constructor
      · exact Or.inl
      · rintro (hEq | ⟨hc, hd⟩)
        · exact hEq
        · rw [hc, hd]

theorem toList_sanitized (host : String) :
    (sanitized host).toList = host.toList.map fun c => if isReserved c then '_' else c := by
  simp [sanitized]

/-- Hosts are written alike exactly if they share their names. -/
theorem sanitized_eq_iff (host other : String) :
    sanitized host = sanitized other ↔ ShareName host other := by
  rw [← String.toList_inj, toList_sanitized, toList_sanitized, ← List.forall₂_eq_eq_eq,
    List.forall₂_map_left_iff, List.forall₂_map_right_iff, ShareName]
  simp only [replaced_eq_iff]

/-- A host is written without reserved characters. -/
theorem not_reserved_of_mem_sanitized {host : String} {c : Char}
    (h : c ∈ (sanitized host).toList) : c ∉ reserved := by
  rw [toList_sanitized, List.mem_map] at h
  obtain ⟨d, -, rfl⟩ := h
  split
  · exact underscore_not_reserved
  · next hKept => exact fun hMem => hKept (isReserved_iff.mpr hMem)

/-! ## File names -/

/-- What follows the host in the file names of a kind. -/
def ChartKind.ending (kind : ChartKind) : List Char := '_' :: kind.name.toList ++ ".png".toList

/-- Of the standard kinds, none has an ending that ends the one of another. -/
theorem ChartKind.eq_of_ending_suffix {kind other : ChartKind} (hKind : kind ∈ standard)
    (hOther : other ∈ standard) (h : kind.ending <:+ other.ending) : kind = other := by
  have hAll : ∀ kind ∈ standard, ∀ other ∈ standard, kind.ending <:+ other.ending → kind = other := by
    decide +kernel
  exact hAll kind hKind other hOther h

/-- The endings of the standard kinds can stand in file names as they are. -/
theorem ChartKind.not_reserved_of_mem_ending {kind : ChartKind} (hKind : kind ∈ standard) {c : Char}
    (h : c ∈ kind.ending) : c ∉ reserved := by
  have hAll : ∀ kind ∈ standard, kind.ending.all (fun d => d ∉ reserved) = true := by decide
  simpa using List.all_eq_true.mp (hAll kind hKind) c h

namespace ChartTarget

theorem toList_fileName (target : ChartTarget) :
    target.fileName.toList = (sanitized target.host).toList ++ target.kind.ending := by
  simp [fileName, ChartKind.ending]

/-- The name of a file has no character that file names cannot hold. -/
theorem not_reserved_of_mem_fileName {target : ChartTarget} (hKind : target.kind ∈ ChartKind.standard)
    {c : Char} (h : c ∈ target.fileName.toList) : c ∉ reserved := by
  rw [toList_fileName, List.mem_append] at h
  rcases h with hHost | hEnding
  · exact not_reserved_of_mem_sanitized hHost
  · exact ChartKind.not_reserved_of_mem_ending hKind hEnding

/-- Files have one name exactly if they are of one kind and of hosts that share their names. -/
theorem fileName_eq_iff {a b : ChartTarget} (ha : a.kind ∈ ChartKind.standard)
    (hb : b.kind ∈ ChartKind.standard) :
    a.fileName = b.fileName ↔ a.kind = b.kind ∧ ShareName a.host b.host := by
  rw [← String.toList_inj, toList_fileName, toList_fileName]
  constructor
  · intro hEq
    -- of two endings of one text, the shorter ends the longer
    have hLeft : a.kind.ending <:+ (sanitized b.host).toList ++ b.kind.ending := ⟨_, hEq⟩
    have hRight : b.kind.ending <:+ (sanitized b.host).toList ++ b.kind.ending := List.suffix_append _ _
    have hKind : a.kind = b.kind := by
      rcases List.suffix_or_suffix_of_suffix hLeft hRight with hShorter | hLonger
      · exact ChartKind.eq_of_ending_suffix ha hb hShorter
      · exact (ChartKind.eq_of_ending_suffix hb ha hLonger).symm
    rw [hKind, List.append_cancel_right_eq, String.toList_inj, sanitized_eq_iff] at hEq
    exact ⟨hKind, hEq⟩
  · rintro ⟨hKind, hShare⟩
    rw [hKind, (sanitized_eq_iff _ _).mpr hShare]

end ChartTarget

/-! ## Paths of charts -/

/-- A path is that of a name directly in a directory: it consists of the parts of the directory, without
the slash that may end them, and of the name, and leads nowhere but to that name where the directory
is. -/
structure Path.LiesIn (path directory : Path) (name : String) : Prop where
  parts : ∃ front, (front = directory.parts ∨ front ++ [""] = directory.parts) ∧
    path.parts = front ++ [name]
  place : ∀ (tree : FileTree) (place : Place), tree.placeOf path = .ok place →
    ∃ dest, tree.walk (tree.origin directory) directory.parts = .ok dest ∧ place = dest ++ [name]

/-- An ordinary name in a directory lies in that directory. -/
theorem Path.liesIn_join (directory : Path) {name : String} (hName : Path.Ordinary name) :
    (directory.join name).LiesIn directory name := by
  constructor
  · refine ⟨directory.stem, ?_, parts_join directory hName⟩
    unfold stem
    split
    · next hLast => exact Or.inr (List.dropLast_append_getLast? "" hLast)
    · exact Or.inl rfl
  · intro tree place hPlace
    obtain ⟨dest, hWalk⟩ := FileTree.exists_walk_of_placeOf_join hName hPlace
    refine ⟨dest, ?_, FileTree.eq_of_placeOf_join hName hWalk hPlace⟩
    -- neither the slash that ends a directory nor trimming changes where it leads
    have hOrigin : tree.origin directory = tree.origin directory.trimmed := by
      rw [FileTree.origin, FileTree.origin, isAbsolute_trimmed]
    rw [hOrigin, ← hWalk, ← FileTree.walk_steps, ← steps_stem, FileTree.walk_steps]

/-- The last of what tells the path of a file in a directory is the name of the file. -/
theorem Path.getLast?_components_join (directory : Path) {name : String} (hName : Path.Ordinary name) :
    (directory.join name).components.2.getLast? = some name := by
  have hSteps : ∀ parts, steps (parts ++ [name]) = steps parts ++ [name] := fun parts => by
    simp [steps, hName.leads]
  rw [components, parts_join directory hName]
  split
  · next rest hParts =>
    -- the path starts with a dot, which is not the name itself
    rcases List.append_eq_cons_iff.mp hParts with ⟨-, hAlone⟩ | ⟨front, -, rfl⟩
    · have hDot : name = "." := (List.cons.inj hAlone).1
      exact absurd hName.leads (by rw [hDot]; decide)
    · rw [hSteps, ← List.cons_append, List.getLast?_concat]
  · rw [hSteps, List.getLast?_concat]

namespace ChartOptions

/-- The file of a chart of a plain kind lies in the output directory, whatever the host. -/
theorem pathOf_liesIn (options : ChartOptions) {target : ChartTarget}
    (hPlain : target.kind.IsPlain) :
    (options.pathOf target).LiesIn options.directory target.fileName :=
  Path.liesIn_join options.directory (ChartTarget.ordinary_fileName hPlain)

/-- The paths of charts of plain kinds count as one exactly if the charts share their file name. -/
theorem same_pathOf_iff_fileName (options : ChartOptions) {a b : ChartTarget} (ha : a.kind.IsPlain)
    (hb : b.kind.IsPlain) :
    (options.pathOf a).Same (options.pathOf b) ↔ a.fileName = b.fileName := by
  constructor
  · intro hSame
    have hLast := Path.getLast?_components_join options.directory (ChartTarget.ordinary_fileName ha)
    rw [← pathOf, hSame, pathOf,
      Path.getLast?_components_join options.directory (ChartTarget.ordinary_fileName hb)] at hLast
    exact (Option.some.inj hLast).symm
  · intro hName
    rw [pathOf, hName, Path.Same, pathOf]

/-- Paths of charts of standard kinds count as one only if they are one. -/
theorem same_pathOf_iff (options : ChartOptions) {a b : ChartTarget}
    (ha : a.kind ∈ ChartKind.standard) (hb : b.kind ∈ ChartKind.standard) :
    (options.pathOf a).Same (options.pathOf b) ↔ a.kind = b.kind ∧ ShareName a.host b.host := by
  rw [← ChartTarget.fileName_eq_iff ha hb]
  exact options.same_pathOf_iff_fileName (ChartKind.isPlain_of_standard ha)
    (ChartKind.isPlain_of_standard hb)

/-- Charts of standard kinds have one path exactly if their hosts share their names and their kind is
one. -/
theorem pathOf_eq_iff (options : ChartOptions) {a b : ChartTarget} (ha : a.kind ∈ ChartKind.standard)
    (hb : b.kind ∈ ChartKind.standard) :
    options.pathOf a = options.pathOf b ↔ a.kind = b.kind ∧ ShareName a.host b.host := by
  constructor
  · intro hEq
    exact (options.same_pathOf_iff ha hb).mp (congrArg Path.components hEq)
  · intro hShare
    rw [pathOf, (ChartTarget.fileName_eq_iff ha hb).mpr hShare, pathOf]

end ChartOptions

/-! ## Duplicates of a run -/

namespace Gallery

variable {gallery : Gallery}

/-- Where files may be replaced, a check fails for a duplicate exactly when two paths count as one. -/
theorem checkAfter_duplicate_iff (hForce : gallery.options.force = true) (seen : List Path)
    (targets : List ChartTarget) :
    (∃ path, gallery.checkAfter seen targets = .error (.duplicateOutput path)) ↔
      ¬ (Path.Distinct (targets.map gallery.options.pathOf) ∧
        ∀ target ∈ targets, ¬ (gallery.options.pathOf target).IsAmong seen) := by
  induction targets generalizing seen with
  | nil => simp [checkAfter, Path.distinct_nil]
  | cons target targets ih =>
    by_cases hSeen : (gallery.options.pathOf target).IsAmong seen
    · rw [checkAfter_of_seen hSeen]
      exact iff_of_true ⟨_, rfl⟩ fun hNew => hNew.2 target List.mem_cons_self hSeen
    · -- nothing is in the way of a run that may replace files
      have hFree : gallery.blocks (gallery.options.pathOf target) = false := by
        simp [blocks, hForce]
      rw [checkAfter_of_free hSeen hFree, ih, not_iff_not, List.map_cons, Path.distinct_cons,
        List.forall_mem_map, List.forall_mem_cons]
      -- the path of the first chart is new to the others exactly if theirs are new to it
      simp only [Path.isAmong_cons, not_or]
      constructor
      · rintro ⟨hDistinct, hNew⟩
        exact ⟨⟨fun other hOther => (hNew other hOther).1, hDistinct⟩, hSeen,
          fun other hOther => (hNew other hOther).2⟩
      · rintro ⟨⟨hOnce, hDistinct⟩, -, hNew⟩
        exact ⟨hDistinct, fun other hOther => ⟨hOnce other hOther, hNew other hOther⟩⟩

/-- A run that may replace files is stopped for a duplicate exactly when two paths count as one. -/
theorem drawRun_duplicate_iff {options : ChartOptions} (hForce : options.force = true)
    (files : FileTree) (charts : List Chart) :
    (∃ path, ((new options files).drawRun charts).2 = .error (.duplicateOutput path)) ↔
      ¬ Path.Distinct ((targetsOf charts).map options.pathOf) := by
  have hForced : (new options files).options.force = true := hForce
  have hCheck := checkAfter_duplicate_iff hForced [] (targetsOf charts)
  have hNone : ∀ target ∈ targetsOf charts, ¬ (options.pathOf target).IsAmong [] :=
    fun _ _ => Path.not_isAmong_nil
  have hDistinct : (∃ path, (new options files).check (targetsOf charts) =
      .error (.duplicateOutput path)) ↔ ¬ Path.Distinct ((targetsOf charts).map options.pathOf) :=
    hCheck.trans (not_congr (and_iff_left hNone))
  rw [← hDistinct, drawRun]
  cases hVerdict : (new options files).check (targetsOf charts) with
  | error e => exact Iff.rfl
  | ok _ =>
    -- what the check lets pass is not refused while it is drawn, since the run may replace files
    have hPasses : ¬ ∃ path, (Except.ok () : Except ChartError Unit) =
        .error (.duplicateOutput path) := by simp
    refine iff_of_false ?_ hPasses
    rintro ⟨path, hError⟩
    have hDrawn : ∀ e, ((new options files).drawAll charts).2 = .error e → e.IsRefusal := by
      intro e hEnds
      rw [show ((new options files).drawAll charts).2 = _ from hError] at hEnds
      obtain rfl := Except.error.inj hEnds
      trivial
    have hNot : ¬ (new options files).RunsInto charts := by
      intro hRuns
      have hCareful := hRuns.force_eq_false
      rw [hForced] at hCareful
      cases hCareful
    have hSame := (drawAll_eq_check_iff_not_runsInto hDrawn).mpr hNot
    rw [hVerdict, show ((new options files).drawAll charts).2 = _ from hError] at hSame
    cases hSame

/-- So it is for the charts of a plan, whose errors are those of the run. -/
theorem drawCharts_duplicate_iff {options : ChartOptions} (hForce : options.force = true)
    (files : FileTree) (charts : List Chart) :
    (∃ path, ((new options files).drawCharts charts).2 = .error (.chart (.duplicateOutput path))) ↔
      ¬ Path.Distinct ((targetsOf charts).map options.pathOf) := by
  rw [← drawRun_duplicate_iff hForce files, drawCharts]
  rcases (new options files).drawRun charts with ⟨after, e | _⟩
  · simp [Except.mapError]
  · simp [Except.mapError]

end Gallery

/-! ## The series of a host -/

/-- Some samples of a host have a series of a kind that is not empty: a value of the field that a trace
shows, or a point of the curve that both charts of a sweep show. -/
def Drawing.HasSeries (drawing : Drawing) (samples : List Sample) (kind : ChartKind) : Prop :=
  match drawing with
  | .traces _ =>
    (kind = .voltage ∧ ∃ sample ∈ samples, sample.field = .voltage) ∨
      (kind = .current ∧ ∃ sample ∈ samples, sample.field = .current)
  | .sweeps window => (kind = .iv ∨ kind = .pv) ∧ Sweep.curve samples window ≠ []

/-- There are series of standard kinds only. -/
theorem Drawing.HasSeries.standard {drawing : Drawing} {samples : List Sample} {kind : ChartKind}
    (h : drawing.HasSeries samples kind) : kind ∈ ChartKind.standard := by
  cases drawing with
  | traces offset =>
    rcases h with ⟨rfl, -⟩ | ⟨rfl, -⟩
    · decide
    · decide
  | sweeps window =>
    rcases h with ⟨rfl | rfl, -⟩
    · decide
    · decide

/-- The charts that samples give are those of the series that they have. -/
theorem Drawing.mem_shown {drawing : Drawing} {host : String} {samples : List Sample}
    {target : ChartTarget} :
    target ∈ drawing.shown host samples ↔
      target.host = host ∧ drawing.HasSeries samples target.kind := by
  obtain ⟨other, kind⟩ := target
  cases drawing with
  | traces offset =>
    rw [Drawing.shown, List.mem_append, HasSeries, and_or_left]
    -- the two series of a trace, one after the other
    apply or_congr
    · by_cases hSome : ∃ sample ∈ samples, sample.field = .voltage
      · simp [hSome]
      · simp [hSome]
    · by_cases hSome : ∃ sample ∈ samples, sample.field = .current
      · simp [hSome]
      · simp [hSome]
  | sweeps window =>
    rw [Drawing.shown, HasSeries]
    by_cases hNone : Sweep.curve samples window = []
    · simp [hNone]
    · simp [hNone, and_or_left]

/-- No chart of a host comes twice. -/
theorem Drawing.nodup_shown (drawing : Drawing) (host : String) (samples : List Sample) :
    (drawing.shown host samples).Nodup := by
  unfold Drawing.shown
  split
  · split <;> split <;> simp [ChartKind.voltage, ChartKind.current]
  · split <;> simp [ChartKind.iv, ChartKind.pv]

theorem Drawing.not_hasSeries_nil (drawing : Drawing) (kind : ChartKind) :
    ¬ drawing.HasSeries [] kind := by
  have hCurve : ∀ window, Sweep.curve [] window = [] := fun _ => rfl
  cases drawing <;> simp [HasSeries, hCurve]

namespace Plan

variable {plan : Plan} {samples : List Sample}

/-- The charts with points are those of the series that the samples of their hosts have. -/
theorem mem_shown {target : ChartTarget} :
    target ∈ plan.shown (.ofList samples) ↔
      plan.drawing.HasSeries (HostSeries.samplesFrom target.host samples) target.kind := by
  rw [shown, (HostSeries.holds_ofList samples).groups, List.flatMap_map, List.mem_flatMap]
  constructor
  · rintro ⟨host, -, hShown⟩
    obtain ⟨rfl, hSeries⟩ := Drawing.mem_shown.mp hShown
    exact hSeries
  · intro hSeries
    refine ⟨target.host, ?_, Drawing.mem_shown.mpr ⟨rfl, hSeries⟩⟩
    -- a host that is not in the series has no samples, so it would have no chart
    by_contra hAbsent
    rw [HostSeries.samplesFrom_eq_nil hAbsent] at hSeries
    exact Drawing.not_hasSeries_nil _ _ hSeries

/-- No chart comes twice, as no host does. -/
theorem nodup_shown (plan : Plan) (samples : List Sample) :
    (plan.shown (.ofList samples)).Nodup := by
  rw [shown, (HostSeries.holds_ofList samples).groups, List.flatMap_map, List.nodup_flatMap]
  refine ⟨fun host _ => Drawing.nodup_shown _ _ _, ?_⟩
  -- the charts of two groups differ in their hosts
  refine (HostSeries.nodup_hostsOf samples).imp fun {host other} hNe target hLeft hRight => ?_
  obtain ⟨hHost, -⟩ := Drawing.mem_shown.mp hLeft
  obtain ⟨hOther, -⟩ := Drawing.mem_shown.mp hRight
  exact hNe (hHost.symm.trans hOther)

/-- Two charts with points have one path exactly when two hosts that share their names have series of
one kind. -/
theorem not_distinct_paths_iff (plan : Plan) (options : ChartOptions) (samples : List Sample) :
    ¬ Path.Distinct ((plan.shown (.ofList samples)).map options.pathOf) ↔
      ∃ host other kind, host ≠ other ∧ ShareName host other ∧
        plan.drawing.HasSeries (HostSeries.samplesFrom host samples) kind ∧
        plan.drawing.HasSeries (HostSeries.samplesFrom other samples) kind := by
  rw [Path.Distinct, List.map_map, List.nodup_map_iff_inj_on (nodup_shown plan samples)]
  push Not
  constructor
  · rintro ⟨a, hLeft, b, hRight, hPath, hNe⟩
    have hSeriesA := mem_shown.mp hLeft
    have hSeriesB := mem_shown.mp hRight
    obtain ⟨hKind, hShare⟩ := (options.same_pathOf_iff hSeriesA.standard hSeriesB.standard).mp hPath
    -- of one kind, different charts are of different hosts
    have hHosts : a.host ≠ b.host := by
      intro hHost
      obtain ⟨host, kind⟩ := a
      exact hNe (ChartTarget.mk.injEq .. ▸ ⟨hHost, hKind⟩)
    exact ⟨a.host, b.host, a.kind, hHosts, hShare, hSeriesA, hKind ▸ hSeriesB⟩
  · rintro ⟨host, other, kind, hHosts, hShare, hLeft, hRight⟩
    refine ⟨⟨host, kind⟩, mem_shown.mpr hLeft, ⟨other, kind⟩, mem_shown.mpr hRight, ?_, ?_⟩
    · exact (options.same_pathOf_iff hLeft.standard hRight.standard).mpr ⟨rfl, hShare⟩
    · exact fun hEq => hHosts (congrArg ChartTarget.host hEq)

/-! ## Runs -/

/-- No time that a plan moves leaves the representable range. The curves of sweeps are not moved. -/
def CanShift (plan : Plan) (samples : List Sample) : Prop :=
  ∀ offset, plan.drawing = .traces offset → ∀ sample ∈ samples, sample.time.CanMove offset

/-- Time charts are made exactly if every time of every host can be moved. -/
theorem exists_traceCharts_iff {offset : Span} {groups : List (String × List Sample)} :
    (∃ charts, traceCharts offset groups = .ok charts) ↔
      ∀ group ∈ groups, ∀ sample ∈ group.2, sample.time.CanMove offset := by
  have hStuck : Trace.stuckHost? offset groups = none ↔
      ∀ group ∈ groups, ∀ sample ∈ group.2, sample.time.CanMove offset := by
    simp [Trace.stuckHost?, Trace.stuckTime?_eq_none_iff]
  rw [← hStuck]
  constructor
  · rintro ⟨charts, hCharts⟩
    -- a host that is stuck stops the charts of all
    by_contra hSome
    obtain ⟨⟨host, time⟩, hHost⟩ := Option.ne_none_iff_exists'.mp hSome
    rw [Trace.traceCharts_of_stuckHost hHost] at hCharts
    cases hCharts
  · intro hNone
    obtain ⟨charts, -, hCharts, -⟩ := Trace.traceCharts_of_none_stuck hNone
    exact ⟨charts, hCharts⟩

/-- A plan makes charts of some samples exactly when none of their times leaves the range. -/
theorem exists_charts_iff (plan : Plan) (samples : List Sample) :
    (∃ charts, plan.charts (.ofList samples) = .ok charts) ↔ plan.CanShift samples := by
  unfold Plan.charts CanShift
  cases plan.drawing with
  | sweeps window => exact iff_of_true ⟨_, rfl⟩ fun _ hTraces => nomatch hTraces
  | traces offset =>
    simp only [exists_traceCharts_iff, (HostSeries.holds_ofList samples).groups, List.forall_mem_map]
    constructor
    · -- every sample is in the group of its host, and every group is of the samples
      rintro hGroups _ ⟨⟩ sample hSample
      refine hGroups sample.host (HostSeries.mem_hostsOf.mpr ⟨sample, hSample, rfl⟩) sample ?_
      exact List.mem_filter.mpr ⟨hSample, by simp⟩
    · intro hAll host _ sample hSample
      exact hAll offset rfl sample (List.mem_filter.mp hSample).1

/-- **Charts collide only when they must.** Whatever the host, the file of a chart whose kind has no slash
in its name lies directly in the output directory. The standard kinds have none, and the names of their
files have no character that a file name cannot hold. Two charts of these kinds have one path, and paths
that count as one, exactly if they are of one kind and their hosts share their names. So a run into a new
gallery that may replace files is stopped for a duplicate exactly when all times can be moved and two
different hosts that share their names both have a series of one kind. -/
theorem charts_collide_iff (options : ChartOptions) :
    (∀ target : ChartTarget, target.kind.IsPlain →
      (options.pathOf target).LiesIn options.directory target.fileName) ∧
    (∀ target : ChartTarget, target.kind ∈ ChartKind.standard →
      target.kind.IsPlain ∧ ∀ c ∈ target.fileName.toList, c ∉ reserved) ∧
    (∀ a b : ChartTarget, a.kind ∈ ChartKind.standard → b.kind ∈ ChartKind.standard →
      (options.pathOf a = options.pathOf b ↔ a.kind = b.kind ∧ ShareName a.host b.host) ∧
      ((options.pathOf a).Same (options.pathOf b) ↔ options.pathOf a = options.pathOf b)) ∧
    ∀ (plan : Plan) (files : FileTree) (samples : List Sample), options.force = true →
      ((∃ path, (plan.draw (.new options files) (.ofList samples)).2 =
          .error (.chart (.duplicateOutput path))) ↔
        plan.CanShift samples ∧ ∃ host other kind, host ≠ other ∧ ShareName host other ∧
          plan.drawing.HasSeries (HostSeries.samplesFrom host samples) kind ∧
          plan.drawing.HasSeries (HostSeries.samplesFrom other samples) kind) := by
  refine ⟨fun target => options.pathOf_liesIn,
    fun target hKind => ⟨ChartKind.isPlain_of_standard hKind, fun c hMem => ?_⟩,
    fun a b ha hb => ⟨?_, ?_⟩, ?_⟩
  · exact ChartTarget.not_reserved_of_mem_fileName hKind hMem
  · exact options.pathOf_eq_iff ha hb
  · rw [options.same_pathOf_iff ha hb, options.pathOf_eq_iff ha hb]
  · intro plan files samples hForce
    rw [← not_distinct_paths_iff plan options samples, ← exists_charts_iff plan samples]
    cases hCharts : plan.charts (.ofList samples) with
    | error e =>
      -- a run that cannot move a time is stopped for that
      obtain ⟨host, error, rfl⟩ := charts_error hCharts
      rw [draw_of_charts_error hCharts]
      refine iff_of_false ?_ ?_
      · rintro ⟨path, hError⟩
        cases hError
      · rintro ⟨⟨charts, hOk⟩, -⟩
        cases hOk
    | ok charts =>
      rw [draw_of_charts hCharts, Gallery.drawCharts_duplicate_iff hForce, charts_shown hCharts]
      exact (and_iff_right ⟨charts, rfl⟩).symm

/-- One voltage of each of two hosts that file names do not tell apart. -/
def blurredVoltages : List Sample :=
  [⟨⟨0, 0⟩, "a/b", .voltage, 1⟩, ⟨⟨0, 0⟩, "a:b", .voltage, 1⟩]

/-- Their charts of one kind share a path, and even a run that may replace files does not put both into
it. -/
theorem charts_collide_blurred :
    ChartKind.voltage ∈ ChartKind.standard ∧
      unmoved.options.pathOf ⟨"a/b", .voltage⟩ = unmoved.options.pathOf ⟨"a:b", .voltage⟩ ∧
      { unmoved.options with force := true }.force = true ∧
      ∃ path, (unmoved.draw (.new { unmoved.options with force := true } (.empty ["work"]))
        (.ofList blurredVoltages)).2 = .error (.chart (.duplicateOutput path)) := by
  have hStandard : ChartKind.voltage ∈ ChartKind.standard := by decide
  have hShare : ShareName "a/b" "a:b" := (sanitized_eq_iff "a/b" "a:b").mp (by decide)
  obtain ⟨-, -, hPaths, -⟩ := charts_collide_iff unmoved.options
  obtain ⟨-, -, -, hRun⟩ := charts_collide_iff { unmoved.options with force := true }
  refine ⟨hStandard, ?_, rfl, (hRun unmoved (.empty ["work"]) blurredVoltages rfl).mpr ⟨?_, ?_⟩⟩
  · exact (hPaths ⟨"a/b", .voltage⟩ ⟨"a:b", .voltage⟩ hStandard hStandard).1.mpr ⟨rfl, hShare⟩
  · rintro _ ⟨⟩
    decide +kernel
  · refine ⟨"a/b", "a:b", .voltage, by decide, hShare, ?_, ?_⟩
    · refine Or.inl ⟨rfl, ⟨⟨0, 0⟩, "a/b", .voltage, 1⟩, ?_, rfl⟩
      simp [blurredVoltages, HostSeries.samplesFrom]
    · refine Or.inl ⟨rfl, ⟨⟨0, 0⟩, "a:b", .voltage, 1⟩, ?_, rfl⟩
      simp [blurredVoltages, HostSeries.samplesFrom]

end Plan

end SolarCharts
