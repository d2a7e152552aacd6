import SolarCharts.Chart.Kind
import SolarCharts.Chart.Size
import SolarCharts.Files.Tree

/-!
# Writing charts

A `Gallery` writes charts into an output directory, each into a file that is named for its host and
its kind, and remembers which it wrote. It takes no path twice, and none that leads to a file that was
there before, unless it is forced to. A chart without points is left out.

Different hosts may share a file name, since characters that file names cannot hold are replaced. The
name of a kind is taken as it is: one with slashes puts its charts into other directories.
`Gallery.check` finds charts that share a path, and files that are in the way, before anything is
written; `Gallery.draw` finds them again for the one chart it draws. A chart that cannot be drawn fails
after its directory was made.
-/

namespace SolarCharts

/-! ## Errors -/

/-- Why a chart is not written. -/
inductive ChartError where
  /-- The values leave an axis with nothing to show. -/
  | noFiniteValue
  | notWritten (error : FileError)
  /-- A file of that name was there before. -/
  | outputExists (path : Path)
  /-- The file is that of a chart already written or to be written. -/
  | duplicateOutput (path : Path)
  | noDirectory (path : Path) (error : FileError)
  | invalidSize (text : String)
deriving DecidableEq

/-- What a chart that is not written is reported as. -/
def ChartError.message : ChartError → String
  | .noFiniteValue => "Chart generation error: No valid data points found"
  | .notWritten error => "Chart generation error: Failed to present chart: " ++ error.message
  | .outputExists path =>
    "Chart file already exists: " ++ path.text ++ ". Use --force to overwrite"
  | .duplicateOutput path =>
    "Chart file " ++ path.text ++ " would be written for more than one host"
  | .noDirectory path error =>
    "Output error: Failed to create output directory " ++ path.text ++ ": " ++ error.message
  | .invalidSize text =>
    "Invalid size format: " ++ text ++ ". Expected format: WIDTHxHEIGHT"

/-! ## Charts -/

/-- Which chart of which host. -/
structure ChartTarget where
  host : String
  kind : ChartKind
deriving DecidableEq

/-- The points of a chart. -/
inductive Points where
  | overTime (points : List (Instant × Float))
  | overQuantity (points : List (Float × Float))
deriving DecidableEq

namespace Points

/-- Whether there are none. -/
def isEmpty : Points → Bool
  | .overTime points => points.isEmpty
  | .overQuantity points => points.isEmpty

/-- The axes that show some points, when each has something to show. -/
def axes? : Points → Option Axes
  | .overTime points => do
    let time ← timeRange (points.map (·.1))
    let value ← numberRange (points.map (·.2))
    return .overTime time value
  | .overQuantity points => do
    let x ← numberRange (points.map (·.1))
    let y ← numberRange (points.map (·.2))
    return .overQuantity x y

end Points

/-- A chart. -/
structure Chart where
  target : ChartTarget
  points : Points
deriving DecidableEq

/-! ## File names -/

/-- Whether a character is replaced in file names. -/
def isReserved (c : Char) : Bool := "/\\:*?\"<>|".toList.contains c

/-- A text with an underscore for every reserved character. -/
def sanitized (text : String) : String :=
  String.ofList (text.toList.map fun c => if isReserved c then '_' else c)

/-- The file name of a chart. -/
def ChartTarget.fileName (target : ChartTarget) : String :=
  sanitized target.host ++ "_" ++ target.kind.name ++ ".png"

/-! ## Galleries -/

/-- Where charts go and how they are made. -/
structure ChartOptions where
  directory : Path
  size : Size
  /-- Whether files that were there before are replaced. -/
  force : Bool
deriving DecidableEq

namespace ChartOptions

/-- The file of a chart. -/
def pathOf (options : ChartOptions) (target : ChartTarget) : Path :=
  options.directory.join target.fileName

/-- The picture of a chart between axes. -/
def picture (options : ChartOptions) (target : ChartTarget) (axes : Axes) : Picture :=
  { size := options.size
    title := target.kind.title target.host
    xLabel := target.kind.xLabel
    yLabel := target.kind.yLabel
    axes }

end ChartOptions

/-- Files, and the charts among them that were written so far. -/
structure Gallery where
  options : ChartOptions
  /-- The files of the charts written so far, in order. -/
  written : List Path
  files : FileTree
deriving DecidableEq

namespace Gallery

/-- Before the first chart. -/
def new (options : ChartOptions) (files : FileTree) : Gallery := ⟨options, [], files⟩

/-- Whether a file may not be written because it is there. -/
def blocks (gallery : Gallery) (path : Path) : Bool :=
  gallery.files.contains path && !gallery.options.force

/-- Checks charts that are to be written after those of some files. -/
def checkAfter (gallery : Gallery) (seen : List Path) : List ChartTarget → Except ChartError Unit
  | [] => .ok ()
  | target :: targets =>
    let path := gallery.options.pathOf target
    -- a chart of this run is a duplicate, even where its file is there
    if gallery.blocks path ∧ ¬ path.IsAmong seen then .error (.outputExists path)
    else if path.IsAmong seen then .error (.duplicateOutput path)
    else checkAfter gallery (path :: seen) targets

/-- Checks every chart of a run, so that nothing is written for one that will be rejected. -/
def check (gallery : Gallery) (targets : List ChartTarget) : Except ChartError Unit :=
  gallery.checkAfter gallery.written targets

/-- Checks that a file may be written, and makes the directory that it lies in. -/
def prepare (gallery : Gallery) (path : Path) : Gallery × Except ChartError Unit :=
  if path.IsAmong gallery.written then (gallery, .error (.duplicateOutput path))
  else if gallery.blocks path then (gallery, .error (.outputExists path))
  else
    -- the directory is made only once nothing else is in the way
    let directory := path.folder
    let (files, made) := gallery.files.makeDirectories directory
    let gallery := { gallery with files }
    match made with
    | .ok () => (gallery, .ok ())
    | .error e => (gallery, .error (.noDirectory directory e))

/-- Writes the picture of a chart, if its points can be shown. -/
def paint (gallery : Gallery) (path : Path) (chart : Chart) :
    Gallery × Except ChartError (Option Path) :=
  match chart.points.axes? with
  -- both axes are settled before the file is touched
  | none => (gallery, .error .noFiniteValue)
  | some axes =>
    match gallery.files.write path (.picture (gallery.options.picture chart.target axes)) with
    | .error e => (gallery, .error (.notWritten e))
    | .ok files =>
      ({ gallery with files, written := gallery.written ++ [path] }, .ok (some path))

/-- Draws a chart and gives its file, if it has points. -/
def draw (gallery : Gallery) (chart : Chart) : Gallery × Except ChartError (Option Path) :=
  if chart.points.isEmpty then (gallery, .ok none)
  else
    let path := gallery.options.pathOf chart.target
    match gallery.prepare path with
    | (gallery, .error e) => (gallery, .error e)
    | (gallery, .ok ()) => gallery.paint path chart

/-- Draws charts until one fails. -/
def drawAll (gallery : Gallery) : List Chart → Gallery × Except ChartError Unit
  | [] => (gallery, .ok ())
  | chart :: charts =>
    match gallery.draw chart with
    | (gallery, .error e) => (gallery, .error e)
    | (gallery, .ok _) => drawAll gallery charts

/-- The charts of a run that have points. -/
def targetsOf (charts : List Chart) : List ChartTarget :=
  (charts.filter fun chart => !chart.points.isEmpty).map (·.target)

/-- Checks the charts of a run and draws them. -/
def drawRun (gallery : Gallery) (charts : List Chart) : Gallery × Except ChartError Unit :=
  match gallery.check (targetsOf charts) with
  | .error e => (gallery, .error e)
  | .ok () => gallery.drawAll charts

end Gallery

end SolarCharts
