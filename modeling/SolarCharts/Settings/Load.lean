import SolarCharts.Files.Tree
import SolarCharts.Settings.Layer

/-!
# Loading settings

Settings come from up to three files, each over the ones before it: two in the settings directory,
which may be missing, and one that was asked for, which may not. The first file that cannot be read
or understood stops the loading.

A process holds one set of settings. The first that it installs or loads stays for good.
-/

namespace SolarCharts

/-! ## Errors -/

/-- Why settings are not loaded. -/
inductive LoadError where
  | unreadable (path : Path) (error : FileError)
  /-- A file is no document, or a value in it is of the wrong type. -/
  | invalid (path : Path)
deriving DecidableEq

/-- Which file stopped the loading. -/
def LoadError.message : LoadError → String
  | .unreadable path _ => "Failed to read config file: " ++ path.text
  | .invalid path => "Failed to parse config file: " ++ path.text

/-- Which file stopped the loading, and why. -/
def LoadError.fullMessage (e : LoadError) : String :=
  e.message ++ ": " ++
    match e with
    | .unreadable _ error => error.message
    | .invalid _ => "TOML parse error"

/-! ## Files -/

namespace Settings

/-- The settings that a file comes to by itself. -/
def ofFile (files : FileTree) (path : Path) : Except LoadError Settings :=
  match files.readText path with
  | .error e => .error (.unreadable path e)
  | .ok text =>
    match Layer.ofText? text with
    | some layer => .ok (ofPartial layer)
    | none => .error (.invalid path)

/-- Lower settings under those of some files, the last one on top. -/
def underFiles (files : FileTree) (lower : Settings) : List Path → Except LoadError Settings
  | [] => .ok lower
  | path :: paths =>
    match ofFile files path with
    | .error e => .error e
    | .ok upper => underFiles files (lower.overlay upper) paths

/-- The file names in the settings directory. -/
def fileNames : List String := ["config.toml", "config.local.toml"]

/-- The files that are there, and the one that was asked for. -/
def filesIn (files : FileTree) (directory : Path) (explicit : Option Path) : List Path :=
  (fileNames.map directory.join).filter files.contains ++ explicit.toList

/-- The settings that files give, without the environment. -/
def ofFiles (files : FileTree) (directory : Path) (explicit : Option Path) :
    Except LoadError Settings :=
  underFiles files builtIn (filesIn files directory explicit)

/-- The settings directory. -/
def directory : Path := .ofText "config"

/-- The settings that files and the environment give. -/
def load (files : FileTree) (lookup : String → Option String) (explicit : Option Path) :
    Except LoadError Settings :=
  (ofFiles files directory explicit).map fun settings => settings.underEnvironment lookup

end Settings

/-! ## The settings of a process -/

/-- The settings that a process holds, once it holds some. -/
abbrev HeldSettings := Option Settings

namespace HeldSettings

/-- Installs settings, unless there are some: those that stand from then on. -/
def install (held : HeldSettings) (settings : Settings) : Settings := held.getD settings

/-- What is said when settings are asked for and cannot be loaded. -/
def warning (e : LoadError) : String :=
  "Warning: Failed to load config files: " ++ e.message ++ ". Using defaults.\n"

/-- The settings that stand once they are asked for, and what is said then. They are loaded if there
are none yet, and built in if that fails. -/
def current (held : HeldSettings) (files : FileTree) (lookup : String → Option String) :
    Settings × String :=
  match held with
  | some settings => (settings, "")
  | none =>
    match Settings.load files lookup none with
    | .ok settings => (settings, "")
    | .error e => (.builtIn, warning e)

end HeldSettings

end SolarCharts
