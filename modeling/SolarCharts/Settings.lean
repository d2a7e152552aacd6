import SolarCharts.Text.Quoted
import SolarCharts.Time.DurationText

/-!
# Settings

Eight texts say how the store is reached and how charts are made. They come in layers: the built-in
values, then files, then the environment. A layer of settings that lies on another one hides each of
its values, unless the upper value is the built-in one; `Settings.overlay` is that rule. An
environment variable hides what lies below it when it is set and not empty.

Settings are kept as they were written. Whether the connection is complete, and which durations the
texts give, is asked only where it matters: `Settings.check` and `Settings.duration`.
-/

namespace SolarCharts

/-! ## Keys -/

/-- What can be set. -/
inductive Key where
  /-- Where the store is. -/
  | url
  /-- What authorizes requests. -/
  | token
  /-- The organization whose data is read. -/
  | org
  /-- The bucket that is read when no other is asked for. -/
  | bucket
  /-- How long a request may take. -/
  | timeout
  /-- What is added to times before they are shown. -/
  | timeOffset
  /-- How long the latest sweep is. -/
  | window
  /-- How the log is written. -/
  | logFormat
deriving DecidableEq

namespace Key

/-- The section of a settings file that a key stands in. -/
def sectionName : Key → String
  | .url | .token | .org | .bucket | .timeout => "influx"
  | .timeOffset => "display"
  | .window => "sweep"
  | .logFormat => "logging"

/-- The name of a key within its section. -/
def name : Key → String
  | .url => "url"
  | .token => "token"
  | .org => "org"
  | .bucket => "bucket"
  | .timeout => "timeout"
  | .timeOffset => "time_offset"
  | .window => "window"
  | .logFormat => "rust_log_format"

/-- A key with its section. -/
def text (key : Key) : String := key.sectionName ++ "." ++ key.name

/-- The built-in value. -/
def builtIn : Key → String
  | .url => "http://localhost:8086"
  | .token => ""
  | .org => ""
  | .bucket => "rooftop"
  | .timeout => "5m"
  | .timeOffset => "2h"
  | .window => "1s"
  | .logFormat => "term"

/-- The environment variable that sets a key, if one does. -/
def environmentName? : Key → Option String
  | .url => some "INFLUX_URL"
  | .token => some "INFLUX_TOKEN"
  | .org => some "INFLUX_ORG"
  | .bucket => some "INFLUX_BUCKET"
  | .logFormat => some "LOG_FORMAT"
  | .timeout | .timeOffset | .window => none

end Key

/-! ## Layers -/

/-- A value for every key. -/
@[ext]
structure Settings where
  /-- The value of a key, as it was written. -/
  value : Key → String

namespace Settings

/-- The built-in values. -/
def builtIn : Settings := ⟨Key.builtIn⟩

instance : Inhabited Settings := ⟨builtIn⟩

/-- Upper settings on lower ones: an upper value stands unless it is the built-in one. -/
def overlay (lower upper : Settings) : Settings :=
  ⟨fun key => if upper.value key = key.builtIn then lower.value key else upper.value key⟩

theorem overlay_builtIn (lower : Settings) : lower.overlay builtIn = lower := by
  apply Settings.ext
  funext key
  simp [overlay, builtIn]

theorem builtIn_overlay (upper : Settings) : builtIn.overlay upper = upper := by
  apply Settings.ext
  funext key
  simp only [overlay, builtIn]
  split
  · next h => exact h.symm
  · rfl

/-- What a layer that leaves keys out comes to by itself. -/
def ofPartial (layer : Key → Option String) : Settings := ⟨fun key => (layer key).getD key.builtIn⟩

/-- Settings under the environment: a variable that is set and not empty stands. -/
def underEnvironment (settings : Settings) (lookup : String → Option String) : Settings :=
  ⟨fun key =>
    match key.environmentName?.bind lookup with
    | some value => if value = "" then settings.value key else value
    | none => settings.value key⟩

end Settings

/-! ## Checks -/

/-- Why settings cannot be used. -/
inductive SettingsError where
  /-- A value that is needed is blank. -/
  | missing (key : Key)
  /-- A value is no duration. -/
  | invalidDuration (key : Key) (value : String)
deriving DecidableEq

/-- What settings that cannot be used are reported as. -/
def SettingsError.message : SettingsError → String
  | .missing key => key.text ++ " is empty"
  | .invalidDuration key value =>
    "invalid duration for " ++ key.text ++ ": " ++ Text.quoted value

namespace Settings

/-- The keys that a connection needs, in the order in which they are checked. -/
def neededKeys : List Key := [.url, .token, .org]

/-- The first of some keys whose value is blank. -/
def firstBlank? (settings : Settings) (keys : List Key) : Option Key :=
  keys.find? fun key => Text.isAllBlank (settings.value key)

/-- Checks that a connection has what it needs. -/
def check (settings : Settings) : Except SettingsError Unit :=
  match settings.firstBlank? neededKeys with
  | some key => .error (.missing key)
  | none => .ok ()

/-- The duration that a key is set to. Blanks around it do not count. -/
def duration (settings : Settings) (key : Key) : Except SettingsError Duration :=
  match DurationText.ofText? (Text.trim (settings.value key)) with
  | some d => .ok d
  | none => .error (.invalidDuration key (settings.value key))

end Settings

end SolarCharts
