import Mathlib.Data.List.Induction
import SolarCharts.Settings.Load

/-!
# Which layer of settings stands

Settings are loaded from the built-in values, up to three files and the environment, each over the
ones before it. `Sources` are the files of a load that can be loaded: each is missing where it may
be, or gives a layer. For such files the load succeeds, and every key can be read off the layers.

The rule one expects is `topmost`: the value of the last layer that sets the key. It is not the rule
in force, because `Settings.overlay` takes an upper value that is the built-in one for a value that
was left out. So the values in force are those that differ from the built-in one.

* `stack_value` — a key of stacked layers: the last value given to it that is not the built-in one.
* `Sources.ofFiles_eq` — loading stacks the layers of the files that are there.
* `Sources.value_eq_topmost_iff` — the expected rule holds of a key exactly when the environment
  sets it or no layer sets it back to its built-in value.
* `reset_is_lost` — files for which it does not hold.
-/

namespace SolarCharts

/-- A file that can be read is there. -/
theorem FileTree.contains_of_readText {files : FileTree} {path : Path} {text : String}
    (h : files.readText path = .ok text) : files.contains path = true := by
  unfold contains
  unfold readText at h
  cases hFind : files.find path with
  | error e =>
    rw [hFind] at h
    simp at h
  | ok entry => rfl

namespace Settings

/-! ## Stacked layers -/

/-- Layers on top of each other over the built-in values, the last one on top. -/
def stack (layers : List Layer) : Settings :=
  layers.foldl (fun lower layer => lower.overlay (ofPartial layer)) builtIn

/-- The values that layers give to a key, from the lowest layer to the topmost. -/
def valuesOf (layers : List Layer) (key : Key) : List String := layers.filterMap (· key)

/-- The values that layers give to a key in place of its built-in one. -/
def changesOf (layers : List Layer) (key : Key) : List String :=
  (valuesOf layers key).filter (· ≠ key.builtIn)

theorem stack_append_one (layers : List Layer) (layer : Layer) :
    stack (layers ++ [layer]) = (stack layers).overlay (ofPartial layer) := by
  simp [stack]

theorem valuesOf_append_one (layers : List Layer) (layer : Layer) (key : Key) :
    valuesOf (layers ++ [layer]) key = valuesOf layers key ++ (layer key).toList := by
  rw [valuesOf, List.filterMap_append]
  cases h : layer key with
  | none => simp [valuesOf, h]
  | some value => simp [valuesOf, h]

/-- Of the values that stacked layers give to a key, the last one that changes it stands. -/
theorem stack_value (layers : List Layer) (key : Key) :
    (stack layers).value key = (changesOf layers key).getLast?.getD key.builtIn := by
  induction layers using List.reverseRecOn with
  | nil => rfl
  | append_singleton layers layer ih =>
    rw [stack_append_one, changesOf, valuesOf_append_one, List.filter_append, ← changesOf]
    simp only [overlay, ofPartial]
    -- the topmost layer leaves the key out, gives its built-in value, or changes it
    rcases Option.eq_none_or_eq_some (layer key) with hNone | ⟨value, hValue⟩
    · simp [hNone, ih]
    · by_cases hBuiltIn : value = key.builtIn
      · simp [hValue, hBuiltIn, ih]
      · simp [hValue, hBuiltIn]

/-! ## The expected rule -/

/-- The value of the last layer that sets a key, or the built-in one if none does. -/
def topmost (layers : List Layer) (key : Key) : String :=
  (valuesOf layers key).getLast?.getD key.builtIn

/-- The last layer that sets a key sets it to its built-in value, over another value below. -/
def Resets (layers : List Layer) (key : Key) : Prop :=
  (valuesOf layers key).getLast? = some key.builtIn ∧
    ∃ value ∈ valuesOf layers key, value ≠ key.builtIn

/-- No change shows exactly when there is none. -/
theorem getLast_changes_eq_iff (values : List String) (builtIn : String) :
    (values.filter (· ≠ builtIn)).getLast?.getD builtIn = builtIn ↔
      ∀ value ∈ values, value = builtIn := by
  constructor
  · intro hLast value hValue
    -- a value that is another one leaves a last change, which is another one too
    by_contra hNe
    have hMem : value ∈ values.filter (· ≠ builtIn) := by simp [hValue, hNe]
    obtain ⟨last, hSome⟩ : ∃ last, (values.filter (· ≠ builtIn)).getLast? = some last :=
      ⟨_, List.getLast?_eq_some_getLast (List.ne_nil_of_mem hMem)⟩
    have hLastNe := (List.mem_filter.mp (List.mem_of_getLast? hSome)).2
    rw [hSome, Option.getD_some] at hLast
    simp [hLast] at hLastNe
  · intro hAll
    have hNil : values.filter (· ≠ builtIn) = [] := by simpa using hAll
    rw [hNil]
    rfl

/-- Stacked layers follow the expected rule for a key unless it is reset. -/
theorem stack_value_eq_topmost_iff (layers : List Layer) (key : Key) :
    (stack layers).value key = topmost layers key ↔ ¬ Resets layers key := by
  rw [stack_value, topmost, Resets, changesOf]
  rcases List.eq_nil_or_concat (valuesOf layers key) with hNone | ⟨below, last, hLast⟩
  · simp [hNone]
  · rw [hLast, List.concat_eq_append, List.getLast?_concat, Option.getD_some, Option.some_inj]
    by_cases hBuiltIn : last = key.builtIn
    · -- the last value does not count, so the last change below it shows
      rw [hBuiltIn, getLast_changes_eq_iff]
      push Not
      simp
    · simp [hBuiltIn]

/-! ## The environment -/

/-- The value that the environment gives to a key: that of its variable, unless it is empty. -/
def environmentValue? (lookup : String → Option String) (key : Key) : Option String :=
  (key.environmentName?.bind lookup).filter (· ≠ "")

/-- A key has the value that the environment gives it, or else the one that it had. -/
theorem underEnvironment_value (settings : Settings) (lookup : String → Option String) (key : Key) :
    (settings.underEnvironment lookup).value key =
      (environmentValue? lookup key).getD (settings.value key) := by
  simp only [underEnvironment, environmentValue?]
  rcases Option.eq_none_or_eq_some (key.environmentName?.bind lookup) with hNone | ⟨value, hValue⟩
  · simp [hNone]
  · by_cases hEmpty : value = ""
    · simp [hValue, hEmpty, Option.filter]
    · simp [hValue, hEmpty, Option.filter]

/-! ## Loading -/

/-- A file that can be loaded, and the layer that it gives. -/
def Gives (files : FileTree) (path : Path) (layer : Layer) : Prop :=
  ∃ text, files.readText path = .ok text ∧ Layer.ofText? text = some layer

/-- A file that can be loaded, and the layer that it gives, or one that is not there. -/
def MayGive (files : FileTree) (path : Path) : Option Layer → Prop
  | some layer => Gives files path layer
  | none => files.contains path = false

theorem Gives.contains {files : FileTree} {path : Path} {layer : Layer}
    (h : Gives files path layer) : files.contains path = true := by
  obtain ⟨text, hText, -⟩ := h
  exact FileTree.contains_of_readText hText

theorem Gives.ofFile {files : FileTree} {path : Path} {layer : Layer}
    (h : Gives files path layer) : ofFile files path = .ok (ofPartial layer) := by
  obtain ⟨text, hText, hLayer⟩ := h
  simp only [Settings.ofFile, hText, hLayer]

/-- A file of the settings directory adds its layer when it is there, and nothing when it is not. -/
theorem underFiles_mayGive {files : FileTree} {path : Path} {layer? : Option Layer}
    (h : MayGive files path layer?) (lower : Settings) (paths : List Path) :
    underFiles files lower ([path].filter files.contains ++ paths) =
      underFiles files
        (layer?.toList.foldl (fun lower layer => lower.overlay (ofPartial layer)) lower) paths := by
  cases layer? with
  | none =>
    have hMissing : files.contains path = false := h
    simp [hMissing]
  | some layer =>
    have hGives : Gives files path layer := h
    simp [hGives.contains, underFiles, hGives.ofFile]

/-- The files that settings are loaded from, each with the layer that it gives. -/
structure Sources (files : FileTree) (directory : Path) where
  /-- What the first file of the settings directory gives, if it is there. -/
  base : Option Layer
  /-- What the second file of the settings directory gives, if it is there. -/
  personal : Option Layer
  /-- The file that is asked for and what it gives, if one is. -/
  explicit : Option (Path × Layer)
  base_gives : MayGive files (directory.join "config.toml") base
  personal_gives : MayGive files (directory.join "config.local.toml") personal
  explicit_gives : ∀ asked ∈ explicit, Gives files asked.1 asked.2

namespace Sources

variable {files : FileTree} {directory : Path}

/-- The layers of a load, from the lowest to the topmost. -/
def layers (sources : Sources files directory) : List Layer :=
  sources.base.toList ++ (sources.personal.toList ++ (sources.explicit.map (·.2)).toList)

/-- The file that is asked for, if one is. -/
def explicitPath (sources : Sources files directory) : Option Path := sources.explicit.map (·.1)

/-- Loading stacks the layers of the files that are there. -/
theorem ofFiles_eq (sources : Sources files directory) :
    ofFiles files directory sources.explicitPath = .ok (stack sources.layers) := by
  -- only the file that is asked for is loaded without looking whether it is there
  have hSplit : filesIn files directory sources.explicitPath =
      [directory.join "config.toml"].filter files.contains ++
        ([directory.join "config.local.toml"].filter files.contains ++
          sources.explicitPath.toList) := by
    rw [filesIn, fileNames, ← List.append_assoc, ← List.filter_append]
    rfl
  rw [ofFiles, hSplit, underFiles_mayGive sources.base_gives,
    underFiles_mayGive sources.personal_gives, layers, stack, List.foldl_append, List.foldl_append,
    explicitPath]
  cases hExplicit : sources.explicit with
  | none => rfl
  | some asked =>
    simp [underFiles, (sources.explicit_gives asked hExplicit).ofFile]

/-- **When the last layer stands.** Files that can be loaded are loaded, and a key then has the value
that the environment gives it, or else the value of the last file that sets it, or else the built-in
one — unless the last file that sets it sets the built-in value over another one and the environment
does not set it. -/
theorem value_eq_topmost_iff (sources : Sources files directory) :
    ∃ settings, ofFiles files directory sources.explicitPath = .ok settings ∧
      ∀ (lookup : String → Option String) (key : Key),
        (settings.underEnvironment lookup).value key =
            (environmentValue? lookup key).getD (topmost sources.layers key) ↔
          (environmentValue? lookup key).isSome ∨ ¬ Resets sources.layers key := by
  refine ⟨stack sources.layers, sources.ofFiles_eq, fun lookup key => ?_⟩
  rw [underEnvironment_value]
  -- a value of the environment hides what the files gave
  cases environmentValue? lookup key with
  | none => simp [stack_value_eq_topmost_iff]
  | some value => simp

end Sources

/-! ## A reset that is lost -/

/-- A settings directory whose first file sets a key that its second file sets back. -/
def resettingFiles : FileTree :=
  let octets (text : String) : Entry := .file (.octets (Utf8.encode text))
  { home := ["home"]
    entries :=
      [ (["home", "config"], .directory),
        (["home", "config", "config.toml"], octets "[influx]\ntimeout = \"10m\"\n"),
        (["home", "config", "config.local.toml"], octets "[influx]\ntimeout = \"5m\"\n") ] }

/-- A file whose text gives a value to a key gives a layer with that value. -/
theorem Gives.exists_of_value {files : FileTree} (path : Path) (text : String) {key : Key}
    {value : String} (hText : files.readText path = .ok text)
    (hValue : ((Layer.ofText? text).bind fun layer => layer key) = some value) :
    ∃ layer, Gives files path layer ∧ layer key = some value := by
  obtain ⟨layer, hLayer, hKey⟩ := Option.bind_eq_some_iff.mp hValue
  exact ⟨layer, ⟨text, hText, hLayer⟩, hKey⟩

/-- **A reset is lost.** The last file that sets the timeout sets it to five minutes, which are also
built in, and the ten minutes of the file below stay in force. -/
theorem reset_is_lost :
    ∃ (sources : Sources resettingFiles directory) (settings : Settings),
      ofFiles resettingFiles directory sources.explicitPath = .ok settings ∧
        topmost sources.layers .timeout = "5m" ∧
        (settings.underEnvironment fun _ => none).value .timeout = "10m" := by
  obtain ⟨base, hBase, hBaseValue⟩ :
      ∃ layer, Gives resettingFiles (directory.join "config.toml") layer ∧
        layer .timeout = some "10m" :=
    Gives.exists_of_value _ "[influx]\ntimeout = \"10m\"\n" (by decide +kernel) (by decide +kernel)
  obtain ⟨personal, hPersonal, hPersonalValue⟩ :
      ∃ layer, Gives resettingFiles (directory.join "config.local.toml") layer ∧
        layer .timeout = some "5m" :=
    Gives.exists_of_value _ "[influx]\ntimeout = \"5m\"\n" (by decide +kernel) (by decide +kernel)
  -- no file is asked for, so the second one is the topmost
  let sources : Sources resettingFiles directory :=
    { base := some base, personal := some personal, explicit := none
      base_gives := hBase, personal_gives := hPersonal, explicit_gives := by simp }
  refine ⟨sources, stack sources.layers, sources.ofFiles_eq, ?_, ?_⟩
  · simp [sources, Sources.layers, topmost, valuesOf, hBaseValue, hPersonalValue]
  · rw [underEnvironment_value, stack_value]
    simp [sources, Sources.layers, environmentValue?, Key.environmentName?, changesOf, valuesOf,
      hBaseValue, hPersonalValue, Key.builtIn]

end Settings

end SolarCharts
