import SolarCharts.Proofs.Settings.Document
import SolarCharts.Proofs.Settings.Layers

/-!
# Layers of settings can be put together in any grouping

Laying settings on other settings is associative, and the built-in settings are its identity. So a load
does not depend on whether a missing file is left out or counts as one that sets nothing, whether the
first file is laid on the built-in settings or taken as it is, and which of the layers are put together
first.

* `merged_append` — settings that are merged in two parts are merged as a whole.
* `Sources.ofFiles_eq_merged` — a load merges what its files come to by themselves.
* `overlay_value_of_not_sets` — a document leaves the keys that it has no value for to other layers.
* `overlay_monoid` — all of this in one statement.
-/

namespace SolarCharts.Settings

/-! ## Merging -/

theorem overlay_value_of_builtIn {upper : Settings} {key : Key}
    (h : upper.value key = key.builtIn) (lower : Settings) :
    (lower.overlay upper).value key = lower.value key :=
  if_pos h

theorem overlay_value_of_ne {upper : Settings} {key : Key} (h : upper.value key ≠ key.builtIn)
    (lower : Settings) : (lower.overlay upper).value key = upper.value key :=
  if_neg h

/-- Three layers come to the same, whichever two are put together first. -/
theorem overlay_assoc (a b c : Settings) : (a.overlay b).overlay c = a.overlay (b.overlay c) := by
  apply Settings.ext
  funext key
  by_cases hC : c.value key = key.builtIn
  · -- the topmost layer leaves the key to the two below it
    have hSame := overlay_value_of_builtIn hC b
    rw [overlay_value_of_builtIn hC]
    by_cases hB : b.value key = key.builtIn
    · rw [overlay_value_of_builtIn hB, overlay_value_of_builtIn (hSame.trans hB)]
    · rw [overlay_value_of_ne hB, overlay_value_of_ne (hSame ▸ hB), hSame]
  · have hSame := overlay_value_of_ne hC b
    rw [overlay_value_of_ne hC, overlay_value_of_ne (hSame ▸ hC), hSame]

theorem overlay_self (a : Settings) : a.overlay a = a := by
  apply Settings.ext
  funext key
  exact ite_self _

/-- What a key comes to depends on its own values alone. -/
theorem overlay_value_congr {a b a' b' : Settings} {key : Key} (hLower : a.value key = a'.value key)
    (hUpper : b.value key = b'.value key) :
    (a.overlay b).value key = (a'.overlay b').value key := by
  simp only [overlay, hLower, hUpper]

instance : Std.Associative overlay := ⟨overlay_assoc⟩

/-- Settings on top of each other over the built-in ones, the last ones on top. -/
def merged (layers : List Settings) : Settings := layers.foldl overlay builtIn

/-- Settings that are merged in two parts are merged as a whole. -/
theorem merged_append (lower upper : List Settings) :
    merged (lower ++ upper) = (merged lower).overlay (merged upper) := by
  have hLower : merged lower = (merged lower).overlay builtIn := (overlay_builtIn _).symm
  rw [merged, List.foldl_append, ← merged, hLower, List.foldl_assoc, ← merged, ← hLower]

theorem merged_cons (first : Settings) (layers : List Settings) :
    merged (first :: layers) = first.overlay (merged layers) := by
  rw [← List.singleton_append, merged_append, merged, List.foldl_cons, builtIn_overlay]
  rfl

/-! ## Loading -/

/-- What a file comes to by itself, when it is there; without it the built-in settings stand. -/
def ofSource (layer? : Option Layer) : Settings := (layer?.map ofPartial).getD builtIn

theorem stack_eq_merged (layers : List Layer) : stack layers = merged (layers.map ofPartial) := by
  rw [stack, merged, List.foldl_map]

/-- A file that is missing counts as the built-in settings. -/
theorem merged_toList (layer? : Option Layer) :
    merged (layer?.toList.map ofPartial) = ofSource layer? := by
  cases layer? with
  | none => rfl
  | some layer => exact builtIn_overlay _

namespace Sources

variable {files : FileTree} {directory : Path}

/-- What the files of a load come to, each by itself, from the lowest to the topmost. -/
def contributions (sources : Sources files directory) : List Settings :=
  [ofSource sources.base, ofSource sources.personal, ofSource (sources.explicit.map (·.2))]

/-- A load merges what its files come to, whether they are there or not. -/
theorem ofFiles_eq_merged (sources : Sources files directory) :
    ofFiles files directory sources.explicitPath = .ok (merged sources.contributions) := by
  rw [sources.ofFiles_eq, stack_eq_merged, layers, List.map_append, List.map_append, merged_append,
    merged_append, merged_toList, merged_toList, merged_toList, contributions, merged_cons,
    merged_cons, merged_cons]
  rw [show merged [] = builtIn from rfl, overlay_builtIn]

end Sources

/-! ## Keys that are left out -/

/-- What a document does not set stays as it is below it. -/
theorem overlay_value_of_not_sets {document : Toml.Table} {layer : Layer} {key : Key}
    (h : Layer.ofDocument? document = some layer) (hKey : ¬ Layer.Sets document key)
    (lower : Settings) : (lower.overlay (ofPartial layer)).value key = lower.value key := by
  have hNone : layer key = none := (Layer.eq_none_iff_not_sets h key).mpr hKey
  have hBuiltIn : (ofPartial layer).value key = key.builtIn := by simp [ofPartial, hNone]
  exact overlay_value_of_builtIn hBuiltIn lower

/-! ## All together -/

/-- **Layers of settings form a monoid.** Laying settings on others is associative, keeps settings under
and over the built-in ones and over themselves, and treats every key by itself. A load lays what its
files come to on the built-in settings, from the lowest file to the topmost, in any grouping; a file that
is missing counts as the built-in settings, and the lowest file may be taken as it is. A document changes
no key that it does not set, such as all keys of a section that it lacks, whatever lies below and
above it. -/
theorem overlay_monoid :
    (∀ a b c : Settings, (a.overlay b).overlay c = a.overlay (b.overlay c)) ∧
      (∀ a : Settings, builtIn.overlay a = a ∧ a.overlay builtIn = a ∧ a.overlay a = a) ∧
      (∀ (a b a' b' : Settings) (key : Key), a.value key = a'.value key →
        b.value key = b'.value key → (a.overlay b).value key = (a'.overlay b').value key) ∧
      (∀ (files : FileTree) (directory : Path) (sources : Sources files directory),
        let base := ofSource sources.base
        let personal := ofSource sources.personal
        let explicit := ofSource (sources.explicit.map (·.2))
        ofFiles files directory sources.explicitPath =
            .ok (((builtIn.overlay base).overlay personal).overlay explicit) ∧
          ofFiles files directory sources.explicitPath =
            .ok ((base.overlay personal).overlay explicit) ∧
          ofFiles files directory sources.explicitPath =
            .ok (base.overlay (personal.overlay explicit))) ∧
      (∀ (document : Toml.Table) (layer : Layer), Layer.ofDocument? document = some layer →
        ∀ key : Key,
          (document.get? key.sectionName = none → ¬ Layer.Sets document key) ∧
          (∀ value entries, document.get? key.sectionName = some value →
            Layer.tableOf? value = some entries →
              (Layer.Sets document key ↔ (entries.get? key.name).isSome)) ∧
          (¬ Layer.Sets document key → ∀ lower upper : Settings,
            (lower.overlay (ofPartial layer)).value key = lower.value key ∧
              ((lower.overlay (ofPartial layer)).overlay upper).value key =
                (lower.overlay upper).value key)) := by
  refine ⟨overlay_assoc, fun a => ⟨builtIn_overlay a, overlay_builtIn a, overlay_self a⟩,
    fun a b a' b' key => overlay_value_congr, fun files directory sources => ?_,
    fun document layer hLayer key => ⟨Layer.not_sets_of_section,
      fun value entries => Layer.sets_iff_of_table, fun hKey lower upper => ?_⟩⟩
  · intro base personal explicit
    have hLoad : ofFiles files directory sources.explicitPath =
        .ok (((builtIn.overlay base).overlay personal).overlay explicit) := sources.ofFiles_eq_merged
    refine ⟨hLoad, ?_, ?_⟩
    · rw [hLoad, builtIn_overlay]
    · rw [hLoad, builtIn_overlay, overlay_assoc]
  · have hSame := overlay_value_of_not_sets hLayer hKey lower
    exact ⟨hSame, overlay_value_congr hSame rfl⟩

/-- A document that sets where the store is and nothing else. -/
def urlOnly : Toml.Table := [("influx", .table .header [("url", .string "http://store")])]

/-- It leaves the token, which its section lacks, and the window, whose section it lacks, to what lies
below it. -/
theorem overlay_monoid_of_url :
    ∃ layer, Layer.ofDocument? urlOnly = some layer ∧ layer .url = some "http://store" ∧
      ∀ lower : Settings, (lower.overlay (ofPartial layer)).value .token = lower.value .token ∧
        (lower.overlay (ofPartial layer)).value .window = lower.value .window := by
  obtain ⟨layer, hLayer, hUrl⟩ : ∃ layer, Layer.ofDocument? urlOnly = some layer ∧
      layer .url = some "http://store" :=
    Option.bind_eq_some_iff.mp (by decide :
      ((Layer.ofDocument? urlOnly).bind fun layer => layer .url) = some "http://store")
  obtain ⟨-, -, -, -, hKeys⟩ := overlay_monoid
  obtain ⟨-, hTable, hToken⟩ := hKeys urlOnly layer hLayer .token
  obtain ⟨hSection, -, hWindow⟩ := hKeys urlOnly layer hLayer .window
  -- its section is a table without that name
  have hNoToken : ¬ Layer.Sets urlOnly .token := by
    rw [hTable (.table .header [("url", .string "http://store")])
      [("url", .string "http://store")] rfl rfl]
    decide
  have hNoWindow : ¬ Layer.Sets urlOnly .window := hSection rfl
  exact ⟨layer, hLayer, hUrl, fun lower =>
    ⟨(hToken hNoToken lower builtIn).1, (hWindow hNoWindow lower builtIn).1⟩⟩

end SolarCharts.Settings
