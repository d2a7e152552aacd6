import Mathlib.Data.List.Nodup
import SolarCharts.Settings.Layer

/-!
# What a document sets

A document is read section by section and key by key. What comes of that is told by its entries: the
values that it has for keys, each under the name of its key in the table of the section, or at the place
of the key where the section is an array.

* `ofDocument?_spec` — a key that has an entry is set to its text, and every other key is left out.
* `not_sets_of_section`, `sets_iff_of_table` — a key has no entry where its section is missing, and
  where its section is a table it has one exactly when its name is in the table.
-/

namespace SolarCharts.Layer

/-! ## Entries -/

/-- The values that a section has for some keys. -/
def entriesOf (keys : List Key) : Toml.Value → List (Key × Toml.Value)
  | .table _ entries | .inline entries =>
    keys.filterMap fun key => (Toml.Table.get? entries key.name).map (key, ·)
  | .array elements => keys.zip elements
  | .tables elements => keys.zip (elements.map .inline)
  | _ => []

/-- The table that a section is, if it is one, within braces or not. -/
def tableOf? : Toml.Value → Option Toml.Table
  | .table _ entries | .inline entries => some entries
  | _ => none

/-- The values that a document has for the keys of some sections. -/
def entriesIn (document : Toml.Table) (sections : List (String × List Key)) :
    List (Key × Toml.Value) :=
  sections.flatMap fun listed => (document.get? listed.1).elim [] (entriesOf listed.2)

/-- Whether a document has a value for a key. -/
def Sets (document : Toml.Table) (key : Key) : Prop :=
  key ∈ (entriesIn document sections).map (·.1)

theorem keys_filterMap (keys : List Key) (value? : Key → Option Toml.Value) :
    ((keys.filterMap fun key => (value? key).map (key, ·)).map (·.1)).Sublist keys := by
  induction keys with
  | nil => exact List.Sublist.refl []
  | cons key keys ih =>
    cases hValue : value? key with
    | none => simpa [hValue] using ih.cons key
    | some value => simpa [hValue] using ih.cons_cons key

theorem keys_zip (keys : List Key) (elements : List Toml.Value) :
    ((keys.zip elements).map (·.1)).Sublist keys := by
  induction keys generalizing elements with
  | nil => exact List.Sublist.refl []
  | cons key keys ih =>
    cases elements with
    | nil => exact List.nil_sublist _
    | cons element elements => exact (ih elements).cons_cons key

/-- Keys have entries in their order, some of them or all. -/
theorem keys_entriesOf (keys : List Key) (value : Toml.Value) :
    ((entriesOf keys value).map (·.1)).Sublist keys := by
  cases value with
  | table _ entries => exact keys_filterMap keys _
  | inline entries => exact keys_filterMap keys _
  | array elements => exact keys_zip keys elements
  | tables elements => exact keys_zip keys _
  | _ => exact List.nil_sublist keys

/-- So have the keys of all sections. -/
theorem keys_entriesIn (document : Toml.Table) (sections : List (String × List Key)) :
    ((entriesIn document sections).map (·.1)).Sublist (sections.flatMap (·.2)) := by
  induction sections with
  | nil => exact List.Sublist.refl []
  | cons first sections ih =>
    rw [entriesIn, List.flatMap_cons, List.map_append, List.flatMap_cons]
    refine List.Sublist.append ?_ ih
    cases document.get? first.1 with
    | none => exact List.nil_sublist first.2
    | some value => exact keys_entriesOf first.2 value

/-- No key is in two sections, or twice in one. -/
theorem nodup_sections : (sections.flatMap (·.2)).Nodup := by decide

/-- A key is listed under the section that it names. -/
theorem sectionName_of_mem : ∀ listed ∈ sections, ∀ key ∈ listed.2, key.sectionName = listed.1 := by
  decide

/-- And every key is listed. -/
theorem exists_listed (key : Key) : ∃ keys, (key.sectionName, keys) ∈ sections ∧ key ∈ keys := by
  cases key <;> simp [sections, Key.sectionName]

/-- A table has entries for the names that are in it, within braces or not. -/
theorem entriesOf_table {value : Toml.Value} {entries : Toml.Table}
    (h : tableOf? value = some entries) (keys : List Key) :
    entriesOf keys value = keys.filterMap fun key => (entries.get? key.name).map (key, ·) := by
  cases value with
  | table _ _ =>
    cases h
    rfl
  | inline _ =>
    cases h
    rfl
  | _ => cases h

/-! ## Reading entries -/

/-- Adds values to a layer, each for its key. -/
def addAll? (layer : Layer) (entries : List (Key × Toml.Value)) : Option Layer :=
  entries.foldlM (fun layer (key, value) => layer.addValue? key value) layer

/-- Adding a table is adding its entries. -/
theorem addTable?_eq (layer : Layer) (keys : List Key) (table : Toml.Table) :
    layer.addTable? keys table =
      layer.addAll? (keys.filterMap fun key => (table.get? key.name).map (key, ·)) := by
  induction keys generalizing layer with
  | nil => rfl
  | cons key keys ih =>
    rw [addTable?, List.foldlM_cons]
    cases hValue : table.get? key.name with
    | none =>
      rw [List.filterMap_cons_none (by rw [hValue]; rfl)]
      exact ih layer
    | some value =>
      rw [List.filterMap_cons_some (by rw [hValue]; rfl), addAll?, List.foldlM_cons]
      exact bind_congr ih

/-- Adding a section is adding its entries, where it is one at all. -/
theorem addAll?_of_addSection? {layer layer' : Layer} {keys : List Key} {value : Toml.Value}
    (h : layer.addSection? keys value = some layer') :
    layer.addAll? (entriesOf keys value) = some layer' := by
  cases value with
  | table _ entries => exact (addTable?_eq layer keys entries).symm.trans h
  | inline entries => exact (addTable?_eq layer keys entries).symm.trans h
  | array elements => exact h
  | tables elements => exact h
  | dateTime text => exact h
  | _ => cases h

/-- So adding all sections of a document is adding all its entries. -/
theorem addAll?_entriesIn {document : Toml.Table} {sections : List (String × List Key)}
    {layer layer' : Layer}
    (h : sections.foldlM
      (fun layer (name, keys) =>
        match document.get? name with
        | some value => layer.addSection? keys value
        | none => some layer)
      layer = some layer') :
    layer.addAll? (entriesIn document sections) = some layer' := by
  induction sections generalizing layer with
  | nil => exact h
  | cons first sections ih =>
    obtain ⟨name, keys⟩ := first
    obtain ⟨next, hFirst, hRest⟩ := Option.bind_eq_some_iff.mp h
    rw [entriesIn, List.flatMap_cons, addAll?, List.foldlM_append]
    refine Option.bind_eq_some_iff.mpr ⟨next, ?_, ih hRest⟩
    -- a section that is missing has no entries, and the layer stays
    dsimp only at hFirst ⊢
    cases hValue : document.get? name with
    | none =>
      rw [hValue] at hFirst
      exact hFirst
    | some value =>
      rw [hValue] at hFirst
      exact addAll?_of_addSection? hFirst

/-- Added values are texts, and each changes what is given for its own key alone. -/
theorem addAll?_spec {layer layer' : Layer} {entries : List (Key × Toml.Value)}
    (hNodup : (entries.map (·.1)).Nodup) (h : layer.addAll? entries = some layer') :
    (∀ key, key ∉ entries.map (·.1) → layer' key = layer key) ∧
      ∀ entry ∈ entries, ∃ text, entry.2 = .string text ∧ layer' entry.1 = some text := by
  induction entries generalizing layer with
  | nil =>
    cases h
    exact ⟨fun _ _ => rfl, fun _ hEntry => nomatch hEntry⟩
  | cons first entries ih =>
    obtain ⟨key, value⟩ := first
    obtain ⟨next, hFirst, hRest⟩ := Option.bind_eq_some_iff.mp h
    obtain ⟨hNew, hNodup⟩ := List.nodup_cons.mp hNodup
    obtain ⟨hOthers, hEntries⟩ := ih hNodup hRest
    obtain ⟨text, rfl, rfl⟩ : ∃ text, value = .string text ∧ layer.set key text = next := by
      cases value with
      | string text => exact ⟨text, rfl, Option.some.inj hFirst⟩
      | _ => cases hFirst
    refine ⟨fun other hOther => ?_, fun entry hEntry => ?_⟩
    · rw [List.map_cons, List.mem_cons, not_or] at hOther
      rw [hOthers other hOther.2, set, if_neg hOther.1]
    · rcases List.mem_cons.mp hEntry with rfl | hMem
      · -- no later entry is for the same key
        refine ⟨text, rfl, ?_⟩
        rw [hOthers key hNew, set, if_pos rfl]
      · exact hEntries entry hMem

/-! ## Documents -/

/-- The keys that a document has values for are set to them, and the others are left out. -/
theorem ofDocument?_spec {document : Toml.Table} {layer : Layer}
    (h : ofDocument? document = some layer) :
    (∀ key, ¬ Sets document key → layer key = none) ∧
      ∀ entry ∈ entriesIn document sections,
        ∃ text, entry.2 = .string text ∧ layer entry.1 = some text :=
  addAll?_spec ((keys_entriesIn document sections).nodup nodup_sections) (addAll?_entriesIn h)

/-- A layer leaves out exactly the keys that its document does not set. -/
theorem eq_none_iff_not_sets {document : Toml.Table} {layer : Layer}
    (h : ofDocument? document = some layer) (key : Key) :
    layer key = none ↔ ¬ Sets document key := by
  obtain ⟨hOthers, hEntries⟩ := ofDocument?_spec h
  refine ⟨fun hNone hSets => ?_, hOthers key⟩
  obtain ⟨entry, hEntry, rfl⟩ := List.mem_map.mp hSets
  obtain ⟨text, -, hText⟩ := hEntries entry hEntry
  rw [hNone] at hText
  cases hText

/-- What sets a key is in its section. -/
theorem exists_section_of_sets {document : Toml.Table} {key : Key} (h : Sets document key) :
    ∃ keys value, document.get? key.sectionName = some value ∧
      key ∈ (entriesOf keys value).map (·.1) := by
  obtain ⟨entry, hEntry, rfl⟩ := List.mem_map.mp h
  obtain ⟨⟨name, keys⟩, hListed, hIn⟩ := List.mem_flatMap.mp hEntry
  cases hValue : document.get? name with
  | none => simp [hValue] at hIn
  | some value =>
    rw [hValue] at hIn
    have hKey : entry.1 ∈ (entriesOf keys value).map (·.1) := List.mem_map_of_mem hIn
    have hName := sectionName_of_mem _ hListed _ ((keys_entriesOf keys value).mem hKey)
    exact ⟨keys, value, by rw [hName, hValue], hKey⟩

/-- Where its section is missing a key has no entry. -/
theorem not_sets_of_section {document : Toml.Table} {key : Key}
    (h : document.get? key.sectionName = none) : ¬ Sets document key := by
  intro hSets
  obtain ⟨keys, value, hValue, -⟩ := exists_section_of_sets hSets
  rw [h] at hValue
  cases hValue

/-- Where its section is a table a key has an entry exactly when its name is in that. -/
theorem sets_iff_of_table {document : Toml.Table} {key : Key} {value : Toml.Value}
    {entries : Toml.Table} (hSection : document.get? key.sectionName = some value)
    (hTable : tableOf? value = some entries) :
    Sets document key ↔ (entries.get? key.name).isSome := by
  constructor
  · intro hSets
    obtain ⟨keys, other, hOther, hKey⟩ := exists_section_of_sets hSets
    rw [hSection] at hOther
    obtain rfl := Option.some.inj hOther
    rw [entriesOf_table hTable] at hKey
    obtain ⟨entry, hEntry, rfl⟩ := List.mem_map.mp hKey
    obtain ⟨named, -, hNamed⟩ := List.mem_filterMap.mp hEntry
    obtain ⟨found, hFound, rfl⟩ := Option.map_eq_some_iff.mp hNamed
    rw [hFound]
    rfl
  · intro hName
    -- the key is listed with its section, so its name is looked up there
    obtain ⟨keys, hListed, hKey⟩ := exists_listed key
    obtain ⟨found, hFound⟩ := Option.isSome_iff_exists.mp hName
    have hEntry : (key, found) ∈ entriesOf keys value := by
      rw [entriesOf_table hTable]
      exact List.mem_filterMap.mpr ⟨key, hKey, by rw [hFound]; rfl⟩
    refine List.mem_map.mpr ⟨(key, found), List.mem_flatMap.mpr ⟨_, hListed, ?_⟩, rfl⟩
    rw [hSection]
    exact hEntry

end SolarCharts.Layer
