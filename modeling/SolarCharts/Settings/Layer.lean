import SolarCharts.Settings
import SolarCharts.Toml.Document

/-!
# Settings from a document

A document gives some of the settings: each section is a table of its own, and what a section leaves
out is built in. Keys and sections of other names do not matter. A value that is no string makes the
whole document unusable.

A section may also be an array, whose elements then stand for the keys of the section in their order.
A date in place of a section sets nothing.
-/

namespace SolarCharts

/-- The settings that a layer gives; the others are left out. -/
abbrev Layer := Key → Option String

namespace Layer

/-- A layer that gives nothing. -/
def empty : Layer := fun _ => none

/-- A layer with one more value. -/
def set (layer : Layer) (key : Key) (value : String) : Layer := fun other =>
  if other = key then some value else layer other

/-- The sections, each with its keys in order. -/
def sections : List (String × List Key) :=
  [ ("influx", [.url, .token, .org, .bucket, .timeout]),
    ("display", [.timeOffset]),
    ("sweep", [.window]),
    ("logging", [.logFormat]) ]

/-- Adds the value of a key, which must be a string. -/
def addValue? (layer : Layer) (key : Key) : Toml.Value → Option Layer
  | .string text => some (layer.set key text)
  | _ => none

/-- Adds the values that a table gives to some keys. -/
def addTable? (layer : Layer) (keys : List Key) (table : Toml.Table) : Option Layer :=
  keys.foldlM
    (fun layer key =>
      match table.get? key.name with
      | some value => layer.addValue? key value
      | none => some layer)
    layer

/-- Adds the values that stand for some keys in their order. -/
def addElements? (layer : Layer) (keys : List Key) (elements : List Toml.Value) : Option Layer :=
  (keys.zip elements).foldlM (fun layer (key, value) => layer.addValue? key value) layer

/-- Adds the values of a section. -/
def addSection? (layer : Layer) (keys : List Key) : Toml.Value → Option Layer
  | .table _ entries | .inline entries => layer.addTable? keys entries
  | .array elements => layer.addElements? keys elements
  | .tables elements => layer.addElements? keys (elements.map .inline)
  | .dateTime _ => some layer
  | _ => none

/-- The layer that a document gives. -/
def ofDocument? (document : Toml.Table) : Option Layer :=
  sections.foldlM
    (fun layer (name, keys) =>
      match document.get? name with
      | some value => layer.addSection? keys value
      | none => some layer)
    empty

/-- The layer that a text gives. -/
def ofText? (text : String) : Option Layer := (Toml.documentOf? text).bind ofDocument?

end Layer

end SolarCharts
