import SolarCharts.Text.Split

/-!
# Paths

A path is the row of its parts, which stand between slashes when it is written. Nothing is lost in
between: a slash at the start or the end, and each of several in a row, leaves an empty part. A path
starts at the root when it begins with a slash and at the working directory when it does not. Two paths
are told apart by their parts, without those that lead nowhere.
-/

namespace SolarCharts

/-- Where a file or directory is. -/
structure Path where
  /-- What stands between the slashes. -/
  parts : List String
deriving DecidableEq

namespace Path

/-- The path that a text gives. -/
def ofText (text : String) : Path := ⟨Text.parts '/' text⟩

/-- A path as it is written. -/
def text (path : Path) : String := "/".intercalate path.parts

theorem text_ofText (text : String) : (ofText text).text = text := by
  apply String.toList_inj.1
  simp [Path.text, ofText, Text.parts, Text.intercalate_splitAt]

/-- The path that leads nowhere. -/
def empty : Path := ⟨[""]⟩

/-- Whether a path starts at the root. -/
def isAbsolute (path : Path) : Bool := path.parts.head? == some "" && path.parts.length != 1

/-- The path of a name in a directory. One slash stands between them, unless the directory is the
empty path or ends in a slash already. A name that starts at the root is a path by itself. -/
@[irreducible]
def join (directory : Path) (name : String) : Path :=
  let path := ofText name
  if path.isAbsolute then path
  else if directory.parts.getLast? = some "" then ⟨directory.parts.dropLast ++ path.parts⟩
  else ⟨directory.parts ++ path.parts⟩

/-- Whether a part leads nowhere else. -/
def stays (part : String) : Bool := part == "" || part == "."

/-- The parts of a path without those that lead nowhere else. -/
def steps (parts : List String) : List String := parts.filter fun part => !stays part

/-- The same path without the slashes and lone dots that end it. The root stays, and so does a dot
that is the whole path. -/
def trimmed (path : Path) : Path :=
  match path.parts with
  | [] => path
  | first :: rest =>
    let kept := Text.dropEnd stays rest
    if first = "" ∧ kept.isEmpty ∧ ¬ rest.isEmpty then ⟨["", ""]⟩ else ⟨first :: kept⟩

/-- The directory that a path lies in. -/
def parent (path : Path) : Path := ⟨path.parts.dropLast⟩

/-- The directory that a file lies in, without the slashes and lone dots in front of the file's name.
A file at the root lies in the root, and a name alone in the empty path. -/
def folder (path : Path) : Path :=
  match path.parts.dropLast with
  | [] => .empty
  | [""] => ⟨["", ""]⟩
  | parts => trimmed ⟨parts⟩

/-! ## Telling paths apart -/

/-- What tells a path from others: where it starts, and its parts without those that lead nowhere
else. A dot in front of a path counts. -/
def components (path : Path) : Bool × List String :=
  match path.parts with
  | "." :: rest => (false, "." :: steps rest)
  | parts => (path.isAbsolute, steps parts)

/-- Two paths count as one, however they are written. Whether they lead to one place is another
question, since `..` is a part like others here. -/
def Same (path other : Path) : Prop := path.components = other.components

/-- A path counts as one of some paths. -/
def IsAmong (path : Path) (paths : List Path) : Prop :=
  path.components ∈ paths.map components

instance (path other : Path) : Decidable (path.Same other) :=
  inferInstanceAs (Decidable (path.components = other.components))

instance (path : Path) (paths : List Path) : Decidable (path.IsAmong paths) :=
  inferInstanceAs (Decidable (path.components ∈ paths.map components))

variable {path other : Path} {paths more : List Path}

theorem not_isAmong_nil : ¬ path.IsAmong [] := List.not_mem_nil

theorem isAmong_cons : path.IsAmong (other :: paths) ↔ path.Same other ∨ path.IsAmong paths :=
  List.mem_cons

theorem isAmong_append : path.IsAmong (paths ++ more) ↔ path.IsAmong paths ∨ path.IsAmong more := by
  rw [IsAmong, List.map_append, List.mem_append, IsAmong, IsAmong]

theorem isAmong_singleton : path.IsAmong [other] ↔ path.Same other := List.mem_singleton

/-- A path counts as one of those that it is one of. -/
theorem isAmong_of_mem (h : path ∈ paths) : path.IsAmong paths := List.mem_map_of_mem h

/-- What counts as one of some paths does so however it is written. -/
theorem Same.isAmong_iff (h : path.Same other) : path.IsAmong paths ↔ other.IsAmong paths := by
  rw [IsAmong, IsAmong, h]

end Path

end SolarCharts
