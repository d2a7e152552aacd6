import SolarCharts.Chart.Picture
import SolarCharts.Files.Path
import SolarCharts.Text.Utf8

/-!
# File trees

A `FileTree` is all that a run sees of the files of its machine: a working directory, and an entry at
every place where a file or directory is. A place is the list of names that leads to it from the
root. A path leads to a place by its parts: every part but the last must be a directory, `.` and empty
parts stay where they are, and `..` goes up.

Each operation fails as the system would, with a `FileError` whose text is the system's. Directories
are made from the root downward, so those above a failure are made.
-/

namespace SolarCharts

/-! ## Errors -/

/-- Why an operation on files fails. -/
inductive FileError where
  | notFound
  | exists
  | notDirectory
  | isDirectory
  | nameTooLong
  | nulInName
  | notText
deriving DecidableEq

/-- The system's text for a failure. -/
def FileError.message : FileError → String
  | .notFound => "No such file or directory (os error 2)"
  | .exists => "File exists (os error 17)"
  | .notDirectory => "Not a directory (os error 20)"
  | .isDirectory => "Is a directory (os error 21)"
  | .nameTooLong => "File name too long (os error 36)"
  | .nulInName => "file name contained an unexpected NUL byte"
  | .notText => "stream did not contain valid UTF-8"

/-! ## Trees -/

/-- The names that lead from the root to a file or directory. -/
abbrev Place := List String

/-- What a file holds. -/
inductive Content where
  | octets (octets : List UInt8)
  | picture (picture : Picture)
deriving DecidableEq

/-- What can be found at a place. -/
inductive Entry where
  | directory
  | file (content : Content)
deriving DecidableEq

/-- Files and directories. -/
structure FileTree where
  /-- The place of the working directory. -/
  home : Place
  /-- What is where. -/
  entries : List (Place × Entry)
deriving DecidableEq

namespace FileTree

/-- A working directory with nothing in it. -/
def empty (home : Place) : FileTree := ⟨home, []⟩

/-- What is at a place. The working directory and those above it are always there. -/
def entryAt? (tree : FileTree) (place : Place) : Option Entry :=
  if place.isPrefixOf tree.home then some .directory
  else (tree.entries.find? fun entry => entry.1 == place).map (·.2)

/-- Puts an entry at a place, in place of what is there. -/
def put (tree : FileTree) (place : Place) (entry : Entry) : FileTree :=
  { tree with entries := tree.entries.filter (·.1 != place) ++ [(place, entry)] }

theorem entryAt?_of_isPrefixOf {tree : FileTree} {place : Place}
    (h : place.isPrefixOf tree.home) : tree.entryAt? place = some .directory := by
  simp [entryAt?, h]

theorem entryAt?_put_self {tree : FileTree} {place : Place} (entry : Entry)
    (h : ¬ place.isPrefixOf tree.home) : (tree.put place entry).entryAt? place = some entry := by
  have hnone : (tree.entries.filter (·.1 != place)).find? (·.1 == place) = none := by
    simp [List.find?_eq_none]
  simp [entryAt?, put, h, hnone]

theorem entryAt?_put_of_ne {tree : FileTree} {place other : Place} (entry : Entry)
    (h : other ≠ place) : (tree.put place entry).entryAt? other = tree.entryAt? other := by
  have hfilter : (tree.entries.filter (·.1 != place)).find? (·.1 == other)
      = tree.entries.find? (·.1 == other) := by
    rw [List.find?_filter]
    congr 1
    funext found
    by_cases hf : found.1 = other
    · simp [hf, h]
    · simp [hf]
  have hne : (place == other) = false := by simpa using fun e => h e.symm
  simp [entryAt?, put, hfilter, hne]

/-- Where the parts of a path start. -/
def origin (tree : FileTree) (path : Path) : Place := if path.isAbsolute then [] else tree.home

/-! ## Finding -/

/-- The octets that a name may have. -/
def maxNameSize : Nat := 255

/-- The octets that a path may have. -/
def maxPathSize : Nat := 4095

/-- What makes a path unusable whatever the files are. -/
def pathFault? (path : Path) : Option FileError :=
  if path.text.toList.any (·.toNat == 0) then some .nulInName
  else if maxPathSize < path.text.utf8ByteSize then some .nameTooLong
  else if path = .empty then some .notFound
  else none

/-- The directory that a part of a path leads to. -/
def enter (tree : FileTree) (place : Place) (part : String) : Except FileError Place :=
  if Path.stays part then .ok place
  else if part = ".." then .ok place.dropLast
  else if maxNameSize < part.utf8ByteSize then .error .nameTooLong
  else
    match tree.entryAt? (place ++ [part]) with
    | some .directory => .ok (place ++ [part])
    | some (.file _) => .error .notDirectory
    | none => .error .notFound

/-- The place that the parts of a path lead to from a directory. Nothing need be there. -/
def follow (tree : FileTree) (place : Place) : List String → Except FileError Place
  | [] => .ok place
  -- the last part need not lead to a directory
  | [part] =>
    if Path.stays part then .ok place
    else if part = ".." then .ok place.dropLast
    else if maxNameSize < part.utf8ByteSize then .error .nameTooLong
    else .ok (place ++ [part])
  | part :: parts =>
    match tree.enter place part with
    | .ok place => follow tree place parts
    | .error e => .error e

/-- The place of a path. Nothing need be there. -/
def placeOf (tree : FileTree) (path : Path) : Except FileError Place :=
  match pathFault? path with
  | some e => .error e
  | none => tree.follow (tree.origin path) path.parts

/-- What a path leads to. -/
def find (tree : FileTree) (path : Path) : Except FileError Entry :=
  match tree.placeOf path with
  | .error e => .error e
  | .ok place =>
    match tree.entryAt? place with
    | some entry => .ok entry
    | none => .error .notFound

/-- Whether a path leads to anything. -/
def contains (tree : FileTree) (path : Path) : Bool := (tree.find path).isOk

/-- The octets of a file as text. -/
def readText (tree : FileTree) (path : Path) : Except FileError String :=
  match tree.find path with
  | .error e => .error e
  | .ok .directory => .error .isDirectory
  | .ok (.file (.picture _)) => .error .notText
  | .ok (.file (.octets octets)) =>
    match Utf8.decode? octets with
    | .ok text => .ok text
    | .error _ => .error .notText

/-! ## Changing -/

/-- Makes the directories that the parts of a path lead through, and says what stopped it. -/
def makeFrom (tree : FileTree) (place : Place) : List String → FileTree × Except FileError Unit
  | [] => (tree, .ok ())
  | part :: parts =>
    if Path.stays part then makeFrom tree place parts
    else if part = ".." then makeFrom tree place.dropLast parts
    else if maxNameSize < part.utf8ByteSize then (tree, .error .nameTooLong)
    else
      match tree.entryAt? (place ++ [part]) with
      | some .directory => makeFrom tree (place ++ [part]) parts
      -- what is in the way is told apart by whether it ends the path
      | some (.file _) => (tree, .error (if parts.isEmpty then .exists else .notDirectory))
      | none => makeFrom (tree.put (place ++ [part]) .directory) (place ++ [part]) parts

/-- Makes a directory and those above it that are missing, and says what stopped it. The empty path
asks for nothing. -/
@[irreducible]
def makeDirectories (tree : FileTree) (path : Path) : FileTree × Except FileError Unit :=
  if path = .empty then (tree, .ok ())
  else
    match pathFault? path with
    | some e => (tree, .error e)
    | none =>
      match tree.makeFrom (tree.origin path) path.parts with
      -- once something is made, what comes next is asked for by itself, so the file ends that path
      | (made, .error .notDirectory) => (made, .error (if made = tree then .notDirectory else .exists))
      | result => result

/-- Writes a file, in place of one that is there. -/
def write (tree : FileTree) (path : Path) (content : Content) : Except FileError FileTree :=
  match tree.placeOf path with
  | .error e => .error e
  | .ok place =>
    match tree.entryAt? place with
    | some .directory => .error .isDirectory
    | _ => .ok (tree.put place (.file content))

/-- Adds an entry, and the directories above it. -/
def add (tree : FileTree) (path : Path) (entry : Entry) : FileTree :=
  let tree := (tree.makeFrom (tree.origin path) path.parent.parts).1
  match tree.placeOf path with
  | .ok place => tree.put place entry
  | .error _ => tree

/-- What is below the working directory, each entry with the names that lead to it from there. -/
def listing (tree : FileTree) : List (Place × Entry) :=
  tree.entries.filterMap fun entry =>
    if tree.home.isPrefixOf entry.1 then some (entry.1.drop tree.home.length, entry.2) else none

end FileTree

end SolarCharts
