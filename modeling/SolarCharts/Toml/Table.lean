/-!
# Tables of TOML

A document is a table, and its lines add to it. A line that assigns a value may name its key by a
path, and then makes the tables on the way; a header opens a table that the lines after it add to, or
adds an element to an array of tables.

A table knows how it came about, because that settles who may still add to it. An inline table is a
value and never changes. A table from a header is extended only below that header or by headers of
tables within it. A table that a path made takes more from paths. A table that a header passed
through may get a header of its own.
-/

namespace SolarCharts.Toml

/-- How a table that may still change came about. -/
inductive Origin where
  /-- By a header of its own. -/
  | header
  /-- By the header of a table within it. -/
  | passed
  /-- By the path of a key. -/
  | path
deriving DecidableEq

/-- A value. -/
inductive Value where
  | string (text : String)
  | integer (value : Int)
  | float (value : Float)
  | boolean (value : Bool)
  | dateTime (text : String)
  | array (elements : List Value)
  /-- A table within braces. -/
  | inline (entries : List (String × Value))
  /-- Any other table. -/
  | table (origin : Origin) (entries : List (String × Value))
  /-- An array of tables that headers add to. -/
  | tables (elements : List (List (String × Value)))

/-- Keys with their values. -/
abbrev Table := List (String × Value)

namespace Table

/-- The value of a key. -/
def get? (table : Table) (key : String) : Option Value :=
  (table.find? fun entry => entry.1 == key).map (·.2)

/-- Sets the value of a key, in place of the one it has. -/
def set (table : Table) (key : String) (value : Value) : Table :=
  table.filter (·.1 != key) ++ [(key, value)]

theorem get?_set_self (table : Table) (key : String) (value : Value) :
    (table.set key value).get? key = some value := by
  have hnone : (table.filter (·.1 != key)).find? (·.1 == key) = none := by
    simp [List.find?_eq_none]
  simp [get?, set, hnone]

theorem get?_set_of_ne (table : Table) {key other : String} (value : Value) (h : other ≠ key) :
    (table.set key value).get? other = table.get? other := by
  have hfilter : (table.filter (·.1 != key)).find? (·.1 == other)
      = table.find? (·.1 == other) := by
    rw [List.find?_filter]
    congr 1
    funext found
    by_cases hf : found.1 = other
    · simp [hf, h]
    · simp [hf]
  have hne : (key == other) = false := by simpa using fun e => h e.symm
  simp [get?, set, hfilter, hne]

/-- Adds a key that the table lacks. -/
def add? (table : Table) (key : String) (value : Value) : Option Table :=
  if (table.get? key).isSome then none else some (table.set key value)

/-- Changes the last of some tables. -/
def changeLast? (change : Table → Option Table) : List Table → Option (List Table)
  | [] => none
  | [last] => (change last).map ([·])
  | first :: rest => (changeLast? change rest).map (first :: ·)

/-- Assigns a value to the key of a path. The tables on the way are made where they are missing; the
last of them must be one that a path made. -/
def assign? (table : Table) (path : List String) (value : Value) : Option Table :=
  match path with
  | [] => none
  | [key] => table.add? key value
  | key :: next :: rest =>
    match table.get? key with
    | none => (assign? [] (next :: rest) value).map fun inner => table.set key (.table .path inner)
    | some (.table origin inner) =>
      if origin = .header ∨ (origin = .passed ∧ rest.isEmpty) then none
      else
        (assign? inner (next :: rest) value).map fun inner => table.set key (.table origin inner)
    | some (.tables elements) =>
      if rest.isEmpty then none
      else
        (changeLast? (fun inner => assign? inner (next :: rest) value) elements).map fun elements =>
          table.set key (.tables elements)
    | some _ => none

/-- Assigns values to the keys of paths. -/
def assignAll? (table : Table) (assignments : List (List String × Value)) : Option Table :=
  assignments.foldlM (fun table (path, value) => table.assign? path value) table

/-- Changes the table that holds the last key of a header's path, and gives it that key. The tables on
the way are made where they are missing. -/
def changeAt? (change : Table → String → Option Table) (table : Table) (path : List String) :
    Option Table :=
  match path with
  | [] => none
  | [key] => change table key
  | key :: next :: rest =>
    match table.get? key with
    | none =>
      (changeAt? change [] (next :: rest)).map fun inner => table.set key (.table .passed inner)
    | some (.table origin inner) =>
      (changeAt? change inner (next :: rest)).map fun inner => table.set key (.table origin inner)
    | some (.tables elements) =>
      (changeLast? (fun inner => changeAt? change inner (next :: rest)) elements).map fun elements =>
        table.set key (.tables elements)
    | some _ => none

/-- Opens the table of a header and adds to it. -/
def openTable? (fill : Table → Option Table) (table : Table) (key : String) : Option Table :=
  match table.get? key with
  | none => (fill []).map fun inner => table.set key (.table .header inner)
  | some (.table .passed inner) =>
    (fill inner).map fun inner => table.set key (.table .header inner)
  | some _ => none

/-- Opens a further element of an array of tables and adds to it. -/
def openElement? (fill : Table → Option Table) (table : Table) (key : String) : Option Table :=
  match table.get? key with
  | none => (fill []).map fun inner => table.set key (.tables [inner])
  | some (.tables elements) =>
    (fill []).map fun inner => table.set key (.tables (elements ++ [inner]))
  | some _ => none

end Table

/-! ## Documents -/

/-- What the lines of a section add to. -/
inductive Header where
  /-- The table of a path. -/
  | table (path : List String)
  /-- A further element of the array of tables of a path. -/
  | element (path : List String)

/-- A line that is not empty. -/
inductive Line where
  | header (header : Header)
  | assignment (path : List String) (value : Value)

/-- The assignments before the first header, and the lines from it on. -/
def leading : List Line → List (List String × Value) × List Line
  | .assignment path value :: rest => ((path, value) :: (leading rest).1, (leading rest).2)
  | lines => ([], lines)

/-- Headers, each with the assignments between it and the next one. -/
def sections : List Line → List (Header × List (List String × Value))
  | [] => []
  | .header header :: rest => (header, (leading rest).1) :: sections rest
  | .assignment _ _ :: rest => sections rest

namespace Table

/-- Adds a section to a document. -/
def addSection? (table : Table) (header : Header) (assignments : List (List String × Value)) :
    Option Table :=
  match header with
  | .table path => changeAt? (openTable? fun inner => inner.assignAll? assignments) table path
  | .element path => changeAt? (openElement? fun inner => inner.assignAll? assignments) table path

/-- The document of some lines, if no two of them contradict each other. -/
def ofLines? (lines : List Line) : Option Table := do
  let start ← assignAll? [] (leading lines).1
  (sections lines).foldlM (fun table (header, assignments) => table.addSection? header assignments)
    start

end Table

end SolarCharts.Toml
