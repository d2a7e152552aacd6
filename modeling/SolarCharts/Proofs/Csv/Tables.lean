import SolarCharts.Proofs.Csv.Reading

/-!
# Reading a response made of annotated tables

An `AnnotatedTable` is what the store sends for one table: a `#datatype` row, perhaps a `#group` row
and a `#default` row, a header, and data rows. What each data row should come to is said from its
own table alone, by `AnnotatedTable.item`: the columns are where that table's header names them, and
an empty or missing cell is filled from that table's `#default` row.

* `AnnotatedTable.items_records` — whatever the reader remembers from before, a table gives the
  items of its rows, and the reader then remembers that table and nothing older.
* `yields_of_tables` — a response of any number of tables gives exactly one item for each data row,
  in order, and then none.
-/

namespace SolarCharts.Csv

open TableReader

/-! ## Tables -/

/-- A table as the store sends it. Any row may be longer or shorter than the header. -/
structure AnnotatedTable where
  datatypeRow : Record
  /-- The row that says which columns are grouped by, if there is one. -/
  groupRow : Option Record
  /-- The row that says what empty cells stand for, if there is one. -/
  defaultRow : Option Record
  header : Record
  /-- Where it names each column that a sample needs. -/
  place : Column → Nat
  rows : List Record
  datatype_first : firstCell datatypeRow = "#datatype"
  group_first : ∀ row ∈ groupRow, firstCell row = "#group"
  default_first : ∀ row ∈ defaultRow, firstCell row = "#default"
  header_first : firstCell header = ""
  header_place : ∀ column, header.cells[place column]? = some column.name
  header_once : ∀ column : Column, header.cells.count column.name = 1
  rows_first : ∀ row ∈ rows, firstCell row = ""
  rows_data : ∀ row ∈ rows, ¬ HeaderLike row

/-- A table without rows, whose header names the columns of a sample and no others. -/
instance : Inhabited AnnotatedTable where
  default :=
    { datatypeRow := ⟨1, ["#datatype"]⟩
      groupRow := none
      defaultRow := none
      header := ⟨2, ["", "_time", "_value", "_field", "host"]⟩
      place := fun
        | .time => 1
        | .value => 2
        | .field => 3
        | .host => 4
      rows := []
      datatype_first := rfl
      group_first := by simp
      default_first := by simp
      header_first := rfl
      header_place := fun column => by cases column <;> rfl
      header_once := fun column => by cases column <;> rfl
      rows_first := by simp
      rows_data := by simp }

namespace AnnotatedTable

/-- The rows before the header. -/
def annotations (table : AnnotatedTable) : List Record :=
  table.datatypeRow :: (table.groupRow.toList ++ table.defaultRow.toList)

/-- The records of a table, in order. -/
def records (table : AnnotatedTable) : List (Except EncodingError Record) :=
  (table.annotations ++ table.header :: table.rows).map .ok

/-- What empty cells stand for, place by place. -/
def defaults (table : AnnotatedTable) : List String :=
  match table.defaultRow with
  | some row => row.cells
  | none => []

/-- The columns that the header names. -/
def columns (table : AnnotatedTable) : Columns :=
  .samples (table.place .time) (table.place .value) (table.place .field) (table.place .host)

/-- What a data row says in a column: its cell, or the default in the same place when the cell is
empty or missing, or nothing. -/
def text (table : AnnotatedTable) (column : Column) (row : Record) : String :=
  ((row.cells[table.place column]?).filter (· ≠ "")).getD
    ((table.defaults[table.place column]?).getD "")

/-- What a data row comes to. -/
def item (table : AnnotatedTable) (row : Record) : Except RowError Sample :=
  match Timestamp.ofText? (table.text .time row) with
  | none => .error (.invalidTime row.line (table.text .time row))
  | some time =>
    match floatOfText? (table.text .value row) with
    | none => .error (.invalidValue row.line (table.text .value row))
    | some value =>
      .ok
        { time
          host := table.text .host row
          field := .ofName (table.text .field row)
          value }

/-- The reader after a table: it remembers that table's defaults and columns. -/
def readerAfter (table : AnnotatedTable) : TableReader :=
  { defaults := table.defaults, columns := some table.columns, expectsHeader := false }

/-! ## Columns and cells -/

/-- A name that stands once in a header is found where it stands. -/
theorem place?_of_once {name : String} {cells : List String} {place : Nat}
    (hAt : cells[place]? = some name) (hOnce : cells.count name = 1) :
    place? cells name = some place := by
  unfold place?
  induction cells generalizing place with
  | nil => simp at hAt
  | cons cell cells ih =>
    rw [List.idxOf?_cons]
    cases place with
    | zero =>
      have hCell : cell = name := by simpa using hAt
      simp [hCell]
    | succ place =>
      have hLater : cells[place]? = some name := by simpa using hAt
      -- the name stands further on, so it would stand twice if it stood here
      have hNe : cell ≠ name := by
        intro hEq
        have hPos : 0 < cells.count name :=
          List.count_pos_iff.mpr (List.mem_of_getElem? hLater)
        rw [hEq, List.count_cons_self] at hOnce
        omega
      rw [List.count_cons_of_ne hNe] at hOnce
      simp [hNe, ih hLater hOnce]

theorem placeOf_header (table : AnnotatedTable) (column : Column) :
    placeOf table.header.cells column = .ok (table.place column) := by
  rw [placeOf, place?_of_once (table.header_place column) (table.header_once column)]

/-- The reader takes the columns of a table from its header. -/
theorem ofHeader_header (table : AnnotatedTable) :
    Columns.ofHeader table.header.cells = table.columns := by
  have hColumns : sampleColumns table.header.cells = .ok table.columns := by
    simp only [sampleColumns, placeOf_header]
    rfl
  have hValue := place?_of_once (table.header_place .value) (table.header_once .value)
  simp only [Columns.ofHeader, hColumns, hValue]
  -- the header names the value column, so it is never taken for that of an error table
  cases place? table.header.cells "error" <;> rfl

theorem cellAt_eq_text (table : AnnotatedTable) (column : Column) (row : Record) :
    cellAt table.defaults row.cells (table.place column) = table.text column row := by
  rw [cellAt_eq, text]

/-- The reader makes of a row what that comes to in its table. -/
theorem sampleOfRow_eq_item (table : AnnotatedTable) (row : Record) :
    sampleOfRow table.defaults table.columns row = table.item row := by
  -- the time is looked at before the value, by either
  cases hTime : Timestamp.ofText? (table.text .time row) with
  | none => simp only [columns, sampleOfRow, item, cellAt_eq_text, hTime]
  | some time =>
    cases hValue : floatOfText? (table.text .value row) with
    | none => simp only [columns, sampleOfRow, item, cellAt_eq_text, hTime, hValue]
    | some value => simp only [columns, sampleOfRow, item, cellAt_eq_text, hTime, hValue]

/-! ## Reading a table -/

/-- An annotation that a table may have, of one kind. -/
theorem items_optional {kind : String} (hKind : kind.toList.head? = some '#') {row? : Option Record}
    (hFirst : ∀ row ∈ row?, firstCell row = kind) (reader : TableReader)
    (rest : List (Except EncodingError Record)) :
    reader.items (row?.toList.map .ok ++ rest) =
      (match row? with
        | some row => reader.annotated kind row.cells
        | none => reader).items rest := by
  cases row? with
  | none => rfl
  | some row => exact items_of_described (read_annotating (hFirst row rfl) hKind)

/-- The annotations of a table make the reader forget the defaults of the table before. -/
theorem items_annotations (table : AnnotatedTable) (reader : TableReader)
    (rest : List (Except EncodingError Record)) :
    reader.items (table.annotations.map .ok ++ rest) =
      items ⟨table.defaults, reader.columns, true⟩ rest := by
  rw [annotations, List.map_cons, List.cons_append,
    items_of_described (read_annotating table.datatype_first rfl), List.map_append,
    List.append_assoc, items_optional rfl table.group_first, items_optional rfl table.default_first,
    defaults]
  -- a group row adds nothing, whether it is there or not
  cases table.groupRow <;> cases table.defaultRow <;> rfl

/-- The header makes the reader remember the columns of its table. -/
theorem items_header (table : AnnotatedTable) {reader : TableReader}
    (hDefaults : reader.defaults = table.defaults) (hExpects : reader.expectsHeader = true)
    (rest : List (Except EncodingError Record)) :
    reader.items (.ok table.header :: rest) = table.readerAfter.items rest := by
  rw [items_of_described (read_header table.header_first hExpects), headed, ofHeader_header,
    hDefaults, readerAfter]

/-- Whatever the reader remembers, a table gives the items of its rows, and the reader then remembers
that table alone. -/
theorem items_records (table : AnnotatedTable) (reader : TableReader)
    (rest : List (Except EncodingError Record)) :
    reader.items (table.records ++ rest) =
      table.rows.map table.item ++ table.readerAfter.items rest := by
  have hRows : ∀ row ∈ table.rows, isAnnotating row.cells = false ∧ ¬ HeaderLike row :=
    fun row hRow =>
      ⟨not_annotating_of_firstCell (table.rows_first row hRow), table.rows_data row hRow⟩
  calc reader.items (table.records ++ rest)
    _ = items ⟨table.defaults, reader.columns, true⟩
          (.ok table.header :: (table.rows.map .ok ++ rest)) := by
        rw [records, List.map_append, List.append_assoc, items_annotations, List.map_cons,
          List.cons_append]
    _ = table.readerAfter.items (table.rows.map .ok ++ rest) :=
        table.items_header rfl rfl _
    _ = table.rows.map table.item ++ table.readerAfter.items rest := by
        rw [items_rows rfl rfl hRows, ← List.map_congr_left fun row _ => table.sampleOfRow_eq_item row]
        rfl

/-! ## Reading a response -/

/-- Table by table, a response gives the items of its rows, whatever the reader remembers. -/
theorem items_tables (tables : List AnnotatedTable) (reader : TableReader) :
    reader.items (tables.flatMap records) = tables.flatMap fun table => table.rows.map table.item := by
  induction tables generalizing reader with
  | nil => rfl
  | cons table tables ih =>
    rw [List.flatMap_cons, items_records, ih, List.flatMap_cons]

end AnnotatedTable

/-- **One item for each data row.** Asked for items until none comes, the reader of a response of
annotated tables gives what each data row says in its own table, in order across all of them. -/
theorem yields_of_tables (tables : List AnnotatedTable) :
    Yields .initial (tables.flatMap AnnotatedTable.records)
      (tables.flatMap fun table => table.rows.map table.item) := by
  rw [← AnnotatedTable.items_tables tables .initial]
  exact yields_items .initial _

end SolarCharts.Csv
