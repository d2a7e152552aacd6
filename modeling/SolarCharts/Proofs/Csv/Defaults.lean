import Mathlib.Data.List.Induction
import Mathlib.Data.List.Nodup
import SolarCharts.Proofs.Csv.Introduction

/-!
# Which defaults fill the rows of a table

What an empty cell of a data row stands for should be said by the table of that row. The reader keeps
one set of defaults for all tables: a `#default` row sets it, and nothing but a `#datatype` row
clears it. So a table is read with defaults of its own only where its annotations see to that.

An `IntroducedTable` is a table in any of the ways that one may start: with any of the three
annotations in any order, or with nothing but a header that can be told from a data row.

* `inForce` — the defaults after some annotations: the last `#default` row, unless a `#datatype` row
  comes behind it.
* `after_preamble` — the reader comes to the rows of a table with what is in force then.
* `fills_own_iff` — every row is filled from its own table's defaults unless the table has a
  `#datatype` row behind its `#default` row, or has neither and an earlier table left its defaults.
* `defaults_outlive_table` — the defaults of a table fill the rows of the next one.
-/

namespace SolarCharts.Csv

open TableReader

/-! ## Annotations -/

/-- What a row before a header is about. -/
inductive Annotation where
  | datatype
  | group
  | defaults
deriving DecidableEq

/-- The first cell of such a row. -/
def Annotation.name : Annotation → String
  | .datatype => "#datatype"
  | .group => "#group"
  | .defaults => "#default"

/-- A row that annotates the table behind it. -/
structure AnnotationRow where
  kind : Annotation
  row : Record
  first : firstCell row = kind.name

namespace AnnotationRow

/-- The defaults once a row is read. -/
def replace (defaults : List String) (note : AnnotationRow) : List String :=
  match note.kind with
  | .datatype => []
  | .group => defaults
  | .defaults => note.row.cells

/-- The name of an annotation starts with a hash. -/
theorem hash (note : AnnotationRow) : note.kind.name.toList.head? = some '#' := by
  cases note.kind <;> rfl

/-- So its row annotates what follows. -/
theorem annotates (note : AnnotationRow) : isAnnotating note.row.cells = true := by
  rw [isAnnotating, show note.row.cells.headD "" = note.kind.name from note.first, note.hash]
  rfl

/-- It changes the defaults as its kind says, and asks for a header. -/
theorem read_eq (note : AnnotationRow) (reader : TableReader) :
    reader.read (.ok note.row) =
      .described
        { reader with defaults := note.replace reader.defaults, expectsHeader := true } := by
  rw [read_annotating note.first note.hash, annotated, replace]
  cases note.kind <;> rfl

/-- A row of defaults starts with its name. -/
theorem exists_of_defaults (note : AnnotationRow) (h : note.kind = .defaults) :
    ∃ more, note.row.cells = "#default" :: more := by
  have hFirst := note.first
  rw [h, firstCell] at hFirst
  cases hCells : note.row.cells with
  | nil =>
    rw [hCells] at hFirst
    exact absurd hFirst (by decide)
  | cons cell more =>
    rw [hCells] at hFirst
    exact ⟨more, by rw [show cell = "#default" from hFirst]⟩

end AnnotationRow

/-- The defaults once some annotations are read, those of earlier tables among them. -/
def inForce (annotations : List AnnotationRow) : List String :=
  annotations.foldl AnnotationRow.replace []

/-- Rows about groups leave the defaults. -/
theorem foldl_replace_of_groups {annotations : List AnnotationRow}
    (h : ∀ note ∈ annotations, note.kind = .group) (defaults : List String) :
    annotations.foldl AnnotationRow.replace defaults = defaults := by
  induction annotations with
  | nil => rfl
  | cons note annotations ih =>
    have hGroup := h note List.mem_cons_self
    rw [List.foldl_cons, AnnotationRow.replace, hGroup]
    exact ih fun other hOther => h other (List.mem_cons_of_mem _ hOther)

/-- What was cleared stays so until a row sets defaults. -/
theorem foldl_replace_nil {annotations : List AnnotationRow}
    (h : ∀ note ∈ annotations, note.kind ≠ .defaults) :
    annotations.foldl AnnotationRow.replace [] = [] := by
  induction annotations with
  | nil => rfl
  | cons note annotations ih =>
    have hRest := ih fun other hOther => h other (List.mem_cons_of_mem _ hOther)
    rw [List.foldl_cons, AnnotationRow.replace]
    cases hKind : note.kind with
    | datatype => exact hRest
    | group => exact hRest
    | defaults => exact absurd hKind (h note List.mem_cons_self)

/-- Defaults that are in force start with the name of their row. -/
theorem inForce_eq_nil_or (annotations : List AnnotationRow) :
    inForce annotations = [] ∨ ∃ more, inForce annotations = "#default" :: more := by
  induction annotations using List.reverseRecOn with
  | nil => exact Or.inl rfl
  | append_singleton annotations last ih =>
    rw [inForce, List.foldl_append, List.foldl_cons, List.foldl_nil, AnnotationRow.replace]
    cases hKind : last.kind with
    | datatype => exact Or.inl rfl
    | group => exact ih
    | defaults => exact Or.inr (last.exists_of_defaults hKind)

/-! ## Tables -/

/-- A table, however it is introduced. Any row may be longer or shorter than the header. -/
structure IntroducedTable where
  annotations : List AnnotationRow
  header : Record
  rows : List Record
  kinds_nodup : (annotations.map (·.kind)).Nodup
  header_plain : isAnnotating header.cells = false
  /-- Without annotations the header has to be told from a data row. -/
  header_like : annotations = [] → HeaderLike header
  rows_plain : ∀ row ∈ rows, isAnnotating row.cells = false
  rows_data : ∀ row ∈ rows, ¬ HeaderLike row

namespace IntroducedTable

/-- The records before the data rows. -/
def preamble (table : IntroducedTable) : List (Except EncodingError Record) :=
  table.annotations.map (fun note => .ok note.row) ++ [.ok table.header]

/-- The records of a table, in order. -/
def records (table : IntroducedTable) : List (Except EncodingError Record) :=
  table.preamble ++ table.rows.map .ok

/-- The columns that the header names. -/
def columns (table : IntroducedTable) : Columns := .ofHeader table.header.cells

/-- What empty cells of the table stand for, place by place. -/
def ownDefaults (table : IntroducedTable) : List String :=
  match table.annotations.find? (·.kind = .defaults) with
  | some note => note.row.cells
  | none => []

/-- What a data row says in a place: its cell, or the table's own default in the same place when the
cell is empty or missing, or nothing. -/
def text (table : IntroducedTable) (cells : List String) (place : Nat) : String :=
  ((cells[place]?).filter (· ≠ "")).getD ((table.ownDefaults[place]?).getD "")

/-- A `#datatype` row behind the `#default` row clears it. -/
def Clears (table : IntroducedTable) : Prop :=
  ∃ before clearing after, table.annotations = before ++ clearing :: after ∧
    clearing.kind = .datatype ∧ ∃ own ∈ before, own.kind = .defaults

/-- A table without either row takes over what is in force. -/
def Inherits (table : IntroducedTable) : Prop :=
  ∀ note ∈ table.annotations, note.kind = .group

end IntroducedTable

/-! ## Reading tables -/

/-- Annotations change the defaults and ask for a header. -/
theorem after_annotations (annotations : List AnnotationRow) (reader : TableReader) :
    reader.after (annotations.map fun note => .ok note.row) =
      { reader with
        defaults := annotations.foldl AnnotationRow.replace reader.defaults
        expectsHeader := reader.expectsHeader || !annotations.isEmpty } := by
  induction annotations generalizing reader with
  | nil => simp [TableReader.after]
  | cons note annotations ih =>
    rw [List.map_cons, after_of_described (note.read_eq reader), ih]
    simp

namespace IntroducedTable

/-- The header is taken for one, whether it is asked for or has to be recognised. -/
theorem read_header_eq (table : IntroducedTable) (reader : TableReader) :
    (reader.after (table.annotations.map fun note => .ok note.row)).read
        (.ok table.header) =
      .described
        { defaults := table.annotations.foldl AnnotationRow.replace reader.defaults
          columns := some table.columns
          expectsHeader := false } := by
  rw [after_annotations, read_headed table.header_plain]
  · rfl
  · by_cases hNone : table.annotations = []
    · exact Or.inr (table.header_like hNone)
    · exact Or.inl (by simp [hNone])

/-- Before its rows, the reader knows the columns of a table and what is in force by then. -/
theorem after_preamble (table : IntroducedTable) (reader : TableReader) :
    reader.after table.preamble =
      { defaults := table.annotations.foldl AnnotationRow.replace reader.defaults
        columns := some table.columns
        expectsHeader := false } := by
  -- the header changes no defaults
  rw [preamble, after_append, after_of_described (table.read_header_eq reader)]
  rfl

/-- The same table as what introduces it. -/
def introduction (table : IntroducedTable) : Introduction where
  annotations := table.annotations.map (·.row)
  header := table.header
  annotations_annotate := by
    intro row hRow
    obtain ⟨note, -, rfl⟩ := List.mem_map.mp hRow
    exact note.annotates
  header_plain := table.header_plain

/-- Nothing comes before the rows of a table. -/
theorem items_preamble (table : IntroducedTable) {reader : TableReader} (hReady : reader.Ready) :
    reader.items table.preamble = [] := by
  have hRecords : table.preamble = table.introduction.records := by
    rw [preamble, Introduction.records, introduction, List.map_map]
    rfl
  have hFound : table.introduction.IsFound reader := by
    by_cases hNone : table.annotations = []
    · exact Or.inr (Or.inr (table.header_like hNone))
    · exact Or.inr (Or.inl (by simpa [introduction] using hNone))
  rw [hRecords, table.introduction.items_records hReady hFound]

/-- The rows give one item each and leave the reader as it is. -/
theorem read_rows (table : IntroducedTable) (reader : TableReader)
    (hExpects : reader.expectsHeader = false) (hColumns : reader.columns = some table.columns) :
    reader.after (table.rows.map .ok) = reader ∧
      reader.items (table.rows.map .ok) =
        table.rows.map (sampleOfRow reader.defaults table.columns) := by
  have hRows : ∀ row ∈ table.rows, isAnnotating row.cells = false ∧ ¬ HeaderLike row :=
    fun row hRow => ⟨table.rows_plain row hRow, table.rows_data row hRow⟩
  have hInside : reader.Inside := ⟨hExpects, by rw [hColumns]; rfl⟩
  constructor
  · apply hInside.after_eq
    intro row hRow
    obtain ⟨_, hMem, ⟨⟩⟩ := List.mem_map.mp hRow
    exact hRows row hMem
  · have hItems : reader.items (table.rows.map .ok ++ []) = _ :=
      items_rows hExpects hColumns hRows
    rwa [List.append_nil, items, List.append_nil] at hItems

/-- Rows change nothing, so the reader goes on as it stood before them. -/
theorem after_records (table : IntroducedTable) (reader : TableReader) :
    reader.after table.records = reader.after table.preamble := by
  have hRows := table.read_rows (reader.after table.preamble) (by rw [after_preamble])
    (by rw [after_preamble])
  rw [records, after_append, hRows.1]

/-- Only the annotations of tables change the defaults. -/
theorem defaults_after_tables (tables : List IntroducedTable) (reader : TableReader) :
    (reader.after (tables.flatMap records)).defaults =
      (tables.flatMap annotations).foldl AnnotationRow.replace reader.defaults := by
  induction tables generalizing reader with
  | nil => rfl
  | cons table tables ih =>
    rw [List.flatMap_cons, after_append, ih, after_records, after_preamble, List.flatMap_cons,
      List.foldl_append]

/-! ## Own defaults -/

/-- A table has each annotation once. -/
theorem eq_of_kind_eq (table : IntroducedTable) {a b : AnnotationRow}
    (ha : a ∈ table.annotations) (hb : b ∈ table.annotations) (h : a.kind = b.kind) : a = b :=
  List.inj_on_of_nodup_map table.kinds_nodup ha hb h

/-- The own defaults of a table are those of its `#default` row. -/
theorem ownDefaults_of_mem (table : IntroducedTable) {own : AnnotationRow}
    (hMem : own ∈ table.annotations) (hKind : own.kind = .defaults) :
    table.ownDefaults = own.row.cells := by
  rw [ownDefaults]
  cases hFind : table.annotations.find? (·.kind = .defaults) with
  | none =>
    have hNot := List.find?_eq_none.mp hFind own hMem
    simp [hKind] at hNot
  | some found =>
    have hFound : found.kind = .defaults := by simpa using List.find?_some hFind
    rw [table.eq_of_kind_eq (List.mem_of_find?_eq_some hFind) hMem (hFound.trans hKind.symm)]

/-- Without such a row it has none. -/
theorem ownDefaults_of_none (table : IntroducedTable)
    (h : ∀ note ∈ table.annotations, note.kind ≠ .defaults) :
    table.ownDefaults = [] := by
  have hFind : table.annotations.find? (·.kind = .defaults) = none := by
    simpa [List.find?_eq_none] using h
  rw [ownDefaults, hFind]

/-- Where the `#datatype` row comes last, nothing is in force. -/
theorem Clears.foldl_eq {table : IntroducedTable} (h : table.Clears) (defaults : List String) :
    table.annotations.foldl AnnotationRow.replace defaults = [] := by
  obtain ⟨before, clearing, after, hSplit, hClearing, own, hOwn, hKind⟩ := h
  have hNodup := table.kinds_nodup
  rw [hSplit, List.map_append, List.map_cons, List.nodup_append] at hNodup
  have hAfter : ∀ note ∈ after, note.kind ≠ .defaults := by
    intro note hNote hDefaults
    -- the one row with defaults is before
    refine hNodup.2.2 own.kind (List.mem_map_of_mem hOwn) note.kind ?_ (by rw [hKind, hDefaults])
    exact List.mem_cons_of_mem _ (List.mem_map_of_mem hNote)
  rw [hSplit, List.foldl_append, List.foldl_cons, AnnotationRow.replace, hClearing]
  exact foldl_replace_nil hAfter

/-- Where nothing clears it, a `#default` row is in force. -/
theorem foldl_eq_of_defaults (table : IntroducedTable) (hClears : ¬ table.Clears)
    {own : AnnotationRow} (hMem : own ∈ table.annotations) (hKind : own.kind = .defaults)
    (defaults : List String) :
    table.annotations.foldl AnnotationRow.replace defaults = own.row.cells := by
  obtain ⟨before, after, hSplit⟩ := List.append_of_mem hMem
  have hNodup := table.kinds_nodup
  rw [hSplit, List.map_append, List.map_cons, List.nodup_append, List.nodup_cons] at hNodup
  -- behind it, a second one would be the same row, and a `#datatype` row would clear it
  have hAfter : ∀ note ∈ after, note.kind = .group := by
    intro note hNote
    cases hOther : note.kind with
    | group => rfl
    | defaults =>
      refine absurd ?_ hNodup.2.1.1
      rw [hKind, ← hOther]
      exact List.mem_map_of_mem hNote
    | datatype =>
      obtain ⟨between, rest, hRest⟩ := List.append_of_mem hNote
      refine absurd ?_ hClears
      refine ⟨before ++ own :: between, note, rest, ?_, hOther, own, ?_, hKind⟩
      · rw [hSplit, hRest, List.append_assoc, List.cons_append]
      · simp
  rw [hSplit, List.foldl_append, List.foldl_cons, AnnotationRow.replace, hKind]
  exact foldl_replace_of_groups hAfter _

/-- A table without a `#default` row leaves nothing in force, unless it inherits. -/
theorem foldl_eq_nil (table : IntroducedTable)
    (hNone : ∀ note ∈ table.annotations, note.kind ≠ .defaults)
    (hInherits : ¬ table.Inherits) (defaults : List String) :
    table.annotations.foldl AnnotationRow.replace defaults = [] := by
  simp only [Inherits, not_forall] at hInherits
  obtain ⟨clearing, hMem, hGroup⟩ := hInherits
  -- what is neither about groups nor about defaults clears them
  have hClearing : clearing.kind = .datatype := by
    cases hKind : clearing.kind with
    | datatype => rfl
    | group => exact absurd hKind hGroup
    | defaults => exact absurd hKind (hNone clearing hMem)
  obtain ⟨before, after, hSplit⟩ := List.append_of_mem hMem
  rw [hSplit, List.foldl_append, List.foldl_cons, AnnotationRow.replace, hClearing]
  apply foldl_replace_nil
  intro note hNote
  apply hNone
  rw [hSplit]
  exact List.mem_append_right _ (List.mem_cons_of_mem _ hNote)

/-! ## Filling cells -/

/-- A `#default` row of the table itself fills an empty first cell, and so does one left over, so
either one is missed where it is not in force. -/
theorem not_fills (table : IntroducedTable) (defaults more : List String)
    (h : defaults = [] ∧ table.ownDefaults = "#default" :: more ∨
      defaults = "#default" :: more ∧ table.ownDefaults = []) :
    ¬ ∀ cells place, cellAt defaults cells place = table.text cells place := by
  intro hFills
  have hFirst := hFills [] 0
  rw [cellAt_eq, text] at hFirst
  rcases h with ⟨hNone, hOwn⟩ | ⟨hLeft, hNone⟩
  · simp [hNone, hOwn] at hFirst
  · simp [hLeft, hNone] at hFirst

/-- What is in force at its rows fills a table as its own defaults would, unless it clears them or takes
others over. -/
theorem fills_iff (table : IntroducedTable) (annotations : List AnnotationRow) :
    (∀ cells place,
        cellAt (inForce (annotations ++ table.annotations)) cells place = table.text cells place) ↔
      ¬ (table.Clears ∨ table.Inherits ∧ inForce annotations ≠ []) := by
  have hInForce : inForce (annotations ++ table.annotations) =
      table.annotations.foldl AnnotationRow.replace (inForce annotations) := by
    rw [inForce, List.foldl_append, inForce]
  -- it is enough that what is in force is what the table says
  have hSame : inForce (annotations ++ table.annotations) = table.ownDefaults →
      ∀ cells place,
        cellAt (inForce (annotations ++ table.annotations)) cells place = table.text cells place := by
    intro hEq cells place
    rw [cellAt_eq, hEq, text]
  by_cases hClears : table.Clears
  · -- the own defaults are there and none is in force
    obtain ⟨before, clearing, after, hSplit, -, own, hOwn, hKind⟩ := id hClears
    have hMem : own ∈ table.annotations := by
      rw [hSplit]
      exact List.mem_append_left _ hOwn
    obtain ⟨more, hCells⟩ := own.exists_of_defaults hKind
    refine iff_of_false (table.not_fills _ more (Or.inl ⟨?_, ?_⟩)) (not_not_intro (Or.inl hClears))
    · rw [hInForce, hClears.foldl_eq]
    · rw [table.ownDefaults_of_mem hMem hKind, hCells]
  · by_cases hDefaults : ∃ own ∈ table.annotations, own.kind = .defaults
    · obtain ⟨own, hMem, hKind⟩ := hDefaults
      -- with defaults of its own it takes over none
      have hInherits : ¬ table.Inherits := fun h => by
        have hGroup := h own hMem
        rw [hKind] at hGroup
        cases hGroup
      refine iff_of_true (hSame ?_) (by simp [hClears, hInherits])
      rw [hInForce, table.foldl_eq_of_defaults hClears hMem hKind,
        table.ownDefaults_of_mem hMem hKind]
    · have hNone : ∀ note ∈ table.annotations, note.kind ≠ .defaults :=
        fun note hMem hKind => hDefaults ⟨note, hMem, hKind⟩
      have hOwn := table.ownDefaults_of_none hNone
      by_cases hInherits : table.Inherits
      · -- what is in force is what was
        rw [foldl_replace_of_groups hInherits] at hInForce
        rcases inForce_eq_nil_or annotations with hNil | ⟨more, hMore⟩
        · refine iff_of_true (hSame ?_) (by simp [hClears, hNil])
          rw [hInForce, hNil, hOwn]
        · refine iff_of_false (table.not_fills _ more (Or.inr ⟨hInForce.trans hMore, hOwn⟩)) ?_
          simp [hInherits, hMore]
      · -- a `#datatype` row without a `#default` row leaves nothing, and the table says nothing
        refine iff_of_true (hSame ?_) (by simp [hClears, hInherits])
        rw [hInForce, table.foldl_eq_nil hNone hInherits, hOwn]

/-! ## A response of tables -/

/-- The reader when it comes to the rows of a table behind others. -/
def readerAt (before : List IntroducedTable) (table : IntroducedTable) : TableReader :=
  initial.after (before.flatMap records ++ table.preamble)

/-- By then it knows the columns of the table and what is in force, and asks for no header. -/
theorem readerAt_eq (before : List IntroducedTable) (table : IntroducedTable) :
    readerAt before table =
      { defaults := inForce (before.flatMap annotations ++ table.annotations)
        columns := some table.columns
        expectsHeader := false } := by
  rw [readerAt, after_append, after_preamble, defaults_after_tables, inForce, List.foldl_append]
  rfl

/-- **When rows are filled from their own table.** In a response of tables, however each of them is
introduced, every data row gives one item, read with what the reader has for defaults then. These fill
empty and missing cells as the row's own table says, unless that table has a `#datatype` row behind
its `#default` row, or has neither and the `#default` row of an earlier table is still in force. -/
theorem fills_own_iff (before : List IntroducedTable) (table : IntroducedTable)
    (after : List IntroducedTable) :
    initial.items ((before ++ table :: after).flatMap records) =
        initial.items (before.flatMap records) ++
          (table.rows.map (sampleOfRow (readerAt before table).defaults table.columns) ++
            (readerAt before table).items (after.flatMap records)) ∧
      ((∀ cells place,
          cellAt (readerAt before table).defaults cells place = table.text cells place) ↔
        ¬ (table.Clears ∨ table.Inherits ∧ inForce (before.flatMap annotations) ≠ [])) := by
  have hReady := ready_initial.after (before.flatMap records)
  have hReader := readerAt_eq before table
  constructor
  · have hRows := table.read_rows (readerAt before table) (by rw [hReader]) (by rw [hReader])
    have hReadyAt : (readerAt before table).Ready := ready_initial.after _
    rw [List.flatMap_append, List.flatMap_cons, ready_initial.items_append, records,
      List.append_assoc, hReady.items_append, table.items_preamble hReady, List.nil_append,
      ← after_append, ← readerAt, hReadyAt.items_append, hRows.1, hRows.2]
  · rw [hReader]
    exact table.fills_iff (before.flatMap annotations)

/-! ## Defaults that outlive their table -/

/-- A table whose host is given by its `#default` row alone. -/
def withDefaults : IntroducedTable where
  annotations :=
    [ ⟨.datatype, ⟨1, ["#datatype", "string", "long", "dateTime:RFC3339", "double", "string",
        "string"]⟩, rfl⟩,
      ⟨.defaults, ⟨2, ["#default", "_result", "", "", "", "", "ttgo9"]⟩, rfl⟩ ]
  header := ⟨3, ["", "result", "table", "_time", "_value", "_field", "host"]⟩
  rows := [⟨4, ["", "", "0", "2024-05-02T09:00:00Z", "3.0", "voltage", ""]⟩]
  kinds_nodup := by decide
  header_plain := by decide
  header_like := by simp [HeaderLike]
  rows_plain := by decide
  rows_data := by simp [HeaderLike]

/-- A table with a row whose host is empty, under a header alone. -/
def withoutDefaults : IntroducedTable where
  annotations := []
  header := ⟨6, ["", "result", "table", "_time", "_value", "_field", "host"]⟩
  rows := [⟨7, ["", "_result", "1", "2024-05-02T09:00:01Z", "4.0", "voltage", ""]⟩]
  kinds_nodup := by decide
  header_plain := by decide
  header_like := by simp [HeaderLike]
  rows_plain := by decide
  rows_data := by simp [HeaderLike]

/-- **Defaults outlive their table.** The second table has no `#default` row and its one row no host,
and the row is read as one of the host that the first table names. -/
theorem defaults_outlive_table :
    withoutDefaults.ownDefaults = [] ∧
      (∀ row ∈ withoutDefaults.rows, withoutDefaults.text row.cells 6 = "") ∧
      (initial.items ([withDefaults, withoutDefaults].flatMap records)).map
        (fun item => item.toOption.map (·.host)) = [some "ttgo9", some "ttgo9"] := by
  decide +kernel

end IntroducedTable

end SolarCharts.Csv
