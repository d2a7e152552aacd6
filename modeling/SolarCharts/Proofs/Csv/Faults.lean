import SolarCharts.Proofs.Csv.Introduction

/-!
# Tables whose rows give no samples

A header that lacks a column of a sample makes every row of its table an error. Which error it is, the
header says, and for a table of errors the row: no row of another table does.

* `collect_eq_ok_iff`, `collect_eq_error_iff` — the items of a response are collected if all of them are
  samples, and otherwise the first error among them stands for all.
* `FaultyTable.items_eq` — wherever a table that lacks a column stands in a response, the row below its
  header gives an error, and what `FaultyTable.Reports` says.
-/

namespace SolarCharts.Csv

open TableReader

/-! ## All samples or the first error -/

section

variable {items : List (Except RowError Sample)}

theorem collect_samples (samples : List Sample) : collect (samples.map .ok) = .ok samples := by
  induction samples with
  | nil => rfl
  | cons sample samples ih =>
    rw [List.map_cons, collect, ih]
    rfl

/-- The first error stands for all items. -/
theorem collect_first_error (samples : List Sample) (fault : RowError)
    (rest : List (Except RowError Sample)) :
    collect (samples.map .ok ++ .error fault :: rest) = .error fault := by
  induction samples with
  | nil => rfl
  | cons sample samples ih =>
    rw [List.map_cons, List.cons_append, collect, ih]
    rfl

/-- Items are all samples, or there is a first that is none. -/
theorem samples_or_first_error (items : List (Except RowError Sample)) :
    (∃ samples : List Sample, items = samples.map .ok) ∨
      ∃ (samples : List Sample) (fault : RowError) (rest : _),
        items = samples.map .ok ++ .error fault :: rest := by
  induction items with
  | nil => exact Or.inl ⟨[], rfl⟩
  | cons item items ih =>
    cases item with
    | error fault => exact Or.inr ⟨[], fault, items, rfl⟩
    | ok sample =>
      rcases ih with ⟨samples, rfl⟩ | ⟨samples, fault, rest, rfl⟩
      · exact Or.inl ⟨sample :: samples, rfl⟩
      · exact Or.inr ⟨sample :: samples, fault, rest, rfl⟩

/-- So items are collected exactly if all are samples. -/
theorem collect_eq_ok_iff {samples : List Sample} :
    collect items = .ok samples ↔ items = samples.map .ok := by
  constructor
  · intro h
    rcases samples_or_first_error items with ⟨others, rfl⟩ | ⟨others, fault, rest, rfl⟩
    · rw [collect_samples] at h
      rw [Except.ok.inj h]
    · -- with an error among them, that would stand for all
      rw [collect_first_error] at h
      cases h
  · rintro rfl
    exact collect_samples samples

/-- They come to an error exactly if that is the first among them. -/
theorem collect_eq_error_iff {fault : RowError} :
    collect items = .error fault ↔
      ∃ (samples : List Sample) (rest : _), items = samples.map .ok ++ .error fault :: rest := by
  constructor
  · intro h
    rcases samples_or_first_error items with ⟨others, rfl⟩ | ⟨others, fault', rest, rfl⟩
    · rw [collect_samples] at h
      cases h
    · rw [collect_first_error] at h
      exact ⟨others, rest, by rw [Except.error.inj h]⟩
  · rintro ⟨samples, rest, rfl⟩
    exact collect_first_error samples fault rest

end

/-! ## What a header lacks -/

/-- The columns that a table of samples must have, in the order in which they are looked for. -/
def neededColumns : List Column := [.time, .value, .field, .host]

/-- The first column that a header lacks. -/
def firstMissing? (header : List String) : Option Column :=
  neededColumns.find? fun column => column.name ∉ header

/-- What a header lacks first is what it is an error for. -/
theorem sampleColumns_of_firstMissing {header : List String} {column : Column}
    (h : firstMissing? header = some column) : sampleColumns header = .error column := by
  unfold firstMissing? neededColumns at h
  unfold sampleColumns
  -- the columns in front of the one that is missing are there
  by_cases hTime : Column.time.name ∈ header
  · rw [placeOf_of_mem hTime]
    by_cases hValue : Column.value.name ∈ header
    · rw [placeOf_of_mem hValue]
      by_cases hField : Column.field.name ∈ header
      · rw [placeOf_of_mem hField]
        obtain ⟨hHost, rfl⟩ : Column.host.name ∉ header ∧ Column.host = column := by
          simpa [hTime, hValue, hField] using h
        rw [placeOf_of_not_mem hHost]
        rfl
      · obtain rfl : Column.field = column := by simpa [hTime, hValue, hField] using h
        rw [placeOf_of_not_mem hField]
        rfl
    · obtain rfl : Column.value = column := by simpa [hTime, hValue] using h
      rw [placeOf_of_not_mem hValue]
      rfl
  · obtain rfl : Column.time = column := by simpa [hTime] using h
    rw [placeOf_of_not_mem hTime]
    rfl

/-- A header that names errors and no values is one of errors. -/
theorem ofHeader_error {header : List String} (hError : "error" ∈ header)
    (hValue : Column.value.name ∉ header) :
    Columns.ofHeader header = .error (header.idxOf "error") := by
  rw [Columns.ofHeader, place?_of_mem hError, place?_of_not_mem hValue]

/-- Any other header that lacks a column is an error for the first that it lacks. -/
theorem ofHeader_missing {header : List String} {column : Column}
    (hOther : "error" ∉ header ∨ Column.value.name ∈ header)
    (h : firstMissing? header = some column) : Columns.ofHeader header = .missing column := by
  have hColumns := sampleColumns_of_firstMissing h
  rcases hOther with hError | hValue
  · rw [Columns.ofHeader, place?_of_not_mem hError, hColumns]
  · rw [Columns.ofHeader, place?_of_mem hValue, hColumns]
    cases place? header "error" <;> rfl

/-! ## Tables that lack a column -/

/-- A table without one of the columns of a sample, down to the first of its data rows. -/
structure FaultyTable extends Introduction where
  /-- What stands between the header and the data row. -/
  above : List (Except EncodingError Record)
  row : Record
  lacks : ∃ column : Column, column.name ∉ header.cells
  above_rows : ∀ other, .ok other ∈ above → isAnnotating other.cells = false ∧ ¬ HeaderLike other
  row_first : firstCell row = ""
  row_data : ¬ HeaderLike row

namespace FaultyTable

/-- The table before its data row. -/
def head (table : FaultyTable) : List (Except EncodingError Record) :=
  table.toIntroduction.records ++ table.above

/-- A table that lacks a column, down to its first data row. -/
def records (table : FaultyTable) : List (Except EncodingError Record) :=
  table.head ++ [.ok table.row]

/-- The table stands first, behind annotations of its own, or has a header that is known by its look. -/
def Introduced (table : FaultyTable) (before : List (Except EncodingError Record)) : Prop :=
  table.annotations ≠ [] ∨ before = [] ∨ HeaderLike table.header

/-- What the data row of a table that lacks a column fails with. -/
inductive Reports (table : FaultyTable) : RowError → Prop
  | query {text : String} (hError : "error" ∈ table.header.cells)
      (hValue : Column.value.name ∉ table.header.cells)
      (hText : ∀ cell, table.row.cells[table.header.cells.idxOf "error"]? = some cell →
        cell ≠ "" → text = cell) :
      Reports table (.query text)
  | missing {column : Column}
      (hOther : "error" ∉ table.header.cells ∨ Column.value.name ∈ table.header.cells)
      (hColumn : firstMissing? table.header.cells = some column) :
      Reports table (.missingColumn column)

variable {before : List (Except EncodingError Record)} {table : FaultyTable}

/-- The header of a table that is introduced is found. -/
theorem Introduced.isFound (h : table.Introduced before) :
    table.toIntroduction.IsFound (initial.after before) := by
  rcases h with hAnnotated | rfl | hLike
  · exact Or.inr (Or.inl hAnnotated)
  · exact Or.inl rfl
  · exact Or.inr (Or.inr hLike)

/-- A table that lacks a column lacks one first. -/
theorem exists_firstMissing (table : FaultyTable) :
    ∃ column, firstMissing? table.header.cells = some column := by
  obtain ⟨column, hLacks⟩ := table.lacks
  rw [← Option.isSome_iff_exists, firstMissing?, List.find?_isSome]
  refine ⟨column, ?_, by simpa using hLacks⟩
  cases column <;> decide

/-- Under the columns that its own header names, the row is an error. -/
theorem sampleOfRow_eq (table : FaultyTable) (defaults : List String) :
    ∃ fault, sampleOfRow defaults (.ofHeader table.header.cells) table.row = .error fault ∧
      table.Reports fault := by
  by_cases hTold : "error" ∈ table.header.cells ∧ Column.value.name ∉ table.header.cells
  · -- a table of errors: a cell that is there is not filled from the defaults
    obtain ⟨hError, hValue⟩ := hTold
    rw [ofHeader_error hError hValue]
    refine ⟨_, rfl, .query hError hValue fun cell hCell hNonempty => ?_⟩
    rw [cellAt_eq, hCell]
    simp [Option.filter, hNonempty]
  · -- any other table names the column that it lacks first
    have hOther : "error" ∉ table.header.cells ∨ Column.value.name ∈ table.header.cells := by
      rw [not_and_or, not_not] at hTold
      exact hTold
    obtain ⟨column, hColumn⟩ := table.exists_firstMissing
    rw [ofHeader_missing hOther hColumn]
    exact ⟨_, rfl, .missing hOther hColumn⟩

/-- Wherever the table stands, the reader comes to its data row with the columns of its header. -/
theorem read_row (h : table.Introduced before) :
    ∃ defaults, (initial.after (before ++ table.head)).read (.ok table.row) =
      .item (sampleOfRow defaults (.ofHeader table.header.cells) table.row) := by
  obtain ⟨hInside, hColumns⟩ := table.toIntroduction.inside_records h.isFound
  rw [head, after_append, after_append, hInside.after_eq table.above_rows]
  exact ⟨_, read_data table.row_first table.row_data hInside.expects hColumns⟩

/-- **A table that lacks a column fails.** Behind the items of what precedes its data row stands the
error that the row gives, whatever comes after. -/
theorem items_eq (after : List (Except EncodingError Record)) (h : table.Introduced before) :
    ∃ fault rest, table.Reports fault ∧
      initial.items (before ++ table.records ++ after) =
        initial.items (before ++ table.head) ++ .error fault :: rest := by
  obtain ⟨defaults, hRead⟩ := read_row h
  obtain ⟨fault, hFault, hReports⟩ := table.sampleOfRow_eq defaults
  rw [hFault] at hRead
  refine ⟨fault, (initial.after (before ++ table.head)).items after, hReports, ?_⟩
  have hRecords : before ++ table.records ++ after =
      (before ++ table.head) ++ .ok table.row :: after := by
    rw [records]
    simp only [List.append_assoc, List.cons_append, List.nil_append]
  rw [hRecords, ready_initial.items_append_cons hRead]

end FaultyTable

end SolarCharts.Csv
