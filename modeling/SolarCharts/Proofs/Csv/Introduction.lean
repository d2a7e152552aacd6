import Mathlib.Data.List.Basic
import SolarCharts.Proofs.Csv.Reading

/-!
# What introduces a table

In front of the data rows of a table stands its header, and in front of that its annotations, if it
has any. A header is taken for one when it is asked for, which annotations and the start of a response
do, or when it looks like one. From then on the reader is `Inside` the table.

* `Introduction.inside_records` — past an introduction that is found, the reader is inside its table
  and knows the columns that the header names.
* `Inside.read_item_iff` — inside a table, a row that annotates nothing gives an item exactly when it
  does not look like a header.
* `Inside.after_rows` — such rows leave the reader inside a table, whatever they hold.
-/

namespace SolarCharts.Csv

open TableReader

/-! ## What a header names -/

theorem Column.name_injective {a b : Column} (h : a.name = b.name) : a = b := by
  cases a <;> cases b <;> simp_all [Column.name]

theorem place?_of_mem {cells : List String} {name : String} (h : name ∈ cells) :
    place? cells name = some (cells.idxOf name) := by
  have hIndex := List.idxOf_eq_getD_idxOf? name cells
  unfold place?
  cases hPlace : cells.idxOf? name with
  | none => exact absurd h (List.idxOf?_eq_none_iff.mp hPlace)
  | some place => rw [hIndex, hPlace, Option.getD_some]

theorem place?_of_not_mem {cells : List String} {name : String} (h : name ∉ cells) :
    place? cells name = none := List.idxOf?_eq_none_iff.mpr h

theorem placeOf_of_mem {header : List String} {column : Column} (h : column.name ∈ header) :
    placeOf header column = .ok (header.idxOf column.name) := by
  rw [placeOf, place?_of_mem h]

theorem placeOf_of_not_mem {header : List String} {column : Column} (h : column.name ∉ header) :
    placeOf header column = .error column := by
  rw [placeOf, place?_of_not_mem h]

/-- A header that names every column of a sample is one of samples, whatever else it names. -/
theorem ofHeader_of_names {header : List String} (h : ∀ column : Column, column.name ∈ header) :
    Columns.ofHeader header =
      .samples (header.idxOf Column.time.name) (header.idxOf Column.value.name)
        (header.idxOf Column.field.name) (header.idxOf Column.host.name) := by
  have hColumns : sampleColumns header =
      .ok (.samples (header.idxOf Column.time.name) (header.idxOf Column.value.name)
        (header.idxOf Column.field.name) (header.idxOf Column.host.name)) := by
    unfold sampleColumns
    rw [placeOf_of_mem (h .time), placeOf_of_mem (h .value), placeOf_of_mem (h .field),
      placeOf_of_mem (h .host)]
    rfl
  rw [Columns.ofHeader, place?_of_mem (h .value), hColumns]
  -- whether it names errors too makes no difference
  cases place? header "error" <;> rfl

/-! ## Inside a table -/

namespace TableReader

variable {reader : TableReader} {row : Record} {rows : List Record}

/-- Columns are known and no header is asked for. -/
structure Inside (reader : TableReader) : Prop where
  expects : reader.expectsHeader = false
  columns : reader.columns.isSome

/-- Inside a table there are only two things that a row may be taken for. -/
theorem Inside.read (h : reader.Inside) (hPlain : isAnnotating row.cells = false) :
    (HeaderLike row ∧ reader.read (.ok row) = .described (reader.headed row.cells)) ∨
      (¬ HeaderLike row ∧ ∃ columns, reader.columns = some columns ∧
        reader.read (.ok row) = .item (sampleOfRow reader.defaults columns row)) := by
  by_cases hHeader : HeaderLike row
  · exact Or.inl ⟨hHeader, read_headed hPlain (Or.inr hHeader)⟩
  · obtain ⟨columns, hColumns⟩ := Option.isSome_iff_exists.mp h.columns
    exact Or.inr ⟨hHeader, columns, hColumns, read_plain hPlain hHeader h.expects hColumns⟩

/-- Inside a table, a row that annotates nothing gives an item unless it looks like a header. -/
theorem Inside.read_item_iff (h : reader.Inside) (hPlain : isAnnotating row.cells = false) :
    (∃ item, reader.read (.ok row) = .item item) ↔ ¬ HeaderLike row := by
  rcases h.read hPlain with ⟨hHeader, hRead⟩ | ⟨hData, columns, -, hRead⟩
  · refine iff_of_false ?_ (not_not_intro hHeader)
    rintro ⟨item, hItem⟩
    rw [hRead] at hItem
    cases hItem
  · exact iff_of_true ⟨_, hRead⟩ hData

/-- Rows that annotate nothing leave the reader inside a table, also where one is taken for a header. -/
theorem Inside.after_rows (h : reader.Inside) (hPlain : ∀ row ∈ rows, isAnnotating row.cells = false) :
    (reader.after (rows.map .ok)).Inside := by
  induction rows generalizing reader with
  | nil => exact h
  | cons row rows ih =>
    have hRest : ∀ other ∈ rows, isAnnotating other.cells = false :=
      fun other hOther => hPlain other (List.mem_cons_of_mem _ hOther)
    rcases h.read (hPlain row List.mem_cons_self) with ⟨-, hRead⟩ | ⟨-, columns, -, hRead⟩
    · -- a row that is taken for a header brings another table, and inside that the others are read
      rw [List.map_cons, after_of_described hRead]
      exact ih ⟨rfl, rfl⟩ hRest
    · rw [List.map_cons, after_of_item hRead]
      exact ih h hRest

/-- Records of the table leave the reader as it is, also those that are not UTF-8. -/
theorem Inside.after_eq {records : List (Except EncodingError Record)} (h : reader.Inside)
    (hRows : ∀ row, .ok row ∈ records → isAnnotating row.cells = false ∧ ¬ HeaderLike row) :
    reader.after records = reader := by
  induction records with
  | nil => rfl
  | cons record records ih =>
    have hRest := ih fun row hRow => hRows row (List.mem_cons_of_mem _ hRow)
    cases record with
    -- a record that is not UTF-8 gives an item
    | error e => rw [after_of_item rfl, hRest]
    | ok row =>
      obtain ⟨hPlain, hData⟩ := hRows row List.mem_cons_self
      rcases h.read hPlain with ⟨hHeader, -⟩ | ⟨-, columns, -, hRead⟩
      · exact absurd hHeader hData
      · rw [after_of_item hRead, hRest]

/-! ## Annotations -/

/-- Annotations give no item and ask for a header. -/
theorem annotating_rows (reader : TableReader) (h : ∀ row ∈ rows, isAnnotating row.cells = true) :
    reader.items (rows.map .ok) = [] ∧
      (reader.after (rows.map .ok)).expectsHeader = (reader.expectsHeader || !rows.isEmpty) := by
  induction rows generalizing reader with
  | nil => exact ⟨rfl, by simp [TableReader.after]⟩
  | cons row rows ih =>
    have hRead : reader.read (.ok row) = .described (reader.annotated (firstCell row) row.cells) :=
      read_annotating rfl (beq_iff_eq.mp (h row List.mem_cons_self))
    obtain ⟨hItems, hExpects⟩ := ih (reader.annotated (firstCell row) row.cells)
      fun other hOther => h other (List.mem_cons_of_mem _ hOther)
    rw [List.map_cons, items_of_described hRead, after_of_described hRead]
    -- one annotation is enough to ask for a header
    refine ⟨hItems, ?_⟩
    rw [hExpects]
    simp [annotated]

end TableReader

/-! ## Introductions -/

/-- The annotations and the header of a table. -/
structure Introduction where
  annotations : List Record
  header : Record
  annotations_annotate : ∀ row ∈ annotations, isAnnotating row.cells = true
  header_plain : isAnnotating header.cells = false

namespace Introduction

variable {reader : TableReader}

/-- What introduces a table, record by record. -/
def records (introduction : Introduction) : List (Except EncodingError Record) :=
  introduction.annotations.map .ok ++ [.ok introduction.header]

/-- The header will be taken for one: it is asked for, or looks like one. -/
def IsFound (introduction : Introduction) (reader : TableReader) : Prop :=
  reader.expectsHeader = true ∨ introduction.annotations ≠ [] ∨ HeaderLike introduction.header

/-- Behind its annotations, a header that is found is taken for one. -/
theorem read_header (introduction : Introduction) (h : introduction.IsFound reader) :
    (reader.after (introduction.annotations.map .ok)).read (.ok introduction.header) =
      .described ((reader.after (introduction.annotations.map .ok)).headed
        introduction.header.cells) := by
  apply read_headed introduction.header_plain
  rw [(annotating_rows reader introduction.annotations_annotate).2]
  rcases h with hExpects | hAnnotated | hLike
  · exact Or.inl (by simp [hExpects])
  · exact Or.inl (by simp [hAnnotated])
  · exact Or.inr hLike

/-- Past an introduction, the reader is inside the table that the header describes. -/
theorem inside_records (introduction : Introduction) (h : introduction.IsFound reader) :
    (reader.after introduction.records).Inside ∧
      (reader.after introduction.records).columns = some (.ofHeader introduction.header.cells) := by
  -- what the annotations left is behind the header, which asks for no other
  rw [records, after_append, after_of_described (introduction.read_header h)]
  exact ⟨⟨rfl, rfl⟩, rfl⟩

/-- An introduction gives no item. -/
theorem items_records (introduction : Introduction) (hReady : reader.Ready)
    (h : introduction.IsFound reader) : reader.items introduction.records = [] := by
  rw [records, hReady.items_append, (annotating_rows reader introduction.annotations_annotate).1,
    items_of_described (introduction.read_header h)]
  rfl

end Introduction

end SolarCharts.Csv
