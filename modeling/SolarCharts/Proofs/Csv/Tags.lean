import SolarCharts.Proofs.Csv.Introduction

/-!
# What a tag can do to the reader

The cells of a data row are texts that others chose, its host among them, and none of them should have
a say in how the response is read. But a row is taken for a header by what its cells hold, and not by
where it stands, so some hosts do have a say.

* `sampleOfRow_withCell` — under the columns of its own table, another host in a row changes nothing
  but the host of its sample.
* `changesOnlyHost_iff` — the same of whole responses, exactly where the row looks like no header with
  either host. This takes that no row above it in its table was mistaken already.
* `steersNothing_iff` — so the tags of a response steer nothing exactly when none of its rows looks
  like a header, and beside its host holds none of the four words that headers are told by.
* `host_steers_reader` — a host that turns two samples into one error.
-/

namespace SolarCharts.Csv

open TableReader

/-! ## Another text in one cell -/

/-- The same row with another text in one place. -/
def Record.withCell (row : Record) (place : Nat) (text : String) : Record :=
  { row with cells := row.cells.set place text }

/-- Another text behind the first cell leaves that as it is. -/
theorem firstCell_withCell (row : Record) {place : Nat} (text : String) (h : place ≠ 0) :
    firstCell (row.withCell place text) = firstCell row := by
  obtain ⟨before, rfl⟩ := Nat.exists_eq_succ_of_ne_zero h
  unfold firstCell Record.withCell
  cases row.cells with
  | nil => rfl
  | cons first rest => rfl

/-- The cell that was changed is filled by no default, and the others are filled as before. -/
theorem cellAt_withCell (defaults : List String) (row : Record) {place : Nat} {text : String}
    (hIn : place < row.cells.length) (hText : text ≠ "") (other : Nat) :
    cellAt defaults (row.withCell place text).cells other =
      if other = place then text else cellAt defaults row.cells other := by
  unfold cellAt Record.withCell
  by_cases hHere : other = place
  · simp [hHere, hIn, hText]
  · have hNe : place ≠ other := fun hEq => hHere hEq.symm
    simp [hHere, hNe]

/-- The words that a header is told by. -/
def headerWords : List String := ["result", "table", "error", "reference"]

/-- The word that makes a header together with another one. -/
def partnerOf (word : String) : String :=
  if word = "result" then "table"
  else if word = "table" then "result"
  else if word = "error" then "reference"
  else "error"

theorem partnerOf_ne (word : String) : partnerOf word ≠ "" := by
  unfold partnerOf
  split_ifs <;> decide

/-- One word in a row is enough for some other text to make it look like a header. -/
theorem headerLike_withCell_partnerOf {row : Record} {place other : Nat} {word : String}
    (hIn : place < row.cells.length) (hOther : other ≠ place) (hWord : row.cells[other]? = some word)
    (hHeader : word ∈ headerWords) : HeaderLike (row.withCell place (partnerOf word)) := by
  have hKept : word ∈ (row.withCell place (partnerOf word)).cells := by
    refine List.mem_of_getElem? (i := other) ?_
    rw [Record.withCell, List.getElem?_set_ne (Ne.symm hOther), hWord]
  have hNew : partnerOf word ∈ (row.withCell place (partnerOf word)).cells :=
    List.mem_set hIn _
  simp only [headerWords, List.mem_cons, List.not_mem_nil, or_false] at hHeader
  rcases hHeader with rfl | rfl | rfl | rfl
  · exact Or.inl ⟨hKept, hNew⟩
  · exact Or.inl ⟨hNew, hKept⟩
  · exact Or.inr ⟨hKept, hNew⟩
  · exact Or.inr ⟨hNew, hKept⟩

/-- A text alone, without one of the words beside it, never makes a row look like a header. -/
theorem not_headerLike_withCell {row : Record} {place : Nat}
    (h : ∀ other, other ≠ place → ∀ word, row.cells[other]? = some word → word ∉ headerWords)
    (text : String) : ¬ HeaderLike (row.withCell place text) := by
  -- a word that the row holds is the text
  have hOnly : ∀ word ∈ headerWords, word ∈ (row.withCell place text).cells → word = text := by
    intro word hHeader hMem
    obtain ⟨other, hAt⟩ := List.mem_iff_getElem?.mp hMem
    by_contra hNe
    have hOther : other ≠ place := by
      rintro rfl
      have hSame := List.mem_of_getElem? hAt
      rw [Record.withCell, List.getElem?_set_self'] at hAt
      cases hOld : row.cells[other]? with
      | none => simp [hOld] at hAt
      | some old => simp [hOld] at hAt; exact hNe hAt.symm
    rw [Record.withCell, List.getElem?_set_ne (Ne.symm hOther)] at hAt
    exact h other hOther word hAt hHeader
  rintro (⟨hResult, hTable⟩ | ⟨hError, hReference⟩)
  · have hEq := (hOnly "result" (by decide) hResult).trans (hOnly "table" (by decide) hTable).symm
    exact absurd hEq (by decide)
  · have hEq := (hOnly "error" (by decide) hError).trans
      (hOnly "reference" (by decide) hReference).symm
    exact absurd hEq (by decide)

/-! ## Tables whose rows may hold anything -/

/-- A table of samples behind annotations. Its rows may hold any texts, and be of any length. -/
structure SampleTable extends Introduction where
  rows : List Record
  annotated : annotations ≠ []
  header_first : firstCell header = ""
  header_names : ∀ column : Column, column.name ∈ header.cells
  rows_first : ∀ row ∈ rows, firstCell row = ""

namespace SampleTable

/-- Where the header names a column, the first time if it does so again. -/
def place (table : SampleTable) (column : Column) : Nat := table.header.cells.idxOf column.name

/-- The records of a table, in order. -/
def records (table : SampleTable) : List (Except EncodingError Record) :=
  table.toIntroduction.records ++ table.rows.map .ok

theorem rows_plain (table : SampleTable) : ∀ row ∈ table.rows, isAnnotating row.cells = false :=
  fun row hRow => not_annotating_of_firstCell (table.rows_first row hRow)

theorem getElem?_place (table : SampleTable) (column : Column) :
    table.header.cells[table.place column]? = some column.name := by
  have hIn : table.place column < table.header.cells.length :=
    List.idxOf_lt_length_iff.mpr (table.header_names column)
  rw [List.getElem?_eq_getElem hIn]
  exact congrArg some (List.getElem_idxOf hIn)

/-- The first cell of a header is empty and names no column. -/
theorem place_ne_zero (table : SampleTable) (column : Column) : table.place column ≠ 0 := by
  intro hZero
  have hFirst := table.header_first
  have hName := table.getElem?_place column
  rw [hZero] at hName
  rw [firstCell, List.headD_eq_head?_getD, List.head?_eq_getElem?, hName] at hFirst
  cases column <;> simp [Column.name] at hFirst

theorem place_injective (table : SampleTable) {a b : Column} (h : table.place a = table.place b) :
    a = b := by
  have hName := table.getElem?_place a
  rw [h, table.getElem?_place b, Option.some.injEq] at hName
  exact (Column.name_injective hName).symm

/-- The columns of the samples. -/
def columns (table : SampleTable) : Columns :=
  .samples (table.place .time) (table.place .value) (table.place .field) (table.place .host)

/-- The same table with another host in one of its rows. -/
def rehosted (table : SampleTable) (n : Nat) (host : String) : SampleTable :=
  { table with
    rows := table.rows.modify n (·.withCell (table.place .host) host)
    rows_first := by
      intro row hRow
      obtain ⟨m, hRow⟩ := List.mem_iff_getElem?.mp hRow
      rw [List.getElem?_modify] at hRow
      obtain ⟨old, hOld, rfl⟩ := Option.map_eq_some_iff.mp hRow
      have hFirst := table.rows_first old (List.mem_of_getElem? hOld)
      split
      · rw [firstCell_withCell old host (table.place_ne_zero .host)]
        exact hFirst
      · exact hFirst }

/-! ## One row under its own columns -/

/-- What a row comes to when its sample is of another host. -/
def withHost (host : String) (item : Except RowError Sample) : Except RowError Sample :=
  item.map fun sample => { sample with host }

/-- Under the columns of its own table, another host in a row changes nothing but the host of its
sample. -/
theorem sampleOfRow_withCell (table : SampleTable) (defaults : List String) {row : Record}
    {host : String} (hIn : table.place .host < row.cells.length) (hHost : host ≠ "") :
    sampleOfRow defaults table.columns (row.withCell (table.place .host) host) =
      withHost host (sampleOfRow defaults table.columns row) := by
  have hCell : ∀ column, cellAt defaults (row.withCell (table.place .host) host).cells
      (table.place column) = if column = .host then host
        else cellAt defaults row.cells (table.place column) := by
    intro column
    rw [cellAt_withCell defaults row hIn hHost]
    by_cases hColumn : column = .host
    · rw [hColumn, if_pos rfl, if_pos rfl]
    · rw [if_neg hColumn, if_neg fun hEq => hColumn (table.place_injective hEq)]
  have hTime := hCell .time
  have hValue := hCell .value
  have hField := hCell .field
  have hOwn := hCell .host
  simp only [reduceCtorEq, if_false, if_true] at hTime hValue hField hOwn
  simp only [columns, sampleOfRow, hTime, hValue, hField, hOwn]
  -- the time and the value decide which way it ends, and they are as before
  cases Timestamp.ofText? (cellAt defaults row.cells (table.place .time)) with
  | none => rfl
  | some time =>
    cases floatOfText? (cellAt defaults row.cells (table.place .value)) with
    | none => rfl
    | some value => rfl

/-! ## One row of a response -/

/-- The records in front of a row of a table that stands behind others. -/
def recordsBefore (before : List SampleTable) (table : SampleTable) (n : Nat) :
    List (Except EncodingError Record) :=
  before.flatMap records ++ (table.toIntroduction.records ++ (table.rows.take n).map .ok)

/-- The reader when it comes to that row. -/
def readerAt (before : List SampleTable) (table : SampleTable) (n : Nat) : TableReader :=
  initial.after (recordsBefore before table n)

/-- A response is what comes before a row, the row, and what comes behind it. -/
theorem records_eq (before : List SampleTable) (table : SampleTable) (after : List SampleTable)
    {n : Nat} (hn : n < table.rows.length) :
    (before ++ table :: after).flatMap records =
      recordsBefore before table n ++
        .ok table.rows[n] :: ((table.rows.drop (n + 1)).map .ok ++ after.flatMap records) := by
  have hRows : table.rows = table.rows.take n ++ table.rows[n] :: table.rows.drop (n + 1) := by
    rw [List.getElem_cons_drop, List.take_append_drop]
  rw [List.flatMap_append, List.flatMap_cons, records, recordsBefore]
  conv_lhs => rw [hRows]
  simp only [List.map_append, List.map_cons, List.append_assoc, List.cons_append]

/-- The response with another host in a row differs in this row alone. -/
theorem records_rehosted_eq (before : List SampleTable) (table : SampleTable)
    (after : List SampleTable) {n : Nat} (hn : n < table.rows.length) (host : String) :
    (before ++ table.rehosted n host :: after).flatMap records =
      recordsBefore before table n ++
        .ok (table.rows[n].withCell (table.place .host) host) ::
          ((table.rows.drop (n + 1)).map .ok ++ after.flatMap records) := by
  have hRows : (table.rehosted n host).rows =
      table.rows.take n ++ table.rows[n].withCell (table.place .host) host ::
        table.rows.drop (n + 1) := List.modify_eq_take_cons_drop hn
  rw [List.flatMap_append, List.flatMap_cons, records, recordsBefore, hRows]
  simp only [List.map_append, List.map_cons, List.append_assoc, List.cons_append]
  rfl

/-- The reader past the header of a table: it knows its columns. -/
theorem after_introduction (before : List SampleTable) (table : SampleTable) :
    (initial.after (before.flatMap records ++ table.toIntroduction.records)).Inside ∧
      (initial.after (before.flatMap records ++ table.toIntroduction.records)).columns =
        some table.columns := by
  have hFound : table.toIntroduction.IsFound (initial.after (before.flatMap records)) :=
    Or.inr (Or.inl table.annotated)
  have hInside := table.toIntroduction.inside_records hFound
  rw [ofHeader_of_names table.header_names] at hInside
  rw [after_append]
  exact hInside

/-- Whatever the rows above it hold, at each row the reader is inside a table. -/
theorem inside_readerAt (before : List SampleTable) (table : SampleTable) (n : Nat) :
    (readerAt before table n).Inside := by
  rw [readerAt, recordsBefore, ← List.append_assoc, after_append]
  exact (table.after_introduction before).1.after_rows fun row hRow =>
    table.rows_plain row (List.mem_of_mem_take hRow)

/-- The columns of a table are known at a row of it, if no row above was taken for a header. -/
theorem columns_readerAt (before : List SampleTable) (table : SampleTable) {n : Nat}
    (hAbove : ∀ row ∈ table.rows.take n, ¬ HeaderLike row) :
    (readerAt before table n).columns = some table.columns := by
  obtain ⟨hInside, hColumns⟩ := table.after_introduction before
  rw [readerAt, recordsBefore, ← List.append_assoc, after_append, hInside.after_eq, hColumns]
  intro row hRow
  obtain ⟨_, hMem, ⟨⟩⟩ := List.mem_map.mp hRow
  exact ⟨table.rows_plain row (List.mem_of_mem_take hMem), hAbove row hMem⟩

/-- Another host in the row changes nothing but the host of its sample: the row gives an item with
either host, the same but for the host, and all other items of the response are the same. -/
def ChangesOnlyHost (before : List SampleTable) (table : SampleTable) (after : List SampleTable)
    (n : Nat) (hn : n < table.rows.length) (host : String) : Prop :=
  ∃ item others,
    (readerAt before table n).read (.ok table.rows[n]) = .item item ∧
    (readerAt before table n).read (.ok (table.rows[n].withCell (table.place .host) host)) =
      .item (withHost host item) ∧
    initial.items ((before ++ table :: after).flatMap records) =
      initial.items (recordsBefore before table n) ++ item :: others ∧
    initial.items ((before ++ table.rehosted n host :: after).flatMap records) =
      initial.items (recordsBefore before table n) ++ withHost host item :: others

variable {before after : List SampleTable} {table : SampleTable} {n : Nat}

/-- Where another host changes nothing else, the row looks like no header with either one. -/
theorem ChangesOnlyHost.not_headerLike {hn : n < table.rows.length} {host : String}
    (h : ChangesOnlyHost before table after n hn host) :
    ¬ HeaderLike table.rows[n] ∧ ¬ HeaderLike (table.rows[n].withCell (table.place .host) host) := by
  obtain ⟨item, others, hRead, hRead', -, -⟩ := h
  have hInside := inside_readerAt before table n
  have hPlain := table.rows_first _ (List.getElem_mem hn)
  -- the row gives an item with each host, and inside a table only what looks like no header does
  refine ⟨(hInside.read_item_iff (not_annotating_of_firstCell hPlain)).mp ⟨_, hRead⟩,
    (hInside.read_item_iff (not_annotating_of_firstCell ?_)).mp ⟨_, hRead'⟩⟩
  rw [firstCell_withCell _ _ (table.place_ne_zero .host)]
  exact hPlain

/-- And where it looks like none, nothing else changes, if no row above it was mistaken. -/
theorem changesOnlyHost_iff (hn : n < table.rows.length)
    (hAbove : ∀ row ∈ table.rows.take n, ¬ HeaderLike row) {host : String} (hHost : host ≠ "")
    (hIn : table.place .host < table.rows[n].cells.length) :
    ChangesOnlyHost before table after n hn host ↔
      ¬ HeaderLike table.rows[n] ∧
        ¬ HeaderLike (table.rows[n].withCell (table.place .host) host) := by
  refine ⟨ChangesOnlyHost.not_headerLike, fun ⟨hData, hData'⟩ => ?_⟩
  have hInside := inside_readerAt before table n
  have hColumns := columns_readerAt before table hAbove
  have hFirst := table.rows_first _ (List.getElem_mem hn)
  have hRead := read_data hFirst hData hInside.expects hColumns
  have hFirst' : firstCell (table.rows[n].withCell (table.place .host) host) = "" := by
    rw [firstCell_withCell _ _ (table.place_ne_zero .host)]
    exact hFirst
  have hRead' := read_data hFirst' hData' hInside.expects hColumns
  rw [table.sampleOfRow_withCell _ hIn hHost] at hRead'
  -- both rows leave the reader as it is, so it goes on alike
  refine ⟨_, (readerAt before table n).items
    ((table.rows.drop (n + 1)).map .ok ++ after.flatMap records), hRead, hRead', ?_, ?_⟩
  · rw [records_eq before table after hn]
    exact ready_initial.items_append_cons hRead
  · rw [records_rehosted_eq before table after hn]
    exact ready_initial.items_append_cons hRead'

/-! ## A whole response -/

/-- No host of a response has a say in how it is read: every data row gives an item, and another host in
it changes nothing but the host of its sample. -/
structure SteersNothing (tables : List SampleTable) : Prop where
  items : ∀ before table after, tables = before ++ table :: after →
    ∀ n (hn : n < table.rows.length),
      ∃ item, (readerAt before table n).read (.ok table.rows[n]) = .item item
  hosts : ∀ before table after, tables = before ++ table :: after →
    ∀ n (hn : n < table.rows.length), table.place .host < table.rows[n].cells.length →
      ∀ host, host ≠ "" → ChangesOnlyHost before table after n hn host

/-- A row that can be mistaken for a header with no host whatever. -/
structure Unmistakable (table : SampleTable) (row : Record) : Prop where
  data : ¬ HeaderLike row
  words : table.place .host < row.cells.length →
    ∀ other, other ≠ table.place .host →
      ∀ word, row.cells[other]? = some word → word ∉ headerWords

/-- Where tags steer nothing, no row can be mistaken. -/
theorem SteersNothing.unmistakable {tables : List SampleTable} (h : SteersNothing tables)
    (hTable : table ∈ tables) {row : Record} (hRow : row ∈ table.rows) : table.Unmistakable row := by
  obtain ⟨before, after, hSplit⟩ := List.append_of_mem hTable
  obtain ⟨n, hn, rfl⟩ := List.mem_iff_getElem.mp hRow
  refine ⟨?_, fun hIn other hOther word hWord hHeader => ?_⟩
  · exact ((inside_readerAt before table n).read_item_iff (table.rows_plain _ hRow)).mp
      (h.items before table after hSplit n hn)
  · -- with the partner of that word for a host, the row is a header
    have hChanges := h.hosts before table after hSplit n hn hIn _ (partnerOf_ne word)
    exact hChanges.not_headerLike.2 (headerLike_withCell_partnerOf hIn hOther hWord hHeader)

/-- Where no row can be mistaken, tags steer nothing. -/
theorem steersNothing_of_unmistakable {tables : List SampleTable}
    (h : ∀ table ∈ tables, ∀ row ∈ table.rows, table.Unmistakable row) : SteersNothing tables := by
  constructor
  · intro before table after hSplit n hn
    have hTable : table ∈ tables := by simp [hSplit]
    have hRow := List.getElem_mem hn
    exact ((inside_readerAt before table n).read_item_iff (table.rows_plain _ hRow)).mpr
      (h table hTable _ hRow).data
  · intro before table after hSplit n hn hIn host hHost
    have hTable : table ∈ tables := by simp [hSplit]
    have hRow := h table hTable _ (List.getElem_mem hn)
    -- no row above is mistaken either, so the columns are still those of the table
    have hAbove : ∀ row ∈ table.rows.take n, ¬ HeaderLike row := fun row hMem =>
      (h table hTable row (List.mem_of_mem_take hMem)).data
    exact (changesOnlyHost_iff hn hAbove hHost hIn).mpr
      ⟨hRow.data, not_headerLike_withCell (hRow.words hIn) host⟩

/-- **When tags steer nothing.** The hosts of a response have no say in how it is read exactly when none
of its rows can be mistaken for a header. For one row and one host, where no row above in its table is
mistaken, it takes that the row looks like no header, neither as it is nor with that host. -/
theorem steersNothing_iff (tables : List SampleTable) :
    (SteersNothing tables ↔ ∀ table ∈ tables, ∀ row ∈ table.rows, table.Unmistakable row) ∧
      ∀ before table after, tables = before ++ table :: after →
        ∀ n (hn : n < table.rows.length), (∀ row ∈ table.rows.take n, ¬ HeaderLike row) →
          table.place .host < table.rows[n].cells.length → ∀ host, host ≠ "" →
            (ChangesOnlyHost before table after n hn host ↔
              ¬ HeaderLike table.rows[n] ∧
                ¬ HeaderLike (table.rows[n].withCell (table.place .host) host)) := by
  refine ⟨⟨fun h table hTable row hRow => h.unmistakable hTable hRow,
    steersNothing_of_unmistakable⟩, ?_⟩
  intro before table after _ n hn hAbove hIn host hHost
  exact changesOnlyHost_iff hn hAbove hHost hIn

/-! ## A host that is taken for a header -/

/-- Two samples of a measurement whose name is one of the words. -/
def wordy : SampleTable where
  annotations := [⟨1, ["#datatype", "string", "long", "dateTime:RFC3339", "double", "string",
    "string", "string"]⟩]
  header := ⟨2, ["", "result", "table", "_time", "_value", "_field", "_measurement", "host"]⟩
  rows :=
    [ ⟨3, ["", "", "0", "2024-05-02T09:00:00Z", "17.5", "voltage", "table", "ttgo1"]⟩,
      ⟨4, ["", "", "0", "2024-05-02T09:00:01Z", "18.5", "voltage", "table", "ttgo2"]⟩ ]
  annotations_annotate := by decide
  header_plain := by decide
  annotated := by decide
  header_first := rfl
  header_names := fun column => by cases column <;> decide
  rows_first := by decide

/-- **A host steers the reader.** With `result` for the host of the first row, that row is lost, and the
other one is read under columns that no header named. -/
theorem host_steers_reader :
    (initial.items wordy.records).map (fun item => item.toOption.map (·.host)) =
        [some "ttgo1", some "ttgo2"] ∧
      initial.items (wordy.rehosted 0 "result").records = [.error (.missingColumn .time)] ∧
      ¬ SteersNothing [wordy] := by
  refine ⟨by decide +kernel, by decide +kernel, fun h => ?_⟩
  have hChanges := h.hosts [] wordy [] rfl 0 (by decide) (by decide) "result" (by decide)
  exact hChanges.not_headerLike.2 (Or.inl (by decide))

end SampleTable

end SolarCharts.Csv
