import SolarCharts.Csv.Table

/-!
# What one record does to the reader

`TableReader.read` has three ends: the record describes a table, it gives an item, or it is stuck.
The lemmas here say which one it is for each kind of record, so that nothing later has to open the
function. What a whole row of records gives follows from them record by record.

`after` is what the reader remembers once some records are read. A reader that knows columns unless
it expects a header is never stuck, and for such a one the items of two rows of records are those of
the first, and those of the second as the reader takes them then (`Ready.items_append`).

`Yields` is the protocol of the reader as its user sees it: items are asked for one at a time until
none comes. `items` collects exactly those (`yields_items`).
-/

namespace SolarCharts.Csv.TableReader

variable {reader : TableReader} {row : Record} {rest : List (Except EncodingError Record)}

/-! ## Kinds of records -/

/-- The first cell of a record, empty when there is none. -/
def firstCell (row : Record) : String := row.cells.headD ""

/-- A record that a header inside a table would look like. -/
def HeaderLike (row : Record) : Prop :=
  ("result" ∈ row.cells ∧ "table" ∈ row.cells) ∨ ("error" ∈ row.cells ∧ "reference" ∈ row.cells)

/-- The reader takes for a header what looks like one. -/
theorem looksLikeHeader_iff : looksLikeHeader row.cells = true ↔ HeaderLike row := by
  simp [looksLikeHeader, HeaderLike]

/-- A record whose first cell is empty annotates nothing. -/
theorem not_annotating_of_firstCell (h : firstCell row = "") : isAnnotating row.cells = false := by
  rw [isAnnotating, show row.cells.headD "" = "" from h]
  rfl

/-! ## One cell -/

/-- A cell that is there and not empty stands for itself, every other for its default. -/
theorem cellAt_eq (defaults cells : List String) (place : Nat) :
    cellAt defaults cells place =
      ((cells[place]?).filter (· ≠ "")).getD ((defaults[place]?).getD "") := by
  rw [cellAt]
  cases cells[place]? with
  | none => rfl
  | some cell => by_cases hEmpty : cell = "" <;> simp [hEmpty, Option.filter]

/-! ## One record -/

/-- A row whose first cell starts with a hash annotates what follows. -/
theorem read_annotating {kind : String} (h : firstCell row = kind)
    (hKind : kind.toList.head? = some '#') :
    reader.read (.ok row) = .described (reader.annotated kind row.cells) := by
  have hHead : row.cells.headD "" = kind := h
  have hAnnotating : isAnnotating row.cells = true := by
    rw [isAnnotating, hHead, hKind]
    rfl
  simp only [read, hAnnotating, if_true, hHead]

/-- A row that is asked for as a header, or looks like one, names the columns. -/
theorem read_headed (hPlain : isAnnotating row.cells = false)
    (hHeader : reader.expectsHeader = true ∨ HeaderLike row) :
    reader.read (.ok row) = .described (reader.headed row.cells) := by
  rcases hHeader with hExpects | hLike
  · simp [read, hPlain, hExpects]
  · simp [read, hPlain, looksLikeHeader_iff.mpr hLike]

/-- The row that is asked for as a header names the columns. -/
theorem read_header (hFirst : firstCell row = "") (hExpects : reader.expectsHeader = true) :
    reader.read (.ok row) = .described (reader.headed row.cells) :=
  read_headed (not_annotating_of_firstCell hFirst) (Or.inl hExpects)

/-- A row under known columns gives an item, whatever its first cell is. -/
theorem read_plain {columns : Columns} (hPlain : isAnnotating row.cells = false)
    (hBody : ¬ HeaderLike row) (hExpects : reader.expectsHeader = false)
    (hColumns : reader.columns = some columns) :
    reader.read (.ok row) = .item (sampleOfRow reader.defaults columns row) := by
  have hLooks : looksLikeHeader row.cells = false := by
    rw [← Bool.not_eq_true, looksLikeHeader_iff]
    exact hBody
  simp [read, hPlain, hExpects, hLooks, hColumns]

/-- A row under known columns gives an item and changes nothing. -/
theorem read_data {columns : Columns} (hFirst : firstCell row = "") (hBody : ¬ HeaderLike row)
    (hExpects : reader.expectsHeader = false) (hColumns : reader.columns = some columns) :
    reader.read (.ok row) = .item (sampleOfRow reader.defaults columns row) :=
  read_plain (not_annotating_of_firstCell hFirst) hBody hExpects hColumns

/-- Where an item comes from: a record that is not UTF-8, or a row under known columns. -/
theorem item_cases {record : Except EncodingError Record} {result : Except RowError Sample}
    (h : reader.read record = .item result) :
    (∃ e, record = .error e ∧ result = .error (.encoding e)) ∨
      ∃ row columns, record = .ok row ∧ reader.columns = some columns ∧
        result = sampleOfRow reader.defaults columns row := by
  cases record with
  | error e => exact Or.inl ⟨e, rfl, (Reading.item.inj h).symm⟩
  | ok row =>
    -- annotations and headers describe, so only a row under known columns is left
    simp only [read] at h
    split at h
    · cases h
    · split at h
      · cases h
      · split at h
        · cases h
        · next columns hColumns =>
          exact Or.inr ⟨row, columns, rfl, hColumns, (Reading.item.inj h).symm⟩

/-! ## The records after it -/

theorem items_of_described {record : Except EncodingError Record} {after : TableReader}
    (h : reader.read record = .described after) :
    reader.items (record :: rest) = after.items rest := by
  rw [items, h]

theorem items_of_item {record : Except EncodingError Record} {result : Except RowError Sample}
    (h : reader.read record = .item result) :
    reader.items (record :: rest) = result :: reader.items rest := by
  rw [items, h]

/-- Rows under known columns give one item each, in order, and leave the reader as it is. -/
theorem items_rows {columns : Columns} (hExpects : reader.expectsHeader = false)
    (hColumns : reader.columns = some columns) {rows : List Record}
    (hRows : ∀ row ∈ rows, isAnnotating row.cells = false ∧ ¬ HeaderLike row) :
    reader.items (rows.map .ok ++ rest) =
      rows.map (sampleOfRow reader.defaults columns) ++ reader.items rest := by
  induction rows with
  | nil => rfl
  | cons row rows ih =>
    obtain ⟨hPlain, hBody⟩ := hRows row List.mem_cons_self
    rw [List.map_cons, List.cons_append, items_of_item (read_plain hPlain hBody hExpects hColumns),
      ih fun other hOther => hRows other (List.mem_cons_of_mem _ hOther)]
    rfl

/-! ## What is remembered afterwards -/

/-- What the reader remembers once some records are read. -/
def after (reader : TableReader) : List (Except EncodingError Record) → TableReader
  | [] => reader
  | record :: rest =>
    match reader.read record with
    | .described next => after next rest
    | .item _ | .stuck => after reader rest

theorem after_of_described {record : Except EncodingError Record} {next : TableReader}
    (h : reader.read record = .described next) :
    reader.after (record :: rest) = next.after rest := by
  rw [after, h]

theorem after_of_item {record : Except EncodingError Record} {result : Except RowError Sample}
    (h : reader.read record = .item result) :
    reader.after (record :: rest) = reader.after rest := by
  rw [after, h]

/-- Columns are known unless a header is expected. -/
def Ready (reader : TableReader) : Prop := reader.expectsHeader = false → reader.columns.isSome

theorem ready_initial : initial.Ready := by
  intro hExpects
  cases hExpects

/-- A reader that is ready is never stuck, and stays ready. -/
theorem Ready.read (h : reader.Ready) (record : Except EncodingError Record) :
    (∃ next, reader.read record = .described next ∧ next.Ready) ∨
      ∃ result, reader.read record = .item result := by
  cases record with
  | error e => exact Or.inr ⟨_, rfl⟩
  | ok row =>
    by_cases hAnnotating : isAnnotating row.cells = true
    · refine Or.inl ⟨_, read_annotating rfl (beq_iff_eq.mp hAnnotating), ?_⟩
      -- what an annotation asks for is a header
      intro hExpects
      cases hExpects
    · rw [Bool.not_eq_true] at hAnnotating
      -- a header makes columns known, and without one they are known already
      by_cases hHeader : reader.expectsHeader = true ∨ HeaderLike row
      · exact Or.inl ⟨_, read_headed hAnnotating hHeader, fun _ => rfl⟩
      · rw [not_or, Bool.not_eq_true] at hHeader
        obtain ⟨hExpects, hBody⟩ := hHeader
        obtain ⟨columns, hColumns⟩ := Option.isSome_iff_exists.mp (h hExpects)
        exact Or.inr ⟨_, read_plain hAnnotating hBody hExpects hColumns⟩

/-- What describes a table leaves a reader that is ready. -/
theorem Ready.of_described (h : reader.Ready) {record : Except EncodingError Record}
    {next : TableReader} (hRead : reader.read record = .described next) : next.Ready := by
  rcases h.read record with ⟨_, hSame, hNext⟩ | ⟨_, hItem⟩
  · rw [hRead] at hSame
    cases hSame
    exact hNext
  · rw [hRead] at hItem
    cases hItem

/-- What is read first does not change what the records behind it say, but for what is remembered. -/
theorem Ready.items_append (h : reader.Ready) (records : List (Except EncodingError Record)) :
    reader.items (records ++ rest) = reader.items records ++ (reader.after records).items rest := by
  induction records generalizing reader with
  | nil => rfl
  | cons record records ih =>
    rcases h.read record with ⟨next, hRead, hNext⟩ | ⟨result, hRead⟩
    · rw [List.cons_append, items_of_described hRead, items_of_described hRead,
        after_of_described hRead, ih hNext]
    · rw [List.cons_append, items_of_item hRead, items_of_item hRead, after_of_item hRead, ih h,
        List.cons_append]

/-- The item of a record stands between those of what comes before it and those of what is behind it. -/
theorem Ready.items_append_cons (h : reader.Ready) {before : List (Except EncodingError Record)}
    {record : Except EncodingError Record} {result : Except RowError Sample}
    (hRead : (reader.after before).read record = .item result) :
    reader.items (before ++ record :: rest) =
      reader.items before ++ result :: (reader.after before).items rest := by
  rw [h.items_append, items_of_item hRead]

/-- A reader that is ready is so after any records. -/
theorem Ready.after (h : reader.Ready) (records : List (Except EncodingError Record)) :
    (reader.after records).Ready := by
  induction records generalizing reader with
  | nil => exact h
  | cons record records ih =>
    rcases h.read record with ⟨next, hRead, hNext⟩ | ⟨result, hRead⟩
    · rw [after_of_described hRead]
      exact ih hNext
    · rw [after_of_item hRead]
      exact ih h

/-- What is remembered is remembered record by record. -/
theorem after_append (reader : TableReader) (records : List (Except EncodingError Record)) :
    reader.after (records ++ rest) = (reader.after records).after rest := by
  induction records generalizing reader with
  | nil => rfl
  | cons record records ih =>
    rw [List.cons_append, TableReader.after, TableReader.after]
    cases reader.read record with
    | described next => exact ih next
    | item result => exact ih reader
    | stuck => exact ih reader

/-! ## Asking for items -/

/-- What comes when items are asked for until none comes. -/
inductive Yields : TableReader → List (Except EncodingError Record) →
    List (Except RowError Sample) → Prop
  | none {reader records} (h : reader.next records = none) : Yields reader records []
  | some {reader records result after rest results}
      (h : reader.next records = some (result, after, rest)) (hRest : Yields after rest results) :
      Yields reader records (result :: results)

/-- Passing over a record that describes a table changes nothing in what comes. -/
theorem Yields.of_described {record : Except EncodingError Record} {after : TableReader}
    {results : List (Except RowError Sample)} (h : reader.read record = .described after)
    (hAfter : Yields after rest results) : Yields reader (record :: rest) results := by
  -- the reader is asked for the same item with and without the record
  have hNext : reader.next (record :: rest) = after.next rest := by rw [next, h]
  cases hAfter with
  | none hNone => exact .none (hNext.trans hNone)
  | some hSome hRest => exact .some (hNext.trans hSome) hRest

/-- `items` collects what comes. -/
theorem yields_items (reader : TableReader) (records : List (Except EncodingError Record)) :
    Yields reader records (reader.items records) := by
  induction records generalizing reader with
  | nil => exact .none rfl
  | cons record rest ih =>
    cases hRead : reader.read record with
    | described after =>
      rw [items_of_described hRead]
      exact (ih after).of_described hRead
    | item result =>
      rw [items_of_item hRead]
      exact .some (by rw [next, hRead]) (ih reader)
    | stuck =>
      rw [items, hRead]
      -- a record that is stuck ends what comes, and so it ends the items
      exact .none (by rw [next, hRead])

end SolarCharts.Csv.TableReader
