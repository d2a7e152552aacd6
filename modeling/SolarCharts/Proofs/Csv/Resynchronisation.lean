import SolarCharts.Proofs.Csv.Placement
import SolarCharts.Proofs.Csv.Reading
import SolarCharts.Proofs.Text.Utf8

/-!
# A `#datatype` row starts over

Whatever came before, malformed as it may be, the reader takes a `#datatype` row and what follows as if
nothing had come before. The row clears the defaults and asks for a header. Columns of an earlier table
are left behind, but nothing sees them until a header has put others in their place.

* `Alike`, `Alike.read` — readers that differ only in columns that nothing sees stay so.
* `items_of_opensTable` — what starts with a `#datatype` row is read alike by every reader.
* `datatype_resynchronises` — so the items of two sequences of records, or of two bodies, are those of
  the one and then those of the other.
-/

namespace SolarCharts.Csv

namespace TableReader

variable {reader other : TableReader}

/-- Readers that are the same but for the columns that are left while a header is expected. -/
structure Alike (reader other : TableReader) : Prop where
  defaults : reader.defaults = other.defaults
  expects : reader.expectsHeader = other.expectsHeader
  columns : reader.expectsHeader = false → reader.columns = other.columns

/-- A record leaves such readers alike, or gives the same item. -/
theorem Alike.read (h : Alike reader other) (hReady : reader.Ready)
    (record : Except EncodingError Record) :
    (∃ next next', reader.read record = .described next ∧ other.read record = .described next' ∧
        Alike next next') ∨
      ∃ item, reader.read record = .item item ∧ other.read record = .item item := by
  cases record with
  | error e => exact Or.inr ⟨_, rfl, rfl⟩
  | ok row =>
    by_cases hAnnotating : isAnnotating row.cells = true
    · have hHash := beq_iff_eq.mp hAnnotating
      refine Or.inl ⟨_, _, read_annotating rfl hHash, read_annotating rfl hHash, ?_, rfl, ?_⟩
      · simp only [annotated, h.defaults]
      · -- a header is asked for, so no columns are seen
        intro hExpects
        cases hExpects
    · rw [Bool.not_eq_true] at hAnnotating
      by_cases hHeader : reader.expectsHeader = true ∨ HeaderLike row
      · have hHeader' : other.expectsHeader = true ∨ HeaderLike row := h.expects ▸ hHeader
        exact Or.inl ⟨_, _, read_headed hAnnotating hHeader, read_headed hAnnotating hHeader',
          h.defaults, rfl, fun _ => rfl⟩
      · rw [not_or, Bool.not_eq_true] at hHeader
        obtain ⟨hExpects, hBody⟩ := hHeader
        obtain ⟨columns, hColumns⟩ := Option.isSome_iff_exists.mp (hReady hExpects)
        refine Or.inr ⟨_, read_plain hAnnotating hBody hExpects hColumns, ?_⟩
        rw [h.defaults]
        exact read_plain hAnnotating hBody (h.expects ▸ hExpects)
          ((h.columns hExpects).symm.trans hColumns)

/-- Readers that are alike give the same items. -/
theorem Alike.items_eq (h : Alike reader other) (hReady : reader.Ready)
    (records : List (Except EncodingError Record)) : reader.items records = other.items records := by
  induction records generalizing reader other with
  | nil => rfl
  | cons record rest ih =>
    rcases h.read hReady record with ⟨next, next', hRead, hRead', hNext⟩ | ⟨item, hRead, hRead'⟩
    · rw [items_of_described hRead, items_of_described hRead', ih hNext (hReady.of_described hRead)]
    · rw [items_of_item hRead, items_of_item hRead', ih h hReady]

end TableReader

open TableReader

/-! ## Sequences of records -/

/-- Records that start with a `#datatype` row. -/
def OpensTable (records : List (Except EncodingError Record)) : Prop :=
  ∃ row rest, records = .ok row :: rest ∧ firstCell row = "#datatype"

/-- What starts with a `#datatype` row is read alike by every reader. -/
theorem TableReader.items_of_opensTable (reader : TableReader)
    {records : List (Except EncodingError Record)} (h : OpensTable records) :
    reader.items records = initial.items records := by
  obtain ⟨row, rest, rfl, hFirst⟩ := h
  have hRead : ∀ reader : TableReader,
      reader.read (.ok row) = .described (reader.annotated "#datatype" row.cells) :=
    fun _ => read_annotating hFirst (by decide)
  -- the row clears the defaults and asks for a header, so only columns that nothing sees are left
  have hAlike : Alike (reader.annotated "#datatype" row.cells)
      (initial.annotated "#datatype" row.cells) :=
    ⟨by simp [annotated], rfl, fun hExpects => nomatch hExpects⟩
  have hReady : (reader.annotated "#datatype" row.cells).Ready := fun hExpects => nomatch hExpects
  rw [items_of_described (hRead reader), items_of_described (hRead initial),
    hAlike.items_eq hReady]

/-- What starts a table does so in every place. -/
theorem OpensTable.of_unplaced {records moved : List (Except EncodingError Record)}
    (h : OpensTable records)
    (hMoved : moved.map unplacedRecord = records.map unplacedRecord) : OpensTable moved := by
  obtain ⟨row, rest, rfl, hFirst⟩ := h
  match moved, hMoved with
  | [], hMoved => cases hMoved
  | .error e :: _, hMoved => cases (List.cons.inj hMoved).1
  | .ok first :: moved, hMoved =>
    have hRow : first.unplaced = row.unplaced := Except.ok.inj (List.cons.inj hMoved).1
    refine ⟨first, moved, rfl, ?_⟩
    rw [firstCell, ← first.cells_unplaced, hRow]
    exact hFirst

/-- Records that start a table give the items behind others that they give alone. -/
theorem items_append_of_opensTable (before : List (Except EncodingError Record))
    {after : List (Except EncodingError Record)} (h : OpensTable after) :
    initial.items (before ++ after) = initial.items before ++ initial.items after := by
  rw [ready_initial.items_append, TableReader.items_of_opensTable _ h]

/-- **A `#datatype` row resynchronises the reader.** Behind records of any kind, records that start with
such a row give the items that they give alone. What stands behind others stands in another place: so do
those records there, but for the places in errors. And so does a body behind another one at whose end no
record is open. -/
theorem datatype_resynchronises :
    (∀ before after : List (Except EncodingError Record), OpensTable after →
        initial.items (before ++ after) = initial.items before ++ initial.items after ∧
          ∀ moved : List (Except EncodingError Record),
            moved.map unplacedRecord = after.map unplacedRecord →
              ∃ items, initial.items (before ++ moved) = initial.items before ++ items ∧
                items.map unplacedItem = (initial.items after).map unplacedItem) ∧
      ∀ body more : List UInt8, Complete body → (body = [] ∨ ¬ Marked more) →
        OpensTable (records more) →
          ∃ items, itemsOf (body ++ more) = itemsOf body ++ items ∧
            items.map unplacedItem = (itemsOf more).map unplacedItem := by
  constructor
  · intro before after hOpens
    refine ⟨items_append_of_opensTable before hOpens, ?_⟩
    intro moved hMoved
    have hMovedOpens := hOpens.of_unplaced hMoved
    exact ⟨initial.items moved, items_append_of_opensTable before hMovedOpens,
      items_unplaced_congr hMoved⟩
  · intro body more hComplete hMark hOpens
    -- behind the first body the records of the second stand further down
    obtain ⟨moved, hRecords, hMoved⟩ := records_append hComplete hMark
    refine ⟨initial.items moved, ?_, items_unplaced_congr hMoved⟩
    rw [itemsOf, hRecords]
    exact items_append_of_opensTable _ (hOpens.of_unplaced hMoved)

/-! ## Behind a table that broke off -/

/-- Defaults, a row without a time, and an annotation that nothing follows. -/
def brokenBody : List UInt8 :=
  Utf8.encode ("#default,,,,ttgo9\n,_time,_value,_field,host\n,yesterday,1,voltage,\n#group,false\n")

/-- A table without defaults. -/
def freshBody : List UInt8 :=
  Utf8.encode ("#datatype,string\n,_time,_value,_field,host\n"
    ++ ",2024-05-02T09:00:01Z,4,voltage,\n,tomorrow,1,voltage,\n")

/-- Behind the one the other gives a sample without a host and an error, as it does alone. -/
theorem freshBody_resynchronises :
    Complete brokenBody ∧ ¬ Marked freshBody ∧ OpensTable (records freshBody) ∧
      initial.items (records brokenBody ++ records freshBody) =
        [.error (.invalidTime 3 "yesterday"), .ok ⟨⟨1714640401, 0⟩, "", .voltage, 4⟩,
          .error (.invalidTime 4 "tomorrow")] ∧
      ∃ items, itemsOf (brokenBody ++ freshBody) =
          .error (.invalidTime 3 "yesterday") :: items ∧
        items.map unplacedItem =
          [.ok ⟨⟨1714640401, 0⟩, "", .voltage, 4⟩, .error (.invalidTime 0 "tomorrow")] := by
  have hComplete : Complete brokenBody := by
    simp only [brokenBody, Utf8.encode_eq]
    decide +kernel
  have hMark : ¬ Marked freshBody := by
    simp only [freshBody, Utf8.encode_eq]
    decide +kernel
  have hRecords : records freshBody =
      [.ok ⟨1, ["#datatype", "string"]⟩, .ok ⟨2, ["", "_time", "_value", "_field", "host"]⟩,
        .ok ⟨3, ["", "2024-05-02T09:00:01Z", "4", "voltage", ""]⟩,
        .ok ⟨4, ["", "tomorrow", "1", "voltage", ""]⟩] := by
    simp only [freshBody, Utf8.encode_eq]
    decide +kernel
  have hOpens : OpensTable (records freshBody) := ⟨_, _, hRecords, rfl⟩
  -- the default of the first body does not fill the cell of the second
  have hBroken : itemsOf brokenBody = [.error (.invalidTime 3 "yesterday")] := by
    simp only [brokenBody, Utf8.encode_eq]
    decide +kernel
  have hFresh : itemsOf freshBody =
      [.ok ⟨⟨1714640401, 0⟩, "", .voltage, 4⟩, .error (.invalidTime 4 "tomorrow")] := by
    rw [itemsOf, hRecords]
    decide +kernel
  -- once for the records and once for the octets
  refine ⟨hComplete, hMark, hOpens, ?_, ?_⟩
  · refine (datatype_resynchronises.1 (records brokenBody) _ hOpens).1.trans ?_
    show itemsOf brokenBody ++ itemsOf freshBody = _
    rw [hBroken, hFresh]
    rfl
  · obtain ⟨items, hItems, hSame⟩ :=
      datatype_resynchronises.2 brokenBody freshBody hComplete (Or.inr hMark) hOpens
    rw [hBroken] at hItems
    rw [hFresh] at hSame
    exact ⟨items, hItems, hSame⟩

end SolarCharts.Csv
