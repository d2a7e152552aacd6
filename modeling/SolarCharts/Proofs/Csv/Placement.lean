import Mathlib.Tactic.SplitIfs
import SolarCharts.Csv.Table

/-!
# Where records stand

A record knows the line that it starts on, and one that is not UTF-8 also how many records and octets
come before it. Errors tell this on, and nothing else depends on it.

* `items_map_unplaced` — records at other places give the same items, but for the places in errors.
* `Scan.run_append`, `Scan.Alike.run_cells` — where no record is open, octets are cut on as from the
  start.
* `records_append` — so behind a body that is complete, another one has the records that it has alone,
  at other places.
-/

namespace SolarCharts.Csv

/-! ## Without places -/

/-- A record without its place. -/
def Record.unplaced (row : Record) : Record := { row with line := 0 }

@[simp]
theorem Record.cells_unplaced (row : Record) : row.unplaced.cells = row.cells := rfl

/-- An error of a record without the place of the record. Which cell it is in, and where in that cell,
stays. -/
def EncodingError.unplaced (e : EncodingError) : EncodingError := { e with position := ⟨0, 0, 0⟩ }

/-- A record, or the error of one, without its place. -/
def unplacedRecord : Except EncodingError Record → Except EncodingError Record
  | .error e => .error e.unplaced
  | .ok row => .ok row.unplaced

/-- An error of a row without the place of the row. -/
def RowError.unplaced : RowError → RowError
  | .query text => .query text
  | .encoding e => .encoding e.unplaced
  | .missingColumn column => .missingColumn column
  | .invalidTime _ text => .invalidTime 0 text
  | .invalidValue _ text => .invalidValue 0 text

/-- A sample, or the error of a row without the place of the row. -/
def unplacedItem (item : Except RowError Sample) : Except RowError Sample :=
  item.mapError RowError.unplaced

/-- What a record comes to, without the place of the record. -/
def Reading.unplaced : Reading → Reading
  | .described reader => .described reader
  | .item result => .item (unplacedItem result)
  | .stuck => .stuck

/-- A row gives the same sample at any place, and an error that differs only there. -/
theorem sampleOfRow_unplaced (defaults : List String) (columns : Columns) (row : Record) :
    sampleOfRow defaults columns row.unplaced = unplacedItem (sampleOfRow defaults columns row) := by
  cases columns with
  | error text => rfl
  | missing column => rfl
  | samples time value field host =>
    unfold sampleOfRow
    simp only [Record.cells_unplaced]
    cases Timestamp.ofText? (cellAt defaults row.cells time) with
    | none => rfl
    | some instant => cases floatOfText? (cellAt defaults row.cells value) <;> rfl

namespace TableReader

/-- What the reader makes of a record depends on its place only as far as errors tell it. -/
theorem read_unplacedRecord (reader : TableReader) (record : Except EncodingError Record) :
    reader.read (unplacedRecord record) = (reader.read record).unplaced := by
  cases record with
  | error e => rfl
  | ok row =>
    -- the branch that is taken is told by the cells alone
    by_cases hAnnotating : isAnnotating row.cells = true
    · simp [unplacedRecord, read, hAnnotating, Reading.unplaced]
    · by_cases hHeader : (reader.expectsHeader || looksLikeHeader row.cells) = true
      · simp [unplacedRecord, read, hAnnotating, hHeader, Reading.unplaced]
      · cases hColumns : reader.columns <;>
          simp [unplacedRecord, read, hAnnotating, hHeader, hColumns, sampleOfRow_unplaced,
            Reading.unplaced]

/-- Records without their places give items without places. -/
theorem items_map_unplaced (reader : TableReader) (records : List (Except EncodingError Record)) :
    reader.items (records.map unplacedRecord) = (reader.items records).map unplacedItem := by
  induction records generalizing reader with
  | nil => rfl
  | cons record rest ih =>
    rw [List.map_cons, items, items, read_unplacedRecord]
    cases reader.read record with
    | described next => exact ih next
    | item result => exact congrArg (unplacedItem result :: ·) (ih reader)
    | stuck => rfl

/-- Records in other places give the same items, but for the places in errors. -/
theorem items_unplaced_congr {reader : TableReader}
    {records moved : List (Except EncodingError Record)}
    (h : moved.map unplacedRecord = records.map unplacedRecord) :
    (reader.items moved).map unplacedItem = (reader.items records).map unplacedItem := by
  rw [← items_map_unplaced, ← items_map_unplaced, h]

end TableReader

/-! ## Cutting on -/

namespace Scan

variable {s t : Scan} {a b : List UInt8}

/-- How far the cutting has come after some octets. -/
def after (s : Scan) : List UInt8 → Scan
  | [] => s
  | b :: rest => after (s.step b).1 rest

/-- Where no record is open at the end of some octets, those behind them are cut from there on. -/
theorem run_append (hEnd : (s.after a).mode = .recordStart) :
    s.run (a ++ b) = s.run a ++ (s.after a).run b := by
  induction a generalizing s with
  | nil =>
    -- nothing is open, so nothing is finished at the end of the first octets
    have hNone : s.run [] = [] := by
      rw [run, finish, if_pos (show s.mode = .recordStart from hEnd)]
      rfl
    rw [hNone]
    rfl
  | cons octet rest ih =>
    rw [List.cons_append, run, run, ih hEnd, List.append_assoc]
    rfl

/-- Two scans that differ at most in where they are. -/
structure Alike (s t : Scan) : Prop where
  mode : s.mode = t.mode
  cell : s.cell = t.cell
  cells : s.cells = t.cells

/-- Such scans stay so when one octet is cut, and end the same record or none. -/
theorem Alike.step (h : Alike s t) (octet : UInt8) :
    Alike (s.step octet).1 (t.step octet).1 ∧
      (s.step octet).2.map (·.cells) = (t.step octet).2.map (·.cells) := by
  obtain ⟨mode, cell, cells, start, line, byte⟩ := s
  obtain ⟨mode', cell', cells', start', line', byte'⟩ := t
  obtain ⟨rfl, rfl, rfl⟩ : mode = mode' ∧ cell = cell' ∧ cells = cells' := ⟨h.1, h.2, h.3⟩
  simp only [Scan.step, advance, unquoted]
  cases mode <;>
    · dsimp only
      -- no branch looks at the place
      split_ifs <;> exact ⟨⟨rfl, rfl, rfl⟩, rfl⟩

/-- Such scans cut the same cells. -/
theorem Alike.run_cells (h : Alike s t) (octets : List UInt8) :
    (s.run octets).map (·.cells) = (t.run octets).map (·.cells) := by
  induction octets generalizing s t with
  | nil =>
    -- with no octet left an open record is closed
    have hRecord : s.record.cells = t.record.cells := by
      simp only [record, allCells, h.cell, h.cells]
    rw [run, run, finish, finish, h.mode]
    split_ifs
    · rfl
    · simpa using hRecord
  | cons octet rest ih =>
    obtain ⟨hNext, hCells⟩ := h.step octet
    rw [run, run, List.map_append, List.map_append, ih hNext, ← Option.toList_map,
      ← Option.toList_map, hCells]

/-- Between records no cell is open. -/
def Clean (s : Scan) : Prop := s.mode = .recordStart → s.cell = [] ∧ s.cells = []

/-- No octet leaves a cell open between records. -/
theorem Clean.step (h : s.Clean) (octet : UInt8) : (s.step octet).1.Clean := by
  obtain ⟨mode, cell, cells, start, line, byte⟩ := s
  unfold Clean at h ⊢
  simp only [Scan.step, advance, unquoted]
  cases mode <;>
    · dsimp only
      split_ifs <;> first | exact h | exact fun _ => ⟨rfl, rfl⟩ | exact fun hMode => nomatch hMode

/-- Neither do several. -/
theorem Clean.after (h : s.Clean) (octets : List UInt8) : (s.after octets).Clean := by
  induction octets generalizing s with
  | nil => exact h
  | cons octet rest ih => exact ih (h.step octet)

end Scan

/-! ## One body behind another -/

/-- A body that starts with a byte-order mark. -/
def Marked (octets : List UInt8) : Prop := [0xef, 0xbb, 0xbf] <+: octets

instance (octets : List UInt8) : Decidable (Marked octets) :=
  inferInstanceAs (Decidable ([0xef, 0xbb, 0xbf] <+: octets))

/-- A body without a byte-order mark is cut from its first octet on. -/
theorem rawRecords_of_not_marked {octets : List UInt8} (h : ¬ Marked octets) :
    rawRecords octets = (Scan.initial 0).run octets := by
  unfold rawRecords
  split
  · next rest => exact absurd ⟨rest, rfl⟩ h
  · rfl

/-- How far the cutting has come at the end of a body. -/
def scanOf : List UInt8 → Scan
  | 0xef :: 0xbb :: 0xbf :: rest => (Scan.initial 3).after rest
  | octets => (Scan.initial 0).after octets

/-- So its cutting comes as far as its octets lead. -/
theorem scanOf_of_not_marked {octets : List UInt8} (h : ¬ Marked octets) :
    scanOf octets = (Scan.initial 0).after octets := by
  unfold scanOf
  split
  · next rest => exact absurd ⟨rest, rfl⟩ h
  · rfl

/-- A body at whose end no record is open. -/
def Complete (octets : List UInt8) : Prop := (scanOf octets).mode = .recordStart

instance (octets : List UInt8) : Decidable (Complete octets) :=
  inferInstanceAs (Decidable ((scanOf octets).mode = .recordStart))

variable {body more : List UInt8}

/-- No cell is open between the records of a body. -/
theorem clean_scanOf (body : List UInt8) : (scanOf body).Clean := by
  have hInitial : ∀ skipped, (Scan.initial skipped).Clean := fun _ _ => ⟨rfl, rfl⟩
  unfold scanOf
  split <;> exact (hInitial _).after _

/-- What follows a complete body does not make the start of it a mark. -/
theorem Complete.not_marked_append (h : Complete body) (hNonempty : body ≠ [])
    (hMark : ¬ Marked body) : ¬ Marked (body ++ more) := by
  rintro ⟨rest, hRest⟩
  replace hRest := hRest.symm
  match body, hRest with
  | [], _ => exact hNonempty rfl
  -- the octets of a mark start a cell, so neither one nor two of them are complete
  | [a], hRest =>
    simp only [List.cons_append, List.nil_append, List.cons.injEq] at hRest
    obtain ⟨rfl, -⟩ := hRest
    exact absurd h (by decide)
  | [a, b], hRest =>
    simp only [List.cons_append, List.nil_append, List.cons.injEq] at hRest
    obtain ⟨rfl, rfl, -⟩ := hRest
    exact absurd h (by decide)
  | a :: b :: c :: body, hRest =>
    simp only [List.cons_append, List.nil_append, List.cons.injEq] at hRest
    obtain ⟨rfl, rfl, rfl, -⟩ := hRest
    exact hMark ⟨body, rfl⟩

/-- Behind a complete body, octets are cut as from where that ends. -/
theorem rawRecords_append (h : Complete body) (hNonempty : body ≠ []) :
    rawRecords (body ++ more) = rawRecords body ++ (scanOf body).run more := by
  by_cases hMark : Marked body
  · obtain ⟨rest, rfl⟩ := hMark
    exact Scan.run_append h
  · rw [rawRecords_of_not_marked (h.not_marked_append hNonempty hMark),
      rawRecords_of_not_marked hMark, scanOf_of_not_marked hMark]
    rw [Complete, scanOf_of_not_marked hMark] at h
    exact Scan.run_append h

/-- Behind a complete body, records are those that are cut from where it ends. -/
theorem records_behind (h : Complete body) (hMark : body ≠ [] ∨ ¬ Marked more) :
    records (body ++ more) = records body ++ ((scanOf body).run more).map RawRecord.decode := by
  by_cases hNonempty : body = []
  · subst hNonempty
    rw [List.nil_append, records, rawRecords_of_not_marked (hMark.resolve_left fun h => h rfl)]
    rfl
  · rw [records, rawRecords_append h hNonempty, List.map_append]
    rfl

/-- At the ends of complete bodies the cutting has come equally far, but for places. -/
theorem Complete.alike {other : List UInt8} (h : Complete body) (hOther : Complete other) :
    Scan.Alike (scanOf body) (scanOf other) := by
  obtain ⟨hCell, hCells⟩ := clean_scanOf body h
  obtain ⟨hCell', hCells'⟩ := clean_scanOf other hOther
  exact ⟨h.trans hOther.symm, hCell.trans hCell'.symm, hCells.trans hCells'.symm⟩

/-- What a record is decoded to depends on its cells, but for its place. -/
theorem unplacedRecord_decode (raw : RawRecord) :
    unplacedRecord raw.decode = unplacedRecord (RawRecord.decode ⟨⟨0, 0, 0⟩, raw.cells⟩) := by
  unfold RawRecord.decode
  cases decodeCells raw.cells <;> rfl

/-- Records of the same cells are decoded alike, but for their places. -/
theorem map_unplaced_decode {raws others : List RawRecord}
    (h : raws.map (·.cells) = others.map (·.cells)) :
    (raws.map RawRecord.decode).map unplacedRecord =
      (others.map RawRecord.decode).map unplacedRecord := by
  have hCells : ∀ raws : List RawRecord, (raws.map RawRecord.decode).map unplacedRecord =
      (raws.map (·.cells)).map fun cells =>
        unplacedRecord (RawRecord.decode ⟨⟨0, 0, 0⟩, cells⟩) := by
    intro raws
    rw [List.map_map, List.map_map]
    exact List.map_congr_left fun raw _ => unplacedRecord_decode raw
  rw [hCells, hCells, h]

/-- **A body behind a complete one** has the records that it has alone, at other places. -/
theorem records_append (h : Complete body) (hMore : body = [] ∨ ¬ Marked more) :
    ∃ moved, records (body ++ more) = records body ++ moved ∧
      moved.map unplacedRecord = (records more).map unplacedRecord := by
  by_cases hNonempty : body = []
  · subst hNonempty
    exact ⟨records more, rfl, rfl⟩
  · have hMark := hMore.resolve_left hNonempty
    have hEmpty : Complete [] := rfl
    have hAlike : Scan.Alike (scanOf body) (Scan.initial 0) := h.alike hEmpty
    refine ⟨_, records_behind h (Or.inl hNonempty), ?_⟩
    rw [records, rawRecords_of_not_marked hMark]
    exact map_unplaced_decode (hAlike.run_cells more)

end SolarCharts.Csv
