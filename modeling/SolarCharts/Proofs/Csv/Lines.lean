import SolarCharts.Proofs.Csv.Cutting
import SolarCharts.Proofs.Csv.Reading
import SolarCharts.Proofs.Text.Utf8

/-!
# The lines that errors name

A record whose time or value cannot be read is reported with a line. It is the line behind the record
before it, and the record itself stands behind the line ends that were passed over in between.

* `Stands`, `line_of_stands` — where a record stands in a body, and the line of its row.
* `LinesEndIn.not_mem_return`, `LinesEndIn.paired` — the line ends of a body whose lines end alike.
* `line_exact` — the line that is reported is that of the record exactly when no line feed was passed
  over. Where lines end in line feeds, that is where no empty line stands in front of the record; where
  they end in carriage returns and line feeds, it is where the body begins.
-/

namespace SolarCharts.Csv

open TableReader

/-! ## Bodies -/

open Scan (endsRecord)

variable {body above gap : List UInt8} {n : Nat}

/-- How many octets the byte-order mark of a body takes, if it has one. -/
def markLength (body : List UInt8) : Nat := if Marked body then 3 else 0

/-- Behind its byte-order mark, if there is one, a body is cut by the scan alone. -/
theorem rawRecords_eq (body : List UInt8) :
    rawRecords body = (Scan.initial (markLength body)).run (body.drop (markLength body)) := by
  unfold markLength
  split
  · next hMarked =>
    obtain ⟨rest, rfl⟩ := hMarked
    rfl
  · next hMarked => exact rawRecords_of_not_marked hMarked

/-- Where the record with so many before it stands in a body, its byte-order mark apart: behind `above`,
which ends with the octet that ended the record before it, and behind the line ends of `gap`. -/
def Stands (body : List UInt8) (n : Nat) (above gap : List UInt8) : Prop :=
  (Scan.initial (markLength body)).StandsIn (body.drop (markLength body)) n above gap

/-- What was passed over are line ends, and the carriage returns among them are those of the body. -/
theorem Stands.feed_or_return (h : Stands body n above gap) {octet : UInt8} (hOctet : octet ∈ gap) :
    octet = 10 ∨ (octet = 13 ∧ octet ∈ body) := by
  obtain ⟨first, rest, hText, -⟩ := Scan.StandsIn.text h
  have hEnds := Scan.StandsIn.gap h octet hOctet
  simp only [endsRecord, Bool.or_eq_true, beq_iff_eq] at hEnds
  -- a byte-order mark is no line end, so the octet is one of the rest
  refine hEnds.imp_right fun hReturn => ⟨hReturn, List.mem_of_mem_drop (i := markLength body) ?_⟩
  rw [hText]
  simp [hOctet]

theorem fresh_initial (skipped : Nat) : (Scan.initial skipped).Fresh := ⟨rfl, rfl⟩

/-- The number of the line that comes behind some octets. -/
def lineBehind (octets : List UInt8) : Nat := 1 + octets.count 10

/-- The line of a row is that behind the record before it, which has a place in the body. -/
theorem line_of_stands {row : Record} (hRow : (records body)[n]? = some (.ok row)) :
    (∃ above gap, Stands body n above gap) ∧
      ∀ above gap, Stands body n above gap → row.line = lineBehind above := by
  rw [records, List.getElem?_map, Option.map_eq_some_iff] at hRow
  obtain ⟨raw, hRaw, hDecode⟩ := hRow
  have hLine : row.line = raw.position.line := by
    unfold RawRecord.decode at hDecode
    split at hDecode
    · rw [← Except.ok.inj hDecode]
    · cases hDecode
  -- decoding keeps the order of records and their places
  rw [rawRecords_eq] at hRaw
  have hIn := (List.getElem?_eq_some_iff.mp hRaw).1
  refine ⟨Scan.exists_standsIn (fresh_initial _) hIn, fun above gap hStands => ?_⟩
  rw [hLine, hStands.line_eq (fresh_initial _) hRaw]
  rfl

/-! ### How lines end -/

/-- The body is a row of lines, each with the same octets at its end. -/
def LinesEndIn (ending body : List UInt8) : Prop :=
  ∃ lines : List (List UInt8), (∀ line ∈ lines, ∀ octet ∈ line, endsRecord octet = false) ∧
    body = lines.flatMap (· ++ ending)

/-- Where lines end in line feeds there is no carriage return. -/
theorem LinesEndIn.not_mem_return (h : LinesEndIn [10] body) : 13 ∉ body := by
  obtain ⟨lines, hLines, rfl⟩ := h
  intro hMem
  obtain ⟨line, hLine, hReturn⟩ := List.mem_flatMap.mp hMem
  rcases List.mem_append.mp hReturn with hIn | hIn
  · cases hLines line hLine 13 hIn
  · cases List.mem_singleton.mp hIn

/-- A line and its end in front of a text leave carriage returns and line feeds in pairs. -/
theorem paired_line {line text : List UInt8} (hLine : ∀ octet ∈ line, endsRecord octet = false)
    (h : Scan.Paired text) : Scan.Paired (line ++ 13 :: 10 :: text) := by
  intro front octet rest hText hEnds
  rcases List.append_eq_append_iff.mp hText with ⟨more, rfl, hMore⟩ | ⟨more, rfl, hMore⟩
  · -- behind the line stands the pair, and then the text
    cases more with
    | nil =>
      obtain ⟨rfl, rfl⟩ := List.cons.inj hMore
      exact Or.inl ⟨rfl, rfl⟩
    | cons a more =>
      obtain ⟨rfl, hPair⟩ := List.cons.inj hMore
      cases more with
      | nil =>
        obtain ⟨rfl, rfl⟩ := List.cons.inj hPair
        exact Or.inr ⟨rfl, List.getLast?_concat⟩
      | cons b more =>
        obtain ⟨rfl, hText'⟩ := List.cons.inj hPair
        rcases h more octet rest hText' hEnds with hReturn | ⟨hFeed, hLast⟩
        · exact Or.inl hReturn
        · refine Or.inr ⟨hFeed, ?_⟩
          rw [List.getLast?_append, List.getLast?_cons, List.getLast?_cons, hLast]
          rfl
  · -- no octet of the line ends one
    cases more with
    | nil =>
      obtain ⟨rfl, rfl⟩ := List.cons.inj hMore
      exact Or.inl ⟨rfl, rfl⟩
    | cons c more =>
      obtain ⟨rfl, -⟩ := List.cons.inj hMore
      rw [hLine octet (by simp)] at hEnds
      cases hEnds

/-- Where lines end in carriage returns and line feeds, neither stands alone. -/
theorem LinesEndIn.paired (h : LinesEndIn [13, 10] body) : Scan.Paired body := by
  obtain ⟨lines, hLines, rfl⟩ := h
  induction lines with
  | nil =>
    intro front octet rest hText
    simp at hText
  | cons line lines ih =>
    rw [List.flatMap_cons, List.append_assoc]
    exact paired_line (hLines line List.mem_cons_self)
      (ih fun other hOther => hLines other (List.mem_cons_of_mem _ hOther))

/-- A byte-order mark holds no line end, so what is behind it is paired as before. -/
theorem Scan.Paired.drop_markLength (h : Scan.Paired body) :
    Scan.Paired (body.drop (markLength body)) := by
  unfold markLength
  split
  · next hMarked =>
    obtain ⟨text, rfl⟩ := hMarked
    intro front octet rest hText hEnds
    -- an octet behind the mark stands in the body as well, with the mark in front of it
    have hWhole : [0xef, 0xbb, 0xbf] ++ text = ([0xef, 0xbb, 0xbf] ++ front) ++ octet :: rest := by
      rw [List.append_assoc, ← hText]
      rfl
    rcases h _ octet rest hWhole hEnds with hReturn | ⟨hFeed, hLast⟩
    · exact Or.inl hReturn
    · refine Or.inr ⟨hFeed, ?_⟩
      rw [List.getLast?_append] at hLast
      -- a line feed right behind the mark would have the last octet of the mark before it
      cases hFront : front.getLast? with
      | none =>
        rw [hFront] at hLast
        cases hLast
      | some c => rwa [hFront] at hLast
  · exact h

/-! ## Errors -/

/-- The line that an error of a row names, if it names one. -/
def RowError.line? : RowError → Option Nat
  | .invalidTime line _ | .invalidValue line _ => some line
  | .query _ | .encoding _ | .missingColumn _ => none

/-- The record with so many before it gives the item. -/
def Gives (body : List UInt8) (n : Nat) (item : Except RowError Sample) : Prop :=
  ∃ record, (records body)[n]? = some record ∧
    (initial.after ((records body).take n)).read record = .item item

/-- Every item is that of a record, read as the reader stands behind those before it. -/
theorem exists_record_of_mem {reader : TableReader} {records : List (Except EncodingError Record)}
    {item : Except RowError Sample} (h : item ∈ reader.items records) :
    ∃ n record, records[n]? = some record ∧
      (reader.after (records.take n)).read record = .item item := by
  induction records generalizing reader with
  | nil => cases h
  | cons record rest ih =>
    -- what is found in the rest is found there by the reader as it stands behind this record
    cases hRead : reader.read record with
    | described next =>
      rw [items_of_described hRead] at h
      obtain ⟨n, found, hFound, hItem⟩ := ih h
      refine ⟨n + 1, found, hFound, ?_⟩
      rwa [List.take_succ_cons, after_of_described hRead]
    | item result =>
      rw [items_of_item hRead] at h
      rcases List.mem_cons.mp h with rfl | h
      · exact ⟨0, record, rfl, hRead⟩
      · obtain ⟨n, found, hFound, hItem⟩ := ih h
        refine ⟨n + 1, found, hFound, ?_⟩
        rwa [List.take_succ_cons, after_of_item hRead]
    | stuck =>
      rw [items, hRead] at h
      cases h

/-- A row reports no line but its own. -/
theorem line_of_sampleOfRow {defaults : List String} {columns : Columns} {row : Record}
    {fault : RowError} {line : Nat} (h : sampleOfRow defaults columns row = .error fault)
    (hLine : fault.line? = some line) : line = row.line := by
  unfold sampleOfRow at h
  -- the errors of the columns name no line, those of the time and the value do
  split at h
  · rw [← Except.error.inj h] at hLine
    cases hLine
  · rw [← Except.error.inj h] at hLine
    cases hLine
  · dsimp only at h
    split at h
    · rw [← Except.error.inj h] at hLine
      exact (Option.some.inj hLine).symm
    · split at h
      · rw [← Except.error.inj h] at hLine
        exact (Option.some.inj hLine).symm
      · cases h

/-- An error names the line of the row that gives it. -/
theorem Gives.exists_row {fault : RowError} {line : Nat} (h : Gives body n (.error fault))
    (hLine : fault.line? = some line) :
    ∃ row, (records body)[n]? = some (.ok row) ∧ line = row.line := by
  obtain ⟨record, hRecord, hItem⟩ := h
  rcases item_cases hItem with ⟨e, -, hFault⟩ | ⟨row, columns, rfl, -, hFault⟩
  · rw [Except.error.inj hFault] at hLine
    cases hLine
  · exact ⟨row, hRecord, line_of_sampleOfRow hFault.symm hLine⟩

/-- **The line that an error names** is that behind the record before it, and not that of its own record
where a line feed was passed over in between. In a body whose lines all end in line feeds it is right
exactly where no empty line stands in front of the record. Where they all end in carriage returns and
line feeds it is right only for a record at the very start of the body. -/
theorem line_exact (body : List UInt8) :
    (∀ item ∈ itemsOf body, ∃ n, Gives body n item) ∧
      ∀ (n : Nat) (fault : RowError) (line : Nat), Gives body n (.error fault) →
        fault.line? = some line →
        (∃ above gap, Stands body n above gap) ∧
          ∀ above gap, Stands body n above gap →
            line = lineBehind above ∧
              (line = lineBehind (above ++ gap) ↔ 10 ∉ gap) ∧
              (LinesEndIn [10] body → (line = lineBehind (above ++ gap) ↔ gap = [])) ∧
              (LinesEndIn [13, 10] body →
                (line = lineBehind (above ++ gap) ↔ n = 0 ∧ gap = [])) := by
  refine ⟨fun item => exists_record_of_mem, fun n fault line hGives hLine => ?_⟩
  obtain ⟨row, hRow, rfl⟩ := hGives.exists_row hLine
  obtain ⟨hExists, hAll⟩ := line_of_stands hRow
  refine ⟨hExists, fun above gap hStands => ?_⟩
  have hAbove := hAll above gap hStands
  have hRight : row.line = lineBehind (above ++ gap) ↔ 10 ∉ gap := by
    rw [hAbove, lineBehind, lineBehind, List.count_append, ← List.count_eq_zero]
    omega
  refine ⟨hAbove, hRight, fun hFeeds => ?_, fun hPairs => ?_⟩
  · rw [hRight]
    refine ⟨fun hNone => List.eq_nil_iff_forall_not_mem.mpr fun octet hOctet => ?_, ?_⟩
    · -- a line end that is no line feed is a carriage return, and the body has none
      rcases hStands.feed_or_return hOctet with rfl | ⟨rfl, hBody⟩
      · exact hNone hOctet
      · exact hFeeds.not_mem_return hBody
    · rintro rfl
      exact List.not_mem_nil
  · rw [hRight]
    refine ⟨fun hNone => ?_, ?_⟩
    · -- nothing that ends a line stands alone, so a gap without line feeds is at the start
      obtain ⟨hGap, rfl⟩ :=
        Scan.StandsIn.eq_nil_of_paired hStands hPairs.paired.drop_markLength hNone
      have hRecords := Scan.StandsIn.records hStands
      exact ⟨hRecords.symm, hGap⟩
    · rintro ⟨-, rfl⟩
      exact List.not_mem_nil

/-! ## Lines that are right and lines that are wrong -/

/-- Some lines, ended in the same way. -/
def bodyOf (ending : List UInt8) (lines : List String) : List UInt8 :=
  (lines.map Utf8.encode).flatMap (· ++ ending)

/-- A host that takes two lines, and then a row without a time. -/
def quotedBody : List UInt8 :=
  bodyOf [10] [",_time,_value,_field,host", ",2024-05-02T09:00:01Z,4,voltage,\"a", "b\"",
    ",yesterday,1,voltage,a"]

/-- The line feed in quotes is counted, so the row behind it is found on its line. -/
theorem line_exact_quotedBody :
    Gives quotedBody 2 (.error (.invalidTime 4 "yesterday")) ∧
      (RowError.invalidTime 4 "yesterday").line? = some 4 ∧
      ∃ above, Stands quotedBody 2 above [] ∧ 4 = lineBehind (above ++ []) := by
  have hRecords : records quotedBody =
      [.ok ⟨1, ["", "_time", "_value", "_field", "host"]⟩,
        .ok ⟨2, ["", "2024-05-02T09:00:01Z", "4", "voltage", "a\nb"]⟩,
        .ok ⟨4, ["", "yesterday", "1", "voltage", "a"]⟩] := by
    simp only [quotedBody, bodyOf, List.map_cons, List.map_nil, Utf8.encode_eq]
    decide +kernel
  have hGives : Gives quotedBody 2 (.error (.invalidTime 4 "yesterday")) := by
    refine ⟨.ok ⟨4, ["", "yesterday", "1", "voltage", "a"]⟩, by rw [hRecords]; rfl, ?_⟩
    -- the header of the first record is in force, and the sample of the second leaves it so
    have hReader : initial.after ((records quotedBody).take 2) =
        ⟨[], some (.samples 1 2 3 4), false⟩ := by
      rw [hRecords]
      decide +kernel
    have hFault : sampleOfRow [] (.samples 1 2 3 4) ⟨4, ["", "yesterday", "1", "voltage", "a"]⟩ =
        .error (.invalidTime 4 "yesterday") := by decide +kernel
    rw [hReader, read_data rfl (by simp [HeaderLike]) rfl rfl, hFault]
  have hStands : Stands quotedBody 2 (bodyOf [10] [",_time,_value,_field,host",
      ",2024-05-02T09:00:01Z,4,voltage,\"a", "b\""]) [] := by
    refine ⟨⟨44, Utf8.encode "yesterday,1,voltage,a\n", ?_, rfl⟩, nofun, Or.inr ?_, ?_⟩
    all_goals
      simp only [quotedBody, bodyOf, List.map_cons, List.map_nil, Utf8.encode_eq]
      decide +kernel
  obtain ⟨-, hAll⟩ := (line_exact quotedBody).2 2 _ 4 hGives rfl
  obtain ⟨-, hRight, -⟩ := hAll _ [] hStands
  exact ⟨hGives, rfl, _, hStands, hRight.mpr List.not_mem_nil⟩

/-- A row without a time on the second line. -/
def pairedBody : List UInt8 := bodyOf [13, 10] [",_time,_value,_field,host", ",yesterday,1,voltage,a"]

/-- A row without a time on the third line, behind an empty one. -/
def spacedBody : List UInt8 := bodyOf [10] [",_time,_value,_field,host", "", ",yesterday,1,voltage,a"]

/-- **Errors name lines that are not theirs.** The row on the second line is reported on the first, and
the row behind an empty line on that line. -/
theorem row_reported_on_line_before :
    LinesEndIn [13, 10] pairedBody ∧
      itemsOf pairedBody = [.error (.invalidTime 1 "yesterday")] ∧
      (∃ above gap, Stands pairedBody 1 above gap ∧ lineBehind (above ++ gap) = 2) ∧
      LinesEndIn [10] spacedBody ∧
      itemsOf spacedBody = [.error (.invalidTime 2 "yesterday")] ∧
      ∃ above gap, Stands spacedBody 1 above gap ∧ lineBehind (above ++ gap) = 3 := by
  -- the first record ends at the carriage return, and the line feed is passed over
  have hPaired : Stands pairedBody 1 (bodyOf [13] [",_time,_value,_field,host"]) [10] := by
    refine ⟨⟨44, Utf8.encode "yesterday,1,voltage,a\r\n", ?_, rfl⟩, by simp [endsRecord], Or.inr ?_, ?_⟩
    all_goals
      simp only [pairedBody, bodyOf, List.map_cons, List.map_nil, Utf8.encode_eq]
      decide +kernel
  -- the empty line is passed over like a line end
  have hSpaced : Stands spacedBody 1 (bodyOf [10] [",_time,_value,_field,host"]) [10] := by
    refine ⟨⟨44, Utf8.encode "yesterday,1,voltage,a\n", ?_, rfl⟩, by simp [endsRecord], Or.inr ?_, ?_⟩
    all_goals
      simp only [spacedBody, bodyOf, List.map_cons, List.map_nil, Utf8.encode_eq]
      decide +kernel
  refine ⟨⟨_, ?_, rfl⟩, ?_, ⟨_, _, hPaired, ?_⟩, ⟨_, ?_, rfl⟩, ?_, ⟨_, _, hSpaced, ?_⟩⟩
  all_goals
    simp only [pairedBody, spacedBody, bodyOf, List.map_cons, List.map_nil, Utf8.encode_eq]
    decide +kernel

end SolarCharts.Csv
