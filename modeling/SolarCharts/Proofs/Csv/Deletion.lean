import SolarCharts.Proofs.Csv.Lines

/-!
# Records that are left out

A reader goes on until its records are used up, whatever it finds in them. Only records that describe a
table change what it remembers, so one that gives an item, be it a sample or an error, can be left out:
its item is then missing, and the others are as before, but for the places that errors tell.

* `Reaches.ready`, `exists_reaches` — in every state of a reader columns are known unless a header is
  expected, and so it comes to every record.
* `Ready.next_eq_none_iff` — no item comes exactly where all records that are left describe tables.
* `exists_oneRecord`, `OneRecord.records_eq` — the octets of one record, and a body without them.
* `errors_do_not_spread` — a record that gives an item takes that item along, and no other.
-/

namespace SolarCharts.Csv

namespace TableReader

variable {reader : TableReader} {records rest : List (Except EncodingError Record)}
  {item : Except RowError Sample}

/-! ## The states of a reader -/

/-- What a reader may come to on some records, and the records that it has left then. -/
inductive Reaches (records : List (Except EncodingError Record)) :
    TableReader → List (Except EncodingError Record) → Prop
  | start : Reaches records initial records
  | described {reader record rest next} (h : Reaches records reader (record :: rest))
      (hRead : reader.read record = .described next) : Reaches records next rest
  | item {reader record rest result} (h : Reaches records reader (record :: rest))
      (hRead : reader.read record = .item result) : Reaches records reader rest

/-- In each of its states columns are known unless a header is expected. -/
theorem Reaches.ready (h : Reaches records reader rest) : reader.Ready := by
  induction h with
  | start => exact ready_initial
  | described _ hRead ih => exact ih.of_described hRead
  | item _ _ ih => exact ih

/-- What a reader remembers, the records that it has read tell. -/
theorem Reaches.exists_before (h : Reaches records reader rest) :
    ∃ before, records = before ++ rest ∧ reader = initial.after before := by
  induction h with
  | start => exact ⟨[], rfl, rfl⟩
  | @described reader record rest next _ hRead ih =>
    obtain ⟨before, rfl, rfl⟩ := ih
    refine ⟨before ++ [record], by simp, ?_⟩
    rw [after_append, after_of_described hRead]
    rfl
  | @item reader record rest result _ hRead ih =>
    obtain ⟨before, rfl, rfl⟩ := ih
    refine ⟨before ++ [record], by simp, ?_⟩
    rw [after_append, after_of_item hRead]
    rfl

/-- The state is that behind the records that come before those left. -/
theorem Reaches.eq_after {before : List (Except EncodingError Record)}
    (h : Reaches (before ++ rest) reader rest) : reader = initial.after before := by
  obtain ⟨others, hRecords, hReader⟩ := h.exists_before
  rw [hReader, List.append_cancel_right hRecords]

/-- Whatever stands before them, a reader comes to the records behind it. -/
theorem exists_reaches (before rest : List (Except EncodingError Record)) :
    ∃ reader, Reaches (before ++ rest) reader rest := by
  -- from the last record before them to the first, since it is the last one that leads to them
  induction before using List.reverseRecOn generalizing rest with
  | nil => exact ⟨initial, .start⟩
  | append_singleton before record ih =>
    -- in front of the last record it is ready, and so it takes that one, too
    obtain ⟨reader, hReaches⟩ := ih (record :: rest)
    rw [List.append_assoc]
    rcases hReaches.ready.read record with ⟨next, hRead, -⟩ | ⟨result, hRead⟩
    · exact ⟨next, hReaches.described hRead⟩
    · exact ⟨reader, hReaches.item hRead⟩

/-- Asking for an item leaves a reader in one of its states. -/
theorem Reaches.next {after : TableReader} {left : List (Except EncodingError Record)}
    (h : Reaches records reader rest) (hNext : reader.next rest = some (item, after, left)) :
    Reaches records after left := by
  induction rest generalizing reader with
  | nil => cases hNext
  | cons record rest ih =>
    rw [TableReader.next] at hNext
    cases hRead : reader.read record with
    | described next =>
      rw [hRead] at hNext
      exact ih (h.described hRead) hNext
    | item result =>
      rw [hRead] at hNext
      cases hNext
      exact h.item hRead
    -- then no item would come
    | stuck =>
      rw [hRead] at hNext
      cases hNext

/-! ## Where no item comes -/

/-- So no record leaves it without columns to read by. -/
theorem Ready.not_stuck (h : reader.Ready) (record : Except EncodingError Record) :
    reader.read record ≠ .stuck := by
  intro hStuck
  rcases h.read record with ⟨next, hRead, -⟩ | ⟨result, hRead⟩
  all_goals
    rw [hStuck] at hRead
    cases hRead

/-- A reader takes in records that all describe tables, and this is what it remembers then. -/
inductive TakesIn : TableReader → List (Except EncodingError Record) → TableReader → Prop
  | none {reader : TableReader} : TakesIn reader [] reader
  | more {reader record next rest last} (hRead : reader.read record = .described next)
      (hRest : TakesIn next rest last) : TakesIn reader (record :: rest) last

/-- No item comes exactly where the records that are left describe tables, down to the last one. -/
theorem Ready.next_eq_none_iff (h : reader.Ready) :
    reader.next records = none ↔ ∃ last, TakesIn reader records last := by
  induction records generalizing reader with
  -- nothing is left to describe a table
  | nil => exact ⟨fun _ => ⟨reader, .none⟩, fun _ => rfl⟩
  | cons record rest ih =>
    rcases h.read record with ⟨next, hRead, hNext⟩ | ⟨result, hRead⟩
    · -- it goes on with the rest
      rw [TableReader.next, hRead]
      show next.next rest = none ↔ _
      rw [ih hNext]
      constructor
      · rintro ⟨last, hLast⟩
        exact ⟨last, .more hRead hLast⟩
      · rintro ⟨last, hLast⟩
        cases hLast with
        | more hSame hRest =>
          rw [hRead] at hSame
          cases hSame
          exact ⟨last, hRest⟩
    · -- an item comes, and the record describes no table
      refine iff_of_false ?_ ?_
      · rw [TableReader.next, hRead]
        exact Option.some_ne_none _
      · rintro ⟨last, hLast⟩
        cases hLast with
        | more hSame =>
          rw [hRead] at hSame
          cases hSame

/-! ## Without one record -/

/-- Behind other records in other places, records give the same items but for the places in errors. -/
theorem Ready.items_append_moved (h : reader.Ready) (before : List (Except EncodingError Record))
    {moved : List (Except EncodingError Record)}
    (hMoved : moved.map unplacedRecord = rest.map unplacedRecord) :
    ∃ later, reader.items (before ++ moved) = reader.items before ++ later ∧
      later.map unplacedItem = ((reader.after before).items rest).map unplacedItem :=
  ⟨_, h.items_append before, items_unplaced_congr hMoved⟩

end TableReader

open TableReader

/-! ## Without the octets of one record -/

variable {body front text rest : List UInt8} {n : Nat}

/-- A text that holds one record, and what stands before it and behind it. -/
structure OneRecord (front text rest : List UInt8) : Prop where
  /-- No record is open where the text begins. -/
  start : Complete front
  /-- The text adds one record. -/
  one : (records (front ++ text)).length = (records front).length + 1
  /-- No record is open where it ends, unless the body ends there. -/
  finish : rest = [] ∨ Complete (front ++ text)

/-- What a body begins with is cut as in the body. -/
theorem cut_at_start (h : text <+: body.drop (markLength body)) :
    rawRecords (body.take (markLength body) ++ text) = (Scan.initial (markLength body)).run text ∧
      scanOf (body.take (markLength body) ++ text) =
        (Scan.initial (markLength body)).after text := by
  unfold markLength at h ⊢
  by_cases hMark : Marked body
  · obtain ⟨octets, rfl⟩ := hMark
    exact ⟨rfl, rfl⟩
  · simp only [if_neg hMark, List.take_zero, List.drop_zero, List.nil_append] at h ⊢
    have hNone : ¬ Marked text := fun hText => hMark (hText.trans h)
    exact ⟨rawRecords_of_not_marked hNone, scanOf_of_not_marked hNone⟩

/-- Every record of a body has octets of its own. -/
theorem exists_oneRecord (hIn : n < (records body).length) :
    ∃ front text rest, body = front ++ text ++ rest ∧ OneRecord front text rest ∧
      (records front).length = n := by
  rw [records, List.length_map, rawRecords_eq] at hIn
  obtain ⟨before, text, rest, hOctets, hEnd, hCount, hOne, hText⟩ := Scan.exists_cut rfl hIn
  -- behind a mark, what stands before the record and what ends with it are cut as in the body
  have hBefore : before <+: body.drop (markLength body) :=
    ⟨text ++ rest, by rw [hOctets, List.append_assoc]⟩
  have hBoth : before ++ text <+: body.drop (markLength body) := ⟨rest, hOctets.symm⟩
  obtain ⟨hRaw, hScan⟩ := cut_at_start hBefore
  obtain ⟨hRaw', hScan'⟩ := cut_at_start hBoth
  rw [← List.append_assoc] at hRaw' hScan'
  -- the mark, if there is one, goes with what stands before the record
  refine ⟨body.take (markLength body) ++ before, text, rest, ?_, ⟨?_, ?_, ?_⟩, ?_⟩
  · rw [List.append_assoc, List.append_assoc, ← List.append_assoc before, ← hOctets,
      List.take_append_drop]
  · rwa [Complete, hScan]
  · rw [records, records, List.length_map, List.length_map, hRaw, hRaw', Scan.run_append hEnd,
      List.length_append, hOne]
  · rwa [Complete, hScan', Scan.after_append]
  · rw [records, List.length_map, hRaw, hCount]

namespace OneRecord

/-- The text adds a record behind those of what stands before it. -/
theorem records_front_text (h : OneRecord front text rest) :
    ∃ record, records (front ++ text) = records front ++ [record] := by
  obtain ⟨added, hAdded⟩ : ∃ added, records (front ++ text) = records front ++ added := by
    -- a mark is one only at the very start, so where nothing stands before it no records are put
    -- behind others
    by_cases hFront : front = []
    · subst hFront
      exact ⟨records text, rfl⟩
    · exact ⟨_, records_behind h.start (Or.inl hFront)⟩
  have hOne := h.one
  rw [hAdded, List.length_append, Nat.add_left_cancel_iff, List.length_eq_one_iff] at hOne
  obtain ⟨record, rfl⟩ := hOne
  exact ⟨record, hAdded⟩

/-- So there is something for the rest to stand behind, even where nothing stands before the text. -/
theorem front_text_ne_nil (h : OneRecord front text rest) : front ++ text ≠ [] := by
  intro hNil
  have hOne := h.one
  rw [hNil] at hOne
  cases hOne

/-- Without the text, the records before it are the same, and those behind it are but for their places.
Where the text comes first, a byte-order mark behind it would come first then. -/
theorem records_eq (h : OneRecord front text rest) (hMark : front ≠ [] ∨ ¬ Marked rest) :
    ∃ record after moved,
      records (front ++ text ++ rest) = records front ++ record :: after ∧
      records (front ++ rest) = records front ++ moved ∧
      moved.map unplacedRecord = after.map unplacedRecord := by
  obtain ⟨record, hRecord⟩ := h.records_front_text
  rcases h.finish with rfl | hText
  · -- the body ends with the text, which may lack a line end then
    refine ⟨record, [], [], ?_, ?_, rfl⟩
    · rw [List.append_nil, hRecord]
    · rw [List.append_nil, List.append_nil]
  · -- in front of the text no record is open and behind it none is, so the rest is cut alike
    have hAlike := h.start.alike hText
    refine ⟨record, _, _, ?_, records_behind h.start hMark,
      map_unplaced_decode (hAlike.run_cells rest)⟩
    rw [records_behind hText (Or.inl h.front_text_ne_nil), hRecord, List.append_assoc]
    rfl

/-- **A body without a record** has the items of all others. -/
theorem itemsOf_eq (h : OneRecord front text rest) (hMark : front ≠ [] ∨ ¬ Marked rest)
    {item : Except RowError Sample}
    (hGives : Gives (front ++ text ++ rest) (records front).length item) :
    ∃ later later', itemsOf (front ++ text ++ rest) = itemsOf front ++ item :: later ∧
      itemsOf (front ++ rest) = itemsOf front ++ later' ∧
      later'.map unplacedItem = later.map unplacedItem := by
  obtain ⟨record, after, moved, hBody, hWithout, hMoved⟩ := h.records_eq hMark
  obtain ⟨found, hFound, hItem⟩ := hGives
  -- the record that gives the item is that of the text
  have hSame : record = found := by
    rw [hBody, List.getElem?_append_right (Nat.le_refl _), Nat.sub_self] at hFound
    exact Option.some.inj hFound
  rw [hBody, List.take_left, ← hSame] at hItem
  obtain ⟨later', hLater', hUnplaced⟩ := ready_initial.items_append_moved (records front) hMoved
  refine ⟨_, later', ?_, ?_, hUnplaced⟩
  · rw [itemsOf, hBody]
    exact ready_initial.items_append_cons hItem
  · rw [itemsOf, hWithout]
    exact hLater'

end OneRecord

/-- Without the record that is not UTF-8 in front of it, the mark is passed over, the hash behind it
starts an annotation, and two items more are missing. -/
example :
    let rest := [0xef, 0xbb, 0xbf, 35, 10, 44, 10, 44, 10]
    (itemsOf ([0xff, 10] ++ rest)).length = 3 ∧ (itemsOf rest).length = 1 := by
  decide +kernel

/-! ## Reading on -/

/-- **Reading never stops early, and errors do not spread.** A reader that is asked for items
until none comes gets to every record. In each of its states columns are known unless a header is expected,
so it is never stuck, and no item comes only where the records that are left describe tables, down to the
last one. A record that gives an item takes that item along when it is left out, and no other: those before
it stay, and so do those behind it, but for the places in errors. This holds of bodies, too, where every
record has octets of its own; only where these come first must no byte-order mark stand behind them. -/
theorem errors_do_not_spread :
    (∀ records : List (Except EncodingError Record),
        Yields initial records (initial.items records)) ∧
      (∀ before rest : List (Except EncodingError Record),
        ∃ reader, Reaches (before ++ rest) reader rest) ∧
      (∀ (records : List (Except EncodingError Record)) (reader : TableReader)
        (rest : List (Except EncodingError Record)), Reaches records reader rest →
          (reader.expectsHeader = false → reader.columns.isSome) ∧
            (∀ record, reader.read record ≠ .stuck) ∧
            (reader.next rest = none ↔ ∃ last, TakesIn reader rest last) ∧
            ∀ item after left, reader.next rest = some (item, after, left) →
              Reaches records after left) ∧
      (∀ (before : List (Except EncodingError Record)) (record : Except EncodingError Record)
        (after : List (Except EncodingError Record)) (reader : TableReader)
        (item : Except RowError Sample),
        Reaches (before ++ record :: after) reader (record :: after) →
        reader.read record = .item item →
          ∃ later,
            initial.items (before ++ record :: after) = initial.items before ++ item :: later ∧
            initial.items (before ++ after) = initial.items before ++ later ∧
            ∀ moved : List (Except EncodingError Record),
              moved.map unplacedRecord = after.map unplacedRecord →
                ∃ later', initial.items (before ++ moved) = initial.items before ++ later' ∧
                  later'.map unplacedItem = later.map unplacedItem) ∧
      (∀ (body : List UInt8) (n : Nat), n < (records body).length →
        ∃ front text rest, body = front ++ text ++ rest ∧ OneRecord front text rest ∧
          (records front).length = n) ∧
      ∀ (front text rest : List UInt8) (item : Except RowError Sample),
        OneRecord front text rest → (front ≠ [] ∨ ¬ Marked rest) →
        Gives (front ++ text ++ rest) (records front).length item →
          ∃ later later', itemsOf (front ++ text ++ rest) = itemsOf front ++ item :: later ∧
            itemsOf (front ++ rest) = itemsOf front ++ later' ∧
            later'.map unplacedItem = later.map unplacedItem := by
  refine ⟨yields_items initial, exists_reaches, fun records reader rest hReaches => ?_,
    fun before record after reader item hReaches hItem => ?_, fun body n => exists_oneRecord,
    fun front text rest item hOne hMark => hOne.itemsOf_eq hMark⟩
  · have hReady := hReaches.ready
    exact ⟨hReady, hReady.not_stuck, hReady.next_eq_none_iff, fun item after left => hReaches.next⟩
  · rw [hReaches.eq_after] at hItem
    exact ⟨_, ready_initial.items_append_cons hItem, ready_initial.items_append before,
      fun moved hMoved => ready_initial.items_append_moved before hMoved⟩

/-! ## A row without a number -/

/-- The columns of a sample. -/
def spoiltHeader : Record := ⟨1, ["", "_time", "_value", "_field", "host"]⟩

/-- A value that is no number. -/
def spoiltRow : Record := ⟨2, ["", "2024-05-02T09:00:00Z", "oops", "voltage", "a"]⟩

/-- Behind it stand one more error, a sample, and an error again. -/
def spoiltRest : List (Except EncodingError Record) :=
  [.error ⟨⟨2, 3, 63⟩, 0, 0⟩, .ok ⟨4, ["", "2024-05-02T09:00:01Z", "4", "voltage", "a"]⟩,
    .ok ⟨5, ["", "tomorrow", "1", "voltage", "a"]⟩]

/-- Behind the header. -/
def spoiltReader : TableReader := ⟨[], some (.samples 1 2 3 4), false⟩

/-- The header, as octets. -/
def spoiltFrontText : List UInt8 := bodyOf [10] [",_time,_value,_field,host"]

/-- The row, as octets. -/
def spoiltRowText : List UInt8 := bodyOf [10] [",2024-05-02T09:00:00Z,oops,voltage,a"]

/-- What stands behind it, as octets, of which one is not UTF-8. -/
def spoiltRestText : List UInt8 :=
  [0xff, 10] ++ bodyOf [10] [",2024-05-02T09:00:01Z,4,voltage,a", ",tomorrow,1,voltage,a"]

/-- The row can be left out, and its octets can: the error, the sample and the error behind it stay. -/
theorem spoiltRow_left_out :
    Reaches ([.ok spoiltHeader] ++ .ok spoiltRow :: spoiltRest) spoiltReader
        (.ok spoiltRow :: spoiltRest) ∧
      spoiltReader.columns.isSome ∧
      spoiltReader.next (.ok spoiltRow :: spoiltRest) =
        some (.error (.invalidValue 2 "oops"), spoiltReader, spoiltRest) ∧
      Reaches ([.ok spoiltHeader] ++ .ok spoiltRow :: spoiltRest) spoiltReader spoiltRest ∧
      spoiltReader.read (.ok spoiltRow) = .item (.error (.invalidValue 2 "oops")) ∧
      initial.items ([.ok spoiltHeader] ++ spoiltRest) =
        [.error (.encoding ⟨⟨2, 3, 63⟩, 0, 0⟩), .ok ⟨⟨1714640401, 0⟩, "a", .voltage, 4⟩,
          .error (.invalidTime 5 "tomorrow")] ∧
      OneRecord spoiltFrontText spoiltRowText spoiltRestText ∧ spoiltFrontText ≠ [] ∧
      Gives (spoiltFrontText ++ spoiltRowText ++ spoiltRestText) 1
        (.error (.invalidValue 2 "oops")) ∧
      (∃ front text rest,
        spoiltFrontText ++ spoiltRowText ++ spoiltRestText = front ++ text ++ rest ∧
          OneRecord front text rest ∧ (records front).length = 4) ∧
      (itemsOf (spoiltFrontText ++ spoiltRestText)).map unplacedItem =
        [.error (.encoding ⟨⟨0, 0, 0⟩, 0, 0⟩), .ok ⟨⟨1714640401, 0⟩, "a", .voltage, 4⟩,
          .error (.invalidTime 0 "tomorrow")] := by
  obtain ⟨-, -, hStates, hRecords, hOctets, hTexts⟩ := errors_do_not_spread
  have hHeaded : initial.headed spoiltHeader.cells = spoiltReader := by decide +kernel
  have hReaches : Reaches ([.ok spoiltHeader] ++ .ok spoiltRow :: spoiltRest) spoiltReader
      (.ok spoiltRow :: spoiltRest) := by
    refine Reaches.start.described ?_
    rw [read_header rfl rfl, hHeaded]
  have hFault : sampleOfRow [] (.samples 1 2 3 4) spoiltRow = .error (.invalidValue 2 "oops") := by
    decide +kernel
  have hItem : spoiltReader.read (.ok spoiltRow) = .item (.error (.invalidValue 2 "oops")) := by
    rw [read_data rfl (by simp [HeaderLike, spoiltRow]) rfl rfl, spoiltReader, hFault]
  have hNext : spoiltReader.next (.ok spoiltRow :: spoiltRest) =
      some (.error (.invalidValue 2 "oops"), spoiltReader, spoiltRest) := by
    rw [TableReader.next, hItem]
  obtain ⟨hColumns, -, -, hLeft⟩ := hStates _ _ _ hReaches
  -- the items with the row are known, and tell those without it
  have hItems : initial.items ([.ok spoiltHeader] ++ .ok spoiltRow :: spoiltRest) =
      [.error (.invalidValue 2 "oops"), .error (.encoding ⟨⟨2, 3, 63⟩, 0, 0⟩),
        .ok ⟨⟨1714640401, 0⟩, "a", .voltage, 4⟩, .error (.invalidTime 5 "tomorrow")] := by
    decide +kernel
  have hHeader : initial.items [.ok spoiltHeader] = [] := by decide +kernel
  obtain ⟨later, hWith, hWithout, -⟩ := hRecords _ _ _ _ _ hReaches hItem
  rw [hItems, hHeader] at hWith
  rw [hHeader, ← (List.cons.inj hWith).2] at hWithout
  -- and so with the octets
  have hBody : records (spoiltFrontText ++ spoiltRowText ++ spoiltRestText) =
      [.ok spoiltHeader] ++ .ok spoiltRow :: spoiltRest := by
    simp only [spoiltFrontText, spoiltRowText, spoiltRestText, bodyOf, List.map_cons, List.map_nil,
      Utf8.encode_eq]
    decide +kernel
  have hFront : records spoiltFrontText = [.ok spoiltHeader] := by
    simp only [spoiltFrontText, bodyOf, List.map_cons, List.map_nil, Utf8.encode_eq]
    decide +kernel
  have hBoth : records (spoiltFrontText ++ spoiltRowText) = [.ok spoiltHeader, .ok spoiltRow] := by
    simp only [spoiltFrontText, spoiltRowText, bodyOf, List.map_cons, List.map_nil, Utf8.encode_eq]
    decide +kernel
  have hOne : OneRecord spoiltFrontText spoiltRowText spoiltRestText := by
    refine ⟨?_, by rw [hBoth, hFront]; rfl, Or.inr ?_⟩
    all_goals
      simp only [spoiltFrontText, spoiltRowText, bodyOf, List.map_cons, List.map_nil, Utf8.encode_eq]
      decide +kernel
  have hNonempty : spoiltFrontText ≠ [] := by
    intro hNil
    rw [hNil] at hFront
    cases hFront
  have hGives : Gives (spoiltFrontText ++ spoiltRowText ++ spoiltRestText) 1
      (.error (.invalidValue 2 "oops")) := by
    refine ⟨.ok spoiltRow, by rw [hBody]; rfl, ?_⟩
    rw [hBody]
    have hReader := hReaches.eq_after
    exact hReader ▸ hItem
  obtain ⟨behind, behind', hAll, hRest, hPlaces⟩ :=
    hTexts _ _ _ _ hOne (Or.inl hNonempty) (by rw [hFront]; exact hGives)
  have hNothing : itemsOf spoiltFrontText = [] := by rw [itemsOf, hFront, hHeader]
  rw [itemsOf, hBody, hItems, hNothing] at hAll
  rw [hNothing, List.nil_append] at hRest
  refine ⟨hReaches, hColumns rfl, hNext, hLeft _ _ _ hNext, hItem, hWithout, hOne, hNonempty, hGives,
    hOctets _ 4 (by rw [hBody]; decide), ?_⟩
  rw [hRest, hPlaces, ← (List.cons.inj hAll).2]
  decide +kernel

end SolarCharts.Csv
