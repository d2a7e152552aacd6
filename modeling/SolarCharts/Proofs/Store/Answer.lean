import SolarCharts.Proofs.Csv.Faults
import SolarCharts.Proofs.Text.Utf8
import SolarCharts.Run

/-!
# No partial results

A response that succeeds and carries a text is read as a whole: a query gives the samples of all its
rows, or else the first error among them, however many good rows stand around it. So it fails
wherever a table that lacks a column has a row.

* `samples_eq_collect` — what a query comes to is told by the items of the body alone.
* `query_samples_or_first_error` — the law itself, for the samples of a query and for the hosts that
  they are grouped by, with the tables that report errors or lack a column.
-/

namespace SolarCharts

/-! ## Records of a text -/

namespace Csv

/-- The UTF-8 of texts is read as these texts. -/
theorem decodeCells_encode (cells : List String) :
    decodeCells (cells.map Utf8.encode) = .ok cells := by
  induction cells with
  | nil => rfl
  | cons cell cells ih => rw [List.map_cons, decodeCells, Utf8.decode?_encode, ih]

/-- Records whose cells are the UTF-8 of texts are read as these texts. -/
theorem records_of_cells {octets : List UInt8} {rows : List Record}
    (h : (rawRecords octets).map (fun raw => (raw.position.line, raw.cells)) =
      rows.map fun row => (row.line, row.cells.map Utf8.encode)) :
    records octets = rows.map .ok := by
  unfold records
  -- only lines and cells count from here, wherever the records stand
  generalize rawRecords octets = raws at h
  induction rows generalizing raws with
  | nil =>
    rw [List.map_nil, List.map_eq_nil_iff] at h
    rw [h, List.map_nil, List.map_nil]
  | cons row rows ih =>
    cases raws with
    | nil => cases h
    | cons raw raws =>
      obtain ⟨hRaw, hRest⟩ := List.cons.inj h
      obtain ⟨hLine, hCells⟩ := Prod.mk.inj hRaw
      rw [List.map_cons, List.map_cons, ih raws hRest, RawRecord.decode, hCells, decodeCells_encode]
      simp only [hLine]

end Csv

/-! ## Queries -/

/-- A response that succeeds and whose whole body is the UTF-8 of a text, without a byte-order mark
and with no other charset told. -/
structure Http.Response.Carries (response : Http.Response) (text : String) : Prop where
  success : response.isSuccess = true
  complete : response.isComplete = true
  body : response.body = Utf8.encode text
  /-- A status that comes without a body carries nothing. -/
  bodiless : Http.Response.isBodiless response.status = true → text = ""
  unmarked : Text.Charset.ofMark? response.body = none
  charset : Text.charsetFor (response.header? "content-type") = .utf8

namespace Store

open Csv (RowError FaultyTable)

variable {response : Http.Response} {text : String}

/-- The text of a response is the one that it carries. -/
theorem text?_of_carries (h : response.Carries text) : response.text? = some text := by
  unfold Http.Response.text?
  -- some statuses come without a body, and then the text is empty
  by_cases hBodiless : Http.Response.isBodiless response.status = true
  · rw [if_pos hBodiless, h.bodiless hBodiless]
  · rw [if_neg hBodiless, if_pos h.complete, Text.decodeAs, h.unmarked, h.charset, h.body]
    exact congrArg some (Utf8.decodeLossy_encode text)

/-- The text of a body is read by its octets, so nothing is lost or replaced on the way. -/
theorem samples_eq_collect (h : response.Carries text) :
    Received.samples (.ok response) =
      (Csv.collect (Csv.itemsOf response.body)).mapError .row := by
  have hText : Received.text (.ok response) = .ok text := by
    rw [Received.text, textOf, if_pos h.success, text?_of_carries h]
  rw [Received.samples, hText, h.body]
  rfl

/-- A query gives samples exactly where every item of the body is one. -/
theorem samples_eq_ok_iff (h : response.Carries text) (samples : List Sample) :
    Received.samples (.ok response) = .ok samples ↔
      Csv.itemsOf response.body = samples.map .ok := by
  rw [samples_eq_collect h, ← Csv.collect_eq_ok_iff]
  cases Csv.collect (Csv.itemsOf response.body) <;> simp [Except.mapError]

/-- It fails with the first item that is none. -/
theorem samples_eq_error_iff (h : response.Carries text) (e : QueryError) :
    Received.samples (.ok response) = .error e ↔
      ∃ (samples : List Sample) (fault : RowError) (rest : _),
        Csv.itemsOf response.body = samples.map .ok ++ .error fault :: rest ∧ e = .row fault := by
  rw [samples_eq_collect h]
  constructor
  · intro hError
    cases hCollect : Csv.collect (Csv.itemsOf response.body) with
    | ok samples => simp [hCollect, Except.mapError] at hError
    | error fault =>
      rw [hCollect] at hError
      obtain ⟨samples, rest, hItems⟩ := Csv.collect_eq_error_iff.mp hCollect
      exact ⟨samples, fault, rest, hItems, (Except.error.inj hError).symm⟩
  · rintro ⟨samples, fault, rest, hItems, rfl⟩
    rw [hItems, Csv.collect_first_error]
    rfl

/-- Where a table that lacks a column has a row, the body has an error, and the first one is that of the
table if nothing above it fails. -/
theorem samples_of_faultyTable (h : response.Carries text) {table : FaultyTable}
    {before after : List (Except Csv.EncodingError Csv.Record)}
    (hBody : Csv.records response.body = before ++ table.records ++ after)
    (hIntroduced : table.Introduced before) :
    ∃ fault, Received.samples (.ok response) = .error (.row fault) ∧
      ((∀ item ∈ Csv.TableReader.initial.items (before ++ table.head), item.isOk = true) →
        table.Reports fault) := by
  obtain ⟨fault, rest, hReports, hItems⟩ := FaultyTable.items_eq after hIntroduced
  rw [← hBody] at hItems
  rcases Csv.samples_or_first_error (Csv.TableReader.initial.items (before ++ table.head))
    with ⟨samples, hAbove⟩ | ⟨samples, first, others, hAbove⟩
  · refine ⟨fault, (samples_eq_error_iff h _).mpr ⟨samples, fault, rest, ?_, rfl⟩, fun _ => hReports⟩
    rw [Csv.itemsOf, hItems, hAbove]
  · refine ⟨first, (samples_eq_error_iff h _).mpr
      ⟨samples, first, others ++ .error fault :: rest, ?_, rfl⟩, ?_⟩
    · rw [Csv.itemsOf, hItems, hAbove, List.append_assoc, List.cons_append]
    · intro hAll
      -- something above fails, so the rows above are not all samples
      have hFirst : Except.isOk (Except.error first : Except RowError Sample) = true :=
        hAll _ (by simp [hAbove])
      cases hFirst

/-- **All samples or the first error.** A query for which a response carries a text gives samples exactly
when every item of the body is one, and then all of them in the order of the body; otherwise it fails
with the first item that is none. The hosts of a run are those samples by host, and fail alike. A table
that lacks a column, and has a data row, makes the query fail wherever it stands, and with what that row
reports unless something above it fails. -/
theorem query_samples_or_first_error (query : Flux.Query) (connection : Connection)
    (h : response.Carries text) :
    (∀ samples, Received.samples (.ok response) = .ok samples ↔
        Csv.itemsOf response.body = samples.map .ok) ∧
      (∀ e, Received.samples (.ok response) = .error e ↔
        ∃ (samples : List Sample) (fault : RowError) (rest : _),
          Csv.itemsOf response.body = samples.map .ok ++ .error fault :: rest ∧ e = .row fault) ∧
      hostsIn query connection (.ok response) =
        ((Received.samples (.ok response)).map HostSeries.ofList).mapError
          (.fetch query connection.baseUrl) ∧
      ∀ (table : FaultyTable) (before after : List (Except Csv.EncodingError Csv.Record)),
        Csv.records response.body = before ++ table.records ++ after → table.Introduced before →
          ∃ fault, Received.samples (.ok response) = .error (.row fault) ∧
            ((∀ item ∈ Csv.TableReader.initial.items (before ++ table.head), item.isOk = true) →
              table.Reports fault) := by
  refine ⟨samples_eq_ok_iff h, samples_eq_error_iff h, ?_, ?_⟩
  · unfold hostsIn
    cases Received.samples (.ok response) <;> rfl
  · intro table before after hBody hIntroduced
    exact samples_of_faultyTable h hBody hIntroduced

/-! ## An error behind good rows -/

/-- A sample, and an error that the store came upon later. -/
def lateText : String :=
  "#datatype,string,long,dateTime:RFC3339,double,string,string\n"
    ++ ",result,table,_time,_value,_field,host\n,,0,2024-05-02T09:00:00Z,17.5,voltage,ttgo1\n\n"
    ++ ",error,reference\n,memory limit exceeded,897\n"

/-- A response that succeeds and carries that text. -/
def lateResponse : Http.Response where
  status := 200
  headers := []
  body := Utf8.encode lateText
  isComplete := true

/-- The error of the store: a table that lacks the columns of a sample, with one row. -/
def lateTable : FaultyTable where
  annotations := []
  header := ⟨4, ["", "error", "reference"]⟩
  above := []
  row := ⟨6, ["", "memory limit exceeded", "897"]⟩
  annotations_annotate := by decide
  header_plain := by decide
  lacks := ⟨.value, by decide⟩
  above_rows := fun _ hRow => nomatch hRow
  row_first := rfl
  row_data := by
    rw [← Csv.TableReader.looksLikeHeader_iff]
    decide

/-- The table in front of it. -/
def earlyRows : List Csv.Record :=
  [ ⟨1, ["#datatype", "string", "long", "dateTime:RFC3339", "double", "string", "string"]⟩,
    ⟨2, ["", "result", "table", "_time", "_value", "_field", "host"]⟩,
    ⟨3, ["", "", "0", "2024-05-02T09:00:00Z", "17.5", "voltage", "ttgo1"]⟩ ]

/-- The sample is not given: the query fails with the cell of the error. -/
theorem query_fails_late :
    lateResponse.Carries lateText ∧
      Received.samples (.ok lateResponse) = .error (.row (.query "memory limit exceeded")) := by
  have hCarries : lateResponse.Carries lateText :=
    { success := by decide
      complete := rfl
      body := rfl
      bodiless := by decide
      unmarked := by decide +kernel
      charset := by decide +kernel }
  have hBody : Csv.records lateResponse.body = earlyRows.map .ok ++ lateTable.records ++ [] := by
    have hRecords : Csv.records lateResponse.body =
        (earlyRows ++ [lateTable.header, lateTable.row]).map .ok := by
      apply Csv.records_of_cells
      simp only [lateResponse, Utf8.encode_eq]
      decide +kernel
    rw [hRecords]
    rfl
  have hLaw := query_samples_or_first_error (Flux.Query.new "rooftop" "mppt")
    ⟨"http://localhost:8086", "home", "secret", ⟨0⟩⟩ hCarries
  -- an empty line is passed over, and the header behind it names no value
  obtain ⟨fault, hFault, hReports⟩ :=
    hLaw.2.2.2 lateTable _ _ hBody (Or.inr (Or.inr (Or.inr (by decide))))
  refine ⟨hCarries, ?_⟩
  cases hReports (by decide +kernel) with
  | query hError hValue hText =>
    rw [hFault, hText "memory limit exceeded" rfl (by decide)]
  | missing hOther hColumn => exact absurd hOther (by decide)

end Store

end SolarCharts
