import SolarCharts.Csv.Record
import SolarCharts.Decimal
import SolarCharts.Sample
import SolarCharts.Text.Quoted
import SolarCharts.Time.Timestamp

/-!
# Tables of annotated values

A response of the store is a sequence of tables. Rows whose first cell starts with `#` annotate the
table that follows: `#datatype` opens it and forgets the defaults of the one before, `#default` gives
what an empty or missing cell stands for. The next row is the header, which names the columns, and the
rows after it are data until another annotation or a row that looks like a header itself.

A `TableReader` is what has to be remembered between rows. `TableReader.read` takes one record, and
`next` and `items` take the records of a whole response: each data row and each record that is not
UTF-8 gives one item, a sample or an error, and reading goes on after an error.
-/

namespace SolarCharts.Csv

/-! ## Columns -/

/-- A column that a table of samples must have. -/
inductive Column where
  | time
  | value
  | field
  | host
deriving DecidableEq

/-- The name of a column in a header. -/
def Column.name : Column → String
  | .time => "_time"
  | .value => "_value"
  | .field => "_field"
  | .host => "host"

/-- The places of the columns of one table. -/
inductive Columns where
  /-- A table of samples. -/
  | samples (time value field host : Nat)
  /-- A table that reports an error, and the place of its text. -/
  | error (text : Nat)
  /-- A table that lacks a column. -/
  | missing (column : Column)
deriving DecidableEq

/-- The first place of a name among the cells of a header. -/
def place? (header : List String) (name : String) : Option Nat := header.idxOf? name

/-- The first place of a column, or that it is missing. -/
def placeOf (header : List String) (column : Column) : Except Column Nat :=
  match place? header column.name with
  | some place => .ok place
  | none => .error column

/-- The columns of a table of samples, or the first that is missing. -/
def sampleColumns (header : List String) : Except Column Columns := do
  let time ← placeOf header .time
  let value ← placeOf header .value
  let field ← placeOf header .field
  let host ← placeOf header .host
  return .samples time value field host

/-- The columns that a header names. -/
def Columns.ofHeader (header : List String) : Columns :=
  -- a table that has values is one of samples, whatever its other columns are
  match place? header "error", place? header Column.value.name with
  | some text, none => .error text
  | _, _ =>
    match sampleColumns header with
    | .ok columns => columns
    | .error column => .missing column

/-- Whether a record outside a table is taken for the header of one. -/
def looksLikeHeader (cells : List String) : Bool :=
  (cells.contains "result" && cells.contains "table")
    || (cells.contains "error" && cells.contains "reference")

/-! ## Rows -/

/-- Why a row gives no sample. -/
inductive RowError where
  | query (text : String)
  | encoding (error : EncodingError)
  | missingColumn (column : Column)
  | invalidTime (line : Nat) (text : String)
  | invalidValue (line : Nat) (text : String)
deriving DecidableEq

/-- What an error of a row is reported as. -/
def RowError.message : RowError → String
  | .query text => "Query error: " ++ text
  | .encoding error => "Malformed CSV response: " ++ error.message
  | .missingColumn column => "Column " ++ column.name ++ " missing from result table"
  | .invalidTime line text =>
    "Invalid timestamp at line " ++ toString line ++ ": " ++ Text.quoted text
  | .invalidValue line text =>
    "Invalid value at line " ++ toString line ++ ": " ++ Text.quoted text

/-- The cell at a place; the default of that place for one that is empty or missing. -/
def cellAt (defaults cells : List String) (place : Nat) : String :=
  match cells[place]? with
  | some cell => if cell = "" then defaults[place]?.getD "" else cell
  | none => defaults[place]?.getD ""

/-- The sample that a data row gives. -/
def sampleOfRow (defaults : List String) (columns : Columns) (row : Record) :
    Except RowError Sample :=
  match columns with
  | .error text => .error (.query (cellAt defaults row.cells text))
  | .missing column => .error (.missingColumn column)
  | .samples time value field host =>
    let timeText := cellAt defaults row.cells time
    match Timestamp.ofText? timeText with
    | none => .error (.invalidTime row.line timeText)
    | some instant =>
      let valueText := cellAt defaults row.cells value
      match floatOfText? valueText with
      | none => .error (.invalidValue row.line valueText)
      | some number =>
        .ok
          { time := instant
            host := cellAt defaults row.cells host
            field := .ofName (cellAt defaults row.cells field)
            value := number }

/-! ## Reading -/

/-- What is remembered between the rows of a response. -/
structure TableReader where
  /-- What the empty cells of the current table stand for. -/
  defaults : List String
  /-- The columns of the current table, once a header has named them. -/
  columns : Option Columns
  /-- Whether the next row that is no annotation is a header. -/
  expectsHeader : Bool
deriving DecidableEq

/-- What reading one record comes to. -/
inductive Reading where
  /-- The record describes a table. -/
  | described (reader : TableReader)
  /-- The record gives an item. -/
  | item (result : Except RowError Sample)
  /-- A data row stands where no column is known. -/
  | stuck

namespace TableReader

/-- Before the first record. -/
def initial : TableReader := { defaults := [], columns := none, expectsHeader := true }

/-- Takes a row that annotates the table that follows. -/
def annotated (reader : TableReader) (kind : String) (cells : List String) : TableReader :=
  { reader with
    defaults :=
      if kind = "#datatype" then []
      else if kind = "#default" then cells
      else reader.defaults
    expectsHeader := true }

/-- Takes a row that names the columns of a table. -/
def headed (reader : TableReader) (cells : List String) : TableReader :=
  { reader with columns := some (.ofHeader cells), expectsHeader := false }

/-- Whether a row annotates the table that follows. -/
def isAnnotating (cells : List String) : Bool := (cells.headD "").toList.head? == some '#'

/-- Takes one record. -/
def read (reader : TableReader) (record : Except EncodingError Record) : Reading :=
  match record with
  | .error e => .item (.error (.encoding e))
  | .ok row =>
    if isAnnotating row.cells then
      .described (reader.annotated (row.cells.headD "") row.cells)
    -- a header need not have annotations before it
    else if reader.expectsHeader || looksLikeHeader row.cells then
      .described (reader.headed row.cells)
    else
      match reader.columns with
      | none => .stuck
      | some columns => .item (sampleOfRow reader.defaults columns row)

/-- The next item of some records, with the reader and the records after it. -/
def next (reader : TableReader) :
    List (Except EncodingError Record) →
      Option (Except RowError Sample × TableReader × List (Except EncodingError Record))
  | [] => none
  | record :: rest =>
    match reader.read record with
    | .described reader => next reader rest
    | .item result => some (result, reader, rest)
    | .stuck => none

/-- The items of some records. -/
def items (reader : TableReader) :
    List (Except EncodingError Record) → List (Except RowError Sample)
  | [] => []
  | record :: rest =>
    match reader.read record with
    | .described reader => items reader rest
    | .item result => result :: items reader rest
    | .stuck => []

end TableReader

/-- The items of a response, given as octets. -/
def itemsOf (octets : List UInt8) : List (Except RowError Sample) :=
  TableReader.initial.items (records octets)

/-- All the samples of a response, or its first error. -/
def collect : List (Except RowError Sample) → Except RowError (List Sample)
  | [] => .ok []
  | .error e :: _ => .error e
  | .ok sample :: rest => (collect rest).map (sample :: ·)

/-- All the samples of a response, or its first error. -/
def samplesOf (text : String) : Except RowError (List Sample) := collect (itemsOf (Utf8.encode text))

end SolarCharts.Csv
