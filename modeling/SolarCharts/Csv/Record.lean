import SolarCharts.Text.Utf8

/-!
# Records of comma-separated values

Octets are cut into records and records into cells, one octet at a time. A comma ends a cell, and a
carriage return or a line feed ends a record; a line with nothing in it is no record. A double quote
opens a quoted cell only where a cell begins, a doubled one stands for itself inside it, and what
follows the closing quote is taken as it is. A cell still open at the end of the octets ends there.

A record knows where it stands: how many records come before it, and how many octets and line feeds
were read before it. A line feed that follows a carriage return belongs to what comes next, and so do
the empty lines before a record.
-/

namespace SolarCharts.Csv

/-! ## Cutting octets into records -/

/-- Where a record stands. -/
structure Position where
  /-- How many records come before it. -/
  record : Nat
  /-- One more than the line feeds read before it. -/
  line : Nat
  /-- How many octets were read before it. -/
  byte : Nat
deriving DecidableEq

/-- A record before its cells are decoded. -/
structure RawRecord where
  position : Position
  /-- The octets of its cells. -/
  cells : List (List UInt8)

/-- What the next octet may be. -/
inductive Mode where
  /-- The start of a record or an empty line. -/
  | recordStart
  /-- The start of a cell after a comma. -/
  | cellStart
  /-- More of a cell, or its end. -/
  | plain
  /-- More of a quoted cell. -/
  | quoted
  /-- What follows a double quote in a quoted cell. -/
  | afterQuote
deriving DecidableEq

/-- How far the cutting has come. -/
structure Scan where
  /-- What the next octet may be. -/
  mode : Mode
  /-- The octets of the open cell, the last one first. -/
  cell : List UInt8
  /-- The closed cells of the open record, the last one first. -/
  cells : List (List UInt8)
  /-- Where the open record stands. -/
  start : Position
  /-- One more than the line feeds read so far. -/
  line : Nat
  /-- The octets read so far. -/
  byte : Nat

namespace Scan

/-- Before a text whose first octets, so many of them, are passed over. -/
def initial (skipped : Nat) : Scan :=
  { mode := .recordStart, cell := [], cells := [], start := ⟨0, 1, 0⟩, line := 1, byte := skipped }

/-- The cells of the open record, the open one among them. -/
def allCells (s : Scan) : List (List UInt8) := (s.cell.reverse :: s.cells).reverse

/-- The open record. -/
def record (s : Scan) : RawRecord := ⟨s.start, s.allCells⟩

/-- One octet further. -/
def advance (s : Scan) (b : UInt8) : Scan :=
  { s with line := if b = 10 then s.line + 1 else s.line, byte := s.byte + 1 }

/-- Adds an octet to the open cell. -/
def put (s : Scan) (mode : Mode) (b : UInt8) : Scan := { s with mode, cell := b :: s.cell }

/-- Closes the open cell. -/
def closeCell (s : Scan) : Scan :=
  { s with mode := .cellStart, cell := [], cells := s.cell.reverse :: s.cells }

/-- Closes the open record; the next one starts here. -/
def closeRecord (s : Scan) : Scan :=
  { s with
    mode := .recordStart, cell := [], cells := []
    start := ⟨s.start.record + 1, s.line, s.byte⟩ }

/-- Whether an octet ends a record. -/
def endsRecord (b : UInt8) : Bool := b == 10 || b == 13

/-- What an octet outside quotes does, and the record that it ends. -/
def unquoted (s : Scan) (b : UInt8) : Scan × Option RawRecord :=
  if b = 44 then (s.closeCell, none)
  else if endsRecord b then (s.closeRecord, some s.record)
  else (s.put .plain b, none)

/-- What an octet does, and the record that it ends. -/
def step (s : Scan) (b : UInt8) : Scan × Option RawRecord :=
  let s := s.advance b
  match s.mode with
  | .recordStart =>
    -- an empty line is no record, and what follows it still counts from the same place
    if endsRecord b then (s, none)
    else if b = 34 then ({ s with mode := .quoted }, none)
    else s.unquoted b
  -- a double quote opens a quoted cell only here and above
  | .cellStart => if b = 34 then ({ s with mode := .quoted }, none) else s.unquoted b
  | .plain => s.unquoted b
  | .quoted =>
    if b = 34 then ({ s with mode := .afterQuote }, none) else (s.put .quoted b, none)
  -- a doubled quote stands for itself; after a lone one the cell goes on without quotes
  | .afterQuote => if b = 34 then (s.put .quoted b, none) else s.unquoted b

/-- The record that the end of the octets ends. -/
def finish (s : Scan) : Option RawRecord :=
  if s.mode = .recordStart then none else some s.record

/-- The records that some octets complete. -/
def run (s : Scan) : List UInt8 → List RawRecord
  | [] => s.finish.toList
  | b :: rest => (s.step b).2.toList ++ run (s.step b).1 rest

end Scan

/-- The records of some octets; a byte-order mark at the very start is passed over. -/
def rawRecords : List UInt8 → List RawRecord
  | 0xef :: 0xbb :: 0xbf :: rest => (Scan.initial 3).run rest
  | octets => (Scan.initial 0).run octets

/-! ## Decoding cells -/

/-- A record whose cells are not all UTF-8. -/
structure EncodingError where
  position : Position
  /-- How many cells come before the first that is not UTF-8. -/
  cell : Nat
  /-- How many octets of that cell come before the first that encode nothing. -/
  valid : Nat
deriving DecidableEq

/-- What a record that is not UTF-8 is reported as. -/
def EncodingError.message (e : EncodingError) : String :=
  "CSV parse error: record " ++ toString e.position.record ++ " (line " ++ toString e.position.line
    ++ ", field: " ++ toString e.cell ++ ", byte: " ++ toString e.position.byte
    ++ "): invalid utf-8: invalid UTF-8 in field " ++ toString e.cell ++ " near byte index "
    ++ toString e.valid

/-- A record. -/
structure Record where
  /-- One more than the line feeds read before it. -/
  line : Nat
  cells : List String
deriving DecidableEq

/-- The texts of some cells, or the place of the first that is not UTF-8 and how many of its octets
are. -/
def decodeCells : List (List UInt8) → Except (Nat × Nat) (List String)
  | [] => .ok []
  | octets :: rest =>
    match Utf8.decode? octets with
    | .error valid => .error (0, valid)
    | .ok text =>
      match decodeCells rest with
      | .error (cell, valid) => .error (cell + 1, valid)
      | .ok texts => .ok (text :: texts)

/-- Decodes the cells of a record. -/
def RawRecord.decode (raw : RawRecord) : Except EncodingError Record :=
  match decodeCells raw.cells with
  | .ok cells => .ok ⟨raw.position.line, cells⟩
  | .error (cell, valid) => .error ⟨raw.position, cell, valid⟩

/-- The records of some octets. -/
def records (octets : List UInt8) : List (Except EncodingError Record) :=
  (rawRecords octets).map RawRecord.decode

end SolarCharts.Csv
