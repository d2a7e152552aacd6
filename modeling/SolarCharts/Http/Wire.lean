import SolarCharts.Http.Message

/-!
# Messages as octets

How a request is written onto a connection and how a response is read back once the server has closed
it. A body is as long as the response says; one in chunks ends with an empty chunk, and one of no
stated length with the connection.
-/

namespace SolarCharts.Http

/-! ## Requests -/

/-- The server of a URL, with its service number when it is not the scheme's own. -/
def Url.authority (url : Url) : String :=
  if url.service = url.scheme.defaultService then url.host
  else url.host ++ ":" ++ toString url.service

/-- A header as a line. -/
def Header.line (header : Header) : String := header.name ++ ": " ++ header.value ++ "\r\n"

/-- The headers that a connection adds to those of a request. -/
def Request.framing (request : Request) : List Header :=
  [ ⟨"host", request.url.authority⟩, ⟨"content-length", toString request.body.utf8ByteSize⟩,
    ⟨"connection", "close"⟩ ]

/-- A request as octets. -/
def Request.octets (request : Request) : List UInt8 :=
  Utf8.encode <|
    request.method ++ " " ++ request.url.target ++ " HTTP/1.1\r\n"
      ++ String.join ((request.framing ++ request.headers).map (·.line)) ++ "\r\n" ++ request.body

/-! ## Responses -/

/-- The first line of some octets, without its end, and what follows it; nothing when no line ends. -/
def takeLine? : List UInt8 → Option (List UInt8 × List UInt8)
  | [] => none
  | 13 :: 10 :: rest => some ([], rest)
  | b :: rest =>
    if b = 10 then some ([], rest)
    else (takeLine? rest).map fun (line, rest) => (b :: line, rest)

/-- The lines before the first empty one, and what follows that one. -/
def takeHead? : Nat → List UInt8 → Option (List (List UInt8) × List UInt8)
  | 0, _ => none
  | fuel + 1, octets =>
    match takeLine? octets with
    | none => none
    | some ([], rest) => some ([], rest)
    | some (line, rest) => (takeHead? fuel rest).map fun (lines, rest) => (line :: lines, rest)

/-- The header of a line. -/
def Header.ofLine (line : List UInt8) : Header :=
  let text := (Utf8.decodeLossy line).toList
  let name := text.takeWhile (· ≠ ':')
  ⟨String.ofList name, String.ofList (text.drop (name.length + 1))⟩

/-- The status in the first line of a response. -/
def statusOf? (line : List UInt8) : Option Nat :=
  match Text.splitAt ' ' (Utf8.decodeLossy line).toList with
  | _ :: status :: _ => if status.all Char.isDigit then some (Text.decimalOf status) else none
  | _ => none

/-- The size of a chunk, from the line before it. -/
def chunkSize (line : List UInt8) : Nat :=
  ((Utf8.decodeLossy line).toList.takeWhile Text.isHexDigit).foldl
    (fun size c => 16 * size + (Text.hexValue? c).getD 0) 0

/-- The octets of a body in chunks, and whether the empty chunk came. -/
def unchunked : Nat → List UInt8 → List UInt8 × Bool
  | 0, _ => ([], false)
  | fuel + 1, octets =>
    match takeLine? octets with
    | none => ([], false)
    | some (line, rest) =>
      -- the line end after a chunk is no part of it
      let size := chunkSize line
      if size = 0 then ([], true)
      else
        let (others, isComplete) := unchunked fuel ((rest.drop size).drop 2)
        (rest.take size ++ others, isComplete && decide (size ≤ rest.length))

/-- The body that some octets after the headers hold, and whether it came to its end. -/
def bodyOf (headers : List Header) (octets : List UInt8) : List UInt8 × Bool :=
  let value? (name : String) := (headers.find? (·.isNamed name)).map (·.content)
  -- chunks settle the length whatever else is said about it
  if (value? "transfer-encoding").map String.toLower = some "chunked" then
    unchunked (octets.length + 1) octets
  else
    match value? "content-length" with
    | some size =>
      let size := Text.decimalOf size.toList
      (octets.take size, decide (size ≤ octets.length))
    | none => (octets, true)

/-- The response that some octets hold. -/
def Response.ofOctets? (octets : List UInt8) : Option Response := do
  let (lines, rest) ← takeHead? (octets.length + 1) octets
  match lines with
  | [] => none
  | first :: lines =>
    let status ← statusOf? first
    let headers := lines.map Header.ofLine
    let (body, isComplete) := bodyOf headers rest
    return { status, headers, body, isComplete }

end SolarCharts.Http
