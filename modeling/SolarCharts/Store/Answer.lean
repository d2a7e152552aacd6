import SolarCharts.Csv.Table
import SolarCharts.Store.Connection

/-!
# Answers

What the response to a query comes to. A successful one is tables of samples, and one row that gives
no sample makes the whole answer an error. Any other response gives the message that its body holds,
or the whole body where it holds none.
-/

namespace SolarCharts.Store

open Json (Value)

/-! ## Messages in bodies -/

/-- The message of an object: its only string of that name, beside entries of any other name. -/
def messageOfEntries? (entries : List (List Nat × Value)) : Option String := do
  let named : List (String × Value) ←
    entries.mapM fun (name, value) => (Json.textOf? name).map (·, value)
  match named.filter (·.1 == "message") with
  | [(_, .string units)] => Json.textOf? units
  | _ => none

/-- The message that a value holds: that of an object, or the only element of an array. -/
def messageOfValue? : Value → Option String
  | .object entries => messageOfEntries? entries
  | .array [.string units] => Json.textOf? units
  | _ => none

/-- The message that a body holds; the body itself if it holds none. -/
def messageOf (body : String) : String :=
  ((Json.valueOf? body).bind messageOfValue?).getD body

/-! ## Errors -/

/-- Why a query gives no samples. -/
inductive QueryError where
  /-- There is no response, or none that can be read. -/
  | transport (error : Http.TransportError)
  /-- The store refuses the query. -/
  | http (status : Nat) (message : String)
  /-- A row gives no sample. -/
  | row (error : Csv.RowError)
deriving DecidableEq

/-- What a query that gives no samples is reported as. -/
def QueryError.message : QueryError → String
  | .transport error => "Request to InfluxDB failed: " ++ error.message
  | .http status message => "HTTP Error " ++ toString status ++ ": " ++ message
  | .row error => error.message

/-! ## Reading -/

/-- What stands for the body of a refusal that cannot be read. -/
def unreadableBody : String := "Failed to read error body"

/-- The text that a response gives. -/
def textOf (response : Http.Response) : Except QueryError String :=
  if response.isSuccess then
    match response.text? with
    | some text => .ok text
    | none => .error (.transport .cutShort)
  else
    .error (.http response.status (messageOf (response.text?.getD unreadableBody)))

/-- What came back for a request. -/
abbrev Received := Except Http.TransportError Http.Response

/-- The text that came back. -/
def Received.text (received : Received) : Except QueryError String :=
  match received with
  | .error e => .error (.transport e)
  | .ok response => textOf response

/-- The samples that came back. -/
def Received.samples (received : Received) : Except QueryError (List Sample) :=
  match received.text with
  | .error e => .error e
  | .ok text => (Csv.samplesOf text).mapError .row

end SolarCharts.Store
