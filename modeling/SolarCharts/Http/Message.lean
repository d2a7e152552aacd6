import SolarCharts.Http.Url
import SolarCharts.Text.Base64
import SolarCharts.Text.Charset

/-!
# Requests and responses

A request is sent as it stands here, and a response comes back as octets that may end too early. The
user information of a URL is sent as a header of its own, before the others.
-/

namespace SolarCharts.Http

/-- A header. -/
structure Header where
  /-- Its name; case does not matter. -/
  name : String
  value : String
deriving DecidableEq

/-- The value of a header as the other side takes it: blanks around it do not count. -/
def Header.content (header : Header) : String :=
  let isBlank (c : Char) : Bool := c == ' ' || c == '\t'
  String.ofList (Text.dropEnd isBlank (header.value.toList.dropWhile isBlank))

/-- Whether a header has a name. -/
def Header.isNamed (name : String) (header : Header) : Bool :=
  header.name.toLower == name.toLower

/-- A request. -/
structure Request where
  method : String
  url : Url
  headers : List Header
  body : String
deriving DecidableEq

/-- The values of the headers of a name. -/
def Request.valuesOf (request : Request) (name : String) : List String :=
  (request.headers.filter (·.isNamed name)).map (·.content)

/-- A response. -/
structure Response where
  status : Nat
  headers : List Header
  body : List UInt8
  /-- Whether the body came to its end. -/
  isComplete : Bool
deriving DecidableEq

/-- Why there is no response, or none that can be read. -/
inductive TransportError where
  /-- The text is no URL that a request can be sent to. -/
  | badUrl
  /-- A header would hold a character that headers cannot hold. -/
  | badHeader
  | unreachable
  | cutShort
deriving DecidableEq

/-- What a failed exchange is reported as. -/
def TransportError.message : TransportError → String
  | .badUrl => "builder error"
  | .badHeader => "builder error: failed to parse header value"
  | .unreachable => "error sending request"
  | .cutShort => "error decoding response body"

/-- Whether a text can be the value of a header. -/
def isHeaderValue (text : String) : Bool :=
  text.toList.all fun c => c == '\t' || (32 ≤ c.toNat && c.toNat ≠ 127)

/-- The header that carries the user information of a URL, if it has some that makes a text. -/
def Url.authorization? (url : Url) : Option Header :=
  if url.user.isEmpty ∧ url.password.isNone then none
  else
    match Utf8.decode? (percentDecode url.user) with
    | .error _ => none
    | .ok user =>
      -- a password that makes no text counts as none
      let password :=
        match url.password.map fun password => Utf8.decode? (percentDecode password) with
        | some (.ok password) => password
        | _ => ""
      some
        ⟨"authorization", "Basic " ++
          String.ofList (Text.base64 (Utf8.encode (user ++ ":" ++ password)))⟩

namespace Response

/-- Whether the request succeeded. -/
def isSuccess (response : Response) : Bool := 200 ≤ response.status && response.status < 300

/-- Whether a status comes without a body. -/
def isBodiless (status : Nat) : Bool := status == 204 || status == 304

/-- The first value of a header. -/
def header? (response : Response) (name : String) : Option String :=
  (response.headers.find? (·.isNamed name)).map (·.content)

/-- The text of the body, if it came to its end. -/
def text? (response : Response) : Option String :=
  if isBodiless response.status then some ""
  else if response.isComplete then
    some (Text.decodeAs (response.header? "content-type") response.body)
  else none

end Response

end SolarCharts.Http
