import SolarCharts.Http.Percent
import SolarCharts.Text.Split

/-!
# URLs

A URL is read leniently, as browsers do. Blanks and controls before it do not count, nor do line
ends and tabs within it; a backslash is a slash, and any number of slashes may stand before the
host. What may not stand for itself is percent-encoded, and the path has no dots that stay or go up.
Only `http` and `https` are known.

A fragment is dropped, since it is never sent.
-/

namespace SolarCharts.Http

/-- How a server is spoken to. -/
inductive Scheme where
  | http
  | https
deriving DecidableEq

/-- The service number of a scheme when none is named. -/
def Scheme.defaultService : Scheme → Nat
  | .http => 80
  | .https => 443

/-- A URL. -/
structure Url where
  scheme : Scheme
  /-- The name that the request is made in, as it was written, when one is given. -/
  user : List Char
  /-- The password, as it was written, when one is given. -/
  password : Option (List Char)
  host : String
  /-- The number of the service on that server. -/
  service : Nat
  path : String
  /-- The query, encoded, if there is a question mark. -/
  query : Option String
deriving DecidableEq

namespace Url

/-! ## Parts -/

/-- The characters before the first of a class, and the rest. -/
def upTo (stop : Char → Bool) (text : List Char) : List Char × List Char :=
  (text.takeWhile fun c => !stop c, text.dropWhile fun c => !stop c)

/-- Whether a character separates the parts of a path. -/
def isSlash (c : Char) : Bool := c == '/' || c == '\\'

/-- The scheme at the start of a text, and what follows its colon. -/
def scheme? (text : List Char) : Option (Scheme × List Char) :=
  let (name, rest) := upTo (· == ':') text
  match rest with
  | [] => none
  | _ :: rest =>
    match (String.ofList name).toLower with
    | "http" => some (.http, rest)
    | "https" => some (.https, rest)
    | _ => none

/-- The user information before the last at sign, if there is one, and the host after it. -/
def splitUser (authority : List Char) : Option (List Char) × List Char :=
  let (host, rest) := upTo (· == '@') authority.reverse
  match rest with
  | [] => (none, authority)
  | _ :: user => (some user.reverse, host.reverse)

/-- The name and the password of user information. An empty password is none. -/
def userParts (information : List Char) : List Char × Option (List Char) :=
  let (name, rest) := upTo (· == ':') information
  match rest with
  | [] | [_] => (name, none)
  | _ :: password => (name, some password)

/-- The host, and the service number behind its colon when there is one. Within brackets a colon
belongs to the host. -/
def splitService : Bool → List Char → List Char × Option (List Char)
  | _, [] => ([], none)
  | inBrackets, c :: rest =>
    if c = ':' ∧ ¬ inBrackets then ([], some rest)
    else
      let inBrackets := if c = '[' then true else if c = ']' then false else inBrackets
      let (host, service) := splitService inBrackets rest
      (c :: host, service)

/-- The service number of some digits; the scheme's when there are none. -/
def service? (scheme : Scheme) (digits : List Char) : Option Nat :=
  if digits.isEmpty then some scheme.defaultService
  else if digits.all Char.isDigit ∧ Text.decimalOf digits < 65536 then
    some (Text.decimalOf digits)
  else none

/-! ## Hosts -/

/-- The number of one part of a host that is a number: in base 16, 8 or 10, as its start tells. -/
def hostNumber? (text : List Char) : Option Nat :=
  let inBase (base : Nat) (digits : List Char) : Option Nat :=
    digits.foldlM
      (fun value c =>
        match Text.hexValue? c with
        | some digit => if digit < base then some (base * value + digit) else none
        | none => none)
      0
  match text with
  | [] => none
  | '0' :: 'x' :: digits => inBase 16 digits
  | '0' :: digits => inBase 8 digits
  | digits => inBase 10 digits

/-- The four octets of an address whose parts are these numbers; the last one fills what is left. -/
def addressOf? (numbers : List Nat) : Option Nat :=
  match numbers with
  | [] => none
  | [last] => if last < 0x100000000 then some last else none
  | [a, last] => if a < 256 ∧ last < 0x1000000 then some (a * 0x1000000 + last) else none
  | [a, b, last] =>
    if a < 256 ∧ b < 256 ∧ last < 0x10000 then
      some (a * 0x1000000 + b * 0x10000 + last)
    else none
  | [a, b, c, last] =>
    if a < 256 ∧ b < 256 ∧ c < 256 ∧ last < 256 then
      some (a * 0x1000000 + b * 0x10000 + c * 256 + last)
    else none
  | _ => none

/-- The address with dots. -/
def addressText (address : Nat) : String :=
  ".".intercalate
    ([0x1000000, 0x10000, 256, 1].map fun unit => toString (address / unit % 256))

/-- A host in its plain form: a number as an address with dots, a name in small letters. -/
def hostText (host : List Char) : String :=
  let name := (Utf8.decodeLossy (percentDecode host)).toLower
  let labels := Text.splitAt '.' name.toList
  -- a dot may end a number as it may end a name
  let labels := if labels.getLast? = some [] then labels.dropLast else labels
  match (labels.mapM hostNumber?).bind addressOf? with
  | some address => addressText address
  | none => name

/-! ## Paths and queries -/

/-- A part of a path with its encoded dots written out. -/
def dotsWritten : List Char → List Char
  | '%' :: '2' :: 'e' :: rest => '.' :: dotsWritten rest
  | '%' :: '2' :: 'E' :: rest => '.' :: dotsWritten rest
  | c :: rest => c :: dotsWritten rest
  | [] => []

/-- The parts of a path, given those that stand before; those that stay or go up are resolved. -/
def resolved (before : List (List Char)) : List (List Char) → List (List Char)
  | [] => before
  | part :: rest =>
    -- a part that stays or goes up leaves a slash behind when it ends the path
    if dotsWritten part = ['.'] then
      if rest.isEmpty then before ++ [[]] else resolved before rest
    else if dotsWritten part = ['.', '.'] then
      if rest.isEmpty then before.dropLast ++ [[]] else resolved before.dropLast rest
    else resolved (before ++ [percentEncode pathSpecials part]) rest

/-- A path, from what follows the host. -/
def pathText (text : List Char) : String :=
  let text := text.map fun c => if c = '\\' then '/' else c
  let parts := Text.splitAt '/' (text.drop 1)
  String.join ((resolved [] parts).map fun part => "/" ++ String.ofList part)

/-- What follows a question mark, without the fragment. -/
def queryOf? (text : List Char) : Option String :=
  match text with
  | '?' :: rest =>
    some (String.ofList (percentEncode querySpecials (upTo (· == '#') rest).1))
  | _ => none

/-- Whether a character counts in a URL. -/
def counts (c : Char) : Bool := c != '\t' && c != '\n' && c != '\r'

/-- The URL that a text gives. -/
def ofText? (text : String) : Option Url := do
  -- what may stand before a URL and within it without counting
  let (scheme, rest) ← scheme? ((text.toList.dropWhile (·.toNat ≤ 32)).filter counts)
  -- the server, with who asks before it and the number of the service behind it
  let rest := rest.dropWhile isSlash
  let (authority, rest) := upTo (fun c => isSlash c || c == '?' || c == '#') rest
  let (information, host) := splitUser authority
  let (host, digits) := splitService false host
  let service ← service? scheme (digits.getD [])
  -- the path, and the query if there is one
  let (path, rest) := upTo (fun c => c == '?' || c == '#') rest
  let (user, password) := (information.map userParts).getD ([], none)
  if host.isEmpty then none
  else
    some
      { scheme, user, password, service
        host := hostText host
        path := pathText path
        query := queryOf? rest }

/-! ## Use -/

/-- Adds a parameter to the query. -/
def addParameter (url : Url) (name value : String) : Url :=
  let added := formEncoded name ++ "=" ++ formEncoded value
  { url with
    query := some (match url.query with
      | none | some "" => added
      | some query => query ++ "&" ++ added) }

/-- The path and the query, as a request names them. -/
def target (url : Url) : String :=
  url.path ++
    match url.query with
    | none => ""
    | some query => "?" ++ query

end Url

end SolarCharts.Http
