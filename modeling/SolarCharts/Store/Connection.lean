import SolarCharts.Http.Message
import SolarCharts.Json.Value
import SolarCharts.Settings

/-!
# Connections

How the store is asked. A connection is made from settings that pass their checks; it gives the
request for a query, and knows what its base URL is shown as.
-/

namespace SolarCharts

/-- How the store is reached. -/
structure Connection where
  /-- What the paths of the store are added to. -/
  baseUrl : String
  org : String
  /-- What authorizes requests. -/
  token : String
  timeout : Duration
deriving DecidableEq

namespace Connection

/-! ## Base URLs -/

/-- Whether a text names its scheme. -/
def hasScheme : List Char → Bool
  | [] => false
  | ':' :: '/' :: '/' :: _ => true
  | _ :: rest => hasScheme rest

/-- The base URL that a setting gives: blanks around it and slashes after it do not count, and the
scheme may be left out. -/
def baseUrlOf (setting : String) : String :=
  let text := Text.dropEnd (· == '/') (Text.trimmed setting.toList)
  String.ofList (if hasScheme text then text else "http://".toList ++ text)

/-- The connection that settings give, when they pass their checks. -/
def ofSettings (settings : Settings) : Except SettingsError Connection := do
  settings.check
  let timeout ← settings.duration .timeout
  return {
    baseUrl := baseUrlOf (settings.value .url)
    org := settings.value .org
    token := settings.value .token
    timeout }

/-- What settings that give no connection are reported as. -/
def settingsMessage (e : SettingsError) : String := "Invalid connection settings: " ++ e.message

/-! ## Requests -/

/-- Where queries are sent, under the base URL. -/
def queryPath : String := "/api/v2/query"

/-- What a request for a query carries. -/
def queryBody (flux : String) : String :=
  "\x7b\"query\":" ++ Json.quoted flux
    ++ ",\"type\":\"flux\",\"dialect\":\x7b\"header\":true,\"delimiter\":\",\","
    ++ "\"annotations\":[\"datatype\",\"group\",\"default\"]\x7d\x7d"

/-- The request for a query. -/
def request (connection : Connection) (flux : String) :
    Except Http.TransportError Http.Request :=
  let authorization := "Token " ++ connection.token
  match Http.Url.ofText? (connection.baseUrl ++ queryPath) with
  | none => .error .badUrl
  | some url =>
    if Http.isHeaderValue authorization then
      .ok
        { method := "POST"
          url := url.addParameter "org" connection.org
          headers := url.authorization?.toList ++
            [ ⟨"authorization", authorization⟩, ⟨"accept", "application/csv"⟩,
              ⟨"content-type", "application/json"⟩ ]
          body := queryBody flux }
    else .error .badHeader

end Connection

end SolarCharts
