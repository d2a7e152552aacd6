import SolarCharts.Chart.Run
import SolarCharts.Flux.Query
import SolarCharts.Settings.Load
import SolarCharts.Store.Answer

/-!
# Failures

Everything that ends a run, and how it is reported: what was being done, and why it failed.
-/

namespace SolarCharts

/-- Why a run ends without its charts. -/
inductive Failure where
  | load (error : LoadError)
  /-- A setting that the run needs cannot be used. -/
  | settings (error : SettingsError)
  | offsetTooLong
  | windowTooLong
  | connection (error : SettingsError)
  | fetch (query : Flux.Query) (baseUrl : String) (error : Store.QueryError)
  | size (error : ChartError)
  | draw (error : DrawError)
deriving DecidableEq

namespace Failure

/-- Why a duration cannot be a span. -/
def tooLong : String := "Source duration value is out of range for the target type"

/-- What a failure is reported as. -/
def message : Failure → String
  | .load error => "Failed to load configuration: " ++ error.fullMessage
  | .settings error => error.message
  | .offsetTooLong => "display.time_offset is out of range: " ++ tooLong
  | .windowTooLong => "sweep window is out of range: " ++ tooLong
  | .connection error =>
    "Failed to create InfluxDB client: " ++ Connection.settingsMessage error ++ ": " ++ error.message
  | .fetch query baseUrl error =>
    "Failed to fetch " ++ query.measurement ++ " from bucket " ++ query.bucket ++ " at " ++ baseUrl
      ++ ": " ++ error.message
  | .size error => error.message
  | .draw error => error.message

end Failure

end SolarCharts
