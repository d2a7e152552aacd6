import SolarCharts.CommandLine.Reading
import SolarCharts.Failure

/-!
# Runs

A run checks all that can be checked by itself, asks the store once and draws. `Plan.of` does the
first, and a `Plan` holds the one request; `Plan.finish` does the rest with what came back. Nothing is
sent when there is no plan, and no file is touched before every row of the response is a sample.
-/

namespace SolarCharts

/-- The hosts in what came back for a query. -/
def hostsIn (query : Flux.Query) (connection : Connection) (received : Store.Received) :
    Except Failure HostSeries :=
  match received.samples with
  | .error e => .error (.fetch query connection.baseUrl e)
  | .ok samples => .ok (.ofList samples)

/-! ## Plans -/

/-- How the samples are charted, with every time length settled. -/
inductive Drawing where
  /-- Over time, every time moved by an offset. -/
  | traces (offset : Span)
  /-- As curves of the latest sweep, which lasts for a window. -/
  | sweeps (window : Span)
deriving DecidableEq

/-- A run that has passed its own checks. -/
structure Plan where
  drawing : Drawing
  options : ChartOptions
  connection : Connection
  query : Flux.Query
deriving DecidableEq

/-- How a command charts samples. -/
def Command.drawing (settings : Settings) : Command → Except Failure Drawing
  | .mppt _ => do
    let offset ← (settings.duration .timeOffset).mapError .settings
    match Span.ofDuration? offset with
    | some offset => .ok (.traces offset)
    | none => .error .offsetTooLong
  | .sweep window => do
    let window ←
      match window with
      | some window => .ok window
      | none => (settings.duration .window).mapError .settings
    match Span.ofDuration? window with
    | some window => .ok (.sweeps window)
    | none => .error .windowTooLong

namespace Plan

/-- The plan of an invocation under settings, when it passes its checks. -/
def of (invocation : Invocation) (settings : Settings) : Except Failure Plan := do
  -- the order settles which of several faults is reported
  let drawing ← invocation.command.drawing settings
  let options ← invocation.chartOptions.mapError .size
  let connection ← (Connection.ofSettings settings).mapError .connection
  return { drawing, options, connection, query := invocation.query settings }

/-- The one request of a plan. -/
def request (plan : Plan) : Except Http.TransportError Http.Request :=
  plan.connection.request plan.query.text

/-- The hosts in what came back. -/
def hosts (plan : Plan) (received : Store.Received) : Except Failure HostSeries :=
  hostsIn plan.query plan.connection received

/-- Draws the charts of some hosts. -/
def draw (plan : Plan) (gallery : Gallery) (hosts : HostSeries) :
    Gallery × Except DrawError Unit :=
  match plan.drawing with
  | .traces offset => gallery.drawTraces hosts offset
  | .sweeps window => gallery.drawSweeps hosts window

end Plan

/-! ## Outcomes -/

/-- What a run leaves behind. -/
structure Outcome where
  files : FileTree
  output : String
  result : Except Failure Unit

namespace Plan

/-- Draws what came back, with the files as they are. -/
def finish (plan : Plan) (files : FileTree) (received : Store.Received) : Outcome :=
  match plan.hosts received with
  | .error e => { files, output := "", result := .error e }
  | .ok hosts =>
    match plan.draw (.new plan.options files) hosts with
    | (gallery, .error e) => { files := gallery.files, output := "", result := .error (.draw e) }
    | (gallery, .ok ()) =>
      { files := gallery.files, output := gallery.report, result := .ok () }

/-- Sends the request of a plan, if it makes one, and draws what came back. -/
def runIn {m : Type → Type} [Monad m] (plan : Plan) (files : FileTree)
    (send : Http.Request → m Store.Received) : m Outcome := do
  match plan.request with
  | .error e => return plan.finish files (.error e)
  | .ok request => return plan.finish files (← send request)

end Plan

/-- The request that an invocation sends, if it sends one. -/
def Invocation.request? (invocation : Invocation) (settings : Settings) : Option Http.Request :=
  match Plan.of invocation settings with
  | .error _ => none
  | .ok plan => plan.request.toOption

/-- Runs an invocation, given how requests are sent. -/
def Invocation.runIn {m : Type → Type} [Monad m] (invocation : Invocation) (settings : Settings)
    (files : FileTree) (send : Http.Request → m Store.Received) : m Outcome :=
  match Plan.of invocation settings with
  | .error e => return { files, output := "", result := .error e }
  | .ok plan => plan.runIn files send

/-- Runs an invocation, given what answers its request. -/
def Invocation.run (invocation : Invocation) (settings : Settings) (files : FileTree)
    (exchange : Http.Request → Store.Received) : Outcome :=
  Id.run (invocation.runIn settings files fun request => pure (exchange request))

end SolarCharts
