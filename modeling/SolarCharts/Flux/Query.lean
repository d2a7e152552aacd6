import SolarCharts.Flux.Literal

/-!
# Flux queries

A `Query` reads one measurement of one bucket: a pipeline of a range and filters, and at its end an
aggregation when one is asked for. Each builder step replaces what the step of its kind set before.
-/

namespace SolarCharts.Flux

/-- What a window of values is replaced by. -/
inductive Aggregate where
  | mean
  | median
  | min
  | max
  | last
deriving DecidableEq

/-- The name of an aggregate function. -/
def Aggregate.name : Aggregate → String
  | .mean => "mean"
  | .median => "median"
  | .min => "min"
  | .max => "max"
  | .last => "last"

/-- An aggregation over windows of one length. -/
structure AggregateWindow where
  every : Duration
  /-- What is kept of it. -/
  function : Aggregate
deriving DecidableEq

/-- A query over one measurement. -/
structure Query where
  bucket : String
  measurement : String
  /-- How far back from now the range starts. -/
  lookback : Duration
  /-- The hosts that are kept; all of them when none is named. -/
  hosts : List String
  /-- The aggregation at the end. -/
  aggregate : Option AggregateWindow
deriving DecidableEq

namespace Query

/-- How far back a query reads when nothing else is asked for. -/
def defaultLookback : Duration := .ofSeconds 86400

/-- All hosts of a measurement over the default range. -/
def new (bucket measurement : String) : Query :=
  { bucket, measurement, lookback := defaultLookback, hosts := [], aggregate := none }

/-- Sets how far back the range starts. -/
def rangeStart (query : Query) (lookback : Duration) : Query := { query with lookback }

/-- Sets the hosts that are kept. -/
def forHosts (query : Query) (hosts : List String) : Query := { query with hosts }

/-- Sets the aggregation. -/
def aggregateWindow (query : Query) (every : Duration) (function : Aggregate) : Query :=
  { query with aggregate := some ⟨every, function⟩ }

/-- The condition that keeps one host. -/
def hostTest (host : String) : String := "r.host == " ++ stringLiteral host

/-- The stage that keeps the hosts, if any are named. -/
def hostStage (hosts : List String) : List String :=
  if hosts.isEmpty then []
  else ["  |> filter(fn: (r) => " ++ " or ".intercalate (hosts.map hostTest) ++ ")"]

/-- The stage that aggregates, if there is one. -/
def aggregateStage : Option AggregateWindow → List String
  | none => []
  | some window =>
    ["  |> aggregateWindow(every: " ++ durationLiteral window.every ++ ", fn: "
      ++ window.function.name ++ ", createEmpty: false)"]

/-- The stages of the pipeline, one a line. -/
def stages (query : Query) : List String :=
  [ "from(bucket: " ++ stringLiteral query.bucket ++ ")",
    "  |> range(start: -" ++ durationLiteral query.lookback ++ ")",
    "  |> filter(fn: (r) => r._measurement == " ++ stringLiteral query.measurement ++ ")" ]
    ++ hostStage query.hosts ++ aggregateStage query.aggregate

/-- The text of the query. -/
def text (query : Query) : String := "\n".intercalate query.stages

end Query

end SolarCharts.Flux
