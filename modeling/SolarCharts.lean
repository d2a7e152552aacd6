import SolarCharts.Chart.Axis
import SolarCharts.Chart.Gallery
import SolarCharts.Chart.Kind
import SolarCharts.Chart.Picture
import SolarCharts.Chart.Png
import SolarCharts.Chart.Run
import SolarCharts.Chart.Size
import SolarCharts.CommandLine.Invocation
import SolarCharts.CommandLine.Reading
import SolarCharts.Csv.Record
import SolarCharts.Csv.Table
import SolarCharts.Decimal
import SolarCharts.Failure
import SolarCharts.Files.Path
import SolarCharts.Files.Tree
import SolarCharts.Flux.Literal
import SolarCharts.Flux.Query
import SolarCharts.HostSeries
import SolarCharts.Http.Message
import SolarCharts.Http.Percent
import SolarCharts.Http.Url
import SolarCharts.Http.Wire
import SolarCharts.Json.Value
import SolarCharts.Main
import SolarCharts.Program
import SolarCharts.Run
import SolarCharts.Sample
import SolarCharts.Settings
import SolarCharts.Settings.Layer
import SolarCharts.Settings.Load
import SolarCharts.Store.Answer
import SolarCharts.Store.Connection
import SolarCharts.Sweep
import SolarCharts.Text.Base64
import SolarCharts.Text.Blank
import SolarCharts.Text.Charset
import SolarCharts.Text.Digit
import SolarCharts.Text.Hidden
import SolarCharts.Text.Quoted
import SolarCharts.Text.Reader
import SolarCharts.Text.Split
import SolarCharts.Text.Utf8
import SolarCharts.Time.Calendar
import SolarCharts.Time.DurationText
import SolarCharts.Time.Instant
import SolarCharts.Time.Span
import SolarCharts.Time.Text
import SolarCharts.Time.Timestamp
import SolarCharts.Toml.Document
import SolarCharts.Toml.Quoted
import SolarCharts.Toml.Scalar
import SolarCharts.Toml.Table
import SolarCharts.Trace
import SolarCharts.Proofs.Chart.Calls
import SolarCharts.Proofs.Chart.Completion
import SolarCharts.Proofs.Chart.FileNames
import SolarCharts.Proofs.Chart.NoFiniteValue
import SolarCharts.Proofs.Chart.Preflight
import SolarCharts.Proofs.Chart.Rejection
import SolarCharts.Proofs.Chart.Size
import SolarCharts.Proofs.Chart.TimeAxis
import SolarCharts.Proofs.Csv.Cutting
import SolarCharts.Proofs.Csv.Defaults
import SolarCharts.Proofs.Csv.Deletion
import SolarCharts.Proofs.Csv.Faults
import SolarCharts.Proofs.Csv.Introduction
import SolarCharts.Proofs.Csv.Lines
import SolarCharts.Proofs.Csv.Placement
import SolarCharts.Proofs.Csv.Reading
import SolarCharts.Proofs.Csv.Resynchronisation
import SolarCharts.Proofs.Csv.Tables
import SolarCharts.Proofs.Csv.Tags
import SolarCharts.Proofs.Files.Directories
import SolarCharts.Proofs.Files.Rooted
import SolarCharts.Proofs.Files.Trail
import SolarCharts.Proofs.Flux.DurationLiteral
import SolarCharts.Proofs.Flux.Literal
import SolarCharts.Proofs.Flux.Pipeline
import SolarCharts.Proofs.Flux.Query
import SolarCharts.Proofs.Flux.StringLiteral
import SolarCharts.Proofs.HostSeries.Grouping
import SolarCharts.Proofs.Run.Effects
import SolarCharts.Proofs.Run.Times
import SolarCharts.Proofs.Settings.Document
import SolarCharts.Proofs.Settings.Layering
import SolarCharts.Proofs.Settings.Layers
import SolarCharts.Proofs.Store.Answer
import SolarCharts.Proofs.Store.Connection
import SolarCharts.Proofs.Sweep.Arrangement
import SolarCharts.Proofs.Sweep.Pairing
import SolarCharts.Proofs.Sweep.Window
import SolarCharts.Proofs.Text.Reading
import SolarCharts.Proofs.Text.Utf8
import SolarCharts.Proofs.Time.Backward
import SolarCharts.Proofs.Time.Extremes
import SolarCharts.Proofs.Time.Moving
import SolarCharts.Proofs.Time.Timestamp
import SolarCharts.Proofs.Trace.OtherFields
import SolarCharts.Proofs.Trace.Splitting
