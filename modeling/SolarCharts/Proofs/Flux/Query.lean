import Mathlib.Data.List.Induction
import Mathlib.Logic.Function.Basic
import SolarCharts.Flux.Query
import SolarCharts.Proofs.Flux.Pipeline

/-!
# The text of a query determines it

A query is built in steps, and each step replaces what the last one of its kind has set. The text of
the query is a Flux pipeline, and `Query.text_determines` reads it with a reader that knows nothing of
queries: it finds the bucket, the range of the last `rangeStart`, the measurement, the hosts of the
last `forHosts` and the window of the last `aggregateWindow`, and no other stage. What buckets,
measurements and hosts are called is found in literals only, so no name passes for a part of it.
-/

namespace SolarCharts.Flux

namespace Query

/-! ## Building

A query is built from a bucket and a measurement by steps, of which the last one of a kind counts.
-/

/-- What a query can be told once it is made. -/
inductive Step where
  | rangeStart (lookback : Duration)
  | forHosts (hosts : List String)
  | aggregateWindow (every : Duration) (function : Aggregate)
deriving DecidableEq

/-- What a step does to a query. -/
def apply (query : Query) : Step → Query
  | .rangeStart lookback => query.rangeStart lookback
  | .forHosts hosts => query.forHosts hosts
  | .aggregateWindow every function => query.aggregateWindow every function

/-- The query that some steps come to. -/
def build (bucket measurement : String) (steps : List Step) : Query :=
  steps.foldl apply (new bucket measurement)

/-- How far back the last step about that goes. -/
def lastLookback? (steps : List Step) : Option Duration :=
  (steps.filterMap fun
    | .rangeStart lookback => some lookback
    | _ => none).getLast?

/-- The hosts of the last step about them. -/
def lastHosts? (steps : List Step) : Option (List String) :=
  (steps.filterMap fun
    | .forHosts hosts => some hosts
    | _ => none).getLast?

/-- The window of the last step about one. -/
def lastWindow? (steps : List Step) : Option AggregateWindow :=
  (steps.filterMap fun
    | .aggregateWindow every function => some ⟨every, function⟩
    | _ => none).getLast?

/-- Of every kind of step the last one counts. -/
theorem build_eq (bucket measurement : String) (steps : List Step) :
    build bucket measurement steps =
      { bucket, measurement
        lookback := (lastLookback? steps).getD defaultLookback
        hosts := (lastHosts? steps).getD []
        aggregate := lastWindow? steps } := by
  induction steps using List.reverseRecOn with
  | nil => rfl
  | append_singleton steps last ih =>
    rw [build, List.foldl_append, ← build, ih, List.foldl_cons, List.foldl_nil]
    -- the last step sets one part and leaves the others to the steps before
    cases last <;>
      simp [apply, Query.rangeStart, Query.forHosts, Query.aggregateWindow, lastLookback?,
        lastHosts?, lastWindow?]

/-! ## As a pipeline -/

/-- The names that the stages of queries are made of. -/
inductive Word where
  | source
  | bucket
  | range
  | start
  | filter
  | function
  | row
  | measurement
  | host
  | aggregateWindow
  | every
  | createEmpty
  | never

/-- As it is written. -/
def Word.text : Word → String
  | .source => "from"
  | .bucket => "bucket"
  | .range => "range"
  | .start => "start"
  | .filter => "filter"
  | .function => "fn"
  | .row => "r"
  | .measurement => "_measurement"
  | .host => "host"
  | .aggregateWindow => "aggregateWindow"
  | .every => "every"
  | .createEmpty => "createEmpty"
  | .never => "false"

/-- None of them starts with a digit. -/
def Word.name (word : Word) : Name := ⟨word.text.toList, by cases word <;> rfl⟩

/-- Where the rows come from. -/
def sourceStage (bucket : String) : Stage := ⟨Word.source.name, [⟨Word.bucket.name, .text bucket⟩]⟩

/-- The stage that cuts the rows to a range before now. -/
def rangeStage (lookback : Duration) : Stage :=
  ⟨Word.range.name, [⟨Word.start.name, .ago lookback⟩]⟩

/-- A stage that keeps the rows for which one of the tests holds. -/
def filterStage (first : Test) (more : List Test) : Stage :=
  ⟨Word.filter.name, [⟨Word.function.name, .predicate Word.row.name first more⟩]⟩

/-- The test that a row is of a measurement. -/
def ofMeasurement (measurement : String) : Test :=
  ⟨Word.row.name, Word.measurement.name, measurement⟩

/-- The test that a row is of a host. -/
def ofHost (host : String) : Test := ⟨Word.row.name, Word.host.name, host⟩

/-- The filter for some hosts, in their order; there is none for no hosts. -/
def hostFilter : List String → List Stage
  | [] => []
  | first :: more => [filterStage (ofHost first) (more.map ofHost)]

/-- The function that a window is aggregated by. -/
def aggregateName (function : Aggregate) : Name :=
  ⟨function.name.toList, by cases function <;> rfl⟩

/-- The aggregation over windows, if there is one. -/
def windowStages : Option AggregateWindow → List Stage
  | none => []
  | some window =>
    [⟨Word.aggregateWindow.name,
      [⟨Word.every.name, .duration window.every⟩,
        ⟨Word.function.name, .name (aggregateName window.function)⟩,
        ⟨Word.createEmpty.name, .name Word.never.name⟩]⟩]

/-- What a query asks for. -/
def pipeline (query : Query) : Pipeline where
  source := sourceStage query.bucket
  stages :=
    rangeStage query.lookback :: filterStage (ofMeasurement query.measurement) [] ::
      (hostFilter query.hosts ++ windowStages query.aggregate)

/-! ### Its text -/

/-- Texts with something between them are the first one, and then that and one each. -/
theorem intercalate_cons (sep first : List Char) (more : List (List Char)) :
    sep.intercalate (first :: more) = first ++ more.flatMap fun next => sep ++ next := by
  induction more generalizing first with
  | nil => simp [List.intercalate]
  | cons next more ih =>
    rw [List.intercalate_cons_cons, ih, List.flatMap_cons]
    simp only [List.append_assoc]

theorem toList_hostTest (host : String) : (hostTest host).toList = (ofHost host).chars := by
  rw [hostTest, String.toList_append]
  rfl

/-- A line of the text behind the first one. -/
def line (stage : Stage) : List Char := ' ' :: ' ' :: '|' :: '>' :: ' ' :: stage.chars

/-- How a filter is written. -/
theorem filterStage_chars (first : Test) (more : List Test) :
    (filterStage first more).chars =
      "filter(fn: (r) => ".toList ++ (first.chars ++ more.flatMap Test.charsNext) ++ [')'] := by
  simp only [filterStage, Stage.chars, argumentsChars, Argument.chars, Value.chars,
    List.flatMap_nil, List.append_nil, List.append_assoc, List.cons_append]
  rfl

/-- The filter for hosts is written on a line of its own, if there is one. -/
theorem toList_hostStage (hosts : List String) :
    (hostStage hosts).map String.toList = (hostFilter hosts).map line := by
  cases hosts with
  | nil => rfl
  | cons first more =>
    -- the word between two tests is written in front of the second
    have hTests : (" or ".intercalate ((first :: more).map hostTest)).toList =
        (ofHost first).chars ++ (more.map ofHost).flatMap Test.charsNext := by
      rw [String.toList_intercalate, List.map_cons, List.map_cons, intercalate_cons, List.map_map,
        List.flatMap_map, List.flatMap_map]
      simp only [Function.comp_apply, toList_hostTest]
      rfl
    rw [hostStage, if_neg (by simp), List.map_cons, String.toList_append, String.toList_append,
      hTests, hostFilter, List.map_cons, line, filterStage_chars]
    rfl

/-- So is the aggregation. -/
theorem toList_aggregateStage (aggregate : Option AggregateWindow) :
    (aggregateStage aggregate).map String.toList = (windowStages aggregate).map line := by
  cases aggregate with
  | none => rfl
  | some window =>
    simp only [aggregateStage, windowStages, List.map_cons, List.map_nil, line, Stage.chars,
      argumentsChars, Argument.chars, Value.chars, List.flatMap_cons, List.flatMap_nil,
      List.append_assoc, String.toList_append]
    rfl

/-- Line by line, the text of a query is its pipeline. -/
theorem toList_stages (query : Query) :
    query.stages.map String.toList =
      query.pipeline.source.chars :: query.pipeline.stages.map line := by
  have hSource : ("from(bucket: " ++ stringLiteral query.bucket ++ ")").toList =
      (sourceStage query.bucket).chars := by
    simp only [sourceStage, Stage.chars, argumentsChars, Argument.chars, Value.chars,
      List.flatMap_nil, List.append_assoc, String.toList_append]
    rfl
  have hRange : ("  |> range(start: -" ++ durationLiteral query.lookback ++ ")").toList =
      line (rangeStage query.lookback) := by
    simp only [rangeStage, line, Stage.chars, argumentsChars, Argument.chars, Value.chars,
      List.flatMap_nil, List.append_assoc, String.toList_append]
    rfl
  have hMeasurement : ("  |> filter(fn: (r) => r._measurement == "
      ++ stringLiteral query.measurement ++ ")").toList =
      line (filterStage (ofMeasurement query.measurement) []) := by
    rw [line, filterStage_chars, String.toList_append, String.toList_append, List.flatMap_nil,
      List.append_nil]
    rfl
  -- the first three lines are always there, and the others may be missing
  rw [stages, List.map_append, List.map_append, toList_hostStage, toList_aggregateStage, pipeline]
  simp only [List.map_cons, List.map_nil, List.map_append, hSource, hRange, hMeasurement]
  rfl

/-- The text of a query is its pipeline as it is written. -/
theorem toList_text (query : Query) : query.text.toList = query.pipeline.chars := by
  rw [text, String.toList_intercalate, toList_stages, intercalate_cons, List.flatMap_map,
    Pipeline.chars]
  rfl

/-- The text of a query is read as the pipeline that it asks for. -/
theorem ofText?_text (query : Query) : Pipeline.ofText? query.text = some query.pipeline :=
  Pipeline.ofText?_of_chars query.toList_text

/-! ## What a pipeline tells -/

theorem ofHost_injective : Function.Injective ofHost := fun _ _ h => congrArg Test.value h

theorem aggregateName_injective : Function.Injective aggregateName := by
  intro f g h
  cases f <;> cases g <;> revert h <;> decide

/-- The stages of an aggregation tell it, and whether there is one. -/
theorem windowStages_injective : Function.Injective windowStages := by
  rintro (- | ⟨every, function⟩) (- | ⟨every', function'⟩) h
  · rfl
  · cases h
  · cases h
  · simp only [windowStages, List.cons.injEq, Stage.mk.injEq, Argument.mk.injEq,
      Value.duration.injEq, Value.name.injEq, and_true, true_and] at h
    rw [h.1, aggregateName_injective h.2]

theorem filterStage_inj {first first' : Test} {more more' : List Test}
    (h : filterStage first more = filterStage first' more') : first = first' ∧ more = more' := by
  simp only [filterStage, Stage.mk.injEq, List.cons.injEq, Argument.mk.injEq,
    Value.predicate.injEq, and_true, true_and] at h
  exact h

/-- No aggregation is taken for a filter. -/
theorem windowStages_ne_filter (window : Option AggregateWindow) (first : Test) (more : List Test)
    (stages : List Stage) : windowStages window ≠ filterStage first more :: stages := by
  intro h
  cases window with
  | none => cases h
  | some window =>
    have hName : "aggregateWindow".toList = "filter".toList :=
      congrArg (fun stage => stage.name.chars) (List.cons.inj h).1
    exact absurd hName (by decide)

/-- The stages that a query may leave out tell the hosts and the aggregation. -/
theorem optional_inj {hosts hosts' : List String} {window window' : Option AggregateWindow}
    (h : hostFilter hosts ++ windowStages window = hostFilter hosts' ++ windowStages window') :
    hosts = hosts' ∧ window = window' := by
  -- where only one of them has hosts, its filter would have to be an aggregation
  cases hosts with
  | nil =>
    cases hosts' with
    | nil => exact ⟨rfl, windowStages_injective h⟩
    | cons first' more' => exact absurd h (windowStages_ne_filter window _ _ _)
  | cons first more =>
    cases hosts' with
    | nil => exact absurd h.symm (windowStages_ne_filter window' _ _ _)
    | cons first' more' =>
      obtain ⟨hFilter, hWindow⟩ := List.cons.inj h
      obtain ⟨hFirst, hMore⟩ := filterStage_inj hFilter
      have hHosts : more = more' :=
        (List.map_inj_right fun _ _ hTest => ofHost_injective hTest).mp hMore
      exact ⟨by rw [ofHost_injective hFirst, hHosts], windowStages_injective hWindow⟩

/-- What a query asks for tells the query. -/
theorem pipeline_injective : Function.Injective pipeline := by
  intro query other h
  obtain ⟨hSource, hStages⟩ := Pipeline.mk.inj h
  -- the first two stages are always there, so the others can be compared by themselves
  obtain ⟨hRange, hFilters⟩ := List.cons.inj hStages
  obtain ⟨hMeasurement, hOptional⟩ := List.cons.inj hFilters
  have hBucket : query.bucket = other.bucket := by
    simpa [sourceStage] using hSource
  have hLookback : query.lookback = other.lookback := by
    simpa [rangeStage] using hRange
  have hMeasurement : query.measurement = other.measurement :=
    congrArg Test.value (filterStage_inj hMeasurement).1
  obtain ⟨hHosts, hAggregate⟩ := optional_inj hOptional
  cases query
  cases other
  simp_all

/-- The query with every name left empty. -/
def nameless (query : Query) : Query :=
  { query with bucket := "", measurement := "", hosts := query.hosts.map fun _ => "" }

/-- A query without names asks for what it did, with empty texts. -/
theorem pipeline_nameless (query : Query) : query.nameless.pipeline = query.pipeline.erased := by
  have hHosts : hostFilter (query.hosts.map fun _ => "") =
      (hostFilter query.hosts).map Stage.erased := by
    cases query.hosts with
    | nil => rfl
    | cons first more =>
      simp only [hostFilter, filterStage, List.map_cons, List.map_nil, List.map_map, Stage.erased,
        Argument.erased, Value.erased]
      rfl
  -- an aggregation holds no text
  have hWindow : windowStages query.aggregate =
      (windowStages query.aggregate).map Stage.erased := by
    cases query.aggregate <;> rfl
  rw [pipeline, pipeline, Pipeline.erased, List.map_cons, List.map_cons, List.map_append, ← hWindow,
    ← hHosts]
  rfl

/-- **The text of a query determines it.** A reader of pipelines finds in it the bucket, how far back
the last step about it goes, the measurement, the hosts of the last step about them, as a filter
unless there are none, and the last aggregation, and nothing else. So queries with one text are one
query, steps of different kinds can change places, and names fill the literals of a pipeline that
would be the same without them. -/
theorem text_determines :
    (∀ bucket measurement steps,
      Pipeline.ofText? (build bucket measurement steps).text =
        some
          { source := sourceStage bucket
            stages :=
              rangeStage ((lastLookback? steps).getD (.ofSeconds (24 * 60 * 60))) ::
                filterStage (ofMeasurement measurement) [] ::
                (hostFilter ((lastHosts? steps).getD []) ++ windowStages (lastWindow? steps)) }) ∧
      Function.Injective text ∧
      (∀ (query : Query) lookback hosts every function,
        (query.rangeStart lookback).forHosts hosts = (query.forHosts hosts).rangeStart lookback ∧
          (query.rangeStart lookback).aggregateWindow every function =
            (query.aggregateWindow every function).rangeStart lookback ∧
          (query.forHosts hosts).aggregateWindow every function =
            (query.aggregateWindow every function).forHosts hosts) ∧
      (∀ query : Query,
        (Pipeline.ofText? query.text).map Pipeline.erased =
          Pipeline.ofText? query.nameless.text) := by
  refine ⟨fun bucket measurement steps => ?_, fun query other hText => ?_,
    fun query lookback hosts every function => ⟨rfl, rfl, rfl⟩, fun query => ?_⟩
  · rw [ofText?_text, build_eq]
    rfl
  · -- one text is read as one pipeline
    have hRead := congrArg Pipeline.ofText? hText
    rw [ofText?_text, ofText?_text] at hRead
    exact pipeline_injective (Option.some.inj hRead)
  · rw [ofText?_text, ofText?_text, pipeline_nameless]
    rfl

end Query

end SolarCharts.Flux
