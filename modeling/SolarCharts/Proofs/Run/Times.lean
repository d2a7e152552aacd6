import SolarCharts.Proofs.Chart.TimeAxis
import SolarCharts.Proofs.Run.Effects
import SolarCharts.Proofs.Sweep.Window
import SolarCharts.Proofs.Time.Timestamp
import SolarCharts.Proofs.Trace.Splitting

/-!
# The times of a run

What is known of windows and of axes asks for instants as a clock gives them. A run has no others: its
samples come out of a response, where every time is read from a timestamp, and the display offset leads
from such an instant to another.

* `Plan.valid_of_hosts` — the times of the samples of every host.
* `Trace.valid_of_ofSamples` — the times of the points of a trace.
* `Plan.windows_nested` — what a longer window gives for a host holds what a shorter one does.
* `Plan.framed_of_charts` — every chart over time that shows anything has an axis with a width.
-/

namespace SolarCharts

/-! ## Samples of hosts -/

/-- A sample of a group is one of those that were grouped. -/
theorem HostSeries.mem_of_mem_toList {samples group : List Sample} {host : String}
    (h : (host, group) ∈ (ofList samples).toList) {sample : Sample} (hSample : sample ∈ group) :
    sample ∈ samples :=
  (holds_ofList samples).perm.subset (List.mem_flatMap.mpr ⟨(host, group), h, hSample⟩)

namespace Plan

variable {plan : Plan} {received : Store.Received} {hosts : HostSeries}

/-- **The samples of every host** have times as a clock gives them. -/
theorem valid_of_hosts (h : plan.hosts received = .ok hosts) {host : String} {group : List Sample}
    (hGroup : (host, group) ∈ hosts.toList) : ∀ sample ∈ group, sample.time.Valid := by
  obtain ⟨response, text, samples, -, -, -, hItems, rfl⟩ := received_of_hosts h
  intro sample hSample
  have hItem : .ok sample ∈ Csv.itemsOf (Utf8.encode text) := by
    rw [hItems]
    exact List.mem_map_of_mem (HostSeries.mem_of_mem_toList hGroup hSample)
  exact Csv.valid_of_mem_items hItem

/-- **The curves of a run are nested.** A longer window keeps all samples of a host that a shorter one
does, and its curve has all their points. -/
theorem windows_nested (h : plan.hosts received = .ok hosts) {host : String} {group : List Sample}
    (hGroup : (host, group) ∈ hosts.toList) {shorter longer : Span} (hShorter : 0 ≤ shorter.nanos)
    (hLonger : shorter.nanos ≤ longer.nanos) :
    (Sweep.latestWindow group shorter).Sublist (Sweep.latestWindow group longer) ∧
      (Sweep.curve group shorter).Sublist (Sweep.curve group longer) := by
  have hKept := Sweep.latestWindow_sublist (valid_of_hosts h hGroup) hShorter hLonger
  exact ⟨hKept, Sweep.pairs_sublist hKept⟩

end Plan

/-! ## Points of time charts -/

namespace Trace

variable {offset : Span} {field : Field} {samples : List Sample} {points : List (Instant × Float)}
  {trace : Trace}

/-- Every point that is shown stands for a sample. -/
theorem Shows.exists_moves (h : Shows offset field samples points) {point : Instant × Float}
    (hPoint : point ∈ points) : ∃ sample ∈ samples, sample.time.Moves offset point.1 := by
  unfold Shows at h
  -- points and samples stand in pairs, so the sample is at the place of the point
  obtain ⟨place, hPlace, rfl⟩ := List.mem_iff_getElem.mp hPoint
  have hSample : place < (samples.filter (·.field = field)).length := by rwa [h.length_eq]
  refine ⟨(samples.filter (·.field = field))[place], ?_, (h.get hSample hPlace).1⟩
  exact (List.mem_filter.mp (List.getElem_mem hSample)).1

/-- Points that stand for samples of a clock have times as a clock gives them. -/
theorem Shows.valid (h : Shows offset field samples points)
    (hMove : ∀ sample ∈ samples, sample.time.CanMove offset)
    (hTimes : ∀ sample ∈ samples, sample.time.Valid) : ∀ point ∈ points, point.1.Valid := by
  intro point hPoint
  obtain ⟨sample, hSample, hMoves⟩ := h.exists_moves hPoint
  obtain ⟨u, hReached, hIn⟩ := hMove sample hSample
  -- the offset leads to one instant only, and that is representable
  obtain rfl := hReached.unique hMoves
  exact ⟨hMoves.proper (hTimes sample hSample).proper, hIn⟩

/-- **A display offset leads to instants as a clock gives them** from such instants. -/
theorem valid_of_ofSamples (h : ofSamples offset samples = .ok trace)
    (hTimes : ∀ sample ∈ samples, sample.time.Valid) :
    (∀ point ∈ trace.voltage, point.1.Valid) ∧ ∀ point ∈ trace.current, point.1.Valid := by
  obtain ⟨hMove, hVoltage, hCurrent⟩ := ofSamples_eq_ok_iff.mp h
  exact ⟨hVoltage.valid hMove hTimes, hCurrent.valid hMove hTimes⟩

end Trace

namespace Plan

variable {plan : Plan} {received : Store.Received} {hosts : HostSeries}

/-- **Every chart over time of a run has an axis with a width**, unless there is nothing on it, and that
axis shows the time of every point. -/
theorem framed_of_charts (h : plan.hosts received = .ok hosts) {charts : List Chart}
    (hCharts : plan.charts hosts = .ok charts) {target : ChartTarget}
    {points : List (Instant × Float)} (hChart : ⟨target, .overTime points⟩ ∈ charts)
    (hSome : points ≠ []) :
    ∃ range, timeRange (points.map (·.1)) = some range ∧ range.Frames (points.map (·.1)) := by
  have hPoints : ∀ point ∈ points, point.1.Valid := by
    unfold Plan.charts at hCharts
    split at hCharts
    · obtain ⟨host, samples, trace, hGroup, hTrace, hMem⟩ := exists_trace_of_mem hCharts hChart
      obtain ⟨hVoltage, hCurrent⟩ := Trace.valid_of_ofSamples hTrace (valid_of_hosts h hGroup)
      simp only [Trace.charts, List.mem_cons, Chart.mk.injEq, Points.overTime.injEq,
        List.not_mem_nil, or_false] at hMem
      rcases hMem with ⟨-, rfl⟩ | ⟨-, rfl⟩
      · exact hVoltage
      · exact hCurrent
    · -- the curves of sweeps are not charts over time
      rw [← Except.ok.inj hCharts, sweepCharts, List.mem_flatMap] at hChart
      obtain ⟨group, -, hMem⟩ := hChart
      simp [curveCharts] at hMem
  refine exists_frames (by simpa using hSome) ?_
  rw [List.forall_mem_map]
  exact hPoints

end Plan

end SolarCharts
