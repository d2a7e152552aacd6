import SolarCharts.Sample
import Std.Data.HashMap

/-!
# Samples by host

A `HostSeries` holds samples grouped by host. Hosts stand in the order in which they were first
seen, and the samples of one host in the order in which they arrived; nothing is dropped or merged.

The groups are a sequence, and an index gives each host's place in it, so that a sample is added and
a host is found without a search.
-/

namespace SolarCharts

/-- The samples of one host, in arrival order. -/
structure HostGroup where
  host : String
  samples : Array Sample

/-- Samples grouped by host. -/
structure HostSeries where
  /-- One group for each host, in order of first appearance. -/
  groups : Array HostGroup
  /-- The place of each host's group. -/
  index : Std.HashMap String Nat

namespace HostSeries

/-- No samples at all. -/
def empty : HostSeries := ⟨#[], ∅⟩

instance : EmptyCollection HostSeries := ⟨empty⟩

instance : Inhabited HostSeries := ⟨empty⟩

/-- Adds a sample to its host's group, or opens a group for a host not seen before. -/
def push (series : HostSeries) (sample : Sample) : HostSeries :=
  match series.index[sample.host]? with
  | some place =>
    { series with
      groups := series.groups.modify place fun group =>
        { group with samples := group.samples.push sample } }
  | none =>
    { groups := series.groups.push ⟨sample.host, #[sample]⟩
      index := series.index.insert sample.host series.groups.size }

/-- Groups samples by host. -/
def ofList (samples : List Sample) : HostSeries := samples.foldl push empty

/-- The samples of a host, if it has any. -/
def get? (series : HostSeries) (host : String) : Option (List Sample) :=
  (series.index[host]?).bind fun place => series.groups[place]?.map (·.samples.toList)

/-- Every host with its samples. -/
def toList (series : HostSeries) : List (String × List Sample) :=
  series.groups.toList.map fun group => (group.host, group.samples.toList)

/-- The hosts. -/
def hosts (series : HostSeries) : List String := series.groups.toList.map (·.host)

/-- The number of hosts. -/
def size (series : HostSeries) : Nat := series.groups.size

/-- Whether there is no host. -/
def isEmpty (series : HostSeries) : Bool := series.groups.isEmpty

end HostSeries

end SolarCharts
