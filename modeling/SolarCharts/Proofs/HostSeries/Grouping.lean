import Mathlib.Data.Finset.Card
import Mathlib.Data.Finset.Dedup
import SolarCharts.HostSeries

/-!
# Samples by host are a partition

A `HostSeries` holds each sample in the group of its host, and looks a host up through an index. The
plain way to say what it should hold needs neither: the hosts in order of first appearance, and for
each one the samples that carry its name.

* `Holds` — the invariant: the groups are those of the samples pushed so far, and the index gives
  exactly the place of each group.
* `Holds.push`, `holds_ofList` — one more sample keeps it, so it holds after every push.
* `partitions_ofList` — what a reader of the series sees follows: lookup, hosts, iteration and size
  agree, and every sample is in exactly one group.
-/

namespace SolarCharts.HostSeries

/-! ## What should be held -/

/-- The hosts of some samples, in order of first appearance. -/
def hostsOf (samples : List Sample) : List String := (samples.map (·.host)).eraseDups

/-- The samples of one host among some samples, in arrival order. -/
def samplesFrom (host : String) (samples : List Sample) : List Sample :=
  samples.filter (·.host = host)

theorem mem_hostsOf {host : String} {samples : List Sample} :
    host ∈ hostsOf samples ↔ ∃ sample ∈ samples, sample.host = host := by
  rw [hostsOf, List.mem_eraseDups, List.mem_map]

theorem samplesFrom_append_one (host : String) (samples : List Sample) (sample : Sample) :
    samplesFrom host (samples ++ [sample]) =
      samplesFrom host samples ++ if sample.host = host then [sample] else [] := by
  rw [samplesFrom, List.filter_append]
  by_cases hHost : sample.host = host
  · simp [samplesFrom, hHost]
  · simp [samplesFrom, hHost]

/-- A host seen before stays where it is; another one comes last. -/
theorem hostsOf_append_one (samples : List Sample) (sample : Sample) :
    hostsOf (samples ++ [sample]) =
      hostsOf samples ++ if sample.host ∈ hostsOf samples then [] else [sample.host] := by
  rw [hostsOf, List.map_append, List.eraseDups_append, hostsOf]
  by_cases hSeen : sample.host ∈ samples.map (·.host)
  · have hRest : [sample.host].removeAll (samples.map (·.host)) = [] := by
      simp [List.removeAll, List.mem_map.mp hSeen]
    simp [hRest, List.mem_map.mp hSeen]
  · have hRest : [sample.host].removeAll (samples.map (·.host)) = [sample.host] := by
      rw [List.mem_map] at hSeen
      simp [List.removeAll, hSeen]
    rw [List.mem_map] at hSeen
    simp [hRest, hSeen, List.eraseDups_cons]

/-- No host stands twice. -/
theorem nodup_hostsOf (samples : List Sample) : (hostsOf samples).Nodup := by
  induction samples using List.reverseRecOn with
  | nil => exact List.nodup_nil
  | append_singleton samples sample ih =>
    rw [hostsOf_append_one]
    -- only a host that is new comes behind the others
    by_cases hSeen : sample.host ∈ hostsOf samples
    · simpa [hSeen] using ih
    · rw [if_neg hSeen, List.nodup_append]
      refine ⟨ih, List.nodup_singleton _, ?_⟩
      intro host hHost other hOther
      rw [List.mem_singleton] at hOther
      rintro rfl
      exact hSeen (hOther ▸ hHost)

/-- A host that did not occur has no samples. -/
theorem samplesFrom_eq_nil {host : String} {samples : List Sample} (h : host ∉ hostsOf samples) :
    samplesFrom host samples = [] := by
  rw [samplesFrom, List.filter_eq_nil_iff]
  intro sample hSample hHost
  exact h (mem_hostsOf.mpr ⟨sample, hSample, by simpa using hHost⟩)

/-! ## The invariant -/

/-- The series holds exactly these samples, and its index gives the place of every group. -/
structure Holds (series : HostSeries) (samples : List Sample) : Prop where
  groups : series.toList = (hostsOf samples).map fun host => (host, samplesFrom host samples)
  index : ∀ (host : String) (place : Nat),
    series.index[host]? = some place ↔ series.hosts[place]? = some host

theorem hosts_eq_map (series : HostSeries) : series.hosts = series.toList.map (·.1) := by
  rw [hosts, toList, List.map_map]
  rfl

theorem holds_empty : empty.Holds [] := by
  refine ⟨rfl, fun host place => ?_⟩
  simp [empty, hosts]

section

variable {series : HostSeries} {samples : List Sample}

/-- The hosts are those of the samples, in their order. -/
theorem Holds.hosts_eq (h : series.Holds samples) : series.hosts = hostsOf samples := by
  rw [hosts_eq_map, h.groups, List.map_map]
  exact List.map_id _

/-- A host that the index does not know has not occurred. -/
theorem Holds.index_eq_none (h : series.Holds samples) {host : String}
    (hNone : series.index[host]? = none) : host ∉ hostsOf samples := by
  intro hSeen
  rw [← h.hosts_eq] at hSeen
  obtain ⟨place, hPlace⟩ := List.mem_iff_getElem?.mp hSeen
  have hSome := (h.index host place).mpr hPlace
  rw [hNone] at hSome
  cases hSome

/-- Adding to a group changes it alone. -/
theorem toList_push_known {sample : Sample} {place : Nat}
    (hPlace : series.index[sample.host]? = some place) :
    (series.push sample).toList =
      series.toList.modify place fun group => (group.1, group.2 ++ [sample]) := by
  have hPush : series.push sample =
      { series with
        groups := series.groups.modify place fun group =>
          { group with samples := group.samples.push sample } } := by
    simp only [push, hPlace]
  rw [hPush, toList, toList, Array.toList_modify]
  -- place by place: the one group is changed and the others are not
  apply List.ext_getElem?
  intro i
  simp only [List.getElem?_map, List.getElem?_modify, Option.map_eq_map]
  cases series.groups.toList[i]? with
  | none => rfl
  | some group =>
    by_cases hHere : place = i
    · simp [hHere]
    · simp [hHere]

/-- A sample of a host seen before joins the samples of that host. -/
theorem Holds.push_known (h : series.Holds samples) {sample : Sample} {place : Nat}
    (hPlace : series.index[sample.host]? = some place) :
    (series.push sample).Holds (samples ++ [sample]) := by
  have hAt := (h.index sample.host place).mp hPlace
  rw [h.hosts_eq] at hAt
  have hHosts : hostsOf (samples ++ [sample]) = hostsOf samples := by
    rw [hostsOf_append_one, if_pos (List.mem_of_getElem? hAt), List.append_nil]
  -- the group at that place has one more sample, the others stay
  have hGroups : (series.push sample).toList =
      (hostsOf (samples ++ [sample])).map fun host =>
        (host, samplesFrom host (samples ++ [sample])) := by
    rw [toList_push_known hPlace, h.groups, hHosts]
    apply List.ext_getElem?
    intro i
    simp only [List.getElem?_map, List.getElem?_modify]
    cases hHost : (hostsOf samples)[i]? with
    | none => rfl
    | some host =>
      -- the index is exact, so no other place has this host
      have hHere : place = i ↔ sample.host = host := by
        constructor
        · rintro rfl
          exact Option.some.inj (hAt.symm.trans hHost)
        · rintro rfl
          rw [← h.hosts_eq] at hHost
          exact Option.some.inj (hPlace.symm.trans ((h.index sample.host i).mpr hHost))
      by_cases hSame : sample.host = host
      · simp [samplesFrom_append_one, hHere, hSame]
      · simp [samplesFrom_append_one, hHere, hSame]
  have hIndex : (series.push sample).index = series.index := by
    simp only [push, hPlace]
  refine ⟨hGroups, fun host other => ?_⟩
  have hSameHosts : (series.push sample).hosts = series.hosts := by
    rw [hosts_eq_map, hGroups, hHosts, List.map_map, h.hosts_eq]
    exact List.map_id _
  rw [hIndex, hSameHosts, h.index]

/-- What stands where once a new host is put behind others. -/
theorem getElem?_append_one_iff {hosts : List String} {new host : String} {place : Nat}
    (hNew : new ∉ hosts) :
    (hosts ++ [new])[place]? = some host ↔
      if new = host then place = hosts.length else hosts[place]? = some host := by
  rw [List.getElem?_append]
  -- before the end stand the others, of which none is the new host
  by_cases hBefore : place < hosts.length
  · rw [if_pos hBefore]
    by_cases hSame : new = host
    · rw [if_pos hSame]
      refine iff_of_false (fun hAt => ?_) (by omega)
      exact hNew (hSame ▸ List.mem_of_getElem? hAt)
    · rw [if_neg hSame]
  · rw [if_neg hBefore, List.getElem?_singleton, List.getElem?_eq_none (by omega)]
    by_cases hSame : new = host
    · simp only [hSame, if_true]
      split
      · simp; omega
      · simp; omega
    · simp [hSame]

/-- A sample of a host not seen before opens a group behind the others. -/
theorem Holds.push_new (h : series.Holds samples) {sample : Sample}
    (hNone : series.index[sample.host]? = none) :
    (series.push sample).Holds (samples ++ [sample]) := by
  have hNew := h.index_eq_none hNone
  have hHosts : hostsOf (samples ++ [sample]) = hostsOf samples ++ [sample.host] := by
    rw [hostsOf_append_one, if_neg hNew]
  have hPush : series.push sample =
      { groups := series.groups.push ⟨sample.host, #[sample]⟩
        index := series.index.insert sample.host series.groups.size } := by
    simp only [push, hNone]
  have hGroups : (series.push sample).toList =
      (hostsOf (samples ++ [sample])).map fun host =>
        (host, samplesFrom host (samples ++ [sample])) := by
    -- the groups that stood before have no sample of the new host
    have hOld : (hostsOf samples).map (fun host => (host, samplesFrom host (samples ++ [sample]))) =
        series.toList := by
      rw [h.groups]
      apply List.map_congr_left
      intro host hHost
      have hNe : sample.host ≠ host := fun hEq => hNew (hEq ▸ hHost)
      rw [samplesFrom_append_one, if_neg hNe, List.append_nil]
    rw [hHosts, List.map_append, hOld, hPush]
    simp [toList, samplesFrom_append_one, samplesFrom_eq_nil hNew]
  have hSize : series.groups.size = series.hosts.length := by
    simp [hosts]
  refine ⟨hGroups, fun host place => ?_⟩
  have hNext : (series.push sample).hosts = series.hosts ++ [sample.host] := by
    rw [hosts_eq_map, hGroups, hHosts, h.hosts_eq, List.map_map]
    exact List.map_id _
  have hIndex : (series.push sample).index[host]? =
      if sample.host = host then some series.hosts.length else series.index[host]? := by
    rw [hPush, Std.HashMap.getElem?_insert, hSize]
    simp only [beq_iff_eq]
  have hNew' : sample.host ∉ series.hosts := by rwa [h.hosts_eq]
  rw [hIndex, hNext, getElem?_append_one_iff hNew', ← h.index]
  by_cases hSame : sample.host = host
  · rw [if_pos hSame, if_pos hSame, Option.some.injEq, eq_comm]
  · rw [if_neg hSame, if_neg hSame]

/-- One more sample keeps the invariant. -/
theorem Holds.push (h : series.Holds samples) (sample : Sample) :
    (series.push sample).Holds (samples ++ [sample]) := by
  cases hPlace : series.index[sample.host]? with
  | none => exact h.push_new hPlace
  | some place => exact h.push_known hPlace

theorem Holds.foldl (h : series.Holds samples) (more : List Sample) :
    (more.foldl HostSeries.push series).Holds (samples ++ more) := by
  induction more generalizing series samples with
  | nil => simpa using h
  | cons sample more ih =>
    rw [List.foldl_cons, List.append_cons]
    exact ih (h.push sample)

end

/-- A series holds the samples that it was made of. -/
theorem holds_ofList (samples : List Sample) : (ofList samples).Holds samples :=
  holds_empty.foldl samples

/-! ## What a reader of the series sees -/

/-- Taken host by host, samples are what they were, up to order. -/
theorem perm_flatMap_samplesFrom {hosts : List String} (hNodup : hosts.Nodup)
    {samples : List Sample} (hAll : ∀ sample ∈ samples, sample.host ∈ hosts) :
    (hosts.flatMap fun host => samplesFrom host samples).Perm samples := by
  induction hosts generalizing samples with
  | nil =>
    have hNil : samples = [] := List.eq_nil_iff_forall_not_mem.mpr fun sample hSample => by
      cases hAll sample hSample
    rw [hNil]
    exact List.Perm.refl _
  | cons host hosts ih =>
    obtain ⟨hNotIn, hRest⟩ := List.nodup_cons.mp hNodup
    obtain ⟨others, hOthers⟩ :
        ∃ others, others = samples.filter fun sample => !decide (sample.host = host) := ⟨_, rfl⟩
    have hIn : ∀ sample ∈ others, sample.host ∈ hosts := by
      intro sample hSample
      rw [hOthers, List.mem_filter] at hSample
      rcases List.mem_cons.mp (hAll sample hSample.1) with hEq | hIn
      · simp [hEq] at hSample
      · exact hIn
    -- taking the first host's samples out takes nothing from the others
    have hSame : (hosts.flatMap fun other => samplesFrom other samples) =
        hosts.flatMap fun other => samplesFrom other others := by
      apply List.flatMap_congr
      intro other hOther
      rw [samplesFrom, samplesFrom, hOthers, List.filter_filter]
      apply List.filter_congr
      intro sample _
      by_cases hHost : sample.host = other
      · have hNe : other ≠ host := fun hEq => hNotIn (hEq ▸ hOther)
        simp [hHost, hNe]
      · simp [hHost]
    have hSplit : (samplesFrom host samples ++ others).Perm samples := by
      rw [hOthers]
      exact List.filter_append_perm _ samples
    rw [List.flatMap_cons, hSame]
    exact ((ih hRest hIn).append_left _).trans hSplit

/-- What it means that a series holds samples grouped by host. -/
structure Partitions (series : HostSeries) (samples : List Sample) : Prop where
  /-- A host with samples gives all of them in arrival order, and another host gives nothing. -/
  get? : ∀ host, series.get? host =
    if ∃ sample ∈ samples, sample.host = host then some (samples.filter (·.host = host)) else none
  /-- Each host stands once, where it first appeared. -/
  hosts : series.hosts = (samples.map (·.host)).eraseDups ∧ series.hosts.Nodup
  /-- Iteration goes over the hosts in that order, each with what lookup gives. -/
  toList : series.toList.map (·.1) = series.hosts ∧
    ∀ host group, (host, group) ∈ series.toList ↔ series.get? host = some group
  /-- The size is the number of different hosts. -/
  size : series.size = (samples.map (·.host)).toFinset.card
  /-- Every sample is in the groups exactly as often as it came. -/
  perm : (series.toList.flatMap (·.2)).Perm samples
  /-- The index gives a place exactly where the group of the host stands. -/
  index : ∀ (host : String) (place : Nat), series.index[host]? = some place ↔
    ∃ inside : place < series.groups.size, series.groups[place].host = host

variable {series : HostSeries} {samples : List Sample}

/-- A host stands among the hosts where its group does among the groups. -/
theorem hosts_getElem?_eq_some_iff {host : String} {place : Nat} :
    series.hosts[place]? = some host ↔
      ∃ inside : place < series.groups.size, series.groups[place].host = host := by
  rw [hosts, List.getElem?_map, Option.map_eq_some_iff]
  constructor
  · rintro ⟨group, hGroup, rfl⟩
    rw [Array.getElem?_toList] at hGroup
    obtain ⟨inside, hAt⟩ := Array.getElem?_eq_some_iff.mp hGroup
    exact ⟨inside, by rw [hAt]⟩
  · rintro ⟨inside, rfl⟩
    exact ⟨series.groups[place], by simp [inside], rfl⟩

theorem get?_eq (series : HostSeries) (host : String) :
    series.get? host =
      (series.index[host]?).bind fun place => (series.toList[place]?).map (·.2) := by
  simp [get?, toList, Function.comp_def]

/-- Lookup gives the samples of a host, and nothing for one that did not occur. -/
theorem Holds.get?_eq (h : series.Holds samples) (host : String) :
    series.get? host =
      if host ∈ hostsOf samples then some (samplesFrom host samples) else none := by
  rw [HostSeries.get?_eq]
  cases hPlace : series.index[host]? with
  | none =>
    rw [if_neg (h.index_eq_none hPlace)]
    rfl
  | some place =>
    have hAt := (h.index host place).mp hPlace
    rw [h.hosts_eq] at hAt
    rw [if_pos (List.mem_of_getElem? hAt), h.groups, Option.bind_some, List.getElem?_map, hAt]
    rfl

/-- Iteration and lookup agree. -/
theorem Holds.mem_toList_iff (h : series.Holds samples) (host : String) (group : List Sample) :
    (host, group) ∈ series.toList ↔ series.get? host = some group := by
  rw [h.groups, h.get?_eq, List.mem_map]
  constructor
  · rintro ⟨other, hOther, hEq⟩
    obtain ⟨rfl, rfl⟩ := Prod.mk.inj hEq
    rw [if_pos hOther]
  · intro hSome
    by_cases hIn : host ∈ hostsOf samples
    · rw [if_pos hIn, Option.some.injEq] at hSome
      exact ⟨host, hIn, by rw [hSome]⟩
    · rw [if_neg hIn] at hSome
      cases hSome

theorem Holds.nodup_hosts (h : series.Holds samples) : series.hosts.Nodup := by
  rw [h.hosts_eq]
  exact nodup_hostsOf samples

/-- Its size counts the different hosts. -/
theorem Holds.size_eq (h : series.Holds samples) :
    series.size = (samples.map (·.host)).toFinset.card := by
  have hSize : series.size = series.hosts.length := by
    simp [size, hosts]
  rw [hSize, ← List.toFinset_card_of_nodup h.nodup_hosts, h.hosts_eq]
  congr 1
  ext host
  simp [hostsOf, List.mem_eraseDups]

/-- Its groups hold the samples, each as often as it came. -/
theorem Holds.perm (h : series.Holds samples) :
    (series.toList.flatMap (·.2)).Perm samples := by
  rw [h.groups, List.flatMap_map]
  exact perm_flatMap_samplesFrom (nodup_hostsOf samples) fun sample hSample =>
    mem_hostsOf.mpr ⟨sample, hSample, rfl⟩

/-- **Samples by host are a partition.** After any samples were pushed, lookup, hosts, iteration and
size of the series all say the same: each host that occurs once, in order of first appearance, with
all its samples in arrival order. The index is exact, so no group is looked for where there is none. -/
theorem partitions_ofList (samples : List Sample) : (ofList samples).Partitions samples := by
  have h := holds_ofList samples
  refine
    { get? := fun host => ?_
      hosts := ⟨h.hosts_eq, h.nodup_hosts⟩
      toList := ⟨(hosts_eq_map _).symm, h.mem_toList_iff⟩
      size := h.size_eq
      perm := h.perm
      index := fun host place => ?_ }
  · rw [h.get?_eq, samplesFrom]
    simp only [mem_hostsOf]
  · rw [h.index, hosts_getElem?_eq_some_iff]

end SolarCharts.HostSeries
