import Mathlib.Algebra.Group.Nat.Defs
import Mathlib.Data.List.Basic
import SolarCharts.Proofs.Flux.Literal

/-!
# Duration literals are exact

A duration literal is a row of parts, each a number and a unit. `literalParts?` reads them, with the
longest unit that a text goes on with, so that `ms` is not taken for minutes.

* `foldlM_writeUnit?` — written by taking each unit off what is left, and never more than that.
* `canonical_canonicalParts` — the parts that are written are `Canonical`: units in descending order,
  no zeros, and no part so large that a longer unit would have counted it.
* `literalParts?_durationLiteral` — they are read back one by one.
* `durationLiteral_exact` — so a literal stands for its duration to the nanosecond, and for no other.
-/

namespace SolarCharts.Flux

open Text (Reader)
open Text.Reader

variable {rest : List Char}

/-! ## Reading parts -/

/-- Takes nothing, and gives the unit that some letters are. -/
def unitOf (letters : List Char) : Reader TimeUnit := fun text =>
  (unitSize? letters).map fun size => (⟨String.ofList letters, size⟩, text)

/-- Takes the longest unit that a text starts with. None has more than two letters. -/
def longestUnit : Reader TimeUnit :=
  (do unitOf [← next, ← next]) <|> (do unitOf [← next])

/-- Takes a number and its unit. -/
def literalPart : Reader (Nat × TimeUnit) := do
  let digits ← takeWhile1 Char.isDigit
  let unit ← longestUnit
  pure (Text.decimalOf digits, unit)

/-- The parts of a duration literal, which has one at least. -/
def literalParts? (literal : List Char) : Option (List (Nat × TimeUnit)) :=
  (run? (many literalPart) literal).filter fun parts => !parts.isEmpty

/-- How a part is written. -/
def partChars (part : Nat × TimeUnit) : List Char :=
  Nat.toDigits 10 part.1 ++ part.2.suffix.toList

/-- A unit has one letter or two. -/
theorem letters_of_unitSize? {letters : List Char} {size : Nat} (h : unitSize? letters = some size) :
    (letters.length = 1 ∨ letters.length = 2) ∧ ∀ c ∈ letters, c.isAlpha = true := by
  unfold unitSize? at h
  split at h
  all_goals first
    | exact ⟨by decide, List.all_eq_true.mp rfl⟩
    | cases h

theorem unitOf_known {unit : TimeUnit} (hUnit : unit.Known) (rest : List Char) :
    unitOf unit.suffix.toList rest = some (unit, rest) := by
  rw [unitOf, hUnit.size, String.ofList_toList]
  rfl

/-- A letter further on in a text is more of its unit. -/
abbrev EndsUnit (rest : List Char) : Prop := EndsBefore Char.isAlpha rest

/-- A unit is taken as a whole where no letter comes behind it. -/
theorem longestUnit_append {unit : TimeUnit} (hUnit : unit.Known) (hRest : EndsUnit rest) :
    longestUnit (unit.suffix.toList ++ rest) = some (unit, rest) := by
  have hKnown := unitOf_known hUnit rest
  obtain ⟨hLength, -⟩ := letters_of_unitSize? hUnit.size
  rcases hLength with hOne | hTwo
  · obtain ⟨c, hLetter⟩ := List.length_eq_one_iff.mp hOne
    rw [hLetter] at hKnown ⊢
    rw [longestUnit, orElse_of_none]
    · exact hKnown
    · -- what comes behind the letter is no letter, so the two are no unit
      cases rest with
      | nil => rfl
      | cons d rest =>
        show unitOf [c, d] rest = none
        cases hSize : unitSize? [c, d] with
        | none =>
          rw [unitOf, hSize]
          rfl
        | some size =>
          have hAlpha := (letters_of_unitSize? hSize).2 d (by simp)
          rw [hRest d rfl] at hAlpha
          cases hAlpha
  · obtain ⟨c, d, hLetters⟩ := List.length_eq_two.mp hTwo
    rw [hLetters] at hKnown ⊢
    exact orElse_of_some hKnown

/-- A part is taken as a whole: a number and its unit. -/
theorem literalPart_append {part : Nat × TimeUnit} (hUnit : part.2.Known) (hRest : EndsUnit rest) :
    literalPart (partChars part ++ rest) = some (part, rest) := by
  obtain ⟨n, unit⟩ := part
  have hDigits : ∀ c ∈ Nat.toDigits 10 n, c.isDigit = true := fun c hc => isDigit_of_mem_digits hc
  -- the number ends where the unit starts
  have hLetters : EndsBefore Char.isDigit (unit.suffix.toList ++ rest) := by
    intro c hc
    obtain ⟨hLength, -⟩ := letters_of_unitSize? hUnit.size
    cases hSuffix : unit.suffix.toList with
    | nil => simp [hSuffix] at hLength
    | cons first letters =>
      rw [hSuffix, List.cons_append, List.head?_cons, Option.mem_some_iff] at hc
      rw [← hc]
      exact (hUnit.letter (by rw [hSuffix]; exact List.mem_cons_self)).2
  have hTaken := takeWhile1_append Nat.toDigits_ne_nil hDigits hLetters
  have hValue : Text.decimalOf (Nat.toDigits 10 n) = n :=
    Nat.ofDigitChars_toDigits (by decide) (by decide)
  rw [partChars, List.append_assoc, literalPart, bind_of hTaken,
    bind_of (longestUnit_append hUnit hRest), hValue]
  rfl

theorem isAlpha_of_isDigit {c : Char} (h : c.isDigit = true) : c.isAlpha = false := by
  have hDigit : c.val.toNat ≤ 57 := by
    obtain ⟨-, hLast⟩ := (Bool.and_eq_true _ _).mp h
    exact UInt32.le_iff_toNat_le.mp (of_decide_eq_true hLast)
  refine Bool.eq_false_iff.mpr fun hAlpha => ?_
  -- the first letters are beyond the last digit
  rcases (Bool.or_eq_true _ _).mp hAlpha with hUpper | hLower
  · have hFirst : 65 ≤ c.val.toNat := UInt32.le_iff_toNat_le.mp (of_decide_eq_true hUpper).1
    omega
  · obtain ⟨hFirst, -⟩ := (Bool.and_eq_true _ _).mp hLower
    have hFirst : 97 ≤ c.val.toNat := UInt32.le_iff_toNat_le.mp (of_decide_eq_true hFirst)
    omega

/-- Parts are read back as they were written, one by one. -/
theorem literalParts?_flatMap {parts : List (Nat × TimeUnit)} (hParts : parts ≠ [])
    (hKnown : ∀ part ∈ parts, part.2.Known) :
    literalParts? (parts.flatMap partChars) = some parts := by
  have hEnd : EndsUnit [] := nofun
  have hStop : literalPart [] = none := rfl
  -- a part starts with a digit, so the unit before it ends there
  have hWritten : ∀ part ∈ parts, ∀ rest, EndsUnit (partChars part ++ rest) := by
    intro part _ rest c hc
    obtain ⟨first, digits, hSplit⟩ :=
      List.exists_cons_of_ne_nil (Nat.toDigits_ne_nil (n := part.1) (b := 10))
    rw [partChars, hSplit, List.cons_append, List.cons_append, List.head?_cons,
      Option.mem_some_iff] at hc
    rw [← hc]
    refine isAlpha_of_isDigit (isDigit_of_mem_digits (n := part.1) ?_)
    rw [hSplit]
    exact List.mem_cons_self
  have hMany := many_flatMap (fun part hPart rest hRest => literalPart_append (hKnown part hPart) hRest)
    hWritten (fun part => by simp [partChars, Nat.toDigits_ne_nil]) hEnd hStop
  rw [List.append_nil] at hMany
  rw [literalParts?, run?_of hMany, Option.filter_some, if_pos (by simpa using hParts)]

/-! ## Canonical parts -/

/-- How often a unit may be counted before a longer one is due. The longest one goes as far as a
number of 64 bits with a sign. -/
def countLimit (suffix : String) : Nat :=
  if suffix = "h" then 2 ^ 63
  else if suffix = "m" ∨ suffix = "s" then 60
  else 1000

/-- Parts as a literal has them: counts of units, from the longest to the shortest. -/
structure Canonical (parts : List (Nat × TimeUnit)) : Prop where
  known : ∀ part ∈ parts, part.2 ∈ timeUnits
  /-- Each unit at most once, and the longer ones first. -/
  descending : (parts.map (·.2.size)).Pairwise (· > ·)
  /-- No part counts nothing, but for the one of the zero duration. -/
  positive : (parts ≠ [] ∧ ∀ part ∈ parts, 0 < part.1) ∨ parts = [(0, ⟨"s", 1000000000⟩)]
  bounded : ∀ part ∈ parts, part.1 < countLimit part.2.suffix

/-- The parts of a duration's literal. -/
def canonicalParts (d : Duration) : List (Nat × TimeUnit) :=
  if d.nanos = 0 then [(0, ⟨"s", 1000000000⟩)]
  else (counts timeUnits d.nanos).filter fun part => part.1 ≠ 0

theorem map_unit_counts (units : List TimeUnit) (nanos : Nat) :
    (counts units nanos).map (·.2) = units := by
  induction units generalizing nanos with
  | nil => rfl
  | cons unit units ih => rw [counts, List.map_cons, ih]

/-- Each unit, counted up to its limit, comes to the one before it. -/
def Graded : Nat → List TimeUnit → Prop
  | _, [] => True
  | above, unit :: units => above = unit.size * countLimit unit.suffix ∧ Graded unit.size units

/-- From hours to nanoseconds, with any number of hours that fits. -/
theorem graded_timeUnits : Graded (3600000000000 * 2 ^ 63) timeUnits := by
  refine ⟨rfl, rfl, rfl, rfl, rfl, rfl, trivial⟩

/-- What is left for the units below one is less than that one, so their counts stay in bounds. -/
theorem counts_lt {above : Nat} {units : List TimeUnit} (hGraded : Graded above units) {nanos : Nat}
    (hNanos : nanos < above) {part : Nat × TimeUnit} (h : part ∈ counts units nanos) :
    part.1 < countLimit part.2.suffix := by
  induction units generalizing above nanos with
  | nil => cases h
  | cons unit units ih =>
    obtain ⟨hAbove, hUnits⟩ := hGraded
    rw [hAbove] at hNanos
    have hSize : 0 < unit.size := by
      refine Nat.pos_of_ne_zero fun hZero => ?_
      rw [hZero, Nat.zero_mul] at hNanos
      exact Nat.not_lt_zero _ hNanos
    rw [counts] at h
    rcases List.mem_cons.mp h with rfl | h
    · exact Nat.div_lt_of_lt_mul hNanos
    · exact ih hUnits (Nat.mod_lt _ hSize) h

/-- Seconds of 64 bits are fewer hours than the limit of these. -/
theorem nanos_lt_of_seconds_lt {d : Duration} (h : d.seconds < 2 ^ 64) :
    d.nanos < 3600000000000 * 2 ^ 63 := by
  have hNanos := d.seconds_mul_add_subsecond
  have hSubsecond := d.subsecond_lt
  simp only [nanosPerSecond] at hNanos hSubsecond
  omega

/-- Parts that count nothing add nothing. -/
theorem partsSum_filter (parts : List (Nat × TimeUnit)) :
    partsSum (parts.filter fun part => part.1 ≠ 0) = partsSum parts := by
  induction parts with
  | nil => rfl
  | cons part parts ih =>
    obtain ⟨n, unit⟩ := part
    rw [List.filter_cons, partsSum]
    by_cases hZero : n = 0
    · simp [hZero, ← ih]
    · simp [hZero, partsSum, ← ih]

/-- They are not written either. -/
theorem flatMap_partChars_filter (parts : List (Nat × TimeUnit)) :
    (parts.filter fun part => part.1 ≠ 0).flatMap partChars = partsText parts := by
  induction parts with
  | nil => rfl
  | cons part parts ih =>
    obtain ⟨n, unit⟩ := part
    rw [List.filter_cons, partsText_cons]
    by_cases hZero : n = 0
    · simp [hZero, ← ih]
    · simp [hZero, partChars, ← ih]

/-- The parts of a literal add up to its duration. -/
theorem partsSum_canonicalParts (d : Duration) : partsSum (canonicalParts d) = d.nanos := by
  unfold canonicalParts
  split
  · next hZero => rw [hZero]; rfl
  · -- the last unit is one nanosecond, so nothing is left
    rw [partsSum_filter]
    exact partsSum_counts
      [⟨"h", 3600000000000⟩, ⟨"m", 60000000000⟩, ⟨"s", 1000000000⟩, ⟨"ms", 1000000⟩,
        ⟨"us", 1000⟩] "ns" d.nanos

/-- There is one at least, also for the zero duration. -/
theorem canonicalParts_ne_nil (d : Duration) : canonicalParts d ≠ [] := by
  intro hNil
  have hSum := partsSum_canonicalParts d
  rw [hNil] at hSum
  have hZero : d.nanos = 0 := hSum.symm
  rw [canonicalParts, if_pos hZero] at hNil
  cases hNil

/-- **A literal is its parts**, written one behind another. -/
theorem toList_durationLiteral (d : Duration) :
    (durationLiteral d).toList = (canonicalParts d).flatMap partChars := by
  unfold durationLiteral canonicalParts
  split
  · rfl
  · rw [flatMap_partChars_filter, String.toList_join, List.flatMap_map]
    rfl

/-- Their units are those that durations are counted in. -/
theorem mem_timeUnits_of_mem {d : Duration} {part : Nat × TimeUnit} (h : part ∈ canonicalParts d) :
    part.2 ∈ timeUnits := by
  unfold canonicalParts at h
  split at h
  · rw [List.mem_singleton.mp h]
    decide
  · exact mem_counts (List.mem_of_mem_filter h)

/-- They are canonical where the seconds fit into 64 bits. -/
theorem canonical_canonicalParts {d : Duration} (h : d.seconds < 2 ^ 64) :
    Canonical (canonicalParts d) := by
  have hKnown : ∀ part ∈ canonicalParts d, part.2 ∈ timeUnits := fun part => mem_timeUnits_of_mem
  have hNonempty := canonicalParts_ne_nil d
  by_cases hZero : d.nanos = 0
  · rw [canonicalParts, if_pos hZero] at hKnown ⊢
    exact ⟨hKnown, by decide, Or.inr rfl, by decide⟩
  · rw [canonicalParts, if_neg hZero] at hKnown hNonempty ⊢
    refine ⟨hKnown, ?_, Or.inl ⟨hNonempty, ?_⟩, ?_⟩
    · -- leaving parts out keeps the order of the others
      have hAll : ((counts timeUnits d.nanos).map (·.2.size)).Pairwise (· > ·) := by
        have hSizes := congrArg (List.map TimeUnit.size) (map_unit_counts timeUnits d.nanos)
        rw [List.map_map] at hSizes
        rw [show (counts timeUnits d.nanos).map (·.2.size) = timeUnits.map (·.size) from hSizes]
        decide
      exact hAll.sublist (List.filter_sublist.map _)
    · intro part hPart
      have hCounted := (List.mem_filter.mp hPart).2
      exact Nat.pos_of_ne_zero (of_decide_eq_true hCounted)
    · intro part hPart
      exact counts_lt graded_timeUnits (nanos_lt_of_seconds_lt h) (List.mem_of_mem_filter hPart)

/-- **Duration literals are read back** part by part. -/
theorem literalParts?_durationLiteral (d : Duration) :
    literalParts? (durationLiteral d).toList = some (canonicalParts d) := by
  rw [toList_durationLiteral]
  exact literalParts?_flatMap (canonicalParts_ne_nil d) fun part hPart =>
    known_timeUnits (mem_timeUnits_of_mem hPart)

/-! ## Taking units off -/

/-- Writes how often one unit is in what is left of a duration, behind the text so far, and takes that
off. It must not be more than what is left. -/
def writeUnit? (state : String × Nat) (unit : TimeUnit) : Option (String × Nat) :=
  let (text, left) := state
  let count := left / unit.size
  if count = 0 then some (text, left)
  else if left < count * unit.size then none
  else some (text ++ toString count ++ unit.suffix, left - count * unit.size)

/-- One unit is taken off as often as it goes, and the remainder is left. -/
theorem writeUnit?_eq (text : String) (left : Nat) (unit : TimeUnit) :
    writeUnit? (text, left) unit =
      some (text ++ partText (left / unit.size, unit), left % unit.size) := by
  have hLeft := Nat.div_add_mod' left unit.size
  unfold writeUnit? partText
  dsimp only
  -- a unit that does not go at all is not written
  split
  · next hZero =>
    rw [hZero, Nat.zero_mul, Nat.zero_add] at hLeft
    rw [hLeft, String.append_empty]
  · rw [if_neg (by omega), String.append_assoc]
    congr 2
    omega

/-- Units taken off one after another give their parts, and what is left is less than the last unit:
no more is ever taken off than is left. -/
theorem foldlM_writeUnit? (units : List TimeUnit) (text : String) (left : Nat) :
    units.foldlM writeUnit? (text, left) =
      some (text ++ String.join ((counts units left).map partText),
        units.foldl (fun left unit => left % unit.size) left) := by
  induction units generalizing text left with
  | nil => simp [counts]
  | cons unit units ih =>
    rw [List.foldlM_cons, writeUnit?_eq]
    show units.foldlM writeUnit? _ = _
    rw [ih, counts, List.map_cons, String.join_cons, String.append_assoc, List.foldl_cons]

/-- Taking off all units writes the literal and leaves nothing. -/
theorem foldlM_writeUnit?_timeUnits {d : Duration} (h : d.nanos ≠ 0) :
    timeUnits.foldlM writeUnit? ("", d.nanos) = some (durationLiteral d, 0) := by
  have hLeft : timeUnits.foldl (fun left unit => left % unit.size) d.nanos = 0 := Nat.mod_one _
  rw [foldlM_writeUnit?, hLeft, String.empty_append, durationLiteral, if_neg h]

/-! ## Literals and durations -/

/-- **Duration literals are exact.** The literal of any duration of whole seconds of 64 bits, and
nanoseconds beside them, is read back part by part to the same number of nanoseconds, and its parts are
canonical. It is `0s` for the zero duration and no other literal stands for the same duration. Where it
is written by taking unit after unit off what is left, no more is taken off than that, and nothing is
left in the end. -/
theorem durationLiteral_exact :
    (∀ d : Duration, d.seconds < 2 ^ 64 →
      ∃ parts, literalParts? (durationLiteral d).toList = some parts ∧
        partsSum parts = d.nanos ∧ Canonical parts) ∧
      durationLiteral ⟨0⟩ = "0s" ∧
      (∀ a b : Duration, durationLiteral a = durationLiteral b ↔ a = b) ∧
      ∀ d : Duration, d.nanos ≠ 0 →
        timeUnits.foldlM writeUnit? ("", d.nanos) = some (durationLiteral d, 0) := by
  refine ⟨?_, rfl, ?_, fun d => foldlM_writeUnit?_timeUnits⟩
  · intro d hSeconds
    exact ⟨canonicalParts d, literalParts?_durationLiteral d, partsSum_canonicalParts d,
      canonical_canonicalParts hSeconds⟩
  · intro a b
    constructor
    · intro h
      -- one literal has one row of parts, which tells how long it is
      have hParts := literalParts?_durationLiteral a
      rw [h, literalParts?_durationLiteral, Option.some_inj] at hParts
      have hNanos := partsSum_canonicalParts a
      rw [← hParts, partsSum_canonicalParts] at hNanos
      cases a
      cases b
      exact congrArg Duration.mk hNanos.symm
    · rintro rfl
      rfl

/-- The longest duration of 64 bits: no minutes, and every other part. -/
theorem durationLiteral_longest :
    (Duration.ofParts (2 ^ 64 - 1) 999999999).seconds < 2 ^ 64 ∧
      durationLiteral (.ofParts (2 ^ 64 - 1) 999999999) = "5124095576030431h15s999ms999us999ns" ∧
      ∃ parts, literalParts? "5124095576030431h15s999ms999us999ns".toList = some parts ∧
        partsSum parts = 18446744073709551615999999999 ∧ Canonical parts := by
  have hSeconds : (Duration.ofParts (2 ^ 64 - 1) 999999999).seconds < 2 ^ 64 := by decide +kernel
  have hLiteral : durationLiteral (.ofParts (2 ^ 64 - 1) 999999999) =
      "5124095576030431h15s999ms999us999ns" := by decide +kernel
  obtain ⟨parts, hParts, hSum, hCanonical⟩ := durationLiteral_exact.1 _ hSeconds
  rw [hLiteral] at hParts
  exact ⟨hSeconds, hLiteral, parts, hParts, hSum, hCanonical⟩

end SolarCharts.Flux
