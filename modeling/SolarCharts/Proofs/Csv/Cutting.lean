import Mathlib.Data.List.Induction
import SolarCharts.Proofs.Csv.Placement

/-!
# Where records are cut

The octet that ends a record belongs to it, and every line end behind that octet is passed over before the
next record begins. So a text in front of a record is an `above`, which ends with the last record in it,
and a `gap` of line ends. The record is given the line that `above` ends on.

* `Turn`, `turn_step` — what one octet does to the cutting.
* `exists_before`, `exists_above` — where a record is opened, and what is passed over in front of it.
* `exists_cut` — the octets of one record, between those of the others.
* `StandsIn.line_eq`, `StandsIn.eq_nil_of_paired` — the line a record is given, and where line ends stand
  in pairs, that none is passed over only at the very start.
-/

namespace SolarCharts.Csv

namespace Scan

variable {s t : Scan} {text above gap : List UInt8} {n : Nat}

/-! ## One octet -/

/-- What an octet can do: between records a line end is passed over, any other octet opens a record or
goes on with the open one, and a line end outside quotes closes it. -/
inductive Turn (s : Scan) (b : UInt8) (t : Scan) : Option RawRecord → Prop
  | passes (hMode : s.mode = .recordStart) (hEnds : endsRecord b = true)
      (hStill : t.mode = .recordStart) (hStart : t.start = s.start) : Turn s b t none
  | goesOn (hOpen : t.mode ≠ .recordStart) (hStart : t.start = s.start)
      (hQuoted : endsRecord b = true → s.mode = .quoted ∧ t.mode = .quoted) : Turn s b t none
  | closes {raw : RawRecord} (hOpen : s.mode ≠ .recordStart) (hUnquoted : s.mode ≠ .quoted)
      (hEnds : endsRecord b = true) (hRaw : raw.position = s.start)
      (hClosed : t.mode = .recordStart) (hLine : t.start.line = t.line) : Turn s b t (some raw)

/-- A line end outside quotes closes the record. -/
theorem unquoted_of_ends {b : UInt8} (h : endsRecord b = true) (s : Scan) :
    s.unquoted b = (s.closeRecord, some s.record) := by
  have hComma : b ≠ 44 := by
    rintro rfl
    cases h
  rw [unquoted, if_neg hComma, if_pos h]

/-- An octet outside quotes that ends no record is taken into the open one. -/
theorem turn_unquoted {b : UInt8} (h : endsRecord b = false) (s : Scan) :
    Turn s b ((s.advance b).unquoted b).1 ((s.advance b).unquoted b).2 := by
  have hEnds : endsRecord b = true → s.mode = .quoted ∧
      ((s.advance b).unquoted b).1.mode = .quoted := by
    intro hEnds
    rw [h] at hEnds
    cases hEnds
  -- a comma closes a cell, and every other octet is put into one
  by_cases hComma : b = 44
  · rw [unquoted, if_pos hComma] at hEnds ⊢
    exact .goesOn (by simp [closeCell]) rfl hEnds
  · rw [unquoted, if_neg hComma, if_neg (by simp [h])] at hEnds ⊢
    exact .goesOn (by simp [put]) rfl hEnds

/-- An octet outside quotes is taken into an open record, or closes it. -/
theorem turn_open {b : UInt8} (hOpen : s.mode ≠ .recordStart) (hUnquoted : s.mode ≠ .quoted) :
    Turn s b ((s.advance b).unquoted b).1 ((s.advance b).unquoted b).2 := by
  cases hEnds : endsRecord b with
  | false => exact turn_unquoted hEnds s
  | true =>
    rw [unquoted_of_ends hEnds]
    exact .closes hOpen hUnquoted hEnds rfl rfl rfl

/-- A quote opens a quoted cell or closes it, and never the record. -/
theorem turn_quote (hOpen : t.mode ≠ .recordStart) (hStart : t.start = s.start) :
    Turn s 34 t none := by
  refine .goesOn hOpen hStart fun hEnds => ?_
  cases hEnds

/-- Whatever the octet and wherever the cutting has come, one of these happens. -/
theorem turn_step (s : Scan) (b : UInt8) : Turn s b (s.step b).1 (s.step b).2 := by
  have hSame : (s.advance b).mode = s.mode := rfl
  unfold step
  dsimp only
  split
  · -- between records
    next hMode =>
    rw [hSame] at hMode
    split
    · next hEnds => exact .passes hMode hEnds hMode rfl
    · next hEnds =>
      split
      · next hQuote =>
        rw [hQuote]
        exact turn_quote (by simp) rfl
      · exact turn_unquoted (by simpa using hEnds) s
  · -- behind a comma
    next hMode =>
    rw [hSame] at hMode
    split
    · next hQuote =>
      rw [hQuote]
      exact turn_quote (by simp) rfl
    · exact turn_open (by simp [hMode]) (by simp [hMode])
  · -- in a cell without quotes
    next hMode =>
    rw [hSame] at hMode
    exact turn_open (by simp [hMode]) (by simp [hMode])
  · -- in a quoted cell
    next hMode =>
    rw [hSame] at hMode
    split
    · next hQuote =>
      rw [hQuote]
      exact turn_quote (by simp) rfl
    · exact .goesOn (by simp [put]) rfl fun _ => ⟨hMode, rfl⟩
  · -- behind a quote in it
    next hMode =>
    rw [hSame] at hMode
    split
    · next hQuote =>
      rw [hQuote]
      exact turn_quote (by simp [put]) rfl
    · exact turn_open (by simp [hMode]) (by simp [hMode])

/-- An octet leads on, by one of these turns. -/
theorem exists_turn (s : Scan) (b : UInt8) : ∃ t out, s.step b = (t, out) ∧ Turn s b t out :=
  ⟨_, _, rfl, turn_step s b⟩

theorem run_cons {b : UInt8} {out : Option RawRecord} (h : s.step b = (t, out))
    (rest : List UInt8) : s.run (b :: rest) = out.toList ++ t.run rest := by
  rw [run, h]

theorem after_cons {b : UInt8} {out : Option RawRecord} (h : s.step b = (t, out))
    (rest : List UInt8) : s.after (b :: rest) = t.after rest := by
  rw [after, h]

theorem after_append (s : Scan) (a b : List UInt8) : s.after (a ++ b) = (s.after a).after b := by
  induction a generalizing s with
  | nil => rfl
  | cons octet rest ih => exact ih _

/-! ## Counting line feeds -/

/-- A line feed is the only octet that goes on to another line. -/
theorem line_step (s : Scan) (b : UInt8) :
    (s.step b).1.line = s.line + if b = 10 then 1 else 0 := by
  have hAdvance : (s.advance b).line = s.line + if b = 10 then 1 else 0 := by
    unfold advance
    dsimp only
    split <;> rfl
  have hUnquoted : ((s.advance b).unquoted b).1.line = (s.advance b).line := by
    unfold unquoted
    split
    · rfl
    · split <;> rfl
  -- the line is counted first, and nothing else touches it
  rw [← hAdvance]
  unfold step
  dsimp only
  split
  · split
    · rfl
    · split
      · rfl
      · exact hUnquoted
  · split
    · rfl
    · exact hUnquoted
  · exact hUnquoted
  · split <;> rfl
  · split
    · rfl
    · exact hUnquoted

/-- So lines are counted by their line feeds, in quotes or not. -/
theorem line_after (s : Scan) (octets : List UInt8) :
    (s.after octets).line = s.line + octets.count 10 := by
  induction octets generalizing s with
  | nil => rfl
  | cons octet rest ih =>
    show ((s.step octet).1.after rest).line = _
    rw [ih, line_step, List.count_cons]
    by_cases hFeed : octet = 10
    · simp only [hFeed, if_true, beq_self_eq_true]
      omega
    · simp [hFeed]

/-! ## Where a record is opened -/

/-- Line ends between records are passed over. -/
theorem after_gap (hMode : s.mode = .recordStart) (hGap : ∀ b ∈ gap, endsRecord b = true) :
    (s.after gap).mode = .recordStart ∧ (s.after gap).start = s.start ∧ s.run gap = [] := by
  induction gap generalizing s with
  | nil =>
    refine ⟨hMode, rfl, ?_⟩
    rw [run, finish, if_pos hMode]
    rfl
  | cons b gap ih =>
    have hEnds := hGap b List.mem_cons_self
    have hRest : ∀ c ∈ gap, endsRecord c = true := fun c hc => hGap c (List.mem_cons_of_mem _ hc)
    obtain ⟨t, out, hStep, hTurn⟩ := exists_turn s b
    rw [after_cons hStep, run_cons hStep]
    -- between records, an octet that ends them can only be passed over
    cases hTurn with
    | passes _ _ hStill hStart =>
      obtain ⟨hEnd, hSame, hRun⟩ := ih hStill hRest
      exact ⟨hEnd, hSame.trans hStart, hRun⟩
    | goesOn _ _ hQuoted =>
      rw [hMode] at hQuoted
      cases (hQuoted hEnds).1
    | closes hOpen => exact absurd hMode hOpen

/-- The first record that an open scan gives stands where it was opened. -/
theorem run_open (hOpen : s.mode ≠ .recordStart) (octets : List UInt8) :
    ∃ raw more, s.run octets = raw :: more ∧ raw.position = s.start := by
  induction octets generalizing s with
  | nil =>
    refine ⟨s.record, [], ?_, rfl⟩
    rw [run, finish, if_neg hOpen]
    rfl
  | cons b rest ih =>
    obtain ⟨t, out, hStep, hTurn⟩ := exists_turn s b
    rw [run_cons hStep]
    -- closed by this octet or by a later one, the record keeps its start
    cases hTurn with
    | passes hMode => exact absurd hMode hOpen
    | goesOn hStill hStart =>
      obtain ⟨raw, more, hRun, hPosition⟩ := ih hStill
      exact ⟨raw, more, hRun, hPosition.trans hStart⟩
    | closes _ _ _ hRaw => exact ⟨_, t.run rest, rfl, hRaw⟩

/-- Between records, any octet but a line end opens one, which is the first to come. -/
theorem run_first (hMode : s.mode = .recordStart) {first : UInt8} (hFirst : endsRecord first = false)
    (rest : List UInt8) :
    ∃ raw more, s.run (first :: rest) = raw :: more ∧ raw.position = s.start := by
  obtain ⟨t, out, hStep, hTurn⟩ := exists_turn s first
  rw [run_cons hStep]
  cases hTurn with
  | passes _ hEnds =>
    -- a line end is what it is not
    rw [hFirst] at hEnds
    cases hEnds
  | goesOn hOpen hStart =>
    obtain ⟨raw, more, hRun, hPosition⟩ := run_open hOpen rest
    exact ⟨raw, more, hRun, hPosition.trans hStart⟩
  | closes hOpen => exact absurd hMode hOpen

/-- In front of the text of every record, but for one that is open already, no record is open, and so
many are cut as come before it. -/
theorem exists_before {octets : List UInt8} (hIn : n < (s.run octets).length)
    (hLater : s.mode = .recordStart ∨ 0 < n) :
    ∃ before first rest, octets = before ++ first :: rest ∧ endsRecord first = false ∧
      (s.after before).mode = .recordStart ∧ (s.run before).length = n := by
  induction octets generalizing s n with
  -- an open record is the only one that no octet is left for
  | nil =>
    rw [run, finish] at hIn
    rcases hLater with hMode | hPos
    · simp [hMode] at hIn
    · split at hIn
      · cases hIn
      · rw [Option.toList_some, List.length_singleton] at hIn
        omega
  | cons b octets ih =>
    obtain ⟨t, out, hStep, hTurn⟩ := exists_turn s b
    rw [run_cons hStep] at hIn
    -- what is found further on is found behind this octet too
    have hBehind : ∀ m, n = out.toList.length + m → (t.mode = .recordStart ∨ 0 < m) →
        ∃ before first rest, b :: octets = before ++ first :: rest ∧ endsRecord first = false ∧
          (s.after before).mode = .recordStart ∧ (s.run before).length = n := by
      intro m hm hLater
      rw [List.length_append, hm, Nat.add_lt_add_iff_left] at hIn
      obtain ⟨before, first, rest, rfl, hFirst, hEnd, hCount⟩ := ih hIn hLater
      refine ⟨b :: before, first, rest, rfl, hFirst, ?_, ?_⟩
      · rwa [after_cons hStep]
      · rw [run_cons hStep, List.length_append, hCount, hm]
    cases hTurn with
    | passes _ _ hStill => exact hBehind n (Nat.zero_add n).symm (Or.inl hStill)
    | goesOn hOpen _ hQuoted =>
      by_cases hPos : 0 < n
      · exact hBehind n (Nat.zero_add n).symm (Or.inr hPos)
      · -- the first record starts with this octet
        have hMode := hLater.resolve_right hPos
        have hZero : n = 0 := by omega
        refine ⟨[], b, octets, rfl, ?_, hMode, ?_⟩
        · rw [← Bool.not_eq_true]
          intro hEnds
          rw [hMode] at hQuoted
          cases (hQuoted hEnds).1
        · rw [run, finish, if_pos hMode, hZero]
          rfl
    | closes hOpen _ _ _ hClosed =>
      have hPos := hLater.resolve_left hOpen
      refine hBehind (n - 1) ?_ (Or.inl hClosed)
      show n = 1 + (n - 1)
      omega

/-- The octets of any record can be told from those of the records before it and behind it. -/
theorem exists_cut {octets : List UInt8} (hMode : s.mode = .recordStart)
    (hIn : n < (s.run octets).length) :
    ∃ before text rest, octets = before ++ text ++ rest ∧ (s.after before).mode = .recordStart ∧
      (s.run before).length = n ∧ ((s.after before).run text).length = 1 ∧
      (rest = [] ∨ ((s.after before).after text).mode = .recordStart) := by
  obtain ⟨before, first, behind, rfl, -, hEnd, hCount⟩ := exists_before hIn (Or.inl hMode)
  rw [run_append hEnd, List.length_append, hCount] at hIn
  by_cases hMore : 1 < ((s.after before).run (first :: behind)).length
  · -- the record ends in front of where the next one is opened
    obtain ⟨text, next, rest, hText, -, hStart, hOne⟩ := exists_before hMore (Or.inl hEnd)
    refine ⟨before, text, next :: rest, ?_, hEnd, hCount, hOne, Or.inr hStart⟩
    rw [List.append_assoc, ← hText]
  · exact ⟨before, first :: behind, [], (List.append_nil _).symm, hEnd, hCount, by omega, Or.inl rfl⟩

/-! ## What was passed over -/

/-- These octets end with the one that ended a record, if there are any. -/
def Ended (s : Scan) (above : List UInt8) : Prop :=
  above = [] ∨ ((s.after above).mode = .recordStart ∧ (s.after above.dropLast).mode ≠ .recordStart)

/-- Where a record was closed by the last octet, that is a line end outside quotes. -/
theorem exists_last (hStart : (s.after above).mode = .recordStart)
    (hBefore : (s.after above.dropLast).mode ≠ .recordStart) :
    ∃ front b, above = front ++ [b] ∧ endsRecord b = true ∧ (s.after front).mode ≠ .quoted ∧
      (s.after above).start.line = (s.after above).line := by
  have hNonempty : above ≠ [] := by
    rintro rfl
    exact hBefore hStart
  have hSplit := List.dropLast_concat_getLast hNonempty
  obtain ⟨t, out, hStep, hTurn⟩ := exists_turn (s.after above.dropLast) (above.getLast hNonempty)
  have hAbove : s.after above = t := by
    rw [← hSplit, after_append, after_cons hStep]
    rfl
  rw [hAbove] at hStart ⊢
  -- a record was open before the last octet and none is behind it
  cases hTurn with
  | passes hMode => exact absurd hMode hBefore
  | goesOn hOpen => exact absurd hStart hOpen
  | closes _ hUnquoted hEnds _ _ hLine =>
    exact ⟨above.dropLast, _, hSplit.symm, hEnds, hUnquoted, hLine⟩

/-- A scan stands where its last record ended, as far as lines go. -/
structure Fresh (s : Scan) : Prop where
  mode : s.mode = .recordStart
  line : s.start.line = s.line

/-- Behind the line end that closes a record, a scan stands where the record ended. -/
theorem Ended.fresh (h : s.Ended above) (hFresh : s.Fresh) : (s.after above).Fresh := by
  rcases h with rfl | ⟨hStart, hBefore⟩
  · exact hFresh
  · obtain ⟨-, -, -, -, -, hLine⟩ := exists_last hStart hBefore
    exact ⟨hStart, hLine⟩

/-- Octets at whose end no record is open end with the line ends passed over since the last one. -/
theorem exists_above {before : List UInt8}
    (hEnd : (s.after before).mode = .recordStart) :
    ∃ above gap, before = above ++ gap ∧ (∀ b ∈ gap, endsRecord b = true) ∧ s.Ended above := by
  induction before using List.reverseRecOn with
  | nil => exact ⟨[], [], rfl, nofun, Or.inl rfl⟩
  | append_singleton front b ih =>
    obtain ⟨t, out, hStep, hTurn⟩ := exists_turn (s.after front) b
    have hAfter : s.after (front ++ [b]) = t := by
      rw [after_append, after_cons hStep]
      rfl
    have hT := hEnd
    rw [hAfter] at hT
    -- the last octet joins the gap if it was passed over, and ends `above` if it closed a record
    cases hTurn with
    | passes hBefore hEnds =>
      obtain ⟨above, gap, rfl, hGap, hEnded⟩ := ih hBefore
      refine ⟨above, gap ++ [b], List.append_assoc .., ?_, hEnded⟩
      intro c hc
      rcases List.mem_append.mp hc with hc | hc
      · exact hGap c hc
      · rwa [List.mem_singleton.mp hc]
    | goesOn hOpen => exact absurd hT hOpen
    | closes hOpen =>
      refine ⟨front ++ [b], [], (List.append_nil _).symm, nofun, Or.inr ⟨hEnd, ?_⟩⟩
      rwa [List.dropLast_concat]

/-! ## Where records stand -/

/-- The record with so many before it stands in a text behind `above`, which ends where the record
before it ends, and behind the line ends of `gap`. -/
structure StandsIn (s : Scan) (text : List UInt8) (n : Nat) (above gap : List UInt8) : Prop where
  text : ∃ first rest, text = above ++ gap ++ first :: rest ∧ endsRecord first = false
  gap : ∀ octet ∈ gap, endsRecord octet = true
  ended : s.Ended above
  records : (s.run above).length = n

/-- Every record stands somewhere. -/
theorem exists_standsIn (hFresh : s.Fresh) (hIn : n < (s.run text).length) :
    ∃ above gap, s.StandsIn text n above gap := by
  obtain ⟨before, first, rest, hText, hFirst, hEnd, hCount⟩ := exists_before hIn (Or.inl hFresh.mode)
  obtain ⟨above, gap, rfl, hGap, hEnded⟩ := exists_above hEnd
  refine ⟨above, gap, ⟨first, rest, hText, hFirst⟩, hGap, hEnded, ?_⟩
  have hAbove := (hEnded.fresh hFresh).mode
  -- no record is cut in the gap, so all those before it are cut above
  obtain ⟨-, -, hRun⟩ := after_gap hAbove hGap
  rw [run_append hAbove, hRun, List.append_nil] at hCount
  exact hCount

/-- A record is given the line that `above` ends on. -/
theorem StandsIn.line_eq (h : s.StandsIn text n above gap) (hFresh : s.Fresh) {raw : RawRecord}
    (hRaw : (s.run text)[n]? = some raw) : raw.position.line = s.line + above.count 10 := by
  obtain ⟨first, rest, rfl, hFirst⟩ := h.text
  have hAbove := h.ended.fresh hFresh
  obtain ⟨hMode, hStart, hGap⟩ := after_gap hAbove.mode h.gap
  obtain ⟨found, more, hRun, hPosition⟩ := run_first hMode hFirst rest
  -- the gap gives no record and does not move the place where the next one starts
  rw [List.append_assoc, run_append hAbove.mode, run_append hMode, hGap, hRun, ← h.records,
    List.nil_append, List.getElem?_append_right (Nat.le_refl _), Nat.sub_self] at hRaw
  rw [← Option.some.inj hRaw, hPosition, hStart, hAbove.line, line_after]

/-! ## Line ends in pairs -/

/-- Every carriage return stands in front of a line feed and every line feed behind a carriage return. -/
def Paired (text : List UInt8) : Prop :=
  ∀ front octet rest, text = front ++ octet :: rest → endsRecord octet = true →
    (octet = 13 ∧ rest.head? = some 10) ∨ (octet = 10 ∧ front.getLast? = some 13)

/-- No record ends with the second of a pair: outside quotes the first has ended it. -/
theorem first_of_pair {front : List UInt8} (hOpen : (s.after front).mode ≠ .recordStart)
    (hUnquoted : (s.after front).mode ≠ .quoted) : front.getLast? ≠ some 13 := by
  intro hLast
  obtain ⟨before, rfl⟩ := List.getLast?_eq_some_iff.mp hLast
  obtain ⟨t, out, hStep, hTurn⟩ := exists_turn (s.after before) 13
  rw [after_append, after_cons hStep] at hOpen hUnquoted
  -- behind a carriage return no record is open, unless it stood in quotes
  cases hTurn with
  | passes _ _ hStill => exact hOpen hStill
  | goesOn _ _ hQuoted => exact hUnquoted (hQuoted rfl).2
  | closes _ _ _ _ hClosed => exact hOpen hClosed

/-- So a record before which no line feed was passed over is the first, at the very start. -/
theorem StandsIn.eq_nil_of_paired (h : s.StandsIn text n above gap) (hPaired : Paired text)
    (hFeed : 10 ∉ gap) : gap = [] ∧ above = [] := by
  obtain ⟨first, rest, hText, hFirst⟩ := h.text
  have hNotFeed : first ≠ 10 := by
    rintro rfl
    cases hFirst
  have hGap : gap = [] := by
    cases hEnds : gap with
    | nil => rfl
    | cons b more =>
      -- it would start with a carriage return, and the line feed of that is in it, too
      rw [hEnds] at hText hFeed
      have hB := h.gap b (by rw [hEnds]; exact List.mem_cons_self)
      rcases hPaired above b (more ++ first :: rest) (by rw [hText]; simp) hB with
        ⟨-, hNext⟩ | ⟨rfl, -⟩
      · cases more with
        | nil => exact absurd (Option.some.inj hNext) hNotFeed
        | cons c more =>
          rw [← Option.some.inj hNext] at hFeed
          exact absurd (by simp) hFeed
      · exact absurd List.mem_cons_self hFeed
  refine ⟨hGap, ?_⟩
  rcases h.ended with hNil | ⟨hStart, hBefore⟩
  · exact hNil
  · -- the octet that ended the record before it would be one of a pair
    obtain ⟨front, b, rfl, hB, hUnquoted, -⟩ := exists_last hStart hBefore
    rw [List.dropLast_concat] at hBefore
    rw [hGap] at hText
    rcases hPaired front b (first :: rest) (by rw [hText]; simp) hB with
      ⟨-, hNext⟩ | ⟨-, hLast⟩
    · exact absurd (Option.some.inj hNext) hNotFeed
    · exact absurd hLast (first_of_pair hBefore hUnquoted)

end Scan

end SolarCharts.Csv
