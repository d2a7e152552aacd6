import Mathlib.Tactic.SplitIfs
import SolarCharts.Flux.Literal
import SolarCharts.Proofs.Text.Reading
import SolarCharts.Text.Digit

/-!
# Reading Flux literals

Flux's own rules for the two literals, and that what is written is read back.

* `literalRest` takes a string literal from behind its opening quote: a backslash escapes what follows
  it, a quote without one closes the literal, and a `${` without one would open an interpolation.
  `literalRest_escaped` holds in front of any text, so a literal says itself where it ends.
* `sumFrom` adds up the parts of a duration literal, whatever units they have and in whatever order.
  `sumFrom_durationLiteral` is about the literals that are written.
-/

namespace SolarCharts.Flux

open Text (Reader)

variable {rest : List Char}

/-! ## Strings -/

/-- The character that one behind a backslash stands for, given the one after it. -/
def escape? (c : Char) (next : Option Char) : Option Char :=
  if c = '\\' ∨ c = '"' then some c
  else if c = '$' ∧ next = some '{' then some '$'
  else if c = 'n' then some '\n'
  else if c = 'r' then some '\r'
  else if c = 't' then some '\t'
  else none

/-- Takes the rest of a string literal and its closing quote, behind a backslash or not. -/
def literalRest : Bool → Reader (List Char)
  | _, [] => none
  | true, c :: rest => do
    let c ← escape? c rest.head?
    let (more, rest) ← literalRest false rest
    some (c :: more, rest)
  | false, c :: rest =>
    if c = '"' then some ([], rest)
    else if c = '\\' then literalRest true rest
    else if c = '$' ∧ rest.head? = some '{' then none
    else do
      let (more, rest) ← literalRest false rest
      some (c :: more, rest)

/-- Behind a backslash a character stands for what it escapes. -/
theorem literalRest_escape {c d : Char} {more left : List Char}
    (hEscape : escape? c rest.head? = some d) (hMore : literalRest false rest = some (more, left)) :
    literalRest false ('\\' :: c :: rest) = some (d :: more, left) := by
  rw [literalRest, if_neg (by decide), if_pos rfl, literalRest, hEscape, hMore]
  rfl

/-- A character that needs no escape stands for itself. -/
theorem literalRest_plain {c : Char} {more left : List Char} (hQuote : c ≠ '"')
    (hBackslash : c ≠ '\\') (hDollar : ¬ (c = '$' ∧ rest.head? = some '{'))
    (hMore : literalRest false rest = some (more, left)) :
    literalRest false (c :: rest) = some (c :: more, left) := by
  rw [literalRest, if_neg hQuote, if_neg hBackslash, if_neg hDollar, hMore]
  rfl

/-- Escaping neither hides an opening brace at the start nor puts one there. -/
theorem head?_escaped_append (text rest : List Char) :
    (escaped text ++ '"' :: rest).head? = some '{' ↔ text.head? = some '{' := by
  cases text with
  | nil => simp [escaped]
  | cons c text =>
    rw [escaped, escapedChar]
    split_ifs with hBackslash hQuote hDollar
    · simp [hBackslash]
    · simp [hQuote]
    · simp [hDollar.1]
    · rfl

/-- **String literals are read back**, in front of any text. -/
theorem literalRest_escaped (text rest : List Char) :
    literalRest false (escaped text ++ '"' :: rest) = some (text, rest) := by
  induction text with
  | nil => rfl
  | cons c text ih =>
    have hHead := head?_escaped_append text rest
    rw [escaped, List.append_assoc, escapedChar]
    split_ifs with hBackslash hQuote hDollar
    · rw [hBackslash]
      exact literalRest_escape rfl ih
    · rw [hQuote]
      exact literalRest_escape rfl ih
    · -- the brace that follows keeps the dollar sign escaped
      rw [hDollar.1]
      refine literalRest_escape ?_ ih
      show escape? '$' (escaped text ++ '"' :: rest).head? = some '$'
      rw [hHead.mpr hDollar.2]
      rfl
    · exact literalRest_plain hQuote hBackslash (fun h => hDollar ⟨h.1, hHead.mp h.2⟩) ih

theorem toList_stringLiteral (text : String) :
    (stringLiteral text).toList = '"' :: (escaped text.toList ++ ['"']) :=
  String.toList_ofList

/-! ## Durations -/

/-- The length of a unit in nanoseconds. -/
def unitSize? : List Char → Option Nat
  | ['n', 's'] => some 1
  | ['u', 's'] => some 1000
  | ['m', 's'] => some 1000000
  | ['s'] => some 1000000000
  | ['m'] => some (60 * 1000000000)
  | ['h'] => some (60 * 60 * 1000000000)
  | ['d'] => some (24 * 60 * 60 * 1000000000)
  | ['w'] => some (7 * 24 * 60 * 60 * 1000000000)
  | _ => none

/-- Adds up the parts of a duration literal. The part that is being read has so far a count and the
start of its unit; those before it make up the total. -/
def sumFrom (total count : Nat) (unit : List Char) : List Char → Option Nat
  | [] => (unitSize? unit).map fun size => total + count * size
  | c :: rest =>
    match Text.digit? c with
    | none => sumFrom total count (unit ++ [c]) rest
    | some value =>
      if unit = [] then sumFrom total (10 * count + value) [] rest
      else (unitSize? unit).bind fun size => sumFrom (total + count * size) value [] rest

/-- The duration of a literal. -/
def durationOf? (literal : List Char) : Option Duration :=
  (sumFrom 0 0 [] literal).map Duration.mk

theorem digit?_of_isDigit {c : Char} (h : c.isDigit = true) :
    Text.digit? c = some (c.toNat - '0'.toNat) :=
  if_pos h

theorem sumFrom_digits {digits : List Char} (h : ∀ c ∈ digits, c.isDigit = true)
    (total count : Nat) :
    sumFrom total count [] (digits ++ rest) =
      sumFrom total (Nat.ofDigitChars 10 digits count) [] rest := by
  induction digits generalizing count with
  | nil => rfl
  | cons c digits ih =>
    rw [List.cons_append, sumFrom, digit?_of_isDigit (h c List.mem_cons_self),
      Nat.ofDigitChars_cons]
    exact ih (fun d hd => h d (List.mem_cons_of_mem _ hd)) _

theorem sumFrom_letters {letters : List Char} (h : ∀ c ∈ letters, c.isDigit = false)
    (total count : Nat) (unit : List Char) :
    sumFrom total count unit (letters ++ rest) =
      sumFrom total count (unit ++ letters) rest := by
  induction letters generalizing unit with
  | nil => rw [List.nil_append, List.append_nil]
  | cons c letters ih =>
    have hDigit : Text.digit? c = none :=
      if_neg (by rw [h c List.mem_cons_self]; exact Bool.false_ne_true)
    rw [List.cons_append, sumFrom, hDigit]
    show sumFrom total count (unit ++ [c]) (letters ++ rest) = _
    rw [ih (fun d hd => h d (List.mem_cons_of_mem _ hd)), List.append_assoc]
    rfl

theorem isDigit_of_mem_digits {n : Nat} {c : Char} (h : c ∈ Nat.toDigits 10 n) :
    c.isDigit = true :=
  Nat.isDigit_of_mem_toDigits (by decide) (by decide) h

/-- The first part of a literal. -/
theorem sumFrom_number (n : Nat) (rest : List Char) :
    sumFrom 0 0 [] (Nat.toDigits 10 n ++ rest) = sumFrom 0 n [] rest := by
  rw [sumFrom_digits fun c hc => isDigit_of_mem_digits hc,
    Nat.ofDigitChars_toDigits (by decide) (by decide)]

/-- A number behind a unit closes the part before it. -/
theorem sumFrom_next {unit : List Char} {size : Nat} (hSize : unitSize? unit = some size)
    (total count n : Nat) (rest : List Char) :
    sumFrom total count unit (Nat.toDigits 10 n ++ rest) =
      sumFrom (total + count * size) n [] rest := by
  have hDigits : ∀ c ∈ Nat.toDigits 10 n, c.isDigit = true := fun c hc => isDigit_of_mem_digits hc
  have hValue : Nat.ofDigitChars 10 (Nat.toDigits 10 n) 0 = n :=
    Nat.ofDigitChars_toDigits (by decide) (by decide)
  have hUnit : unit ≠ [] := by
    rintro rfl
    cases hSize
  obtain ⟨c, digits, hSplit⟩ := List.exists_cons_of_ne_nil (Nat.toDigits_ne_nil (n := n) (b := 10))
  -- the first digit closes the open part, and those behind it count on from there
  rw [hSplit] at hDigits hValue ⊢
  rw [Nat.ofDigitChars_cons, Nat.mul_zero, Nat.zero_add] at hValue
  rw [List.cons_append, sumFrom, digit?_of_isDigit (hDigits c List.mem_cons_self)]
  show (if unit = [] then _ else _) = _
  rw [if_neg hUnit, hSize, Option.bind_some,
    sumFrom_digits fun d hd => hDigits d (List.mem_cons_of_mem _ hd), hValue]

/-! ### What is written -/

/-- The unit is one of Flux's, with the length it has there. -/
structure TimeUnit.Known (unit : TimeUnit) : Prop where
  size : unitSize? unit.suffix.toList = some unit.size
  letters : unit.suffix.toList.all (fun c => c.isAlpha && !c.isDigit) = true

theorem TimeUnit.Known.letter {unit : TimeUnit} (h : unit.Known) {c : Char}
    (hc : c ∈ unit.suffix.toList) : c.isAlpha = true ∧ c.isDigit = false := by
  have hLetter := List.all_eq_true.mp h.letters c hc
  rwa [Bool.and_eq_true, Bool.not_eq_true'] at hLetter

/-- The units that durations are counted in are known. -/
theorem known_timeUnits {unit : TimeUnit} (h : unit ∈ timeUnits) : unit.Known := by
  simp only [timeUnits, List.mem_cons, List.not_mem_nil, or_false] at h
  rcases h with rfl | rfl | rfl | rfl | rfl | rfl <;> exact ⟨rfl, rfl⟩

/-- The text of some parts. -/
def partsText (parts : List (Nat × TimeUnit)) : List Char :=
  parts.flatMap fun part => (partText part).toList

/-- The nanoseconds of some parts. -/
def partsSum : List (Nat × TimeUnit) → Nat
  | [] => 0
  | (n, unit) :: parts => n * unit.size + partsSum parts

/-- A part that counts nothing is not written. -/
theorem partsText_cons (n : Nat) (unit : TimeUnit) (parts : List (Nat × TimeUnit)) :
    partsText ((n, unit) :: parts) =
      if n = 0 then partsText parts
      else Nat.toDigits 10 n ++ (unit.suffix.toList ++ partsText parts) := by
  rw [partsText, List.flatMap_cons, partText]
  split_ifs with hZero
  · rfl
  · rw [String.toList_append, Nat.toString_eq_ofList_toDigits, String.toList_ofList,
      List.append_assoc]
    rfl

/-- The rest of a literal is read while one part is open. -/
theorem sumFrom_partsText {parts : List (Nat × TimeUnit)} (hKnown : ∀ part ∈ parts, part.2.Known)
    {unit : TimeUnit} (hUnit : unit.Known) (total count : Nat) :
    sumFrom total count unit.suffix.toList (partsText parts) =
      some (total + count * unit.size + partsSum parts) := by
  induction parts generalizing total count unit with
  | nil =>
    rw [partsText, List.flatMap_nil, sumFrom, hUnit.size]
    rfl
  | cons part parts ih =>
    obtain ⟨n, next⟩ := part
    have hNext : next.Known := hKnown _ List.mem_cons_self
    have hParts := fun part hPart => hKnown part (List.mem_cons_of_mem _ hPart)
    rw [partsText_cons, partsSum]
    -- a part that counts nothing is left out, so the open part stays open
    split_ifs with hZero
    · rw [ih hParts hUnit, hZero, Nat.zero_mul, Nat.zero_add]
    · rw [sumFrom_next hUnit.size, sumFrom_letters fun c hc => (hNext.letter hc).2,
        List.nil_append, ih hParts hNext, Nat.add_assoc]

theorem isAlphanum_of_isDigit {c : Char} (h : c.isDigit = true) : c.isAlphanum = true := by
  rw [Char.isAlphanum, h, Bool.or_true]

theorem TimeUnit.Known.isAlphanum {unit : TimeUnit} (h : unit.Known) {c : Char}
    (hc : c ∈ unit.suffix.toList) : c.isAlphanum = true := by
  rw [Char.isAlphanum, (h.letter hc).1, Bool.true_or]

/-- The parts of a literal are one word. -/
theorem isAlphanum_of_mem_partsText {parts : List (Nat × TimeUnit)}
    (hKnown : ∀ part ∈ parts, part.2.Known) {c : Char} (h : c ∈ partsText parts) :
    c.isAlphanum = true := by
  induction parts with
  | nil => exact absurd h List.not_mem_nil
  | cons part parts ih =>
    obtain ⟨n, unit⟩ := part
    have hMore := ih fun part hPart => hKnown part (List.mem_cons_of_mem _ hPart)
    rw [partsText_cons] at h
    split_ifs at h with hZero
    · exact hMore h
    · rw [List.mem_append, List.mem_append] at h
      rcases h with h | h | h
      · exact isAlphanum_of_isDigit (isDigit_of_mem_digits h)
      · exact (hKnown _ List.mem_cons_self).isAlphanum h
      · exact hMore h

/-- Parts that count something start with one that does. -/
theorem exists_first_part {parts : List (Nat × TimeUnit)} (h : partsSum parts ≠ 0) :
    ∃ n unit more, (n, unit) ∈ parts ∧ more ⊆ parts ∧
      partsText parts = Nat.toDigits 10 n ++ (unit.suffix.toList ++ partsText more) ∧
      partsSum parts = n * unit.size + partsSum more := by
  induction parts with
  | nil => exact absurd rfl h
  | cons part parts ih =>
    obtain ⟨n, unit⟩ := part
    rw [partsText_cons, partsSum]
    rw [partsSum] at h
    split_ifs with hZero
    · rw [hZero, Nat.zero_mul, Nat.zero_add] at h ⊢
      -- a part that counts nothing is passed over
      obtain ⟨n, unit, more, hMem, hMore, hRest⟩ := ih h
      exact ⟨n, unit, more, List.mem_cons_of_mem _ hMem,
        fun part hPart => List.mem_cons_of_mem _ (hMore hPart), hRest⟩
    · exact ⟨n, unit, parts, List.mem_cons_self, fun part hPart => List.mem_cons_of_mem _ hPart,
        rfl, rfl⟩

/-- The longest units first, all of a duration is counted once a unit is a single nanosecond. -/
theorem partsSum_counts (units : List TimeUnit) (suffix : String) (nanos : Nat) :
    partsSum (counts (units ++ [⟨suffix, 1⟩]) nanos) = nanos := by
  induction units generalizing nanos with
  | nil =>
    rw [List.nil_append, counts, counts, partsSum, Nat.div_one, Nat.mul_one]
    rfl
  | cons unit units ih =>
    rw [List.cons_append, counts, partsSum, ih, Nat.mul_comm]
    exact Nat.div_add_mod nanos unit.size

theorem mem_counts {units : List TimeUnit} {nanos : Nat} {part : Nat × TimeUnit}
    (h : part ∈ counts units nanos) : part.2 ∈ units := by
  induction units generalizing nanos with
  | nil => exact absurd h List.not_mem_nil
  | cons unit units ih =>
    rw [counts] at h
    rcases List.mem_cons.mp h with rfl | h
    · exact List.mem_cons_self
    · exact List.mem_cons_of_mem _ (ih h)

/-- How a duration literal looks: a number, a unit, and more parts. -/
theorem exists_durationLiteral (d : Duration) :
    ∃ n unit more, TimeUnit.Known unit ∧ (∀ part ∈ more, part.2.Known) ∧
      (durationLiteral d).toList = Nat.toDigits 10 n ++ (unit.suffix.toList ++ partsText more) ∧
      d.nanos = n * unit.size + partsSum more := by
  -- the zero duration has a part that counts nothing, and no other one has
  by_cases hZero : d.nanos = 0
  · refine ⟨0, ⟨"s", 1000000000⟩, [], known_timeUnits (by decide), nofun, ?_, ?_⟩
    · rw [durationLiteral, if_pos hZero]
      rfl
    · rw [hZero]
      rfl
  · have hSum : partsSum (counts timeUnits d.nanos) = d.nanos := partsSum_counts
      [⟨"h", 3600000000000⟩, ⟨"m", 60000000000⟩, ⟨"s", 1000000000⟩, ⟨"ms", 1000000⟩,
        ⟨"us", 1000⟩] "ns" d.nanos
    have hKnown : ∀ part ∈ counts timeUnits d.nanos, part.2.Known :=
      fun part hPart => known_timeUnits (mem_counts hPart)
    obtain ⟨n, unit, more, hMem, hMore, hText, hParts⟩ :=
      exists_first_part (by rw [hSum]; exact hZero)
    refine ⟨n, unit, more, hKnown _ hMem, fun part hPart => hKnown _ (hMore hPart), ?_, ?_⟩
    · rw [durationLiteral, if_neg hZero, String.toList_join, List.flatMap_map, ← hText]
      rfl
    · rw [← hParts, hSum]

/-- A duration literal starts with a digit and is a single word. -/
theorem exists_cons_durationLiteral (d : Duration) :
    ∃ c more, (durationLiteral d).toList = c :: more ∧ c.isDigit = true ∧
      ∀ e ∈ c :: more, e.isAlphanum = true := by
  obtain ⟨n, unit, parts, hUnit, hParts, hText, -⟩ := exists_durationLiteral d
  have hAll : ∀ c ∈ (durationLiteral d).toList, c.isAlphanum = true := by
    intro c hc
    rw [hText, List.mem_append, List.mem_append] at hc
    rcases hc with hc | hc | hc
    · exact isAlphanum_of_isDigit (isDigit_of_mem_digits hc)
    · exact hUnit.isAlphanum hc
    · exact isAlphanum_of_mem_partsText hParts hc
  obtain ⟨c, digits, hSplit⟩ := List.exists_cons_of_ne_nil (Nat.toDigits_ne_nil (n := n) (b := 10))
  rw [hSplit, List.cons_append] at hText
  refine ⟨c, digits ++ (unit.suffix.toList ++ partsText parts), hText, ?_, ?_⟩
  · exact isDigit_of_mem_digits (n := n) (by rw [hSplit]; exact List.mem_cons_self)
  · rwa [hText] at hAll

/-- **Duration literals are read back.** -/
theorem sumFrom_durationLiteral (d : Duration) :
    sumFrom 0 0 [] (durationLiteral d).toList = some d.nanos := by
  obtain ⟨n, unit, more, hUnit, hMore, hText, hNanos⟩ := exists_durationLiteral d
  rw [hText, sumFrom_number, sumFrom_letters fun c hc => (hUnit.letter hc).2, List.nil_append,
    sumFrom_partsText hMore hUnit, hNanos, Nat.zero_add]

/-- So a literal stands for its duration. -/
theorem durationOf?_durationLiteral (d : Duration) :
    durationOf? (durationLiteral d).toList = some d := by
  rw [durationOf?, sumFrom_durationLiteral]
  rfl

end SolarCharts.Flux
