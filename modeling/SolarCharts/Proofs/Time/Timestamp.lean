import Mathlib.Algebra.Group.Nat.Defs
import Mathlib.Tactic.SplitIfs
import SolarCharts.Proofs.Csv.Reading
import SolarCharts.Proofs.Time.Backward

/-!
# Timestamps give valid instants

A timestamp has a year of four digits, so it is far from both ends of the representable range, and no
more than nine digits count of its fraction, so it is in a leap second at most.

* `valid_of_ofText?` — what a timestamp gives is an instant as a clock gives it.
* `valid_of_mem_items` — so are the times of all samples of a response.
-/

namespace SolarCharts

namespace Timestamp

variable {text rest : List Char} {value : Nat}

/-! ## Fractions -/

/-- Digits that go on behind a number give less than the next number would with zeros in their places.
-/
theorem foldl_digits_lt {digits : List Char} (h : ∀ c ∈ digits, c.isDigit = true) (value : Nat) :
    digits.foldl (fun value c => 10 * value + (c.toNat - '0'.toNat)) value <
      (value + 1) * 10 ^ digits.length := by
  induction digits generalizing value with
  | nil => simp
  | cons c digits ih =>
    -- a digit is worth nine at most
    have hDigit : c.toNat - '0'.toNat ≤ 9 := by
      have hRange := Char.isDigit_iff_toNat.mp (h c List.mem_cons_self)
      simp only [Char.reduceToNat] at *
      omega
    have hDigits : ∀ d ∈ digits, d.isDigit = true := by
      intro d hd
      exact h d (List.mem_cons_of_mem _ hd)
    have hRest := ih hDigits (10 * value + (c.toNat - '0'.toNat))
    rw [List.foldl_cons, List.length_cons, Nat.pow_succ, Nat.mul_comm (10 ^ _) 10, ← Nat.mul_assoc]
    exact Nat.lt_of_lt_of_le hRest (Nat.mul_le_mul_right _ (by omega))

/-- Nine digits of a fraction, or fewer and zeros, are less than a second. -/
theorem nanosOfFraction_lt {fraction : List Char} (h : ∀ c ∈ fraction, c.isDigit = true) :
    nanosOfFraction fraction < nanosPerSecond := by
  have hDigits : ∀ c ∈ fraction.take 9, c.isDigit = true := by
    intro c hc
    exact h c (List.mem_of_mem_take hc)
  have hTaken : Text.decimalOf (fraction.take 9) < 10 ^ (fraction.take 9).length := by
    have hLess := foldl_digits_lt hDigits 0
    rwa [Nat.zero_add, Nat.one_mul] at hLess
  have hPad : 0 < 10 ^ (9 - fraction.length) := Nat.pow_pos (by decide)
  -- the zeros make up for the digits that are missing
  have hNine : (fraction.take 9).length + (9 - fraction.length) = 9 := by
    rw [List.length_take]
    omega
  have hWhole : 10 ^ (fraction.take 9).length * 10 ^ (9 - fraction.length) = nanosPerSecond := by
    rw [← Nat.pow_add, hNine]
    rfl
  rw [← hWhole]
  exact Nat.mul_lt_mul_of_pos_right hTaken hPad

/-- So is a fraction that is read, or that is left out. -/
theorem fraction?_lt (h : fraction? text = some (value, rest)) : value < nanosPerSecond := by
  unfold fraction? at h
  split at h
  · next digits =>
    simp only at h
    split at h
    · cases h
    · obtain ⟨rfl, -⟩ := Prod.mk.inj (Option.some.inj h)
      exact nanosOfFraction_lt fun c hc => List.all_eq_true.mp List.all_takeWhile c hc
  · obtain ⟨rfl, -⟩ := Prod.mk.inj (Option.some.inj h)
    decide

/-! ## Numbers -/

/-- A number that is read is within its bounds. -/
theorem number?_bounds {count low high : Nat} (h : number? count low high text = some (value, rest)) :
    low ≤ value ∧ value ≤ high := by
  unfold number? at h
  split at h
  · split at h
    · next hBounds =>
      obtain ⟨rfl, -⟩ := Prod.mk.inj (Option.some.inj h)
      exact hBounds
    · cases h
  · cases h

/-- An offset is less than a day either way. -/
theorem offset?_bounds {offset : Int} (h : offset? text = some offset) :
    -86400 < offset ∧ offset < 86400 := by
  unfold offset? at h
  split at h
  · cases h
  · next c rest =>
    -- hours and minutes behind either sign
    have hSigned : ∀ sign : Int, sign = 1 ∨ sign = -1 →
        ((number? 2 0 23 rest).bind fun hours => (after? (· == ':') hours.2).bind fun rest =>
          (number? 2 0 59 rest).bind fun minutes =>
            if minutes.2.isEmpty then some (sign * (hours.1 * 3600 + minutes.1 * 60)) else none) =
          some offset →
        -86400 < offset ∧ offset < 86400 := by
      intro sign hSign h
      simp only [Option.bind_eq_some_iff] at h
      obtain ⟨⟨hours, _⟩, hHours, _, -, ⟨minutes, _⟩, hMinutes, hEnd⟩ := h
      have hHours := (number?_bounds hHours).2
      have hMinutes := (number?_bounds hMinutes).2
      split at hEnd
      · obtain rfl := Option.some.inj hEnd
        rcases hSign with rfl | rfl <;> (simp only; omega)
      · cases hEnd
    split_ifs at h
    · obtain rfl := Option.some.inj h
      decide
    · exact hSigned 1 (Or.inl rfl) h
    · exact hSigned (-1) (Or.inr rfl) h
    · cases h

/-- A date has a year of four digits, and a day from 1 to 31. -/
theorem date?_bounds {date : Date} (h : date? text = some (date, rest)) :
    (0 ≤ date.year ∧ date.year ≤ 9999) ∧ 1 ≤ date.day ∧ date.day ≤ 31 := by
  simp only [date?, Option.bind_eq_bind, Option.bind_eq_some_iff] at h
  obtain ⟨⟨year, _⟩, hYear, _, -, ⟨month, _⟩, -, _, -, ⟨day, _⟩, hDay, hDate⟩ := h
  split at hDate
  · obtain ⟨rfl, -⟩ := Prod.mk.inj (Option.some.inj hDate)
    have hYear := (number?_bounds hYear).2
    exact ⟨⟨by simp, by simp; omega⟩, number?_bounds hDay⟩
  · cases hDate

/-- Such a date is within a few million days of the first of 1970. -/
theorem toDays_bounds {date : Date} (hYear : 0 ≤ date.year ∧ date.year ≤ 9999)
    (hDay : 1 ≤ date.day ∧ date.day ≤ 31) : -1000000 ≤ date.toDays ∧ date.toDays ≤ 3000000 := by
  simp only [Date.toDays, Date.daysInCycle, Date.epochShift]
  split <;> omega

/-! ## Instants -/

/-- **What a timestamp gives** is an instant as a clock gives it. -/
theorem valid_of_ofText? {timestamp : String} {t : Instant} (h : ofText? timestamp = some t) :
    t.Valid := by
  simp only [ofText?, read?, Option.bind_eq_bind, Option.bind_eq_some_iff] at h
  obtain ⟨⟨date, _⟩, hDate, _, -, ⟨hour, _⟩, hHour, _, -, ⟨minute, _⟩, hMinute, _, -, ⟨second, _⟩,
    hSecond, ⟨nanos, _⟩, hNanos, offset, hOffset, hInstant⟩ := h
  obtain ⟨hYear, hDay⟩ := date?_bounds hDate
  -- every part is within bounds of its own
  have hDays := toDays_bounds hYear hDay
  have hHour := (number?_bounds hHour).2
  have hMinute := (number?_bounds hMinute).2
  have hSecond := (number?_bounds hSecond).2
  have hNanos := fraction?_lt hNanos
  have hOffset := offset?_bounds hOffset
  obtain rfl := Option.some.inj hInstant
  -- second 60 turns into the nanoseconds of second 59
  constructor
  · simp only [Instant.Proper, nanosPerSecond] at *
    split <;> simp only <;> omega
  · simp only [Instant.Representable, Instant.minSeconds, Instant.maxSeconds]
    split <;> simp only <;> omega

end Timestamp

/-! ## Samples of a response -/

namespace Csv

/-- A row that gives a sample gives it the time of its timestamp. -/
theorem valid_of_sampleOfRow {defaults : List String} {columns : Columns} {row : Record}
    {sample : Sample} (h : sampleOfRow defaults columns row = .ok sample) : sample.time.Valid := by
  unfold sampleOfRow at h
  split at h
  · cases h
  · cases h
  · simp only at h
    split at h
    · cases h
    · next instant hTime =>
      split at h
      · cases h
      · obtain rfl := Except.ok.inj h
        exact Timestamp.valid_of_ofText? hTime

/-- **The samples of a response** have times as a clock gives them. -/
theorem valid_of_mem_items {reader : TableReader} {records : List (Except EncodingError Record)}
    {sample : Sample} (h : .ok sample ∈ reader.items records) : sample.time.Valid := by
  induction records generalizing reader with
  | nil => exact absurd h List.not_mem_nil
  | cons record rest ih =>
    rw [TableReader.items] at h
    -- the sample is from this record, or from the rest by the reader as it stands behind it
    cases hRead : reader.read record with
    | described next =>
      rw [hRead] at h
      exact ih h
    | item item =>
      rw [hRead] at h
      rcases List.mem_cons.mp h with hItem | hRest
      · rcases TableReader.item_cases hRead with ⟨e, -, hError⟩ | ⟨row, columns, -, -, hRow⟩
        · rw [hError] at hItem
          cases hItem
        · exact valid_of_sampleOfRow (hRow.symm.trans hItem.symm)
      · exact ih hRest
    | stuck =>
      rw [hRead] at h
      exact absurd h List.not_mem_nil

end Csv

end SolarCharts
