import Mathlib.Data.Nat.Digits.Defs
import SolarCharts.CommandLine.Invocation

/-!
# The texts of sizes

A size is read from exactly the texts that write one: two sides with an `x` between them, each in
decimal digits, behind a plus sign or not and with any number of zeros in front, from 1 to 2^32 - 1.

* `decimalOf_eq_ofDigits` — the value of a row of digits is the sum of the digits by their places.
* `side?_eq_some_iff` — one side: what is read is what is written, as far as a side may go.
* `writtenSize_exact` — so for sizes. Any other text fails, and the failure holds it as it is.
-/

namespace SolarCharts

namespace Text

/-! ## Digits -/

/-- The value of some digits is their sum by places. -/
theorem decimalOf_eq_ofDigits (digits : List Char) :
    decimalOf digits = Nat.ofDigits 10 (digits.reverse.map fun c => c.toNat - '0'.toNat) := by
  -- one adds up from the front and the other from the back
  rw [Nat.ofDigits_eq_foldr, List.foldr_map, List.foldr_reverse, decimalOf]
  congr 1
  funext value c
  exact Nat.add_comm _ _

theorem decimalOf_toDigits (n : Nat) : decimalOf (Nat.toDigits 10 n) = n :=
  Nat.ofDigitChars_toDigits (by decide) (by decide)

end Text

namespace Size

variable {chars digits : List Char} {side : Nat} {size : Size}

/-! ## Sides -/

/-- The digits write the number in base 10. -/
def Denotes (digits : List Char) (side : Nat) : Prop :=
  digits ≠ [] ∧ (∀ c ∈ digits, c.isDigit = true) ∧
    Nat.ofDigits 10 (digits.reverse.map fun c => c.toNat - '0'.toNat) = side

/-- The characters write a side: digits, behind a plus sign or not, of a number that a side may have. -/
def WritesSide (chars : List Char) (side : Nat) : Prop :=
  (∃ digits, (chars = digits ∨ chars = '+' :: digits) ∧ Denotes digits side) ∧
    1 ≤ side ∧ side ≤ 4294967295

/-- Digits are read as the number that they denote, if that is not too great for a side. -/
theorem ofDigits?_eq_some_iff :
    ofDigits? digits = some side ↔ Denotes digits side ∧ side ≤ maxSide := by
  unfold ofDigits? Denotes
  -- three checks in order: something is there, all of it is digits, and the number is small enough
  rw [← Text.decimalOf_eq_ofDigits]
  split
  · simp
  · next hSome =>
    split
    · next hDigits =>
      have hAll := List.all_eq_true.mp hDigits
      split
      · next hSmall =>
        rw [Option.some_inj]
        constructor
        · rintro rfl
          exact ⟨⟨hSome, hAll, rfl⟩, hSmall⟩
        · rintro ⟨⟨-, -, hValue⟩, -⟩
          exact hValue
      · next hGreat =>
        refine iff_of_false (by simp) ?_
        rintro ⟨⟨-, -, rfl⟩, hSmall⟩
        exact hGreat hSmall
    · next hOther =>
      refine iff_of_false (by simp) ?_
      rintro ⟨⟨-, hAll, -⟩, -⟩
      exact hOther (List.all_eq_true.mpr hAll)

theorem not_denotes_plus (digits : List Char) (side : Nat) : ¬ Denotes ('+' :: digits) side := by
  rintro ⟨-, hDigits, -⟩
  have hPlus := hDigits '+' List.mem_cons_self
  revert hPlus
  decide

/-- A side is read from digits, behind a plus sign or not. -/
theorem side?_eq_some_iff :
    side? chars = some side ↔
      (∃ digits, (chars = digits ∨ chars = '+' :: digits) ∧ Denotes digits side) ∧
        side ≤ maxSide := by
  -- at most one plus sign is taken off, and another one would not be a digit
  by_cases hPlus : ∃ digits, chars = '+' :: digits
  · obtain ⟨digits, rfl⟩ := hPlus
    rw [side?, ofDigits?_eq_some_iff]
    constructor
    · rintro ⟨hDenotes, hSmall⟩
      exact ⟨⟨digits, Or.inr rfl, hDenotes⟩, hSmall⟩
    · rintro ⟨⟨found, hFound, hDenotes⟩, hSmall⟩
      rcases hFound with rfl | hFound
      · exact absurd hDenotes (not_denotes_plus digits side)
      · rw [(List.cons.inj hFound).2]
        exact ⟨hDenotes, hSmall⟩
  · have hPlain : side? chars = ofDigits? chars := by
      unfold side?
      split
      · next digits => exact absurd ⟨digits, rfl⟩ hPlus
      · rfl
    rw [hPlain, ofDigits?_eq_some_iff]
    constructor
    · rintro ⟨hDenotes, hSmall⟩
      exact ⟨⟨chars, Or.inl rfl, hDenotes⟩, hSmall⟩
    · rintro ⟨⟨found, rfl | hFound, hDenotes⟩, hSmall⟩
      · exact ⟨hDenotes, hSmall⟩
      · exact absurd ⟨found, hFound⟩ hPlus

/-- What writes a side holds no `x`. -/
theorem WritesSide.not_mem (h : WritesSide chars side) : 'x' ∉ chars := by
  obtain ⟨⟨digits, hChars, -, hDigits, -⟩, -⟩ := h
  have hNone : 'x' ∉ digits := by
    intro hMem
    have hDigit := hDigits 'x' hMem
    revert hDigit
    decide
  rcases hChars with rfl | rfl
  · exact hNone
  · rw [List.mem_cons, not_or]
    exact ⟨by decide, hNone⟩

/-- The digits of a side write it. -/
theorem writesSide_toDigits (hPositive : 1 ≤ side) (hSmall : side ≤ 4294967295) :
    WritesSide (Nat.toDigits 10 side) side := by
  have hDigits : ∀ c ∈ Nat.toDigits 10 side, c.isDigit = true := fun c hc =>
    Nat.isDigit_of_mem_toDigits (by decide) (by decide) hc
  have hValue := Text.decimalOf_eq_ofDigits (Nat.toDigits 10 side)
  rw [Text.decimalOf_toDigits] at hValue
  exact ⟨⟨_, Or.inl rfl, Nat.toDigits_ne_nil, hDigits, hValue.symm⟩, hPositive, hSmall⟩

/-! ## Sizes -/

/-- The text writes the size: its width, an `x` and its height. -/
def IsWrittenAs (size : Size) (text : String) : Prop :=
  ∃ left right : String, text = left ++ "x" ++ right ∧
    WritesSide left.toList size.width ∧ WritesSide right.toList size.height

/-- A size as it is usually written. -/
def text (size : Size) : String := toString size.width ++ "x" ++ toString size.height

/-- The usual text of a size writes it. -/
theorem isWrittenAs_text (hWidth : 1 ≤ size.width ∧ size.width ≤ 4294967295)
    (hHeight : 1 ≤ size.height ∧ size.height ≤ 4294967295) : size.IsWrittenAs size.text := by
  refine ⟨_, _, rfl, ?_, ?_⟩
  · rw [Nat.toString_eq_ofList_toDigits, String.toList_ofList]
    exact writesSide_toDigits hWidth.1 hWidth.2
  · rw [Nat.toString_eq_ofList_toDigits, String.toList_ofList]
    exact writesSide_toDigits hHeight.1 hHeight.2

/-- What a text gives is what it writes. -/
theorem isWrittenAs_of_ofText? {text : String} (h : ofText? text = some size) :
    size.IsWrittenAs text := by
  unfold ofText? at h
  split at h
  · next left right hSplit =>
    have hText := Text.intercalate_splitAt 'x' text.toList
    rw [hSplit] at hText
    split at h
    · next width height hWidth hHeight =>
      split at h
      · cases h
      · next hPositive =>
        obtain rfl := Option.some.inj h
        obtain ⟨hLeft, hWidthMax⟩ := side?_eq_some_iff.mp hWidth
        obtain ⟨hRight, hHeightMax⟩ := side?_eq_some_iff.mp hHeight
        rw [not_or] at hPositive
        refine ⟨String.ofList left, String.ofList right, ?_, ?_, ?_⟩
        · -- the parts of the text and the `x` between them are all of it
          apply String.toList_inj.mp
          rw [← hText]
          simp [List.intercalate]
        · rw [String.toList_ofList]
          exact ⟨hLeft, Nat.pos_of_ne_zero hPositive.1, hWidthMax⟩
        · rw [String.toList_ofList]
          exact ⟨hRight, Nat.pos_of_ne_zero hPositive.2, hHeightMax⟩
    · cases h
  · cases h

/-- What writes a size gives it. -/
theorem ofText?_of_isWrittenAs {text : String} (h : size.IsWrittenAs text) :
    ofText? text = some size := by
  obtain ⟨left, right, rfl, hLeft, hRight⟩ := h
  -- neither side holds an `x`, so the one between them is the only one
  have hSplit : Text.splitAt 'x' (left ++ "x" ++ right).toList = [left.toList, right.toList] := by
    have hText : (left ++ "x" ++ right).toList = left.toList ++ 'x' :: right.toList := by
      rw [String.toList_append, String.toList_append, List.append_assoc]
      rfl
    rw [hText, Text.splitAt_append_cons hLeft.not_mem, Text.splitAt_of_not_mem hRight.not_mem]
  have hWidth : side? left.toList = some size.width :=
    side?_eq_some_iff.mpr ⟨hLeft.1, hLeft.2.2⟩
  have hHeight : side? right.toList = some size.height :=
    side?_eq_some_iff.mpr ⟨hRight.1, hRight.2.2⟩
  have hPositive : ¬ (size.width = 0 ∨ size.height = 0) := by
    have hLeftPositive := hLeft.2.1
    have hRightPositive := hRight.2.1
    omega
  simp only [ofText?, hSplit, hWidth, hHeight, if_neg hPositive]

/-- **The texts of sizes.** A text gives a size exactly if it writes it: digits, an `x` and digits, either
behind a plus sign or not, whose values by place are the width and the height and go from 1 to 2^32 - 1.
What asks for a chart of any other size fails, with the text of the size as it is. So every size with
such sides is what its usual text gives. -/
theorem writtenSize_exact :
    (∀ text size, ofText? text = some size ↔ size.IsWrittenAs text) ∧
      (∀ (invocation : Invocation) (e : ChartError), invocation.chartOptions = .error e ↔
        e = .invalidSize invocation.size ∧ ∀ size : Size, ¬ size.IsWrittenAs invocation.size) ∧
      ∀ size : Size, 1 ≤ size.width ∧ size.width ≤ 4294967295 →
        1 ≤ size.height ∧ size.height ≤ 4294967295 → ofText? size.text = some size := by
  have hIff : ∀ text size, ofText? text = some size ↔ size.IsWrittenAs text := fun text size =>
    ⟨isWrittenAs_of_ofText?, ofText?_of_isWrittenAs⟩
  refine ⟨hIff, fun invocation e => ?_, fun size hWidth hHeight => ?_⟩
  · unfold Invocation.chartOptions
    cases hSize : ofText? invocation.size with
    | none =>
      -- a text that writes a size would have been read
      have hNone : ∀ size : Size, ¬ size.IsWrittenAs invocation.size := by
        intro size hWritten
        rw [(hIff _ _).mpr hWritten] at hSize
        cases hSize
      constructor
      · intro h
        exact ⟨(Except.error.inj h).symm, hNone⟩
      · rintro ⟨rfl, -⟩
        rfl
    | some size =>
      refine iff_of_false (fun h => by cases h) fun h => ?_
      exact h.2 size ((hIff _ _).mp hSize)
  · exact ofText?_of_isWrittenAs (isWrittenAs_text hWidth hHeight)

/-- The widest canvas of one line. -/
theorem ofText?_widest :
    (1 ≤ 4294967295 ∧ 4294967295 ≤ 4294967295) ∧ (1 ≤ 1 ∧ 1 ≤ 4294967295) ∧
      Size.text ⟨4294967295, 1⟩ = "4294967295x1" ∧
      ofText? "4294967295x1" = some ⟨4294967295, 1⟩ := by
  have hText : Size.text ⟨4294967295, 1⟩ = "4294967295x1" := by decide +kernel
  obtain ⟨-, -, hUsual⟩ := writtenSize_exact
  have hRead := hUsual ⟨4294967295, 1⟩ (by decide) (by decide)
  rw [hText] at hRead
  exact ⟨by decide, by decide, hText, hRead⟩

example : ofText? "+0800x+600" = some ⟨800, 600⟩ ∧ ofText? "4294967296x1" = none := by
  decide +kernel

end Size

end SolarCharts
