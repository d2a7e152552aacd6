/-!
# Cutting texts

A text is cut at every separator. There is always one part more than there are separators, so the
empty text has one part. `dropEnd` does at the end of a row what `List.dropWhile` does at its start.
-/

namespace SolarCharts.Text

/-- Drops what is of a class from the end. -/
def dropEnd (drop : α → Bool) (row : List α) : List α := (row.reverse.dropWhile drop).reverse

/-- Puts a character in front of the first of some parts. -/
def consToHead (c : Char) : List (List Char) → List (List Char)
  | [] => [[c]]
  | part :: parts => (c :: part) :: parts

/-- The parts of a text between separators. -/
def splitAt (separator : Char) : List Char → List (List Char)
  | [] => [[]]
  | c :: rest =>
    if c = separator then [] :: splitAt separator rest
    else consToHead c (splitAt separator rest)

/-- There is always a part, if only an empty one. -/
theorem splitAt_ne_nil (separator : Char) (text : List Char) : splitAt separator text ≠ [] := by
  cases text with
  | nil => simp [splitAt]
  | cons c rest =>
    rw [splitAt]
    split
    · simp
    · cases splitAt separator rest <;> simp [consToHead]

/-- A character in front of the first part is in front of the whole text. -/
theorem intercalate_consToHead (separator c : Char) {parts : List (List Char)} (h : parts ≠ []) :
    [separator].intercalate (consToHead c parts) = c :: [separator].intercalate parts := by
  match parts, h with
  | [part], _ => simp [consToHead, List.intercalate]
  | part :: next :: parts, _ => simp [consToHead, List.intercalate, List.intersperse]

/-- Nothing but the separators is lost. -/
theorem intercalate_splitAt (separator : Char) (text : List Char) :
    [separator].intercalate (splitAt separator text) = text := by
  induction text with
  | nil => rfl
  | cons c rest ih =>
    rw [splitAt]
    split
    · next h =>
      -- in front of a separator that comes first stands an empty part
      match hs : splitAt separator rest, splitAt_ne_nil separator rest with
      | part :: parts, _ =>
        rw [hs] at ih
        simp only [List.intercalate, List.intersperse, List.flatten_cons, List.nil_append] at ih ⊢
        rw [List.singleton_append, ih, h]
    · rw [intercalate_consToHead separator c (splitAt_ne_nil separator rest), ih]

/-- A separator cuts off what stands in front of it, where that holds none. -/
theorem splitAt_append_cons {separator : Char} {left : List Char} (h : separator ∉ left)
    (right : List Char) :
    splitAt separator (left ++ separator :: right) = left :: splitAt separator right := by
  induction left with
  | nil => rw [List.nil_append, splitAt, if_pos rfl]
  | cons c left ih =>
    have hHead : c ≠ separator := fun hEq => h (hEq ▸ List.mem_cons_self)
    have hRest : separator ∉ left := fun hMem => h (List.mem_cons_of_mem _ hMem)
    rw [List.cons_append, splitAt, if_neg hHead, ih hRest]
    rfl

/-- A text without separators is its own only part. -/
theorem splitAt_of_not_mem {separator : Char} {text : List Char} (h : separator ∉ text) :
    splitAt separator text = [text] := by
  induction text with
  | nil => rfl
  | cons c text ih =>
    have hHead : c ≠ separator := fun hEq => h (hEq ▸ List.mem_cons_self)
    have hRest : separator ∉ text := fun hMem => h (List.mem_cons_of_mem _ hMem)
    rw [splitAt, if_neg hHead, ih hRest]
    rfl

/-- The parts of a text between separators. -/
def parts (separator : Char) (text : String) : List String :=
  (splitAt separator text.toList).map String.ofList

end SolarCharts.Text
