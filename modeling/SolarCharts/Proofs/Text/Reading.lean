import Mathlib.Tactic.Cases
import SolarCharts.Text.Reader

/-!
# What readers take

A reader is used on a text that starts with what it takes. The lemmas give what it returns there and
what it leaves, so that a reader built from others is followed one part at a time: `bind_of` for the
parts in order, `orElse_of_none` for a second choice, and `many_flatMap` for repetition.
-/

namespace SolarCharts.Text.Reader

variable {α β : Type} {text rest : List Char}

theorem bind_of {item : Reader α} {f : α → Reader β} {a : α} (h : item text = some (a, rest)) :
    (item >>= f) text = f a rest := by
  show (item text >>= fun found => f found.1 found.2) = f a rest
  rw [h]
  rfl

theorem bind_of_none {item : Reader α} {f : α → Reader β} (h : item text = none) :
    (item >>= f) text = none := by
  show (item text >>= fun found => f found.1 found.2) = none
  rw [h]
  rfl

theorem map_of {item : Reader α} {f : α → β} {a : α} (h : item text = some (a, rest)) :
    (f <$> item) text = some (f a, rest) := by
  show (item text >>= fun found => pure (f found.1, found.2)) = some (f a, rest)
  rw [h]
  rfl

theorem orElse_of_some {item other : Reader α} {found : α × List Char}
    (h : item text = some found) : (item <|> other) text = some found := by
  show (item text <|> other text) = some found
  rw [h]
  rfl

theorem orElse_of_none {item other : Reader α} (h : item text = none) :
    (item <|> other) text = other text := by
  show (item text <|> other text) = other text
  rw [h]
  rfl

theorem run?_of {item : Reader α} {a : α} (h : item text = some (a, [])) :
    run? item text = some a := by
  rw [run?, h]

/-! ## Characters -/

/-- A fixed text is taken from what starts with it. -/
theorem expect_append (text rest : List Char) : expect text (text ++ rest) = some ((), rest) := by
  induction text with
  | nil => rfl
  | cons c text ih =>
    have hOne : one (· == c) (c :: (text ++ rest)) = some (c, text ++ rest) :=
      if_pos (beq_self_eq_true c)
    rw [List.cons_append, expect, bind_of hOne]
    exact ih

/-- A class of characters ends where none of them comes next. -/
def EndsBefore (accept : Char → Bool) (rest : List Char) : Prop :=
  ∀ c ∈ rest.head?, accept c = false

/-- The row of a class ends where the class does. -/
theorem takeWhile_append {accept : Char → Bool} (hText : ∀ c ∈ text, accept c = true)
    (hRest : EndsBefore accept rest) : (text ++ rest).takeWhile accept = text := by
  rw [List.takeWhile_append_of_pos hText]
  cases rest with
  | nil => rw [List.takeWhile_nil, List.append_nil]
  | cons c rest =>
    rw [List.takeWhile_cons_of_neg (by rw [hRest c rfl]; exact Bool.false_ne_true), List.append_nil]

/-- The rest is what comes behind that row. -/
theorem dropWhile_append {accept : Char → Bool} (hText : ∀ c ∈ text, accept c = true)
    (hRest : EndsBefore accept rest) : (text ++ rest).dropWhile accept = rest := by
  rw [List.dropWhile_append_of_pos hText]
  cases rest with
  | nil => rfl
  | cons c rest => rw [List.dropWhile_cons_of_neg (by rw [hRest c rfl]; exact Bool.false_ne_true)]

/-- A row of characters of a class is taken as a whole. -/
theorem takeWhile1_append {accept : Char → Bool} (hNonempty : text ≠ [])
    (hText : ∀ c ∈ text, accept c = true) (hRest : EndsBefore accept rest) :
    takeWhile1 accept (text ++ rest) = some (text, rest) := by
  have hTaken : takeWhile accept (text ++ rest) = some (text, rest) := by
    rw [takeWhile, takeWhile_append hText hRest, dropWhile_append hText hRest]
  rw [takeWhile1, bind_of hTaken, if_neg (by simpa using hNonempty)]
  rfl

/-! ## Repetition -/

variable {item : Reader α} {write : α → List Char} {next : List Char → Prop}

/-- What is taken again and again is taken as long as it is there. Each value may need to know how
the text goes on, which is `next`. -/
theorem manyUpTo_flatMap {values : List α}
    (hItem : ∀ a ∈ values, ∀ rest, next rest → item (write a ++ rest) = some (a, rest))
    (hWritten : ∀ a ∈ values, ∀ rest, next (write a ++ rest)) (hNext : next rest)
    (hStop : item rest = none) (n : Nat) (hLength : values.length ≤ n) :
    manyUpTo item n (values.flatMap write ++ rest) = some (values, rest) := by
  induction values generalizing n with
  | nil =>
    cases n with
    | zero => rfl
    | succ n =>
      rw [manyUpTo, List.flatMap_nil, List.nil_append, orElse_of_none (bind_of_none hStop)]
      rfl
  | cons a values ih =>
    cases n with
    | zero => cases hLength
    | succ n =>
      -- behind a value comes another one, or what the row was followed by
      have hMore : next (values.flatMap write ++ rest) := by
        cases values with
        | nil => exact hNext
        | cons b values =>
          rw [List.flatMap_cons, List.append_assoc]
          exact hWritten b (List.mem_cons_of_mem _ List.mem_cons_self) _
      have hRest := ih (fun b hb => hItem b (List.mem_cons_of_mem _ hb))
        (fun b hb => hWritten b (List.mem_cons_of_mem _ hb)) n (Nat.le_of_succ_le_succ hLength)
      rw [manyUpTo, List.flatMap_cons, List.append_assoc]
      apply orElse_of_some
      rw [bind_of (hItem a List.mem_cons_self _ hMore), bind_of hRest]
      rfl

/-- No bound is needed where each value takes something. -/
theorem many_flatMap {values : List α}
    (hItem : ∀ a ∈ values, ∀ rest, next rest → item (write a ++ rest) = some (a, rest))
    (hWritten : ∀ a ∈ values, ∀ rest, next (write a ++ rest)) (hNonempty : ∀ a, write a ≠ [])
    (hNext : next rest) (hStop : item rest = none) :
    many item (values.flatMap write ++ rest) = some (values, rest) := by
  refine manyUpTo_flatMap hItem hWritten hNext hStop _ ?_
  rw [List.length_append]
  refine Nat.le_trans ?_ (Nat.le_add_right _ _)
  clear hItem hWritten
  -- every value takes a character at least
  induction values with
  | nil => exact Nat.zero_le _
  | cons a values ih =>
    have hPos : 0 < (write a).length := List.length_pos_iff.mpr (hNonempty a)
    rw [List.flatMap_cons, List.length_append, List.length_cons]
    omega

end SolarCharts.Text.Reader
