import SolarCharts.Proofs.Flux.Literal

/-!
# A string literal says where it ends

Reading a string literal has three outcomes: it is closed, it opens an interpolation, or it is no
literal at all. `readString` tells them apart, from the opening quote on, and leaves what follows.

* `text?_readBody` — the literals that are closed are those that `literalRest` takes.
* `readString_stringLiteral` — a literal that is written is closed right where it ends, whatever
  follows it, and stands for its text.
* `stringLiteral_exact` — so it never opens an interpolation, and no literal is the start of another.
-/

namespace SolarCharts.Flux

/-- What reading a string literal comes to. -/
inductive StringReading where
  /-- It is closed: the text that it stands for, and what follows it. -/
  | closed (text rest : List Char)
  /-- It opens an interpolation: the text before that, and what follows the brace. -/
  | interpolated (text rest : List Char)
  /-- It does not start with a quote, is never closed, or has a backslash that escapes nothing. -/
  | malformed
deriving DecidableEq

namespace StringReading

/-- With one more character in front of the text. -/
def behind (c : Char) : StringReading → StringReading
  | closed text rest => closed (c :: text) rest
  | interpolated text rest => interpolated (c :: text) rest
  | malformed => malformed

/-- The text of a literal that is closed, and what follows it. -/
def text? : StringReading → Option (List Char × List Char)
  | closed text rest => some (text, rest)
  | interpolated _ _ | malformed => none

/-- Only a literal that is closed has a text. -/
theorem eq_closed_of_text? {reading : StringReading} {text rest : List Char}
    (h : reading.text? = some (text, rest)) : reading = closed text rest := by
  cases reading with
  | closed found left =>
    obtain ⟨hText, hRest⟩ := Prod.mk.inj (Option.some.inj h)
    rw [hText, hRest]
  | interpolated found left => cases h
  | malformed => cases h

theorem text?_behind (c : Char) (reading : StringReading) :
    (reading.behind c).text? = reading.text?.map fun (text, rest) => (c :: text, rest) := by
  cases reading <;> rfl

end StringReading

/-! ## Reading a literal -/

/-- Reads on within a literal, behind a backslash or not. -/
def readBody : Bool → List Char → StringReading
  | _, [] => .malformed
  | true, c :: rest =>
    match escape? c rest.head? with
    | some c => (readBody false rest).behind c
    | none => .malformed
  | false, c :: rest =>
    if c = '"' then .closed [] rest
    else if c = '\\' then readBody true rest
    else if c = '$' ∧ rest.head? = some '{' then .interpolated [] (rest.drop 1)
    else (readBody false rest).behind c

/-- Reads a literal from its opening quote on. -/
def readString : List Char → StringReading
  | [] => .malformed
  | c :: rest => if c = '"' then readBody false rest else .malformed

/-- Without an escape, a dollar sign and a brace open an interpolation. -/
example : readString ("\"a$\x7bb\x7d\"".toList) = .interpolated ['a'] ("b\x7d\"".toList) := by decide

/-- The literals that are closed are those that `literalRest` takes. -/
theorem text?_readBody (escaping : Bool) (input : List Char) :
    (readBody escaping input).text? = literalRest escaping input := by
  induction input generalizing escaping with
  | nil => cases escaping <;> rfl
  | cons c rest ih =>
    cases escaping with
    | true =>
      rw [readBody, literalRest]
      cases escape? c rest.head? with
      | none => rfl
      | some d =>
        show ((readBody false rest).behind d).text? = _
        rw [StringReading.text?_behind, ih]
        cases literalRest false rest <;> rfl
    | false =>
      rw [readBody, literalRest]
      -- one case for each way to go on, which both readers take alike
      split_ifs with hQuote hBackslash hDollar
      · rfl
      · exact ih true
      · rfl
      · rw [StringReading.text?_behind, ih]
        cases literalRest false rest <;> rfl

/-- **A written literal is closed where it ends**, and stands for its text. -/
theorem readString_stringLiteral (text : String) (rest : List Char) :
    readString ((stringLiteral text).toList ++ rest) = .closed text.toList rest := by
  rw [toList_stringLiteral, List.cons_append, List.append_assoc]
  show readBody false (escaped text.toList ++ '"' :: rest) = _
  apply StringReading.eq_closed_of_text?
  rw [text?_readBody, literalRest_escaped]

/-! ## Literals one behind another -/

/-- A text that starts with a literal does so in one way. -/
theorem stringLiteral_append_inj {a b : String} {rest rest' : List Char}
    (h : (stringLiteral a).toList ++ rest = (stringLiteral b).toList ++ rest') :
    a = b ∧ rest = rest' := by
  have hRead := congrArg readString h
  rw [readString_stringLiteral, readString_stringLiteral] at hRead
  obtain ⟨hText, hRest⟩ := StringReading.closed.inj hRead
  exact ⟨String.toList_inj.mp hText, hRest⟩

/-- **String literals are exact.** Whatever follows it, a literal is read as its text, up to its last
character and no further, and opens no interpolation. So texts with one literal are one text, and a
literal that starts another is that literal. -/
theorem stringLiteral_exact :
    (∀ (text : String) (rest : List Char),
      readString ((stringLiteral text).toList ++ rest) = .closed text.toList rest) ∧
      (∀ (text : String) (rest before after : List Char),
        readString ((stringLiteral text).toList ++ rest) ≠ .interpolated before after) ∧
      (∀ a b : String, stringLiteral a = stringLiteral b ↔ a = b) ∧
      (∀ a b : String, (stringLiteral a).toList <+: (stringLiteral b).toList ↔ a = b) := by
  refine ⟨readString_stringLiteral, ?_, ?_, ?_⟩
  · intro text rest before after h
    rw [readString_stringLiteral] at h
    cases h
  · intro a b
    constructor
    · intro h
      have hAlone : (stringLiteral a).toList ++ [] = (stringLiteral b).toList ++ [] := by rw [h]
      exact (stringLiteral_append_inj hAlone).1
    · rintro rfl
      rfl
  · intro a b
    constructor
    · -- the longer literal is the shorter one with something behind it, and nothing behind it too
      rintro ⟨more, hMore⟩
      rw [← List.append_nil (stringLiteral b).toList] at hMore
      exact (stringLiteral_append_inj hMore).1
    · rintro rfl
      exact List.prefix_refl _

end SolarCharts.Flux
