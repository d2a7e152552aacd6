/-!
# Readers

A `Reader` takes a value from the start of a text and leaves the rest, or fails. Readers follow one
another in `do` blocks; `<|>` tries a second one on the same text when the first has failed.
-/

namespace SolarCharts.Text

/-- Takes a value from the start of a text. -/
abbrev Reader (α : Type) := StateT (List Char) Option α

namespace Reader

/-- The next character, which stays where it is. -/
def peek? : Reader (Option Char) := fun text => some (text.head?, text)

/-- Takes one character. -/
def next : Reader Char
  | [] => none
  | c :: rest => some (c, rest)

/-- Takes one character of a class. -/
def one (accept : Char → Bool) : Reader Char
  | [] => none
  | c :: rest => if accept c then some (c, rest) else none

/-- Takes the given text. -/
def expect : List Char → Reader Unit
  | [] => pure ()
  | c :: rest => do
    let _ ← one (· == c)
    expect rest

/-- Takes the given text if it comes next, and says whether it did. -/
def takes (text : List Char) : Reader Bool := (do expect text; pure true) <|> pure false

/-- Takes characters of a class as long as there are some. -/
def takeWhile (accept : Char → Bool) : Reader (List Char) := fun text =>
  some (text.takeWhile accept, text.dropWhile accept)

/-- Passes over characters of a class. -/
def skip (accept : Char → Bool) : Reader Unit := fun text => some ((), text.dropWhile accept)

/-- Takes one character of a class and those that follow it. -/
def takeWhile1 (accept : Char → Bool) : Reader (List Char) := do
  let found ← takeWhile accept
  if found.isEmpty then failure else pure found

/-- Fails unless the text has come to its end. -/
def finished : Reader Unit
  | [] => some ((), [])
  | _ => none

/-- Takes so many values at most, as long as there are some. -/
def manyUpTo (item : Reader α) : Nat → Reader (List α)
  | 0 => pure []
  | n + 1 =>
    (do
      let a ← item
      let rest ← manyUpTo item n
      pure (a :: rest))
    <|> pure []

/-- Takes values as long as there are some; each must take a character at least. -/
def many (item : Reader α) : Reader (List α) := fun text => manyUpTo item text.length text

/-- The value of a text that holds nothing else. -/
def run? (item : Reader α) (text : List Char) : Option α :=
  match item text with
  | some (a, []) => some a
  | _ => none

end Reader

end SolarCharts.Text
