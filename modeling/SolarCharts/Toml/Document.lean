import SolarCharts.Toml.Quoted
import SolarCharts.Toml.Scalar

/-!
# Documents of TOML

A document is read line by line. A value may go on over several lines within an array and within long
strings. Comments start with a number sign. `documentOf?` gives the table that a text describes, and
nothing when the text is no document or its lines contradict each other.
-/

namespace SolarCharts.Toml

open Text (Reader)

/-! ## Blanks, comments and line ends -/

/-- Passes over blanks within a line. -/
def blanks : Reader Unit := Reader.skip isBlank

/-- Passes over the rest of a line that starts with a comment. -/
def comment : Reader Unit := do
  Reader.expect ['#']
  Reader.skip isPrintable

/-- Takes the end of a line or of the text. -/
def ended : Reader Unit := lineEnd <|> Reader.finished

/-- Takes what may stand after a value or a header, and the end of its line. -/
def trailing : Reader Unit := do
  blanks
  comment <|> pure ()
  ended

/-- Passes over blanks, comments and line ends. -/
def gap : Reader Unit := do
  let _ ← Reader.many do
    (do let _ ← Reader.one isBlank)
      <|> lineEnd
      <|> (do comment; ended)
  return ()

/-! ## Values -/

/-- Values nest less deep than this. -/
def depthLimit : Nat := 80

/-- Takes values with a comma between them, given how one is taken; after the last one a comma may
stand. -/
def elements (element : Reader Value) : Reader (List Value) := (do
    let first ← padded
    let others ← Reader.many do
      Reader.expect [',']
      padded
    let _ ← Reader.takes [',']
    return first :: others)
  <|> pure []
where
  /-- Takes a value and the lines and comments around it. -/
  padded : Reader Value := do
    gap
    let value ← element
    gap
    return value

/-- Takes a path and the value assigned to it, given how a value is taken. -/
def assignment (value : Reader Value) : Reader (List String × Value) := do
  let path ← key
  Reader.expect ['=']
  blanks
  return (path, ← value)

/-- Takes assignments with a comma between them. -/
def inlineAssignments (value : Reader Value) : Reader (List (List String × Value)) := (do
    let first ← padded
    let others ← Reader.many do
      Reader.expect [',']
      padded
    return first :: others)
  <|> pure []
where
  /-- Takes an assignment and the blanks after it. -/
  padded : Reader (List String × Value) := do
    let found ← assignment value
    blanks
    return found

/-- Takes a value that nests less deep than so many levels. -/
def value : Nat → Reader Value
  | 0 => failure
  | depth + 1 => do
    match ← Reader.peek? with
    | some '"' => .string <$> string '"'
    | some '\'' => .string <$> string '\''
    | some '[' =>
      if depth = 0 then failure
      else do
        Reader.expect ['[']
        let found ← elements (value depth)
        gap
        Reader.expect [']']
        return .array found
    | some '\x7b' =>
      if depth = 0 then failure
      else do
        Reader.expect ['\x7b']
        blanks
        let found ← inlineAssignments (value depth)
        Reader.expect ['\x7d']
        return .inline (← Table.assignAll? [] found)
    | _ => scalar

/-! ## Lines -/

/-- Takes a header. -/
def header : Reader Header :=
  (do
    Reader.expect ['[', '[']
    let path ← key
    Reader.expect [']', ']']
    return .element path)
  <|> do
    Reader.expect ['[']
    let path ← key
    Reader.expect [']']
    return .table path

/-- Takes a line; one without a header or an assignment comes to nothing. -/
def line : Reader (Option Line) := do
  blanks
  (do lineEnd; return none)
    <|> (do comment; ended; return none)
    <|> (do
      let found ← header
      trailing
      return some (.header found))
    <|> do
      let (path, value) ← assignment (value depthLimit)
      trailing
      return some (.assignment path value)

/-- Takes all lines of a document. A byte-order mark may stand before them. -/
def document : Reader (List Line) := do
  let _ ← Reader.takes ['\uFEFF']
  let lines ← Reader.many line
  blanks
  Reader.finished
  return lines.filterMap id

/-- The table that a text describes. -/
def documentOf? (text : String) : Option Table :=
  (Reader.run? document text.toList).bind Table.ofLines?

end SolarCharts.Toml
