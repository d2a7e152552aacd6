import SolarCharts.Proofs.Flux.Literal

/-!
# Reading Flux pipelines

A `Pipeline` is a source and the stages that its rows go through. Each is a call with named
arguments, which are literals, names, and predicates that compare columns with texts.
`Pipeline.ofText?` reads one from a text: it knows how calls, arguments and comparisons are put
together, but none of the names in them, and blanks may stand between any two of its parts.

`Pipeline.ofText?_of_chars` is that every pipeline that is written is read back, whatever its texts
hold.
-/

namespace SolarCharts.Flux

open Text (Reader)
open Text.Reader

variable {rest : List Char}

/-! ## Syntax -/

/-- A character of a word. -/
def isWordChar (c : Char) : Bool := c.isAlphanum || c == '_'

/-- Whether a word is a name, which does not start with a digit. -/
def isName : List Char → Bool
  | [] => false
  | c :: rest => isWordChar c && !c.isDigit && rest.all isWordChar

/-- What functions, arguments and columns are called. -/
structure Name where
  chars : List Char
  valid : isName chars = true
deriving DecidableEq

/-- Compares a column of a row with a text. -/
structure Test where
  row : Name
  column : Name
  value : String
deriving DecidableEq

/-- What an argument is. -/
inductive Value where
  | text (value : String)
  | duration (length : Duration)
  /-- A time so long before now. -/
  | ago (length : Duration)
  | name (name : Name)
  /-- A function of a row: whether one of the tests holds. -/
  | predicate (row : Name) (first : Test) (more : List Test)
deriving DecidableEq

/-- What is passed to a function, under a name. -/
structure Argument where
  name : Name
  value : Value
deriving DecidableEq

/-- A call of a function with its arguments. -/
structure Stage where
  name : Name
  arguments : List Argument
deriving DecidableEq

/-- A source, and what its rows go through. -/
structure Pipeline where
  source : Stage
  stages : List Stage
deriving DecidableEq

/-! ### Without its texts -/

/-- A test with the empty text in place of its own. -/
def Test.erased (test : Test) : Test := { test with value := "" }

/-- A value without its texts. Names and lengths of time stay. -/
def Value.erased : Value → Value
  | .text _ => .text ""
  | .predicate row first more => .predicate row first.erased (more.map Test.erased)
  | value => value

/-- An argument without its texts. -/
def Argument.erased (argument : Argument) : Argument :=
  { argument with value := argument.value.erased }

/-- A call without its texts. -/
def Stage.erased (stage : Stage) : Stage :=
  { stage with arguments := stage.arguments.map Argument.erased }

/-- The pipeline with the empty text in place of every other. -/
def Pipeline.erased (pipeline : Pipeline) : Pipeline where
  source := pipeline.source.erased
  stages := pipeline.stages.map Stage.erased

/-! ### As it is written

`charsNext` is how a test, an argument or a stage is written behind another one.
-/

/-- A column of a row, and the text that it is compared with. -/
def Test.chars (test : Test) : List Char :=
  test.row.chars ++ '.' ::
    (test.column.chars ++ ' ' :: '=' :: '=' :: ' ' :: (stringLiteral test.value).toList)

/-- A further test is joined by a word. -/
def Test.charsNext (test : Test) : List Char := ' ' :: 'o' :: 'r' :: ' ' :: test.chars

/-- A value of each kind. -/
def Value.chars : Value → List Char
  | .text value => (stringLiteral value).toList
  | .duration length => (durationLiteral length).toList
  | .ago length => '-' :: (durationLiteral length).toList
  | .name found => found.chars
  | .predicate row first more =>
    '(' :: (row.chars ++ ')' :: ' ' :: '=' :: '>' :: ' ' ::
      (first.chars ++ more.flatMap Test.charsNext))

/-- The name of an argument stands before its value. -/
def Argument.chars (argument : Argument) : List Char :=
  argument.name.chars ++ ':' :: ' ' :: argument.value.chars

/-- A further argument stands behind a comma. -/
def Argument.charsNext (argument : Argument) : List Char := ',' :: ' ' :: argument.chars

/-- All arguments of a call, which may be none. -/
def argumentsChars : List Argument → List Char
  | [] => []
  | first :: more => first.chars ++ more.flatMap Argument.charsNext

/-- Arguments stand in brackets behind the name of their function. -/
def Stage.chars (stage : Stage) : List Char :=
  stage.name.chars ++ '(' :: (argumentsChars stage.arguments ++ [')'])

/-- A stage stands on a line of its own. -/
def Stage.charsNext (stage : Stage) : List Char :=
  '\n' :: ' ' :: ' ' :: '|' :: '>' :: ' ' :: stage.chars

/-- The source stands on the first line. -/
def Pipeline.chars (pipeline : Pipeline) : List Char :=
  pipeline.source.chars ++ pipeline.stages.flatMap Stage.charsNext

/-! ## Readers

Every reader passes over the blanks before what it takes. `testNext`, `argumentNext` and `stageNext`
take what separates two of them as well.
-/

/-- A blank between two parts of a pipeline. -/
def isGap (c : Char) : Bool := c == ' ' || c == '\n' || c == '\r' || c == '\t'

/-- Takes a fixed text. -/
def symbol (text : List Char) : Reader Unit := do
  skip isGap
  expect text

/-- Takes a word as a whole. -/
def word : Reader (List Char) := do
  skip isGap
  takeWhile1 isWordChar

/-- Takes a word that has a meaning of its own. -/
def keyword (text : List Char) : Reader Unit := do
  let found ← word
  if found = text then pure () else failure

/-- Takes a word that is a name. -/
def name : Reader Name := do
  let found ← word
  if h : isName found = true then pure ⟨found, h⟩ else failure

/-- Takes a text in quotes. -/
def literal : Reader String := do
  symbol ['"']
  String.ofList <$> literalRest false

/-- Takes a word that is a length of time. -/
def duration : Reader Duration := do
  let found ← word
  match durationOf? found with
  | some length => pure length
  | none => failure

/-- Takes a column of a row and the text that it is compared with. -/
def test : Reader Test := do
  let row ← name
  symbol ['.']
  let column ← name
  symbol ['=', '=']
  let value ← literal
  pure ⟨row, column, value⟩

/-- Takes a further test. -/
def testNext : Reader Test := do
  keyword ['o', 'r']
  test

/-- Takes a function of a row: a name for the row and the tests of its columns. -/
def predicate : Reader Value := do
  symbol ['(']
  let row ← name
  symbol [')']
  symbol ['=', '>']
  let first ← test
  let more ← many testNext
  pure (.predicate row first more)

/-- Takes a value, of which the first character tells the kind. -/
def value : Reader Value := do
  skip isGap
  match ← peek? with
  | none => failure
  | some c =>
    if c = '"' then Value.text <$> literal
    else if c = '(' then predicate
    else if c = '-' then do
      symbol ['-']
      Value.ago <$> duration
    else if c.isDigit then Value.duration <$> duration
    else Value.name <$> name

/-- Takes an argument with its name. -/
def argument : Reader Argument := do
  let name ← name
  symbol [':']
  let value ← value
  pure ⟨name, value⟩

/-- Takes a further argument. -/
def argumentNext : Reader Argument := do
  symbol [',']
  argument

/-- Takes the arguments of a call, if it has any. -/
def arguments : Reader (List Argument) :=
  (do
    let first ← argument
    let more ← many argumentNext
    pure (first :: more))
  <|> pure []

/-- Takes a call. -/
def stage : Reader Stage := do
  let name ← name
  symbol ['(']
  let arguments ← arguments
  symbol [')']
  pure ⟨name, arguments⟩

/-- Takes a further stage. -/
def stageNext : Reader Stage := do
  symbol ['|', '>']
  stage

/-- Takes a source and as many stages as there are. -/
def pipeline : Reader Pipeline := do
  let source ← stage
  let stages ← many stageNext
  pure ⟨source, stages⟩

/-- The pipeline of a text that holds nothing else. -/
def Pipeline.ofText? (text : String) : Option Pipeline := run? pipeline text.toList

/-! ## Words -/

theorem isGap_of_isWordChar {c : Char} (h : isWordChar c = true) : isGap c = false := by
  rw [Bool.eq_false_iff]
  intro hGap
  simp only [isGap, Bool.or_eq_true, beq_iff_eq] at hGap
  rcases hGap with ((rfl | rfl) | rfl) | rfl <;> exact absurd h (by decide)

/-- Blanks are passed over as long as something else does not come. -/
theorem skip_isGap {c : Char} (h : isGap c = false) (rest : List Char) :
    skip isGap (c :: rest) = some ((), c :: rest) := by
  rw [skip, List.dropWhile_cons_of_neg (by rw [h]; exact Bool.false_ne_true)]

/-- A character that is no blank is taken where it stands. -/
theorem symbol_one (c : Char) (h : isGap c = false) (rest : List Char) :
    symbol [c] (c :: rest) = some ((), rest) := by
  rw [symbol, bind_of (skip_isGap h rest)]
  exact expect_append [c] rest

/-- A word is taken up to where it ends. -/
theorem word_append {text : List Char} (hNonempty : text ≠ [])
    (hText : ∀ c ∈ text, isWordChar c = true) (hRest : EndsBefore isWordChar rest) :
    word (text ++ rest) = some (text, rest) := by
  have hSkip : skip isGap (text ++ rest) = some ((), text ++ rest) := by
    cases text with
    | nil => exact absurd rfl hNonempty
    | cons c text => exact skip_isGap (isGap_of_isWordChar (hText c List.mem_cons_self)) _
  rw [word, bind_of hSkip]
  exact takeWhile1_append hNonempty hText hRest

namespace Name

theorem ne_nil (n : Name) : n.chars ≠ [] := by
  intro h
  have hValid := n.valid
  rw [h] at hValid
  cases hValid

/-- The first character of a name and those behind it. -/
theorem exists_cons (n : Name) :
    ∃ c more, n.chars = c :: more ∧ isWordChar c = true ∧ c.isDigit = false ∧
      ∀ d ∈ more, isWordChar d = true := by
  obtain ⟨c, more, hSplit⟩ := List.exists_cons_of_ne_nil n.ne_nil
  have hValid := n.valid
  rw [hSplit, isName, Bool.and_eq_true, Bool.and_eq_true, Bool.not_eq_true',
    List.all_eq_true] at hValid
  exact ⟨c, more, hSplit, hValid.1.1, hValid.1.2, hValid.2⟩

theorem isWordChar_of_mem (n : Name) {c : Char} (h : c ∈ n.chars) : isWordChar c = true := by
  obtain ⟨d, more, hSplit, hFirst, -, hMore⟩ := n.exists_cons
  rw [hSplit] at h
  rcases List.mem_cons.mp h with rfl | h
  · exact hFirst
  · exact hMore c h

end Name

/-- A name is taken as that name. -/
theorem name_append (n : Name) (hRest : EndsBefore isWordChar rest) :
    name (n.chars ++ rest) = some (n, rest) := by
  rw [name, bind_of (word_append n.ne_nil (fun c hc => n.isWordChar_of_mem hc) hRest),
    dif_pos n.valid]
  rfl

theorem endsBefore_cons {accept : Char → Bool} {c : Char} (h : accept c = false)
    (rest : List Char) : EndsBefore accept (c :: rest) := by
  intro d hd
  rwa [← Option.some.inj hd]

/-! ## Literals -/

/-- A text is read back from its literal, whatever it holds. -/
theorem literal_append (text : String) (rest : List Char) :
    literal ((stringLiteral text).toList ++ rest) = some (text, rest) := by
  rw [toList_stringLiteral, List.cons_append, List.append_assoc, List.singleton_append, literal,
    bind_of (symbol_one '"' rfl _), map_of (literalRest_escaped text.toList rest),
    String.ofList_toList]

/-- The literal of a length of time is a word that starts with a digit. -/
theorem exists_word_durationLiteral (d : Duration) :
    ∃ c more, (durationLiteral d).toList = c :: more ∧ c.isDigit = true ∧
      ∀ e ∈ c :: more, isWordChar e = true := by
  obtain ⟨c, more, hSplit, hDigit, hAlphanum⟩ := exists_cons_durationLiteral d
  refine ⟨c, more, hSplit, hDigit, fun e he => ?_⟩
  rw [isWordChar, hAlphanum e he, Bool.true_or]

/-- It is taken as a whole, and read back. -/
theorem duration_append (d : Duration) (hRest : EndsBefore isWordChar rest) :
    duration ((durationLiteral d).toList ++ rest) = some (d, rest) := by
  have hValue := durationOf?_durationLiteral d
  obtain ⟨c, more, hSplit, -, hWord⟩ := exists_word_durationLiteral d
  rw [hSplit] at hValue ⊢
  rw [duration, bind_of (word_append (List.cons_ne_nil c more) hWord hRest), hValue]
  rfl

/-! ## Predicates -/

/-- A test is read back. -/
theorem test_append (t : Test) (rest : List Char) : test (t.chars ++ rest) = some (t, rest) := by
  have hEquals (more : List Char) :
      symbol ['=', '='] (' ' :: '=' :: '=' :: more) = some ((), more) := rfl
  -- blanks are passed over before the literal starts
  have hBlank (more : List Char) : literal (' ' :: more) = literal more := rfl
  simp only [Test.chars, List.append_assoc, List.cons_append]
  rw [test, bind_of (name_append t.row (endsBefore_cons rfl _)), bind_of (symbol_one '.' rfl _),
    bind_of (name_append t.column (endsBefore_cons rfl _)), bind_of (hEquals _),
    bind_of ((hBlank _).trans (literal_append t.value rest))]
  rfl

/-- A further test is read back. -/
theorem testNext_append (t : Test) (rest : List Char) :
    testNext (t.charsNext ++ rest) = some (t, rest) := by
  have hOr : keyword ['o', 'r'] (' ' :: 'o' :: 'r' :: ' ' :: (t.chars ++ rest)) =
      some ((), ' ' :: (t.chars ++ rest)) := rfl
  have hTest : test (' ' :: (t.chars ++ rest)) = some (t, rest) := test_append t rest
  rw [testNext]
  exact (bind_of hOr).trans hTest

/-- What may follow an argument. -/
def Closes (rest : List Char) : Prop := ∃ more, rest = ',' :: more ∨ rest = ')' :: more

theorem Closes.endsBefore (h : Closes rest) : EndsBefore isWordChar rest := by
  obtain ⟨more, rfl | rfl⟩ := h <;> exact endsBefore_cons rfl more

/-- A predicate is read back, with all its tests. -/
theorem predicate_append (row : Name) (first : Test) (more : List Test) (hRest : Closes rest) :
    predicate ((Value.predicate row first more).chars ++ rest) =
      some (.predicate row first more, rest) := by
  have hArrow (more : List Char) :
      symbol ['=', '>'] (' ' :: '=' :: '>' :: more) = some ((), more) := rfl
  have hFirst (rest : List Char) : test (' ' :: (first.chars ++ rest)) = some (first, rest) :=
    test_append first rest
  -- neither a comma nor a bracket goes on with a test
  have hStop : testNext rest = none := by
    obtain ⟨more, rfl | rfl⟩ := hRest <;> rfl
  have hMore : many testNext (more.flatMap Test.charsNext ++ rest) = some (more, rest) :=
    many_flatMap (fun t _ rest (_ : True) => testNext_append t rest) (fun _ _ _ => trivial)
      (fun _ => List.cons_ne_nil _ _) trivial hStop
  simp only [Value.chars, List.append_assoc, List.cons_append]
  rw [predicate, bind_of (symbol_one '(' rfl _), bind_of (name_append row (endsBefore_cons rfl _)),
    bind_of (symbol_one ')' rfl _), bind_of (hArrow _), bind_of (hFirst _), bind_of hMore]
  rfl

/-! ## Values -/

/-- The first character of a value tells the kind. -/
theorem value_cons {c : Char} (hGap : isGap c = false) (rest : List Char) :
    value (c :: rest) =
      (if c = '"' then Value.text <$> literal
        else if c = '(' then predicate
        else if c = '-' then do
          symbol ['-']
          Value.ago <$> duration
        else if c.isDigit then Value.duration <$> duration
        else Value.name <$> name) (c :: rest) := by
  rw [value, bind_of (skip_isGap hGap rest)]
  rfl

/-- A word is neither a text nor a predicate nor a time before now. -/
theorem value_word {c : Char} (hWord : isWordChar c = true) (rest : List Char) :
    value (c :: rest) =
      (if c.isDigit then Value.duration <$> duration else Value.name <$> name) (c :: rest) := by
  have hNe {d : Char} (hd : isWordChar d = false) : c ≠ d := by
    rintro rfl
    rw [hWord] at hd
    cases hd
  rw [value_cons (isGap_of_isWordChar hWord), if_neg (hNe rfl), if_neg (hNe rfl), if_neg (hNe rfl)]

/-- A value of each kind is read back. -/
theorem value_append (v : Value) (hRest : Closes rest) :
    value (v.chars ++ rest) = some (v, rest) := by
  -- in every case the text is split at its first character, which picks the branch of the reader
  cases v with
  | text found =>
    have hText := map_of (f := Value.text) (literal_append found rest)
    rw [Value.chars]
    rw [toList_stringLiteral, List.cons_append] at hText ⊢
    rw [value_cons rfl, if_pos rfl]
    exact hText
  | duration length =>
    have hLength := map_of (f := Value.duration) (duration_append length hRest.endsBefore)
    obtain ⟨c, more, hSplit, hDigit, hWord⟩ := exists_word_durationLiteral length
    rw [Value.chars]
    rw [hSplit, List.cons_append] at hLength ⊢
    rw [value_word (hWord c List.mem_cons_self), if_pos hDigit]
    exact hLength
  | ago length =>
    have hLength := map_of (f := Value.ago) (duration_append length hRest.endsBefore)
    rw [Value.chars, List.cons_append, value_cons rfl, if_neg (by decide), if_neg (by decide),
      if_pos rfl, bind_of (symbol_one '-' rfl _)]
    exact hLength
  | name found =>
    have hName := map_of (f := Value.name) (name_append found hRest.endsBefore)
    obtain ⟨c, more, hSplit, hWord, hDigit, -⟩ := found.exists_cons
    rw [Value.chars]
    rw [hSplit, List.cons_append] at hName ⊢
    rw [value_word hWord, if_neg (by rw [hDigit]; exact Bool.false_ne_true)]
    exact hName
  | predicate row first more =>
    have hPredicate := predicate_append row first more hRest
    rw [Value.chars, List.cons_append] at hPredicate ⊢
    rw [value_cons rfl, if_neg (by decide), if_pos rfl]
    exact hPredicate

/-! ## Arguments and stages -/

/-- An argument is read back. -/
theorem argument_append (a : Argument) (hRest : Closes rest) :
    argument (a.chars ++ rest) = some (a, rest) := by
  have hValue : value (' ' :: (a.value.chars ++ rest)) = some (a.value, rest) :=
    value_append a.value hRest
  simp only [Argument.chars, List.append_assoc, List.cons_append]
  rw [argument, bind_of (name_append a.name (endsBefore_cons rfl _)),
    bind_of (symbol_one ':' rfl _), bind_of hValue]
  rfl

/-- A further argument is read back. -/
theorem argumentNext_append (a : Argument) (hRest : Closes rest) :
    argumentNext (a.charsNext ++ rest) = some (a, rest) := by
  have hArgument : argument (' ' :: (a.chars ++ rest)) = some (a, rest) := argument_append a hRest
  rw [argumentNext]
  exact (bind_of (symbol_one ',' rfl _)).trans hArgument

/-- All arguments of a call are read back, up to the bracket that closes it. -/
theorem arguments_append (as : List Argument) (rest : List Char) :
    arguments (argumentsChars as ++ ')' :: rest) = some (as, ')' :: rest) := by
  cases as with
  | nil =>
    have hStop : argument (')' :: rest) = none := rfl
    exact orElse_of_none (bind_of_none hStop)
  | cons first more =>
    have hEnd : Closes (')' :: rest) := ⟨rest, Or.inr rfl⟩
    have hNext (a : Argument) (rest : List Char) : Closes (a.charsNext ++ rest) :=
      ⟨_, Or.inl rfl⟩
    have hStop : argumentNext (')' :: rest) = none := rfl
    have hMore : many argumentNext (more.flatMap Argument.charsNext ++ ')' :: rest) =
        some (more, ')' :: rest) :=
      many_flatMap (fun a _ rest hRest => argumentNext_append a hRest) (fun a _ => hNext a)
        (fun _ => List.cons_ne_nil _ _) hEnd hStop
    -- a comma if there is another argument, and the bracket if there is none
    have hCloses : Closes (more.flatMap Argument.charsNext ++ ')' :: rest) := by
      cases more with
      | nil => exact hEnd
      | cons a more =>
        rw [List.flatMap_cons, List.append_assoc]
        exact hNext a _
    rw [argumentsChars, List.append_assoc, arguments]
    apply orElse_of_some
    rw [bind_of (argument_append first hCloses), bind_of hMore]
    rfl

/-- A call is read back. -/
theorem stage_append (s : Stage) (rest : List Char) : stage (s.chars ++ rest) = some (s, rest) := by
  simp only [Stage.chars, List.append_assoc, List.cons_append, List.nil_append]
  rw [stage, bind_of (name_append s.name (endsBefore_cons rfl _)), bind_of (symbol_one '(' rfl _),
    bind_of (arguments_append s.arguments rest), bind_of (symbol_one ')' rfl _)]
  rfl

/-- A further stage is read back. -/
theorem stageNext_append (s : Stage) (rest : List Char) :
    stageNext (s.charsNext ++ rest) = some (s, rest) := by
  have hPipe : symbol ['|', '>'] ('\n' :: ' ' :: ' ' :: '|' :: '>' :: ' ' :: (s.chars ++ rest)) =
      some ((), ' ' :: (s.chars ++ rest)) := rfl
  have hStage : stage (' ' :: (s.chars ++ rest)) = some (s, rest) := stage_append s rest
  rw [stageNext]
  exact (bind_of hPipe).trans hStage

/-! ## Pipelines -/

/-- A pipeline as it is written is read back, with nothing left. -/
theorem pipeline_chars (p : Pipeline) : pipeline p.chars = some (p, []) := by
  have hStop : stageNext [] = none := rfl
  have hStages : many stageNext (p.stages.flatMap Stage.charsNext ++ []) = some (p.stages, []) :=
    many_flatMap (fun s _ rest (_ : True) => stageNext_append s rest) (fun _ _ _ => trivial)
      (fun _ => List.cons_ne_nil _ _) trivial hStop
  rw [List.append_nil] at hStages
  rw [pipeline, Pipeline.chars, bind_of (stage_append p.source _), bind_of hStages]
  rfl

/-- **Pipelines are read back**, whatever texts stand in them. -/
theorem Pipeline.ofText?_of_chars {text : String} {p : Pipeline} (h : text.toList = p.chars) :
    Pipeline.ofText? text = some p := by
  rw [Pipeline.ofText?, h]
  exact run?_of (pipeline_chars p)

end SolarCharts.Flux
