import SolarCharts.CommandLine.Invocation
import SolarCharts.Time.DurationText

/-!
# Reading command lines

A command line is read argument by argument, first the parameters that stand before a command, then
the command and its own. A parameter that takes a value has it after an equal sign or as the next
argument; a short one may have it right behind its letter. After two hyphens nothing is a parameter
any more, and no plain word is expected but a command and the values of parameters.

A value that is the next argument is looked at when the argument after it has been understood, so an
argument that cannot be understood is what is reported, whatever the value before it is. Only hosts
may be named more than once.
-/

namespace SolarCharts.CommandLine

/-! ## Parameters -/

/-- What a command line may set or ask for. -/
inductive Parameter where
  | config
  | measurement
  | every
  | window
  | bucket
  | range
  | host
  | output
  | size
  | force
  | help
  | version
deriving DecidableEq

namespace Parameter

/-- The name after two hyphens. -/
def name : Parameter → String
  | .config => "config"
  | .measurement => "measurement"
  | .every => "every"
  | .window => "window"
  | .bucket => "bucket"
  | .range => "range"
  | .host => "host"
  | .output => "output"
  | .size => "size"
  | .force => "force"
  | .help => "help"
  | .version => "version"

/-- The letter after one hyphen. -/
def letter? : Parameter → Option Char
  | .output => some 'o'
  | .help => some 'h'
  | .version => some 'V'
  | _ => none

/-- Whether a parameter takes a value. -/
def takesValue : Parameter → Bool
  | .force | .help | .version => false
  | _ => true

end Parameter

/-- Where on the command line an argument stands. -/
inductive Level where
  | program
  | mppt
  | sweep
deriving DecidableEq

/-- The parameters of a level. -/
def Level.parameters : Level → List Parameter
  | .program => [.config, .help, .version]
  | .mppt =>
    [.measurement, .every, .bucket, .range, .host, .output, .size, .force, .config, .help]
  | .sweep =>
    [.measurement, .window, .bucket, .range, .host, .output, .size, .force, .config, .help]

/-- The words that stand for commands. -/
def commandWords : List String := ["mppt", "sweep", "help"]

/-! ## Refusals -/

/-- Why a command line asks for no run. -/
inductive Refusal where
  | help
  | version
  /-- It is empty. -/
  | helpOnNothing
  /-- It has parameters but no command. -/
  | missingCommand
  | unknownCommand
  | unknownArgument
  /-- A value is missing or empty. -/
  | invalidValue
  /-- A value cannot be read. -/
  | unreadableValue
  /-- A value is given to a parameter that takes none. -/
  | unexpectedValue
  | conflict
deriving DecidableEq

/-! ## Values -/

/-- A value, as far as it is read at once. -/
inductive Given where
  | present
  | text (text : String)
  | path (path : Path)
  | duration (duration : Duration)
deriving DecidableEq

/-- Reads the value of a parameter. -/
def Given.read (parameter : Parameter) (text : String) : Except Refusal Given :=
  match parameter with
  | .config | .output => if text = "" then .error .invalidValue else .ok (.path (.ofText text))
  | .every | .window | .range =>
    match DurationText.ofText? text with
    | some d => .ok (.duration d)
    | none => .error .unreadableValue
  | _ => .ok (.text text)

/-! ## One level -/

/-- What is waited for. -/
inductive Pending where
  | nothing
  /-- The value of a parameter. -/
  | value (parameter : Parameter)
  /-- What comes after a value, before the value is looked at. -/
  | reading (parameter : Parameter) (text : String)
deriving DecidableEq

/-- How far the arguments of a level have been read. -/
structure Progress where
  /-- What was given, in order. -/
  given : List (Parameter × Given)
  /-- What is waited for. -/
  pending : Pending
  /-- Whether two hyphens have come. -/
  onlyWords : Bool
deriving DecidableEq

namespace Progress

/-- Before the first argument. -/
def start : Progress := { given := [], pending := .nothing, onlyWords := false }

/-- Whether a parameter was given. -/
def has (progress : Progress) (parameter : Parameter) : Bool :=
  progress.given.any (·.1 == parameter)

/-- Adds what was given, unless it was before; hosts may be given again. -/
def add (progress : Progress) (parameter : Parameter) (value : Except Refusal Given) :
    Except Refusal Progress :=
  -- a second value is refused before it is looked at
  if progress.has parameter ∧ parameter ≠ .host then .error .conflict
  else
    match value with
    | .ok given => .ok { progress with given := progress.given ++ [(parameter, given)] }
    | .error e => .error e

/-- Looks at the value that was read last. -/
def settle (progress : Progress) : Except Refusal Progress :=
  match progress.pending with
  | .nothing => .ok progress
  | .value _ => .error .invalidValue
  | .reading parameter text =>
    { progress with pending := .nothing }.add parameter (Given.read parameter text)

/-- Takes a parameter with the value that is attached to it. -/
def takeAttached (progress : Progress) (parameter : Parameter) (text : String) :
    Except Refusal Progress := do
  (← progress.settle).add parameter (Given.read parameter text)

/-- Takes a parameter whose value comes next. -/
def takeOpen (progress : Progress) (parameter : Parameter) : Except Refusal Progress := do
  return { (← progress.settle) with pending := .value parameter }

/-- Takes a parameter that has no value. -/
def takeFlag (progress : Progress) (parameter : Parameter) : Except Refusal Progress := do
  let progress ← progress.settle
  match parameter with
  | .help => .error .help
  | .version => .error .version
  | _ => progress.add parameter (.ok .present)

/-- Takes a parameter by its name. -/
def takeNamed (progress : Progress) (level : Level) (name : String) (value : Option String) :
    Except Refusal Progress :=
  match level.parameters.find? (·.name == name) with
  | none => .error .unknownArgument
  | some parameter =>
    match parameter.takesValue, value with
    | true, some text => progress.takeAttached parameter text
    | true, none => progress.takeOpen parameter
    | false, some _ => .error .unexpectedValue
    | false, none => progress.takeFlag parameter

/-- The value right behind a letter. -/
def behindLetter : List Char → Option String
  | [] => none
  | '=' :: text => some (String.ofList text)
  | text => some (String.ofList text)

/-- Takes parameters by their letters. -/
def takeLetters (progress : Progress) (level : Level) : List Char → Except Refusal Progress
  | [] => .ok progress
  | letter :: rest =>
    match level.parameters.find? (·.letter? == some letter) with
    | none => .error .unknownArgument
    | some parameter =>
      if parameter.takesValue then
        match behindLetter rest with
        | some text => progress.takeAttached parameter text
        | none => progress.takeOpen parameter
      else
        match progress.takeFlag parameter with
        | .ok progress => takeLetters progress level rest
        | .error e => .error e

/-- Takes a plain word. -/
def takeWord (progress : Progress) (level : Level) (word : String) : Except Refusal Progress :=
  match progress.pending, progress.onlyWords with
  -- the word is the value that is waited for
  | .value parameter, false => .ok { progress with pending := .reading parameter word }
  | _, _ =>
    .error (if level = .program ∧ ¬ (progress.onlyWords ∧ commandWords.contains word) then
      .unknownCommand
    else .unknownArgument)

/-- The name in an argument and the value after its equal sign. -/
def nameAndValue (text : List Char) : String × Option String :=
  let name := text.takeWhile (· ≠ '=')
  (String.ofList name,
    match text.dropWhile (· ≠ '=') with
    | [] => none
    | _ :: value => some (String.ofList value))

/-- Takes one argument. -/
def take (progress : Progress) (level : Level) (argument : String) : Except Refusal Progress :=
  if progress.onlyWords then progress.takeWord level argument
  else
    match argument.toList with
    | ['-', '-'] => .ok { progress with onlyWords := true }
    | '-' :: '-' :: text =>
      progress.takeNamed level (nameAndValue text).1 (nameAndValue text).2
    | '-' :: c :: letters => progress.takeLetters level (c :: letters)
    -- a lone hyphen is a word too
    | _ => progress.takeWord level argument

/-- Takes all the arguments of a level. -/
def takeAll (progress : Progress) (level : Level) (arguments : List String) :
    Except Refusal Progress := do
  (← arguments.foldlM (fun progress argument => progress.take level argument) progress).settle

/-! ## What was given -/

/-- The value of a parameter. -/
def valueOf? (progress : Progress) (parameter : Parameter) : Option Given :=
  (progress.given.find? (·.1 == parameter)).map (·.2)

/-- The text of a parameter. -/
def textOf? (progress : Progress) (parameter : Parameter) : Option String :=
  match progress.valueOf? parameter with
  | some (.text text) => some text
  | _ => none

/-- The path of a parameter. -/
def pathOf? (progress : Progress) (parameter : Parameter) : Option Path :=
  match progress.valueOf? parameter with
  | some (.path path) => some path
  | _ => none

/-- The duration of a parameter. -/
def durationOf? (progress : Progress) (parameter : Parameter) : Option Duration :=
  match progress.valueOf? parameter with
  | some (.duration d) => some d
  | _ => none

/-- The hosts. -/
def hosts (progress : Progress) : List String :=
  progress.given.filterMap fun
    | (.host, .text host) => some host
    | _ => none

/-- What the parameters before and after a command ask for. -/
def invocation (before after : Progress) (command : Command) (measurement : String) : Invocation :=
  { settingsFile := (after.pathOf? .config).or (before.pathOf? .config)
    command
    measurement := (after.textOf? .measurement).getD measurement
    bucket := after.textOf? .bucket
    lookback := (after.durationOf? .range).getD (.ofSeconds 86400)
    hosts := after.hosts
    output := (after.pathOf? .output).getD (.ofText "charts")
    size := (after.textOf? .size).getD "1200x800"
    force := after.has .force }

end Progress

/-! ## Whole command lines -/

/-- The length of the windows that time charts show when no other is asked for. -/
def defaultEvery : Duration := ⟨1000000⟩

/-- What the arguments after the help command come to. -/
def helpOn : List String → Refusal
  | [] | [_] => .help
  | _ :: _ :: _ => .unknownCommand

/-- Reads the arguments after a command. -/
def ofCommand (before : Progress) (word : String) (arguments : List String) :
    Except Refusal Invocation := do
  match word with
  | "mppt" =>
    -- a value before the command is looked at last
    let after ← Progress.start.takeAll .mppt arguments
    let before ← before.settle
    return before.invocation after (.mppt ((after.durationOf? .every).getD defaultEvery)) "mppt"
  | "sweep" =>
    let after ← Progress.start.takeAll .sweep arguments
    let before ← before.settle
    return before.invocation after (.sweep (after.durationOf? .window)) "sweep"
  | _ =>
    if arguments.head?.all commandWords.contains then .error (helpOn arguments)
    else .error .unknownCommand

/-- Whether a word is taken for a command. -/
def startsCommand (progress : Progress) (word : String) : Bool :=
  commandWords.contains word && !progress.onlyWords &&
    match progress.pending with
    | .value _ => false
    | _ => true

/-- Reads the arguments from some place before the command on. -/
def readFrom (before : Progress) : List String → Except Refusal Invocation
  | [] => do
    let before ← before.settle
    .error (if before.given.isEmpty then .helpOnNothing else .missingCommand)
  | argument :: rest =>
    if startsCommand before argument then ofCommand before argument rest
    else
      match before.take .program argument with
      | .ok before => readFrom before rest
      | .error e => .error e

/-- What a command line asks for. -/
def read (arguments : List String) : Except Refusal Invocation := readFrom .start arguments

end SolarCharts.CommandLine
