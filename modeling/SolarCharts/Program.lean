import SolarCharts.Run

/-!
# The program

What a process does with its arguments, its environment, its files and the one response: what it
prints, and how it ends.
-/

namespace SolarCharts

/-- What a process prints and leaves behind. -/
structure Exit where
  /-- How it ends: 0 when all went well, 2 when its arguments make no sense, and 1 otherwise. -/
  code : Nat
  output : String
  /-- What goes to standard error; nothing is said here about arguments that make no sense. -/
  errors : Option String
  files : FileTree

/-- A run that is about to send its request, or the end of the process. -/
inductive Start where
  | ended (exit : Exit)
  | running (plan : Plan)

namespace Program

/-- The name and the version. -/
def versionText : String := "rooftop-plots 1.0.0\n"

/-- How a process that failed ends. -/
def failed (files : FileTree) (failure : Failure) : Exit :=
  { code := 1, output := "", errors := some ("Error: " ++ failure.message ++ "\n"), files }

/-- How a process ends whose arguments ask for no run. -/
def refused (files : FileTree) : CommandLine.Refusal → Exit
  | .version => { code := 0, output := versionText, errors := some "", files }
  | .help => { code := 0, output := "", errors := some "", files }
  | _ => { code := 2, output := "", errors := none, files }

/-- The settings and the plan of an invocation. -/
def plan (invocation : Invocation) (environment : String → Option String) (files : FileTree) :
    Except Failure Plan := do
  let settings ← (Settings.load files environment invocation.settingsFile).mapError .load
  Plan.of invocation settings

/-- What a process does before it sends anything. -/
def start (arguments : List String) (environment : String → Option String) (files : FileTree) :
    Start :=
  match CommandLine.read arguments with
  | .error refusal => .ended (refused files refusal)
  | .ok invocation =>
    match plan invocation environment files with
    | .error e => .ended (failed files e)
    | .ok plan => .running plan

/-- How a process ends whose run has come to an outcome. -/
def ended (outcome : Outcome) : Exit :=
  match outcome.result with
  | .error e => failed outcome.files e
  | .ok () => { code := 0, output := outcome.output, errors := some "", files := outcome.files }

/-- What a process does with what came back. -/
def finish (plan : Plan) (files : FileTree) (received : Store.Received) : Exit :=
  ended (plan.finish files received)

end Program

end SolarCharts
