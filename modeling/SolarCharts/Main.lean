import SolarCharts.Chart.Png
import SolarCharts.Http.Wire
import SolarCharts.Program
import Std.Async.DNS
import Std.Async.TCP

/-!
# The command line

The outer layer of the program. It looks at the files that a run may ask about, sends the one request,
and carries out what the run leaves behind.
-/

namespace SolarCharts.Main

open Std.Async

/-! ## Files -/

/-- Adds a file or directory of the machine to a tree, if it is there. -/
def observe (files : FileTree) (path : Path) : IO FileTree := do
  let place := (← IO.currentDir) / path.text
  if ← place.isDir then return files.add path .directory
  if !(← place.pathExists) then return files
  -- a file that cannot be read counts as an empty one
  let octets ← (IO.FS.readBinFile place).toBaseIO
  return files.add path (.file (.octets (octets.toOption.getD .empty).toList))

/-- Adds a directory and the names in it. -/
def observeDirectory (files : FileTree) (path : Path) : IO FileTree := do
  let place := (← IO.currentDir) / path.text
  if !(← place.isDir) then return ← observe files path
  let mut files := files.add path .directory
  for entry in ← place.readDir do
    let name := path.join entry.fileName
    files := files.add name (if ← entry.path.isDir then .directory else .file (.octets []))
  return files

/-- The paths that lead to a path, the shortest first. -/
def leading (path : Path) : List Path :=
  ((List.range (path.parts.length - 1)).map fun n => ⟨path.parts.take (n + 1)⟩).filter (· ≠ .empty)

/-- The files that a run may ask about. -/
def observedFiles (arguments : List String) : IO FileTree := do
  let home := (← IO.currentDir).toString
  let mut files := FileTree.empty ((Path.ofText home).parts.filter (· ≠ ""))
  for name in Settings.fileNames do
    files ← observe files (Settings.directory.join name)
  match CommandLine.read arguments with
  | .error _ => return files
  | .ok invocation =>
    for path in invocation.settingsFile do
      files ← observe files path
    for path in leading invocation.output do
      files ← observe files path
    observeDirectory files invocation.output

/-- Writes what a run has changed. -/
def carryOut (before after : FileTree) : IO Unit := do
  for (place, entry) in after.entries do
    if before.entryAt? place = some entry then continue
    let name := "/" ++ "/".intercalate place
    match entry with
    | .directory => IO.FS.createDirAll name
    | .file (.octets octets) => IO.FS.writeBinFile name ⟨octets.toArray⟩
    | .file (.picture picture) => IO.FS.writeBinFile name ⟨(Png.octets picture).toArray⟩

/-! ## The store -/

/-- Everything that a server sends until it closes the connection. -/
partial def receiveAll (client : TCP.Socket.Client) (before : ByteArray) : IO ByteArray := do
  match ← (client.recv? 65536).block with
  | none => return before
  | some more => receiveAll client (before ++ more)

/-- Sends a request and gives what the server sends back. -/
def sendTo (address : Std.Net.IPAddr) (request : Http.Request) : IO ByteArray := do
  let service := request.url.service.toUInt16
  let client ← TCP.Socket.Client.mk
  (client.connect (match address with
    | .v4 address => .v4 ⟨address, service⟩
    | .v6 address => .v6 ⟨address, service⟩)).block
  (client.send ⟨request.octets.toArray⟩).block
  receiveAll client .empty

/-- Sends a request to the first address of its server. -/
def send (request : Http.Request) : IO ByteArray := do
  let addresses ← (DNS.getAddrInfo request.url.host (toString request.url.service)).block
  match addresses[0]? with
  | some address => sendTo address request
  | none => throw (IO.userError "no address")

/-- Waits for a task, but no longer than so many milliseconds. -/
partial def waitFor (task : Task (Except IO.Error ByteArray)) (milliseconds : Nat) :
    IO (Option ByteArray) := do
  if ← IO.hasFinished task then return task.get.toOption
  if milliseconds = 0 then return none
  IO.sleep 1
  waitFor task (milliseconds - 1)

/-- Sends a request and gives what came back, if that was in time. -/
def exchange (timeout : Duration) (request : Http.Request) : IO Store.Received := do
  -- encrypted connections are beyond this layer
  if request.url.scheme = .https then return .error .unreachable
  let task ← IO.asTask (send request)
  match ← waitFor task (timeout.nanos / 1000000) with
  | none => return .error .unreachable
  | some octets =>
    match Http.Response.ofOctets? octets.toList with
    | some response => return .ok response
    | none => return .error .cutShort

/-! ## The process -/

/-- The environment variables that set something. -/
def environment : IO (List (String × String)) := do
  let keys : List Key := [.url, .token, .org, .bucket, .logFormat]
  let mut found := []
  for name in keys.filterMap Key.environmentName? do
    if let some value ← IO.getEnv name then
      found := (name, value) :: found
  return found

/-- What is printed for arguments that make no sense, or when help is asked for. -/
def usage : String :=
  "Usage: rooftop-plots [--config <FILE>] <mppt|sweep> [OPTIONS]\n"

/-- Prints what a process says. -/
def say (exit : Exit) : IO Unit := do
  IO.print exit.output
  IO.eprint (exit.errors.getD usage)

/-- Runs the program. -/
def run (arguments : List String) : IO UInt32 := do
  let files ← observedFiles arguments
  let found ← environment
  match Program.start arguments (fun name => List.lookup name found) files with
  | .ended exit =>
    say exit
    return exit.code.toUInt32
  | .running plan =>
    let exit := Program.ended (← plan.runIn files (exchange plan.connection.timeout))
    carryOut files exit.files
    say exit
    return exit.code.toUInt32

end SolarCharts.Main

/-- Runs the program on its arguments. -/
def main (arguments : List String) : IO UInt32 := SolarCharts.Main.run arguments
