import ManifestPolicy.CommandLine
import ManifestPolicy.Snapshot

/-!
# The program

Reads the snapshot that a run works on from the standard input, and the arguments
and the environment from the system. The log goes to the standard output, followed
by the requests that were made; errors go to the standard error output.
-/

open ManifestPolicy

/-- The environment variables that settings are read from. -/
def readEnvironment : IO (List (String × String)) := do
  let mut found := []
  for name in Setting.all.filterMap Setting.environmentName? do
    if let some value ← IO.getEnv name then
      found := (name, value) :: found
  return found

/-- All lines of the standard input. -/
def readInput : IO String := do
  let input ← IO.getStdin
  let mut text := ""
  let mut reading := true
  while reading do
    let line ← input.getLine
    text := text ++ line
    reading := !line.isEmpty
  return text

/-- Print a request on one line. -/
def printRequest (request : HttpRequest) : IO Unit :=
  IO.println (request.method.name ++ " " ++ request.url.toText ++ " " ++ request.body)

/-- Carry out the run that the arguments ask for. -/
def main (arguments : List String) : IO UInt32 := do
  let environment ← readEnvironment
  let isRun := (Arguments.read arguments environment).toOption.isSome
  match Snapshot.read (← if isRun then readInput else pure "") with
  | .error error =>
      IO.eprintln ("Error: failed to read the snapshot: " ++ error.message)
      return 1
  | .ok snapshot =>
      let surroundings : Surroundings Playback :=
        { arguments, environment, tree := snapshot.tree, send := Playback.send }
      let (report, playback) :=
        runCommandLine surroundings { responses := snapshot.responses }
      IO.print report.output
      playback.requests.reverse.forM printRequest
      report.errors.forM IO.eprintln
      return report.exitStatus.toUInt32
