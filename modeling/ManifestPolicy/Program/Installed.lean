import ManifestPolicy.Program.Shell

/-!
# The installed programs

The programs that can be run, by name and by path. A name without a slash is looked
for in the directories of programs; any other is a path.
-/

namespace ManifestPolicy

/-- Why a program does not start. -/
inductive LaunchError
  | notFound
  | permissionDenied
  | zeroInText
  deriving DecidableEq, Repr

/-- The wording of an error. -/
def LaunchError.message : LaunchError → String
  | .notFound => "No such file or directory (os error 2)"
  | .permissionDenied => "Permission denied (os error 13)"
  | .zeroInText => "nul byte found in provided data"

namespace Program

/-- The installed programs. -/
def installed : List (String × Program) := [
  ("echo", Echo.program),
  ("printf", Printf.program),
  ("true", silent 0),
  ("false", silent 1),
  ("sh", Shell.program)]

/-- The directories of programs. -/
def directories : List String := ["/bin/", "/usr/bin/"]

/-- The program at a path. -/
def atPath? (path : String) : Option Program :=
  directories.findSome? fun directory =>
    if path.startsWith directory then
      installed.lookup (String.ofList (path.toList.drop directory.length))
    else none

/-- The directories on the way to programs, which are no programs themselves. -/
def isDirectory (path : String) : Bool :=
  let names := (path.splitOn "/").filter fun name => name != "" && name != "."
  path.contains '/' && (names == [] || names == ["bin"] || names == ["usr"]
    || names == ["usr", "bin"] || names == [".."])

/-- Find a program. -/
def find (name : String) : Except LaunchError Program :=
  if name.contains '\x00' then .error .zeroInText
  else if name.contains '/' then
    match atPath? name with
    | some program => .ok program
    | none => if isDirectory name then .error .permissionDenied else .error .notFound
  else
    match installed.lookup name with
    | some program => .ok program
    | none => .error .notFound

/-- Run a program with arguments. -/
def launch (name : String) (arguments : List String) : Except LaunchError ProgramOutcome :=
  if arguments.any fun argument => argument.contains '\x00' then .error .zeroInText
  else (find name).map fun program => program arguments

end Program
end ManifestPolicy
