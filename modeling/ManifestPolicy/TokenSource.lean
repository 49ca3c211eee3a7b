import ManifestPolicy.Failure
import ManifestPolicy.Program.Installed
import ManifestPolicy.Text.Blank
import ManifestPolicy.Text.Utf8

/-!
# Access tokens

Every call to the service carries a token. It is either given once and for all, or
it is what a command prints each time one is needed.
-/

namespace ManifestPolicy

/-- A command that prints a token: a program and its arguments. -/
structure TokenCommand where
  program : String
  arguments : List String := []
  deriving DecidableEq, Repr, Inhabited

namespace TokenCommand

/-- Read a command, which is cut at blanks; quotes have no meaning in it. -/
def parse (text : String) : Except Failure TokenCommand :=
  match (Text.words text.toList).map String.ofList with
  | [] => .error (.because "token command must not be empty")
  | program :: arguments => .ok ⟨program, arguments⟩

/-- The text in which a command is shown. -/
def describe (command : TokenCommand) : String :=
  "CommandToken \x7b program: " ++ quoted command.program ++ ", args: "
    ++ quotedList command.arguments ++ " \x7d"

/-- A text without blanks at either end. -/
def trimmed (text : String) : String := String.ofList (Text.trim text.toList)

/-- The token that a program has printed. -/
def tokenOf (program : String) (outcome : ProgramOutcome) : Except Failure String :=
  if !outcome.status.isSuccess then
    .error <| .because <| program ++ " exited with " ++ outcome.status.describe ++ ": "
      ++ trimmed (Utf8.lossy outcome.errors)
  else
    match Utf8.decode outcome.output with
    | .error fault =>
        .error ((Failure.because fault.message).within
          (program ++ " printed a non-UTF-8 token"))
    | .ok text =>
        if (trimmed text).isEmpty then
          .error (.because (program ++ " printed an empty token"))
        else .ok (trimmed text)

/-- Run a command and take its token. -/
def token
    (launch : String → List String → Except LaunchError ProgramOutcome)
    (command : TokenCommand) : Except Failure String :=
  match launch command.program command.arguments with
  | .error error =>
      .error ((Failure.because error.message).within ("failed to run " ++ command.program))
  | .ok outcome => tokenOf command.program outcome

end TokenCommand

/-- Where tokens come from. -/
inductive TokenSource
  /-- One token is given. -/
  | fixed (token : String)
  /-- A command prints them. -/
  | printed (command : TokenCommand)
  deriving DecidableEq, Repr

namespace TokenSource

/-- The text in which a source is shown; a token itself is not. -/
def describe : TokenSource → String
  | .fixed _ => "StaticToken(..)"
  | .printed command => command.describe

/-- Ask for a token. -/
def token
    (launch : String → List String → Except LaunchError ProgramOutcome) :
    TokenSource → Except Failure String
  | .fixed token => .ok token
  | .printed command => command.token launch

end TokenSource

end ManifestPolicy
