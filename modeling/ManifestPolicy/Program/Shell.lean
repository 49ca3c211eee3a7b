import ManifestPolicy.Program.Echo
import ManifestPolicy.Program.Printf
import ManifestPolicy.Program.Script

/-!
# The shell

Runs scripts whose commands are the shell's own: printing, leaving and signalling
itself. Every other command is one that is not found. What a script writes is kept
apart by descriptor, so redirections are maps from descriptors to channels.
-/

namespace ManifestPolicy

/-- Where bytes written to a descriptor go. -/
inductive Channel
  | output
  | errors
  | nowhere
  deriving DecidableEq, Repr, Inhabited

/-- A shell that runs a script. -/
structure Shell where
  name : String := "sh"
  arguments : List String := []
  bindings : List (String × String) := []
  lastCode : Nat := 0
  output : List UInt8 := []
  errors : List UInt8 := []
  ended : Option ExitStatus := none
  deriving Repr, Inhabited

namespace Shell

/-- The number by which the shell signals itself. -/
def processNumber : Nat := 4194304

/-- The characters at which the values of variables are cut. -/
def blanks : List Char := [' ', '\t', '\n']

/-- The value of a variable. -/
def value (shell : Shell) (name : String) : String :=
  if name = "$" then toString processNumber
  else if name = "?" then toString shell.lastCode
  else if name = "#" then toString shell.arguments.length
  else if name = "@" ∨ name = "*" then " ".intercalate shell.arguments
  else if name = "0" then shell.name
  else if name = "IFS" then (shell.bindings.lookup name).getD (String.ofList blanks)
  else
    match name.toNat? with
    | some number => shell.arguments.getD (number - 1) ""
    | none => (shell.bindings.lookup name).getD ""

/-- Fields that are complete, latest first, and the one under way. -/
structure Fields where
  done : List String := []
  current : Option (List Char) := none

namespace Fields

/-- Add characters to the field under way. -/
def extend (fields : Fields) (text : List Char) : Fields :=
  { fields with current := some (fields.current.getD [] ++ text) }

/-- End the field under way. -/
def close (fields : Fields) : Fields :=
  match fields.current with
  | some text => ⟨String.ofList text :: fields.done, none⟩
  | none => fields

/-- Add a character of a value that is cut at blanks. -/
def cut (fields : Fields) (character : Char) : Fields :=
  if blanks.contains character then fields.close else fields.extend [character]

/-- Add a part of a word. -/
def part (shell : Shell) (fields : Fields) : WordPart → Fields
  | .literal text => fields.extend text
  | .variable name true => fields.extend (shell.value name).toList
  | .variable name false => (shell.value name).toList.foldl cut fields

/-- The fields of a word. -/
def ofWord (shell : Shell) (word : Word) : List String :=
  (word.foldl (part shell) {}).close.done.reverse

end Fields

/-- The text of a word that is not cut. -/
def textOf (shell : Shell) (word : Word) : String :=
  String.join <| word.map fun
    | .literal text => String.ofList text
    | .variable name _ => shell.value name

/-- The assignment that a word is, if it is one. -/
def assignment? (shell : Shell) (word : Word) : Option (String × String) :=
  match word with
  | .literal text :: rest =>
      let name := text.takeWhile Script.isNameCharacter
      match text.drop name.length with
      | '=' :: value =>
          if name = [] ∨ (name.head?.any Char.isDigit) then none
          else some (String.ofList name, textOf shell (.literal value :: rest))
      | _ => none
  | _ => none

/-- Put a complaint into words. -/
def complaint (shell : Shell) (text : String) : String := shell.name ++ ": 1: " ++ text

/-- The number of a signal by its number or its name. -/
def signal? (text : String) : Option Nat :=
  match text.toNat? with
  | some number => if number < 65 then some number else none
  | none =>
      (ExitStatus.signalNames.findIdx? fun name =>
        name == "SIG" ++ String.ofList (text.toList.map Char.toUpper)).map (· + 1)

/-- A command that leaves the shell with a code. -/
def leave (shell : Shell) (arguments : List String) : ProgramOutcome × Option ExitStatus :=
  match arguments with
  | [] => ({}, some (.exited shell.lastCode))
  | code :: _ =>
      match code.toNat? with
      | some code => ({}, some (.exited (code % 256)))
      | none =>
          (.complaint (shell.complaint ("exit: Illegal number: " ++ code)) 2,
            some (.exited 2))

/-- Send a signal to processes, of which only the shell itself is known. -/
def send (shell : Shell) (signal : Nat) (targets : List String) :
    ProgramOutcome × Option ExitStatus :=
  if targets.contains (toString processNumber) then
    if ExitStatus.harmlessSignals.contains signal then ({}, none)
    else ({}, some (.signalled signal))
  else (.complaint (shell.complaint "kill: No such process") 1, none)

/-- How signals are sent. -/
def killUsage : String :=
  "kill: Usage: kill [-s sigspec | -signum | -sigspec] [pid | job]..."

/-- A command that sends a signal. -/
def kill (shell : Shell) (arguments : List String) : ProgramOutcome × Option ExitStatus :=
  match arguments with
  | "-s" :: name :: targets =>
      match signal? name with
      | some number => shell.send number targets
      | none =>
          (.complaint (shell.complaint ("kill: invalid signal number or name: " ++ name)) 2,
            none)
  | first :: targets =>
      match first.toList with
      | '-' :: name =>
          match signal? (String.ofList name) with
          | some number => shell.send number targets
          | none =>
              (.complaint
                (shell.complaint ("kill: Illegal option -" ++ String.ofList (name.take 1))) 2,
                none)
      | _ => shell.send 15 arguments
  | [] =>
      (.complaint
        (shell.complaint (killUsage ++ " or\nkill -l [exitstatus]"))
        2, none)

/-- Run a command by its name: what it comes to, and whether the shell ends with it. -/
def call (shell : Shell) (name : String) (arguments : List String) :
    ProgramOutcome × Option ExitStatus :=
  match name with
  | "echo" => (Echo.inShell arguments, none)
  | "printf" => (Printf.inShell shell.name arguments, none)
  | "true" | ":" => ({}, none)
  | "false" => ({ status := .exited 1 }, none)
  | "exit" => shell.leave arguments
  | "kill" => shell.kill arguments
  | _ => (.complaint (shell.complaint (name ++ ": not found")) 127, none)

/-- Where a descriptor leads that is made another name for a second one, or closed. -/
def duplicate (channels : List (Nat × Channel)) (target : String) : Except String Channel :=
  match target.toList with
  | ['-'] => .ok .nowhere
  | [digit] =>
      if !digit.isDigit then .error "Syntax error: Bad fd number"
      else
        match channels.lookup (digit.toNat - '0'.toNat) with
        | some channel => .ok channel
        | none => .error (target ++ ": Bad file descriptor")
  | _ => .error "Syntax error: Bad fd number"

/-- Where the descriptors lead once redirections have been made, in order. -/
def channels
    (shell : Shell)
    (redirections : List (Nat × Redirection × Word)) : Except String (List (Nat × Channel)) :=
  redirections.foldlM
    (fun channels (descriptor, kind, target) =>
      match kind with
      | .toFile => .ok ((descriptor, .nowhere) :: channels)
      | .duplicate => do
          let channel ← duplicate channels (shell.textOf target)
          return (descriptor, channel) :: channels)
    [(0, .nowhere), (1, .output), (2, .errors)]

/-- Add bytes to a channel. -/
def write (shell : Shell) (channel : Channel) (bytes : List UInt8) : Shell :=
  match channel with
  | .output => { shell with output := shell.output ++ bytes }
  | .errors => { shell with errors := shell.errors ++ bytes }
  | .nowhere => shell

/-- End with a complaint. -/
def giveUp (shell : Shell) (text : String) : Shell :=
  { shell with
    errors := shell.errors ++ (shell.complaint text ++ "\n").toUTF8.toList
    ended := some (.exited 2) }

/-- Run a command. -/
def run (shell : Shell) (command : ScriptCommand) : Shell :=
  let assignments := (command.words.map shell.assignment?).takeWhile Option.isSome
    |>.filterMap id
  let fields := (command.words.drop assignments.length).flatMap (Fields.ofWord shell)
  match shell.channels command.redirections, fields with
  | .error text, _ => shell.giveUp text
  | .ok _, [] =>
      { shell with bindings := assignments.reverse ++ shell.bindings, lastCode := 0 }
  | .ok channels, name :: arguments =>
      let (outcome, ended) := shell.call name arguments
      let code :=
        match outcome.status with
        | .exited code => code
        | .signalled number => 128 + number
      let shell := shell.write ((channels.lookup 1).getD .output) outcome.output
      let shell := shell.write ((channels.lookup 2).getD .errors) outcome.errors
      { shell with lastCode := code, ended }

/-- Run a command of a pipeline of several: it has a shell of its own, which starts from
the code before the pipeline, and what it writes is kept only if it is the last. -/
def runApart (code : Nat) (shell : Shell) (command : ScriptCommand) : Shell :=
  let inner := { shell with output := [], lastCode := code }.run command
  let code :=
    match inner.ended with
    | some (.exited code) => code
    | _ => inner.lastCode
  let ended :=
    match inner.ended with
    | some (.signalled number) => some (.signalled number)
    | _ => none
  { shell with output := inner.output, errors := inner.errors, lastCode := code, ended }

/-- Run a pipeline. -/
def runPipeline (shell : Shell) (commands : List ScriptCommand) : Shell :=
  match commands with
  | [command] => shell.run command
  | commands =>
      let after := commands.foldl
        (fun current command =>
          if current.ended.isSome then current else current.runApart shell.lastCode command)
        { shell with output := [] }
      { after with output := shell.output ++ after.output }

/-- Whether a pipeline is run, given how the one before it has ended. -/
def reaches (shell : Shell) : Separator → Bool
  | .ifDone => shell.lastCode == 0
  | .ifFailed => shell.lastCode != 0
  | .sequence | .background | .pipe => true

/-- Run a script. -/
def runScript (shell : Shell) (script : Script) : Shell :=
  script.foldl
    (fun current pipeline =>
      if current.ended.isNone && current.reaches pipeline.after then
        current.runPipeline pipeline.commands
      else current)
    shell

/-- What a shell that has run its script comes to. -/
def outcome (shell : Shell) : ProgramOutcome :=
  ⟨shell.output, shell.errors, shell.ended.getD (.exited shell.lastCode)⟩

/-- The letters of the options that do not matter for a script. -/
def knownOptions : List Char := "efImnsxvVEbuacp".toList

/-- Run the script among the operands. -/
def runOperands : List String → ProgramOutcome
  | [] => .complaint "sh: 0: -c requires an argument" 2
  | text :: operands =>
      let shell : Shell := { name := operands.headD "sh", arguments := operands.tail }
      match Script.read text with
      | .ok script => (shell.runScript script).outcome
      | .error fault => .complaint (shell.complaint fault.message) 2

/-- Skip the options before the script. -/
def skipOptions : List String → ProgramOutcome
  | [] => runOperands []
  | argument :: rest =>
      match argument.toList with
      | ['-', '-'] => runOperands rest
      | '-' :: first :: letters =>
          match (first :: letters).find? fun letter => !knownOptions.contains letter with
          | none => skipOptions rest
          | some letter =>
              .complaint ("sh: 0: Illegal option -" ++ String.singleton letter) 2
      | _ => runOperands (argument :: rest)

/-- The program: it runs the script in its arguments. -/
def program : Program
  | [] => {}
  | "-c" :: arguments => skipOptions arguments
  | file :: _ => .complaint ("sh: 0: cannot open " ++ file ++ ": No such file") 2

end Shell

end ManifestPolicy
