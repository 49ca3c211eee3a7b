/-!
# What a program comes to

The bytes that a program has written when it ends, and how it ends.
-/

namespace ManifestPolicy

/-- How a program ends. -/
inductive ExitStatus
  /-- It ends by itself and leaves a code. -/
  | exited (code : Nat)
  /-- A signal ends it. -/
  | signalled (number : Nat)
  deriving DecidableEq, Repr, Inhabited

namespace ExitStatus

/-- Whether a program has done what it was asked to do. -/
def isSuccess (status : ExitStatus) : Bool := status == .exited 0

/-- The names of the signals by number, from one on. -/
def signalNames : List String := [
  "SIGHUP", "SIGINT", "SIGQUIT", "SIGILL", "SIGTRAP", "SIGABRT", "SIGBUS", "SIGFPE",
  "SIGKILL", "SIGUSR1", "SIGSEGV", "SIGUSR2", "SIGPIPE", "SIGALRM", "SIGTERM", "SIGSTKFLT",
  "SIGCHLD", "SIGCONT", "SIGSTOP", "SIGTSTP", "SIGTTIN", "SIGTTOU", "SIGURG", "SIGXCPU",
  "SIGXFSZ", "SIGVTALRM", "SIGPROF", "SIGWINCH", "SIGIO", "SIGPWR", "SIGSYS"]

/-- The name of a signal. -/
def signalName? (number : Nat) : Option String :=
  if number = 0 then none else signalNames[number - 1]?

/-- The signals that end no program: it goes on, or it is only stopped. -/
def harmlessSignals : List Nat := [0, 17, 18, 19, 20, 21, 22, 23, 28]

/-- The text of a status. -/
def describe : ExitStatus → String
  | .exited code => "exit status: " ++ toString code
  | .signalled number =>
      match signalName? number with
      | some name => "signal: " ++ toString number ++ " (" ++ name ++ ")"
      | none => "signal: " ++ toString number

end ExitStatus

/-- What a program has written when it ends, and how it ends. -/
structure ProgramOutcome where
  output : List UInt8 := []
  errors : List UInt8 := []
  status : ExitStatus := .exited 0
  deriving DecidableEq, Repr, Inhabited

/-- A program takes its arguments and comes to an end. -/
abbrev Program := List String → ProgramOutcome

/-- A program that says nothing and leaves a code. -/
def Program.silent (code : Nat) : Program := fun _ => { status := .exited code }

/-- The outcome of a program that complains and leaves a code. -/
def ProgramOutcome.complaint (message : String) (code : Nat) : ProgramOutcome :=
  { errors := message.toUTF8.toList ++ [0x0A], status := .exited code }

end ManifestPolicy
