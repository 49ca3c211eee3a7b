import ManifestPolicy.Arguments.Reader
import ManifestPolicy.Client
import ManifestPolicy.Log
import ManifestPolicy.ManifestDirectory
import ManifestPolicy.TokenSource

/-!
# The command line

A run as the command line asks for it, from the arguments to the exit status. The
configuration is loaded before anything else, so its faults are the first to be
told; nothing is sent before all that is given has been found usable.
-/

namespace ManifestPolicy

/-- What a run finds around it. Requests are answered in states of a given type. -/
structure Surroundings (σ : Type) where
  arguments : List String
  environment : List (String × String) := []
  tree : FileTree := {}
  launch : String → List String → Except LaunchError ProgramOutcome := Program.launch
  send : HttpRequest → σ → Exchange × σ

/-- How a run has ended. -/
structure RunReport where
  exitStatus : Nat := 0
  /-- The text for the standard output: the log, or what is shown in place of a run. -/
  output : String := ""
  /-- The lines for the standard error output. -/
  errors : List String := []
  notices : List Notice := []

namespace Arguments

/-- Where the tokens of a run come from: a token that is given goes before a command. -/
def tokenSource (arguments : Arguments) : Except Failure TokenSource :=
  match arguments.accessToken with
  | some token => .ok (.fixed token)
  | none => (TokenCommand.parse arguments.tokenCommand).map .printed

/-- The client of a run. -/
def client (arguments : Arguments) : Client :=
  .ofEndpoint arguments.endpoint arguments.project arguments.requestTimeout

/-- The source of tokens and the timing of a run, where the former is looked at first. -/
def means (arguments : Arguments) : Except Failure (TokenSource × Poller) := do
  let tokens ← arguments.tokenSource
  let poller ← Poller.ofIntervals arguments.pollInterval arguments.deadline
  return (tokens, poller)

/-- Carry out a run that has its configuration. -/
def validate
    (arguments : Arguments)
    (surroundings : Surroundings σ)
    (configuration : Configuration)
    (state : σ) : (Except Failure Unit × List Notice) × σ :=
  match arguments.means with
  | .error failure => ((.error failure, []), state)
  | .ok (tokens, poller) =>
      let gateway : Gateway σ :=
        ⟨fun state => (tokens.token surroundings.launch, state), surroundings.send⟩
      let directory : ManifestDirectory :=
        ⟨Utf8.encode arguments.manifests, configuration.focus⟩
      let validator : Validator :=
        ⟨poller, ⟨configuration.allowlist, id⟩, arguments.failurePolicy⟩
      let (validation, state) :=
        validator.validate (arguments.client.service gateway) none
          (directory.prepare surroundings.tree) state
      ((validation.verdict, validation.notices), state)

/-- The report on a run with its verdict and its notices. -/
def report
    (arguments : Arguments)
    (verdict : Except Failure Unit)
    (notices : List Notice) : RunReport :=
  let output := logText arguments.logFilter arguments.logFormat notices
  match verdict with
  | .ok _ => { output, notices }
  | .error failure => { exitStatus := 1, output, errors := failure.reportLines, notices }

/-- Carry out a run. -/
def run
    (arguments : Arguments)
    (surroundings : Surroundings σ)
    (state : σ) : RunReport × σ :=
  let (configuration, loaded) :=
    Configuration.load surroundings.tree arguments.configurationPaths
  match configuration with
  | .error failure => (arguments.report (.error failure) loaded, state)
  | .ok configuration =>
      let opening :=
        loaded ++ [.started arguments.endpoint arguments.project arguments.manifests]
      let ((verdict, notices), state) := arguments.validate surroundings configuration state
      let closing :=
        match verdict with
        | .ok _ => [.succeeded]
        | .error _ => []
      (arguments.report verdict (opening ++ notices ++ closing), state)

end Arguments

/-- What the program does: it carries out the run that its arguments ask for, or says
why there is none. -/
def runCommandLine (surroundings : Surroundings σ) (state : σ) : RunReport × σ :=
  match Arguments.read surroundings.arguments surroundings.environment with
  | .error dismissal =>
      match dismissal with
      | .refused fault =>
          ({ exitStatus := dismissal.exitStatus, errors := [fault.message] }, state)
      | .help | .version =>
          ({ exitStatus := dismissal.exitStatus, output := dismissal.text }, state)
  | .ok arguments => arguments.run surroundings state

end ManifestPolicy
