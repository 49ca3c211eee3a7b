import ManifestPolicy.Arguments.Setting
import ManifestPolicy.Configuration
import ManifestPolicy.Duration
import ManifestPolicy.LogFilter
import ManifestPolicy.Validation

/-!
# The arguments of a run

What a run is asked to do, and how the value of each setting is read. Settings
that are not given have the values that `Given.complete` puts in their place; the
endpoint and the project have none and must be given.
-/

namespace ManifestPolicy

/-- The form of what is told of a run. -/
inductive LogFormat
  | plain
  | json
  deriving DecidableEq, Repr, Inhabited

/-- Read the name of a form. -/
def LogFormat.parse? (text : String) : Option LogFormat :=
  if text = "plain" then some .plain
  else if text = "json" then some .json
  else none

/-- What a run is asked to do. -/
structure Arguments where
  logFilter : LogFilter := .default
  logFormat : LogFormat := .plain
  endpoint : String
  project : String
  accessToken : Option String := none
  tokenCommand : String := "gcloud auth print-access-token"
  manifests : String := "."
  allowlistDirectory : Option String := none
  focusComponents : Option String := none
  pollInterval : Duration := ⟨1000⟩
  deadline : Duration := ⟨7200000⟩
  requestTimeout : Duration := ⟨30000⟩
  failOnOperationError : Bool := false
  failOnUnresolved : Bool := false
  deriving DecidableEq, Repr

/-- Where the configuration of a run is kept. -/
def Arguments.configurationPaths (arguments : Arguments) : ConfigurationPaths :=
  ⟨arguments.allowlistDirectory.map Utf8.encode, arguments.focusComponents.map Utf8.encode⟩

/-- Which operations without results make a run fail. -/
def Arguments.failurePolicy (arguments : Arguments) : FailurePolicy :=
  ⟨arguments.failOnOperationError, arguments.failOnUnresolved⟩

/-- What is wrong with the arguments of a run. -/
inductive ArgumentFault
  /-- The endpoint or the project is not given. -/
  | missingArgument
  /-- An option is given twice. -/
  | repeated
  /-- An argument that is no option or its value. -/
  | unknownArgument
  /-- An option without a value, or with an empty one that must not be. -/
  | missingValue
  /-- A value that does not read as what the option takes. -/
  | malformedValue
  /-- A value for an option that takes none. -/
  | needlessValue
  deriving DecidableEq, Repr

/-- The wording of a fault. -/
def ArgumentFault.message : ArgumentFault → String
  | .missingArgument => "error: one or more required arguments were not provided"
  | .repeated =>
      "error: an argument cannot be used with one or more of the other specified arguments"
  | .unknownArgument => "error: unexpected argument found"
  | .missingValue => "error: one of the values isn't valid for an argument"
  | .malformedValue => "error: invalid value for one of the arguments"
  | .needlessValue => "error: unexpected value for an argument found"

/-- The arguments given so far. -/
structure Given where
  logFilter : Option LogFilter := none
  logFormat : Option LogFormat := none
  endpoint : Option String := none
  project : Option String := none
  accessToken : Option String := none
  tokenCommand : Option String := none
  manifests : Option String := none
  allowlistDirectory : Option String := none
  focusComponents : Option String := none
  pollInterval : Option Duration := none
  deadline : Option Duration := none
  requestTimeout : Option Duration := none
  switches : List Switch := []
  deriving Repr, Inhabited

namespace Given

/-- Whether a setting has been given. -/
def has (given : Given) : Setting → Bool
  | .logLevel => given.logFilter.isSome
  | .logFormat => given.logFormat.isSome
  | .endpoint => given.endpoint.isSome
  | .project => given.project.isSome
  | .accessToken => given.accessToken.isSome
  | .tokenCommand => given.tokenCommand.isSome
  | .manifests => given.manifests.isSome
  | .allowlistDirectory => given.allowlistDirectory.isSome
  | .focusComponents => given.focusComponents.isSome
  | .pollInterval => given.pollInterval.isSome
  | .deadline => given.deadline.isSome
  | .requestTimeout => given.requestTimeout.isSome

/-- Read a path, which must not be empty. -/
def readPath (text : String) : Except ArgumentFault String :=
  if text.isEmpty then .error .missingValue else .ok text

/-- Read a value that has a form of its own. -/
def readForm (value : Option α) : Except ArgumentFault α :=
  match value with
  | some value => .ok value
  | none => .error .malformedValue

/-- Read a duration. -/
def readDuration (text : String) : Except ArgumentFault Duration :=
  readForm (Duration.parse text).toOption

/-- Read the value of a setting and record it. -/
def set (given : Given) (setting : Setting) (text : String) : Except ArgumentFault Given :=
  match setting with
  | .logLevel => (readForm (LogFilter.parse? text)).map ({ given with logFilter := some · })
  | .logFormat => (readForm (LogFormat.parse? text)).map ({ given with logFormat := some · })
  | .endpoint => .ok { given with endpoint := some text }
  | .project => .ok { given with project := some text }
  | .accessToken => .ok { given with accessToken := some text }
  | .tokenCommand => .ok { given with tokenCommand := some text }
  | .manifests => (readPath text).map ({ given with manifests := some · })
  | .allowlistDirectory => (readPath text).map ({ given with allowlistDirectory := some · })
  | .focusComponents => (readPath text).map ({ given with focusComponents := some · })
  | .pollInterval => (readDuration text).map ({ given with pollInterval := some · })
  | .deadline => (readDuration text).map ({ given with deadline := some · })
  | .requestTimeout => (readDuration text).map ({ given with requestTimeout := some · })

/-- The arguments of the run, once all that is given is known. -/
def complete (given : Given) : Except ArgumentFault Arguments :=
  match given.endpoint, given.project with
  | some endpoint, some project =>
      let usual : Arguments := { endpoint, project }
      .ok {
        usual with
        logFilter := given.logFilter.getD usual.logFilter
        logFormat := given.logFormat.getD usual.logFormat
        accessToken := given.accessToken
        tokenCommand := given.tokenCommand.getD usual.tokenCommand
        manifests := given.manifests.getD usual.manifests
        allowlistDirectory := given.allowlistDirectory
        focusComponents := given.focusComponents
        pollInterval := given.pollInterval.getD usual.pollInterval
        deadline := given.deadline.getD usual.deadline
        requestTimeout := given.requestTimeout.getD usual.requestTimeout
        failOnOperationError := given.switches.contains .failOnOperationError
        failOnUnresolved := given.switches.contains .failOnUnresolved }
  | _, _ => .error .missingArgument

end Given

end ManifestPolicy
