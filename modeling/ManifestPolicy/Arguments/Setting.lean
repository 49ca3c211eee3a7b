/-!
# Settings

What can be set for a run, with the names of the options and of the environment
variables that set it.
-/

namespace ManifestPolicy

/-- An option that takes a value. -/
inductive Setting
  | logLevel
  | logFormat
  | endpoint
  | project
  | accessToken
  | tokenCommand
  | manifests
  | allowlistDirectory
  | focusComponents
  | pollInterval
  | deadline
  | requestTimeout
  deriving DecidableEq, Repr, Inhabited

namespace Setting

/-- All settings, in the order in which the environment is asked for them. -/
def all : List Setting := [
  .logLevel, .logFormat, .endpoint, .project, .accessToken, .tokenCommand, .manifests,
  .allowlistDirectory, .focusComponents, .pollInterval, .deadline, .requestTimeout]

/-- The name of the option. -/
def name : Setting → String
  | .logLevel => "log-level"
  | .logFormat => "log-format"
  | .endpoint => "endpoint"
  | .project => "project"
  | .accessToken => "access-token"
  | .tokenCommand => "token-command"
  | .manifests => "manifests"
  | .allowlistDirectory => "allowlist-dir"
  | .focusComponents => "focus-components"
  | .pollInterval => "poll-interval"
  | .deadline => "deadline"
  | .requestTimeout => "request-timeout"

/-- The environment variable that sets it, if there is one. -/
def environmentName? : Setting → Option String
  | .logLevel => some "MANIFEST_VALIDATOR_LOG"
  | .endpoint => some "VALIDATION_ENDPOINT"
  | .project => some "VALIDATION_PROJECT"
  | .accessToken => some "VALIDATION_ACCESS_TOKEN"
  | .tokenCommand => some "VALIDATION_TOKEN_COMMAND"
  | .manifests => some "MANIFESTS_DIR"
  | .allowlistDirectory => some "ALLOWLIST_PATH"
  | .focusComponents => some "FOCUS_COMPONENT_PATH"
  | .logFormat | .pollInterval | .deadline | .requestTimeout => none

/-- The setting of an option. -/
def ofName? (name : String) : Option Setting := all.find? fun setting => setting.name == name

end Setting

/-- An option that takes no value. -/
inductive Switch
  | failOnOperationError
  | failOnUnresolved
  | help
  | version
  deriving DecidableEq, Repr, Inhabited

namespace Switch

/-- All switches. -/
def all : List Switch := [.failOnOperationError, .failOnUnresolved, .help, .version]

/-- The name of a switch. -/
def name : Switch → String
  | .failOnOperationError => "fail-on-operation-error"
  | .failOnUnresolved => "fail-on-unresolved"
  | .help => "help"
  | .version => "version"

/-- The letter that stands for a switch. -/
def letter? : Switch → Option Char
  | .help => some 'h'
  | .version => some 'V'
  | .failOnOperationError | .failOnUnresolved => none

/-- The switch with a name. -/
def ofName? (name : String) : Option Switch := all.find? fun switch => switch.name == name

/-- The switch with a letter. -/
def ofLetter? (letter : Char) : Option Switch :=
  all.find? fun switch => switch.letter? == some letter

end Switch

theorem Setting.ofName?_name (setting : Setting) : ofName? setting.name = some setting := by
  cases setting <;> decide

theorem Switch.ofName?_name (switch : Switch) : ofName? switch.name = some switch := by
  cases switch <;> decide

end ManifestPolicy
