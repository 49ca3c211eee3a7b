import ManifestPolicy.Arguments.Basic

/-!
# Reading the arguments

Arguments are read from left to right. An option with a value has it after an
equals sign or in the next argument; in the latter case the value is recorded when
the next option comes, or at the end, and its faults are found then. What is not
given there is looked for in the environment.
-/

namespace ManifestPolicy

/-- Why arguments lead to no run. -/
inductive Dismissal
  /-- The help text is asked for. -/
  | help
  /-- The version is asked for. -/
  | version
  /-- The arguments are refused. -/
  | refused (fault : ArgumentFault)
  deriving DecidableEq, Repr

namespace Dismissal

/-- What the program is for. -/
def purpose : String := "Validates resource manifests against a remote policy service"

/-- The name and version of the program. -/
def versionText : String := "manifest-validator 0.1.0\n"

/-- The options of the program, one a line. -/
def options : List String :=
  Setting.all.map (fun setting => "      --" ++ setting.name ++ " <VALUE>")
    ++ Switch.all.map fun switch => "      --" ++ switch.name

/-- What is shown in place of a run. -/
def text : Dismissal → String
  | .help =>
      "\n".intercalate ([purpose, "", "Usage: manifest-validator [OPTIONS]", "", "Options:"]
        ++ options) ++ "\n"
  | .version => versionText
  | .refused fault => fault.message ++ "\n"

/-- The exit status of a program that shows it. -/
def exitStatus : Dismissal → Nat
  | .help | .version => 0
  | .refused _ => 2

end Dismissal

/-- An option that has been named last, and the argument after it. -/
structure Awaiting where
  setting : Setting
  value : Option String := none
  deriving Repr, Inhabited

/-- How far the reading of the arguments has come. -/
structure ArgumentReader where
  given : Given := {}
  awaiting : Option Awaiting := none
  deriving Repr, Inhabited

namespace ArgumentReader

/-- Refuse the arguments. -/
def refuse (fault : ArgumentFault) : Except Dismissal α := .error (.refused fault)

/-- Record the value of a setting, which may be given once. -/
def record
    (given : Given)
    (setting : Setting)
    (value : String) : Except Dismissal Given :=
  if given.has setting then refuse .repeated
  else (given.set setting value).mapError .refused

/-- Record the option that was named last. -/
def settle (reader : ArgumentReader) : Except Dismissal Given :=
  match reader.awaiting with
  | none => .ok reader.given
  | some ⟨_, none⟩ => refuse .missingValue
  | some ⟨setting, some value⟩ => record reader.given setting value

/-- Take in a switch. -/
def turnOn (reader : ArgumentReader) (switch : Switch) : Except Dismissal ArgumentReader := do
  let given ← reader.settle
  match switch with
  | .help => .error .help
  | .version => .error .version
  | .failOnOperationError | .failOnUnresolved =>
      if given.switches.contains switch then refuse .repeated
      else .ok { given := { given with switches := switch :: given.switches } }

/-- Take in an option with its name, and the value after its equals sign. -/
def option
    (reader : ArgumentReader)
    (name : String)
    (value : Option String) : Except Dismissal ArgumentReader :=
  match Setting.ofName? name, value with
  | some setting, some value => do
      let given ← reader.settle
      return { given := ← record given setting value }
  | some setting, none => do
      return { given := ← reader.settle, awaiting := some { setting } }
  | none, _ =>
      match Switch.ofName? name, value with
      | some switch, none => reader.turnOn switch
      | some _, some _ => refuse .needlessValue
      | none, _ => refuse .unknownArgument

/-- Take in an argument that is no option. -/
def operand (reader : ArgumentReader) (text : String) : Except Dismissal ArgumentReader :=
  match reader.awaiting with
  | some ⟨setting, none⟩ => .ok { reader with awaiting := some ⟨setting, some text⟩ }
  | _ => refuse .unknownArgument

/-- Take in an argument. -/
def argument (reader : ArgumentReader) (text : String) : Except Dismissal ArgumentReader :=
  match text.toList with
  | '-' :: '-' :: rest =>
      let name := String.ofList (rest.takeWhile (· != '='))
      match rest.dropWhile (· != '=') with
      | _ :: value => reader.option name (some (String.ofList value))
      | [] => reader.option name none
  | '-' :: letter :: _ =>
      match Switch.ofLetter? letter with
      | some switch => reader.turnOn switch
      | none => refuse .unknownArgument
  | _ => reader.operand text

/-- Take in all arguments. Nothing may follow two dashes alone. -/
def arguments (reader : ArgumentReader) : List String → Except Dismissal Given
  | [] => reader.settle
  | text :: rest =>
      if text = "--" then
        match rest with
        | [] => reader.settle
        | _ :: _ => refuse .unknownArgument
      else do
        let reader ← reader.argument text
        reader.arguments rest

/-- Take in what the environment sets and the arguments do not, in the order of the
settings. -/
def fromEnvironment
    (environment : List (String × String))
    (given : Given) : List Setting → Except Dismissal Given
  | [] => .ok given
  | setting :: rest =>
      let value := setting.environmentName?.bind fun name => environment.lookup name
      match given.has setting, value with
      | false, some value => do
          let given ← (given.set setting value).mapError .refused
          fromEnvironment environment given rest
      | _, _ => fromEnvironment environment given rest

end ArgumentReader

namespace Arguments

/-- Read the arguments of a run, given the variables of the environment. -/
def read
    (arguments : List String)
    (environment : List (String × String)) : Except Dismissal Arguments := do
  let given ← ArgumentReader.arguments {} arguments
  let given ← ArgumentReader.fromEnvironment environment given Setting.all
  given.complete.mapError .refused

end Arguments

end ManifestPolicy
