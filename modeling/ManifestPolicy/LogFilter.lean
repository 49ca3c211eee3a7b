import ManifestPolicy.Pattern.Reader
import ManifestPolicy.Text.Blank

/-!
# Log filters

A log filter is a list of directives with commas between them. A directive names
the least level of what is told, a target, a target with its level, or a span of
a target with the fields it must have: `info`, `pods`, `pods=info`,
`pods[check{kind=Pod}]=debug`.
-/

namespace ManifestPolicy

/-- How much is told, from nothing to everything. -/
inductive LogLevel
  | off
  | error
  | warn
  | info
  | debug
  | trace
  deriving DecidableEq, Repr, Inhabited

namespace LogLevel

/-- The levels in order; each may be written by its place. -/
def all : List LogLevel := [.off, .error, .warn, .info, .debug, .trace]

/-- The name of a level. -/
def name : LogLevel → String
  | .off => "off"
  | .error => "error"
  | .warn => "warn"
  | .info => "info"
  | .debug => "debug"
  | .trace => "trace"

/-- The level with a number, which may have a sign in front. -/
def ofNumber? (text : List Char) : Option LogLevel :=
  let digits :=
    match text with
    | '+' :: digits => digits
    | _ => text
  if digits.isEmpty || !digits.all Char.isDigit then none
  else all[digits.foldl (fun total digit => total * 10 + (digit.toNat - '0'.toNat)) 0]?

/-- The level with a name, in letters of either case. -/
def ofName? (text : List Char) : Option LogLevel :=
  all.find? fun level => level.name.toList == text.map Char.toLower

/-- Read a level, given by its number or its name. -/
def parse? (text : List Char) : Option LogLevel := (ofNumber? text).or (ofName? text)

end LogLevel

/-- A field that a span must have, and the pattern of its value. -/
structure LogField where
  name : String
  pattern : Option String := none
  deriving DecidableEq, Repr, Inhabited

/-- A rule for what is told. -/
structure LogDirective where
  target : Option String := none
  span : Option String := none
  fields : List LogField := []
  level : LogLevel := .trace
  deriving DecidableEq, Repr, Inhabited

namespace LogDirective

/-- Letters and numbers of any script. -/
def alphanumeric : CodeSet :=
  .unions [CodeProperty.alphabetic, Category.decimalNumber, Category.letterNumber,
    Category.otherNumber]

/-- Whether a directive may start with a character. -/
def opens (character : Char) : Bool :=
  character == '-' || character == ':' || character == '_'
    || alphanumeric.contains character.toNat

/-- Read a field: a name, and after an equals sign the pattern of its value. -/
def field? (text : List Char) : Option LogField :=
  if text.isEmpty then none
  else
    let name := String.ofList (text.takeWhile (· != '='))
    match text.dropWhile (· != '=') with
    | _ :: value =>
        let pattern := String.ofList (value.takeWhile (· != '='))
        (Pattern.compile? pattern).map fun _ => ⟨name, some pattern⟩
    | [] => some ⟨name, none⟩

/-- Add the level after an equals sign; without one everything is told. -/
def withLevel? (directive : LogDirective) (text : List Char) : Option LogDirective :=
  if text.isEmpty then some directive
  else (LogLevel.parse? text).map fun level => { directive with level }

/-- Read what follows a span. -/
def afterSpan? (directive : LogDirective) : List Char → Option LogDirective
  | [] => some directive
  | '=' :: level => directive.withLevel? level
  | _ => none

/-- Read a span and what follows it. -/
def span? (directive : LogDirective) (text : List Char) : Option LogDirective :=
  let name := text.takeWhile fun character => character != ']' && character != '{'
  match text.drop name.length with
  | ']' :: rest => ({ directive with span := some (String.ofList name) }).afterSpan? rest
  | '{' :: rest =>
      match rest.dropWhile (· != '}') with
      | '}' :: ']' :: after => do
          let field ← field? (rest.takeWhile (· != '}'))
          let span := if name.isEmpty then none else some (String.ofList name)
          ({ directive with span, fields := [field] }).afterSpan? after
      | _ => none
  | _ => none

/-- Read a directive without blanks around it. -/
def parse? (text : List Char) : Option LogDirective :=
  match text with
  | [] => none
  | '[' :: rest => span? {} rest
  | first :: _ =>
      if !opens first then none
      else
        let name := text.takeWhile fun character => character != '=' && character != '['
        let target := some (String.ofList name)
        match text.drop name.length with
        | '=' :: level => ({ target } : LogDirective).withLevel? level
        | '[' :: rest => span? { target } rest
        | _ =>
            match LogLevel.parse? name with
            | some level => some { level }
            | none => some { target }

end LogDirective

/-- What is told of a run. -/
structure LogFilter where
  directives : List LogDirective := []
  deriving DecidableEq, Repr, Inhabited

namespace LogFilter

/-- The directives of a run that names no filter: everything of note about the
validation itself, and warnings about all else. -/
def default : LogFilter :=
  ⟨[{ target := some "manifest_validator", level := .info }, { level := .warn }]⟩

/-- Read a filter. Nothing between two commas is no directive; blanks are none
either, and are refused. -/
def parse? (text : String) : Option LogFilter :=
  let pieces := (text.toList.splitOnP (· == ',')).filter (!·.isEmpty)
  (pieces.mapM fun piece => LogDirective.parse? (Text.trim piece)).map LogFilter.mk

end LogFilter

end ManifestPolicy
