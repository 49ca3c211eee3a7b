import ManifestPolicy.Arguments.Basic
import ManifestPolicy.Json.Printer
import ManifestPolicy.Notice

/-!
# The log

The notices of a run as lines of text: which of them a filter lets through, and how
each is written.
-/

namespace ManifestPolicy

/-- The name under which a run tells its notices. -/
def noticeTarget : String := "manifest_validator_runtime"

/-- The log level of a notice. -/
def Level.logLevel : Level → LogLevel
  | .info => .info
  | .warning => .warn
  | .error => .error

/-- The place of a level among all, from nothing to everything. -/
def LogLevel.rank (level : LogLevel) : Nat := LogLevel.all.idxOf level

namespace LogFilter

/-- How closely a directive without a span describes a target, if it does at all. -/
def closeness? (target : String) (directive : LogDirective) : Option Nat :=
  if directive.span.isSome || !directive.fields.isEmpty then none
  else
    match directive.target with
    | none => some 0
    | some start => if target.startsWith start then some (start.length + 1) else none

/-- The level up to which a target is told: that of the directive that describes it
most closely, and the later of two that do so equally. -/
def levelOf (filter : LogFilter) (target : String) : LogLevel :=
  let fitting := filter.directives.filterMap fun directive =>
    (closeness? target directive).map fun closeness => (closeness, directive.level)
  (fitting.foldl (fun best entry => if best.1 ≤ entry.1 then entry else best)
    (0, if filter.directives.isEmpty then .error else .off)).2

/-- Whether a notice is told. -/
def admits (filter : LogFilter) (notice : Notice) : Bool :=
  notice.level.logLevel.rank ≤ (filter.levelOf noticeTarget).rank

end LogFilter

namespace Notice

/-- The value of a field in a plain line. -/
def plainValue : Json → String
  | .text value => value
  | value => value.compact

/-- The line of a notice. -/
def line (format : LogFormat) (notice : Notice) : String :=
  let level := notice.level.logLevel.name.toUpper
  match format with
  | .plain =>
      " ".intercalate ([level, notice.message]
        ++ notice.fields.map fun (name, value) => name ++ "=" ++ plainValue value)
  | .json =>
      (Json.object ([("level", .text level), ("message", .text notice.message)]
        ++ notice.fields)).compact

end Notice

/-- The log of a run: its lines, each with its end. -/
def logText (filter : LogFilter) (format : LogFormat) (notices : List Notice) : String :=
  String.join ((notices.filter filter.admits).map fun notice => notice.line format ++ "\n")

end ManifestPolicy
