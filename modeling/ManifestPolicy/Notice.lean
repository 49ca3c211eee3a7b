import ManifestPolicy.Duration
import ManifestPolicy.Violation

/-!
# Notices

What a run tells its observers, as events of the domain. A notice has a level, a
message and named fields; counts are numbers and everything else is text.
-/

namespace ManifestPolicy

/-- How much a notice matters. -/
inductive Level
  | info
  | warning
  | error
  deriving DecidableEq, Repr

/-- An event in the course of a run. -/
inductive Notice
  | noAllowlist
  | loadedAllowlist (path : String) (entries : Nat)
  | unusableAllowlist (path : String)
  | noFocusComponents
  | loadedFocusComponents (path : String) (categories : Nat)
  | skippedPattern (category : String)
  | skippedManifest (resource : String) (error : String)
  | preparedManifests (root : String) (requests : Nat)
  | submitting (manifests : Nat)
  | submitted (resource : String) (operation : String)
  | pollingCancelled (pending : Nat)
  | deadlineElapsed (pending : Nat) (deadline : Duration)
  | fetchFailed (operation : String) (resource : String) (error : String)
  | validated (resource : String) (violations : Nat)
  | operationFailed (operation : String) (resource : String) (error : String)
  | partialResults (unresolved : List String)
  | someFailed (failed : Nat)
  | newViolations
      (resource : String)
      (policy : String)
      (record : String)
      (violations : List Violation)
  | reviewed (resources recorded reported suppressed : Nat)
  | started (endpoint : String) (project : String) (manifests : String)
  | succeeded
  deriving DecidableEq

namespace Notice

/-- How much a notice matters. -/
def level : Notice → Level
  | .unusableAllowlist _ => .error
  | .operationFailed .. => .error
  | .skippedPattern _ => .warning
  | .skippedManifest .. => .warning
  | .deadlineElapsed .. => .warning
  | .fetchFailed .. => .warning
  | .partialResults _ => .warning
  | .someFailed _ => .warning
  | .newViolations .. => .warning
  | _ => .info

/-- What a notice says. -/
def message : Notice → String
  | .noAllowlist => "No allowlist configured; all violations will be reported"
  | .loadedAllowlist .. => "Loaded allowlist"
  | .unusableAllowlist _ => "Failed to load allowlist; all violations will be reported"
  | .noFocusComponents =>
      "No focus components configured; all resources will be validated"
  | .loadedFocusComponents .. => "Loaded focus components"
  | .skippedPattern _ => "Skipping focus component with an invalid pattern"
  | .skippedManifest .. => "Skipping manifest"
  | .preparedManifests .. => "Prepared manifests"
  | .submitting _ => "Submitting manifests for validation"
  | .submitted .. => "Submitted manifest"
  | .pollingCancelled _ => "Polling cancelled"
  | .deadlineElapsed .. => "Deadline elapsed before all operations resolved"
  | .fetchFailed .. => "Failed to fetch operation"
  | .validated .. => "Validation completed"
  | .operationFailed .. => "Validation operation failed"
  | .partialResults _ =>
      "Reporting partial results; some operations did not resolve before the deadline"
  | .someFailed _ => "Some operations failed; their resources were not validated"
  | .newViolations _ _ _ violations =>
      "New policy violations:\n" ++ Violation.prettyList violations
  | .reviewed .. => "Reviewed validation results"
  | .started .. => "Validating manifests"
  | .succeeded => "Validation completed successfully"

/-- The fields of a notice. -/
def fields : Notice → List (String × Json)
  | .noAllowlist => []
  | .loadedAllowlist path entries => [("path", .text path), ("entries", .integer entries)]
  | .unusableAllowlist path => [("path", .text path)]
  | .noFocusComponents => []
  | .loadedFocusComponents path categories =>
      [("path", .text path), ("categories", .integer categories)]
  | .skippedPattern category => [("category", .text category)]
  | .skippedManifest resource error => [("resource", .text resource), ("error", .text error)]
  | .preparedManifests root requests =>
      [("root", .text root), ("requests", .integer requests)]
  | .submitting manifests => [("manifests", .integer manifests)]
  | .submitted resource operation =>
      [("resource", .text resource), ("operation", .text operation)]
  | .pollingCancelled pending => [("pending", .integer pending)]
  | .deadlineElapsed pending deadline =>
      [("pending", .integer pending), ("deadline", .text deadline.describe)]
  | .fetchFailed operation resource error | .operationFailed operation resource error =>
      [("operation", .text operation), ("resource", .text resource), ("error", .text error)]
  | .validated resource violations =>
      [("resource", .text resource), ("violations", .integer violations)]
  | .partialResults unresolved => [("unresolved", .text (quotedList unresolved))]
  | .someFailed failed => [("failed", .integer failed)]
  | .newViolations resource policy record violations =>
      [("resource", .text resource), ("policy", .text policy), ("record", .text record),
        ("violations", .integer violations.length)]
  | .reviewed resources recorded reported suppressed =>
      [("resources", .integer resources), ("recorded", .integer recorded),
        ("reported", .integer reported), ("suppressed", .integer suppressed)]
  | .started endpoint project manifests =>
      [("endpoint", .text endpoint), ("project", .text project),
        ("manifests", .text manifests)]
  | .succeeded => []

end Notice

end ManifestPolicy
