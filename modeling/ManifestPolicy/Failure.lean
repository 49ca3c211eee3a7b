import ManifestPolicy.Json.Decode

/-!
# Failures

A failure is a chain of causes, from the step that could not be taken down to
what stopped it. The three verdicts of a run are causes of their own, so that
they can be found in a chain without reading its text.
-/

namespace ManifestPolicy

/-- One link in a chain of causes. -/
inductive Cause
  /-- A step that failed, or a reason that is told in words. -/
  | reason (text : String)
  /-- A JSON text or value that does not decode. -/
  | json (error : DecodeError)
  /-- A YAML text that does not parse or decode. -/
  | yaml
  /-- An exchange with the service that did not take place. -/
  | transport
  /-- Violations that are not accepted. -/
  | newViolations (count : Nat)
  /-- Operations without results: the resources of those that failed and of
  those that did not resolve. -/
  | incomplete (failed unresolved : List String)
  /-- A run that was stopped, with the resources that were still pending. -/
  | cancelled (unresolved : List String)
  deriving DecidableEq, Repr

/-- The wording of a decoding error. -/
def DecodeError.message : DecodeError → String
  | .text .malformed => "malformed JSON"
  | .text .truncated => "the JSON text ends early"
  | .shape mismatch => mismatch.message

/-- The wording of a cause. -/
def Cause.message : Cause → String
  | .reason text => text
  | .json error => error.message
  | .yaml => "malformed YAML"
  | .transport => "the service could not be reached"
  | .newViolations count => "found " ++ toString count ++ " new policy violation(s)"
  | .incomplete failed unresolved =>
      "validation is incomplete: " ++ toString failed.length ++ " operation(s) failed and "
        ++ toString unresolved.length ++ " did not resolve"
  | .cancelled unresolved =>
      "validation was cancelled with " ++ toString unresolved.length
        ++ " operation(s) unresolved"

/-- A chain of causes, outermost first. -/
structure Failure where
  outermost : Cause
  causes : List Cause := []
  deriving DecidableEq, Repr

namespace Failure

/-- A failure for a reason told in words. -/
def because (text : String) : Failure := { outermost := .reason text }

/-- Put a failure under the step it stopped. -/
def under (failure : Failure) (outermost : Cause) : Failure :=
  ⟨outermost, failure.outermost :: failure.causes⟩

/-- Put a failure under a step told in words. -/
def within (failure : Failure) (step : String) : Failure := failure.under (.reason step)

/-- All causes, outermost first. -/
def chain (failure : Failure) : List Cause := failure.outermost :: failure.causes

/-- The wording of a chain on one line. -/
def message (failure : Failure) : String :=
  ": ".intercalate (failure.chain.map Cause.message)

/-- The number of new violations, if they are among the causes. -/
def newViolations? (failure : Failure) : Option Nat :=
  failure.chain.findSome? fun
    | .newViolations count => some count
    | _ => none

/-- The resources without results, if they are among the causes. -/
def incomplete? (failure : Failure) : Option (List String × List String) :=
  failure.chain.findSome? fun
    | .incomplete failed unresolved => some (failed, unresolved)
    | _ => none

/-- The resources pending when a run was stopped, if that is among the causes. -/
def cancelled? (failure : Failure) : Option (List String) :=
  failure.chain.findSome? fun
    | .cancelled unresolved => some unresolved
    | _ => none

/-- The lines of a text with a label before the first of them and blanks of the same
width before the others. -/
def labelled (label : String) (text : String) : List String :=
  match text.splitOn "\n" with
  | [] => []
  | first :: rest =>
      (label ++ first)
        :: rest.map fun line => "".pushn ' ' label.length ++ line

/-- The label of a cause by its place in the chain. -/
def causeLabel (index : Nat) : String :=
  let number := toString index
  "".pushn ' ' (5 - number.length) ++ number ++ ": "

/-- A failure as it is reported at the end of a run, line by line. -/
def reportLines (failure : Failure) : List String :=
  let heading := ("Error: " ++ failure.outermost.message).splitOn "\n"
  match failure.causes with
  | [] => heading
  | [cause] => heading ++ ["", "Caused by:"] ++ labelled "    " cause.message
  | causes =>
      heading ++ ["", "Caused by:"] ++ causes.zipIdx.flatMap fun (cause, index) =>
        labelled (causeLabel index) cause.message

end Failure

end ManifestPolicy
