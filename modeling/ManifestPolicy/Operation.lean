import ManifestPolicy.Violation

/-!
# Operations

The handle of a validation that the service carries out on its own time. It is
replaced by fetching it again and never changed in place.
-/

namespace ManifestPolicy

/-- The error with which a validation ended. -/
structure Status where
  code : Int := 0
  message : String := ""
  deriving DecidableEq, Repr, Inhabited

namespace Status

/-- How an error is written. -/
def shape : RecordShape Status where
  name := "Status"
  start := {}
  fields := [
    ⟨"code", false, fun draft =>
      draft.readCode.map fun code record => { record with code }⟩,
    ⟨"message", false, fun draft =>
      draft.readString.map fun message record => { record with message }⟩]

/-- The written form of an error. -/
def toJson (status : Status) : Json :=
  .object [("code", .integer status.code), ("message", .text status.message)]

/-- The text of an error. -/
def describe (status : Status) : String :=
  "code " ++ toString status.code ++ ": " ++ status.message

end Status

/-- The handle of a validation. -/
structure Operation where
  name : String
  done : Bool := false
  error : Option Status := none
  response : Option Json := none
  deriving DecidableEq, Inhabited

/-- How far a validation has come. -/
inductive OperationState
  | pending
  | failed (status : Status)
  | succeeded
  deriving DecidableEq, Repr

namespace Operation

/-- How an operation is written. -/
def shape : RecordShape Operation where
  name := "Operation"
  start := { name := "" }
  fields := [
    ⟨"name", true, fun draft =>
      draft.readString.map fun name record => { record with name }⟩,
    ⟨"done", false, fun draft =>
      draft.readBoolean.map fun done record => { record with done }⟩,
    ⟨"error", false, fun draft =>
      (draft.readOptional Status.shape.read).map fun error record => { record with error }⟩,
    ⟨"response", false, fun draft =>
      (draft.readOptional Draft.readJson).map fun response record =>
        { record with response }⟩]

/-- The written form of an operation. -/
def toJson (operation : Operation) : Json :=
  .object <|
    [("name", .text operation.name), ("done", .boolean operation.done)]
      ++ (operation.error.toList.map fun status => ("error", status.toJson))
      ++ (operation.response.toList.map fun response => ("response", response))

/-- How far an operation has come: an error counts once it is done. -/
def state (operation : Operation) : OperationState :=
  if operation.done then
    match operation.error with
    | some status => .failed status
    | none => .succeeded
  else .pending

/-- The part of a response that holds violations. -/
def responseShape : RecordShape (List Violation) where
  name := "ValidateResponse"
  start := []
  fields := [
    ⟨"violations", false, fun draft =>
      (draft.readList Violation.read).map fun violations _ => violations⟩]

/-- The violations in the response. A response that is absent or null holds
none. -/
def violations (operation : Operation) : Except DecodeError (List Violation) :=
  match operation.response with
  | none => .ok []
  | some .null => .ok []
  | some response => responseShape.read response.draft

end Operation

end ManifestPolicy
