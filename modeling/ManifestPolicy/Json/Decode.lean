import ManifestPolicy.Json.Printer
import ManifestPolicy.Json.Reader
import ManifestPolicy.Text.Quoted

/-!
# Decoding drafts

Readers of the shapes that records are made of. A reader goes through a draft in
document order and stops at the first fault of the text or the first value of
the wrong shape, whichever comes first. A record is written as an object, where
members with other names are passed over, or as an array of its fields in order.
-/

namespace ManifestPolicy

/-- What a reader found in the place of what it expected. -/
inductive Found
  | null
  | boolean (value : Bool)
  | integer (value : Int)
  | real (value : Binary64)
  | text (value : String)
  | sequence
  | map
  deriving DecidableEq, Repr

/-- How a well-formed value fails to have the expected shape. -/
inductive Mismatch
  | wrongType (found : Found) (expected : String)
  | outOfRange (number : Int) (expected : String)
  | missingField (name : String)
  | duplicateField (name : String)
  | wrongLength (length : Nat) (expected : String)
  deriving DecidableEq, Repr

/-- Why a text does not decode. -/
inductive DecodeError
  | text (fault : TextFault)
  | shape (mismatch : Mismatch)
  deriving DecidableEq, Repr

/-- A text between grave accents. -/
def graved (text : String) : String := "\x60" ++ text ++ "\x60"

/-- The description of what was found. -/
def Found.describe : Found → String
  | .null => "null"
  | .boolean value => "boolean " ++ graved (if value then "true" else "false")
  | .integer value => "integer " ++ graved (toString value)
  | .real value => "floating point " ++ graved (Json.numberStyle.render value)
  | .text value => "string " ++ quoted value
  | .sequence => "sequence"
  | .map => "map"

/-- The wording of a mismatch. -/
def Mismatch.message : Mismatch → String
  | .wrongType found expected =>
      "invalid type: " ++ found.describe ++ ", expected " ++ expected
  | .outOfRange number expected =>
      "invalid value: integer " ++ graved (toString number) ++ ", expected " ++ expected
  | .missingField name => "missing field " ++ graved name
  | .duplicateField name => "duplicate field " ++ graved name
  | .wrongLength length expected =>
      "invalid length " ++ toString length ++ ", expected " ++ expected

namespace Draft

/-- What stands in the place of something else, unless it is at fault itself. -/
def found? : Draft → Except TextFault Found
  | .null => .ok .null
  | .boolean value => .ok (.boolean value)
  | .integer value => .ok (.integer value)
  | .real value => .ok (.real value)
  | .text value => .ok (.text value)
  | .flawed flaw => .error flaw.read
  | .array .. => .ok .sequence
  | .object .. => .ok .map

/-- The error of a draft that is not what was expected. -/
def reject (draft : Draft) (expected : String) : DecodeError :=
  match draft.found? with
  | .ok found => .shape (.wrongType found expected)
  | .error fault => .text fault

/-- Turn a fault of the text into a decoding error. -/
def orFault (result : Except TextFault α) : Except DecodeError α :=
  result.mapError .text

/-- Read a string. -/
def readString : Draft → Except DecodeError String
  | .text value => .ok value
  | draft => .error (draft.reject "a string")

/-- Read a truth value. -/
def readBoolean : Draft → Except DecodeError Bool
  | .boolean value => .ok value
  | draft => .error (draft.reject "a boolean")

/-- Read an integer of 32 bits. -/
def readCode : Draft → Except DecodeError Int
  | .integer value =>
      if -Int.pow 2 31 ≤ value ∧ value < Int.pow 2 31 then .ok value
      else .error (.shape (.outOfRange value "i32"))
  | draft => .error (draft.reject "i32")

/-- Read any value. -/
def readJson (draft : Draft) : Except DecodeError Json := orFault draft.toJson

/-- Read null as absent. -/
def readOptional
    (read : Draft → Except DecodeError α) : Draft → Except DecodeError (Option α)
  | .null => .ok none
  | draft => (read draft).map some

/-- Read items one by one. -/
def readItems (read : Draft → Except DecodeError α) :
    List Draft → Ending → Except DecodeError (List α)
  | [], ending => do
      orFault (checkEnding ending)
      return []
  | item :: rest, ending => do
      let value ← read item
      let values ← readItems read rest ending
      return value :: values

/-- Read a list. -/
def readList (read : Draft → Except DecodeError α) : Draft → Except DecodeError (List α)
  | .array items ending => readItems read items ending
  | draft => .error (draft.reject "a sequence")

end Draft

/-- A field of a record under construction: how its value changes the record. -/
structure Field (σ : Type) where
  name : String
  required : Bool
  read : Draft → Except DecodeError (σ → σ)

/-- The shape of a record: its name, its fields in order, and the record before
any field has been read. -/
structure RecordShape (σ : Type) where
  name : String
  fields : List (Field σ)
  start : σ

namespace RecordShape

/-- What the shape is called where another value was found. -/
def expected (shape : RecordShape σ) : String := "struct " ++ shape.name

/-- What the shape is called where an array is too short. -/
def expectedLength (shape : RecordShape σ) : String :=
  shape.expected ++ " with " ++ toString shape.fields.length ++ " elements"

/-- Read members in order. A repeated field is refused before its value is
looked at. -/
def readMembers
    (fields : List (Field σ))
    (record : σ)
    (seen : List String) :
    List (Except Flaw String × Draft) → Except DecodeError (σ × List String)
  | [] => .ok (record, seen)
  | (.error flaw, _) :: _ => .error (.text flaw.read)
  | (.ok name, value) :: rest =>
      match fields.find? fun field => field.name == name with
      | none => do
          Draft.orFault value.skip
          readMembers fields record seen rest
      | some field =>
          if name ∈ seen then .error (.shape (.duplicateField name))
          else do
            let change ← field.read value
            readMembers fields (change record) (name :: seen) rest

/-- The first required field that has not been seen. -/
def missing? (fields : List (Field σ)) (seen : List String) : Option String :=
  (fields.find? fun field => field.required && !seen.contains field.name).map Field.name

/-- Read the fields of a record from the items of an array. -/
def readPositions
    (shape : RecordShape σ)
    (count : Nat)
    (ending : Ending)
    (record : σ)
    (position : Nat) :
    List (Field σ) → List Draft → Except DecodeError σ
  | [], [] => do
      Draft.orFault (Draft.checkEnding ending)
      return record
  | [], _ :: _ =>
      match ending with
      | .counted => .error (.shape (.wrongLength count "fewer elements in array"))
      | _ => .error (.text .malformed)
  | field :: fields, [] => do
      Draft.orFault (Draft.checkEnding ending)
      if field.required then
        .error (.shape (.wrongLength position shape.expectedLength))
      else
        readPositions shape count ending record (position + 1) fields []
  | field :: fields, item :: items => do
      let change ← field.read item
      readPositions shape count ending (change record) (position + 1) fields items

/-- Read a record. -/
def read (shape : RecordShape σ) : Draft → Except DecodeError σ
  | .object members ending => do
      let (record, seen) ← readMembers shape.fields shape.start [] members
      Draft.orFault (Draft.checkEnding ending)
      match missing? shape.fields seen with
      | some name => .error (.shape (.missingField name))
      | none => return record
  | .array items ending =>
      readPositions shape items.length ending shape.start 0 shape.fields items
  | draft => .error (draft.reject shape.expected)

end RecordShape

/-- Decode a whole text with a reader of drafts. -/
def decodeText
    (read : Draft → Except DecodeError α)
    (bytes : List UInt8) : Except DecodeError α := do
  let text := Json.document bytes
  let value ← read text.root
  if text.trailing then .error (.text .malformed) else return value

end ManifestPolicy
