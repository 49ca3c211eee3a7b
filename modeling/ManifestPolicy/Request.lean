import ManifestPolicy.Base64
import ManifestPolicy.Notice

/-!
# Requests

A manifest as it is sent to the service: its text in Base64 under the name by
which the caller knows it. A manifest whose encoding reaches the size limit is
refused before anything is encoded.
-/

namespace ManifestPolicy

/-- An encoded manifest. -/
structure Content where
  contentType : String
  data : String
  deriving DecidableEq, Repr, Inhabited

namespace Content

/-- The content type of YAML manifests. -/
def yamlType : String := "1"

/-- How encoded manifests are written. -/
def shape : RecordShape Content where
  name := "Content"
  start := ⟨"", ""⟩
  fields := [
    ⟨"contentType", true, fun draft =>
      draft.readString.map fun contentType record => { record with contentType }⟩,
    ⟨"data", true, fun draft =>
      draft.readString.map fun data record => { record with data }⟩]

/-- The written form of an encoded manifest. -/
def toJson (content : Content) : Json :=
  .object [("contentType", .text content.contentType), ("data", .text content.data)]

end Content

/-- A named manifest ready to be submitted. -/
structure Request where
  resource : String
  content : Content
  deriving DecidableEq, Repr, Inhabited

/-- A manifest that is too large to submit. -/
structure PayloadTooLarge where
  resource : String
  encodedLength : Nat
  limit : Nat
  deriving DecidableEq, Repr

/-- The wording of the error. -/
def PayloadTooLarge.message (error : PayloadTooLarge) : String :=
  error.resource ++ " encodes to " ++ toString error.encodedLength
    ++ " bytes, which exceeds the " ++ toString error.limit ++ " byte request limit"

namespace Request

/-- The length that an encoding has to stay below. -/
def sizeLimit : Nat := 32 * 1024 * 1024

/-- Encode a manifest for submission. -/
def ofManifest (resource : String) (manifest : ByteArray) : Except PayloadTooLarge Request :=
  let encodedLength := Base64.encodedLength manifest.size
  if sizeLimit ≤ encodedLength then .error ⟨resource, encodedLength, sizeLimit⟩
  else .ok ⟨resource, ⟨Content.yamlType, Base64.encode manifest⟩⟩

/-- Encode named manifests. Those that are too large are left out, each with a
notice. -/
def ofManifests : List (String × ByteArray) → List Request × List Notice
  | [] => ([], [])
  | (resource, manifest) :: rest =>
      let (requests, notices) := ofManifests rest
      match ofManifest resource manifest with
      | .ok request => (request :: requests, notices)
      | .error error =>
          (requests, .skippedManifest error.resource error.message :: notices)

end Request

end ManifestPolicy
