import ManifestPolicy.Base64
import ManifestPolicy.FileTree.Basic
import ManifestPolicy.Http.Exchange
import ManifestPolicy.Json.Decode

/-!
# Snapshots

The world of a run that makes no connections of its own: the files under its working
directory, and the responses of the server in the order in which they come. A
snapshot is a JSON object with two arrays of that name.
-/

namespace ManifestPolicy

/-- The files of a run and the responses to its requests. -/
structure Snapshot where
  tree : FileTree := {}
  responses : List Exchange := []

namespace Snapshot

/-- The text of a member, or the empty text. -/
def textOf (value : Json) (name : String) : String :=
  match value.get? name with
  | some (.text text) => text
  | _ => ""

/-- The items of a member, or none. -/
def itemsOf (value : Json) (name : String) : List Json :=
  match value.get? name with
  | some (.array items) => items
  | _ => []

/-- The file that an object describes: a link with its target, a directory, or a file
with its text or its bytes in Base64. -/
def nodeOf (value : Json) : FileNode :=
  match value.get? "link", value.get? "directory", value.get? "base64" with
  | some (.text target), _, _ => .link (Utf8.encode target)
  | _, some (.boolean true), _ => .directory []
  | _, _, some (.text data) => .file ((Base64.decode? data).getD .empty)
  | _, _, _ => .file (textOf value "text").toUTF8

/-- Put the file that an object describes under its path. -/
def putFile (tree : FileTree) (value : Json) : FileTree :=
  tree.put (FilePath.components (Utf8.encode (textOf value "path"))) (nodeOf value)

/-- The response that an object describes. The texts `closed` and `silent` stand for no
response. -/
def exchangeOf (value : Json) : Exchange :=
  match value with
  | .text "silent" => ⟨.error .silent, 0⟩
  | .text _ => ⟨.error .closed, 0⟩
  | _ =>
      let status :=
        match value.get? "status" with
        | some (.integer number) => number.toNat
        | _ => 200
      ⟨.ok ⟨⟨status⟩, Utf8.encode (textOf value "body")⟩, 0⟩

/-- Read a snapshot. No text at all is an empty one. -/
def read (text : String) : Except DecodeError Snapshot :=
  if (Text.trim text.toList).isEmpty then .ok {}
  else
    match Json.parse (Utf8.encode text) with
    | .error fault => .error (.text fault)
    | .ok value =>
        .ok ⟨(itemsOf value "files").foldl putFile {},
          (itemsOf value "responses").map exchangeOf⟩

end Snapshot

/-- The responses that are left and the requests that have been made, latest first. -/
structure Playback where
  responses : List Exchange := []
  requests : List HttpRequest := []

/-- Answer a request with the next response; when none is left the connection is
ended. -/
def Playback.send (request : HttpRequest) (playback : Playback) : Exchange × Playback :=
  (playback.responses.headD ⟨.error .closed, 0⟩,
    ⟨playback.responses.tail, request :: playback.requests⟩)

end ManifestPolicy
