import ManifestPolicy.Allowlist
import ManifestPolicy.Failure
import ManifestPolicy.FileTree.Walk
import ManifestPolicy.Notice
import ManifestPolicy.Yaml.Decode

/-!
# Allowlists in a directory

An allowlist is kept as a directory of files, each of them a list of accepted
violations in JSON or YAML. It is loaded completely or not at all: what cannot be
walked, read or decoded anywhere leaves an allowlist that accepts nothing.
-/

namespace ManifestPolicy

namespace ResourceRef

/-- Read the entries of a resource in YAML, each known one at most once. -/
def readYamlEntries
    (definitions : List (Nat × Yaml.Node))
    (resource : ResourceRef)
    (seen : List String) :
    List (Yaml.Node × Yaml.Node) → Yaml.Node.Expansion ResourceRef
  | [] => pure resource
  | (key, value) :: rest => do
      let name ← key.readText definitions
      if name ∈ seen then failure
      else if name = "group" then
        let group ← value.readText definitions
        readYamlEntries definitions { resource with group } (name :: seen) rest
      else if name = "kind" then
        let kind ← value.readText definitions
        readYamlEntries definitions { resource with kind } (name :: seen) rest
      else if name = "name" then
        let text ← value.readText definitions
        readYamlEntries definitions { resource with name := text } (name :: seen) rest
      else if name = "version" then
        let version ← value.readText definitions
        readYamlEntries definitions { resource with version } (name :: seen) rest
      else readYamlEntries definitions resource seen rest

/-- Read a resource in YAML. -/
def readYaml
    (definitions : List (Nat × Yaml.Node))
    (node : Yaml.Node) : Yaml.Node.Expansion ResourceRef := do
  readYamlEntries definitions {} [] (← node.readMembers definitions)

end ResourceRef

namespace Violation

/-- How deep the collections of a detail may be nested: it stands in a mapping in
a sequence. -/
def detailDepth : Nat := Yaml.Node.depthLimit - 2

/-- Read the entries of a violation in YAML; all but three are details. -/
def readYamlEntries
    (definitions : List (Nat × Yaml.Node))
    (violation : Violation)
    (seen : List String) :
    List (Yaml.Node × Yaml.Node) → Yaml.Node.Expansion Violation
  | [] => pure violation
  | (key, value) :: rest => do
      let name ← key.readText definitions
      if name ∈ seen then failure
      else if name = "policyName" then
        let policyName ← value.readText definitions
        readYamlEntries definitions { violation with policyName } (name :: seen) rest
      else if name = "message" then
        let message ← value.readText definitions
        readYamlEntries definitions { violation with message } (name :: seen) rest
      else if name = "resourceKey" then
        if ← value.readAbsence definitions then
          readYamlEntries definitions { violation with resource := none } (name :: seen) rest
        else
          let resource ← ResourceRef.readYaml definitions value
          readYamlEntries definitions { violation with resource := some resource }
            (name :: seen) rest
      else
        let detail ← value.readNode definitions detailDepth false
        let json ← liftM detail.toJson?
        readYamlEntries definitions
          { violation with details := violation.details.insert name json } seen rest

/-- Read a list of violations in YAML. -/
def readYamlList
    (definitions : List (Nat × Yaml.Node))
    (root : Yaml.Node) : Yaml.Node.Expansion (List Violation) := do
  (← root.readItems definitions).mapM fun item => do
    readYamlEntries definitions {} [] (← item.readMembers definitions)

/-- The violations that a YAML text lists in its only document. -/
def listOfYaml? (text : List Char) : Option (List Violation) :=
  match Yaml.stream text with
  | ⟨[root], true⟩ => root.expand? (readYamlList root.definitions root)
  | _ => none

end Violation

/-- The formats of allowlist files. -/
inductive AllowlistFormat
  | json
  | yaml
  deriving DecidableEq, Repr

namespace AllowlistFormat

/-- The format of a file, if it belongs to an allowlist. -/
def ofFile? (file : WalkedFile) : Option AllowlistFormat :=
  match file.extension? with
  | some extension =>
      if extension = Utf8.encode "json" then some .json
      else if extension = Utf8.encode "yaml" ∨ extension = Utf8.encode "yml" then some .yaml
      else none
  | none => none

/-- Decode the contents of a file. -/
def decode (format : AllowlistFormat) (data : ByteArray) : Except Cause (List Violation) :=
  match format with
  | .json => (decodeText (Draft.readList Violation.read) data.toList).mapError .json
  | .yaml =>
      match Utf8.decode data.toList with
      | .error _ => .error .yaml
      | .ok text => (Violation.listOfYaml? text.toList).elim (.error .yaml) .ok

end AllowlistFormat

namespace Allowlist

/-- The violations of an entry met on a walk. -/
def readEntry (root : FilePath) (entry : Walked) : Except Failure (List Violation) :=
  match entry with
  | .error error => .error (error.toFailure root)
  | .ok file =>
      match AllowlistFormat.ofFile? file with
      | none => .ok []
      | some format => do
          let data ← file.contents
          (format.decode data).mapError fun cause =>
            ({ outermost := cause } : Failure).within
              ("failed to decode " ++ FilePath.display file.path)

/-- The allowlist of all files at and below a path, or what stands in its way. -/
def tryLoad (tree : FileTree) (root : FilePath) : Except Failure Allowlist := do
  let violations ← (tree.walk root).mapM (readEntry root)
  return ofList violations.flatten

/-- The allowlist of a directory, or the one that accepts nothing if it cannot be
loaded, with what is told about it. -/
def load (tree : FileTree) (root : FilePath) : Allowlist × List Notice :=
  match tryLoad tree root with
  | .ok allowlist =>
      (allowlist, [.loadedAllowlist (FilePath.display root) allowlist.size])
  | .error _ => (empty, [.unusableAllowlist (FilePath.display root)])

end Allowlist

end ManifestPolicy
