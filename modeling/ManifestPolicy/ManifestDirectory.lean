import ManifestPolicy.FileTree.Walk
import ManifestPolicy.Focus
import ManifestPolicy.Validation
import ManifestPolicy.Yaml.Printer

/-!
# Manifests in a directory

Every document of the YAML files below a directory goes into a bundle: that of its
file, or that of the category of its name when there are focus components. Bundles
become requests in the order of their names. A document outside of the focus and
one that says nothing go into none.
-/

namespace ManifestPolicy

/-- A directory of manifests, and which of their documents matter. -/
structure ManifestDirectory where
  root : FilePath
  focus : Focus

/-- Documents by the name of their bundle, in the order in which they were read. -/
abbrev Bundles := SortedMap String (List String)

namespace ManifestDirectory

/-- The name of a document that does not state one. -/
def unknownName : String := "unknown"

/-- What stands between the documents of a bundle. -/
def separator : String := "\n---\n"

/-- Whether a file holds manifests. -/
def isManifest (file : WalkedFile) : Bool :=
  file.extension? == some (Utf8.encode "yaml") || file.extension? == some (Utf8.encode "yml")

/-- The bundle that a document of a file goes into. -/
def bundle? (directory : ManifestDirectory) (file : WalkedFile) (name : String) :
    Option String :=
  if directory.focus.isEmpty then some file.relativeName else directory.focus.classify name

/-- The failure of a step on a file that its YAML stopped. -/
def yamlFailure (step : String) (file : WalkedFile) : Failure :=
  ({ outermost := .yaml } : Failure).within (step ++ FilePath.display file.path)

/-- The text of a value without blanks at its end. -/
def manifestText? (value : Yaml.Value) : Option String :=
  value.render?.map fun text => String.ofList (Text.trimEnd text.toList)

/-- The bundle of a document and its text, if it goes into one. -/
def readDocument
    (directory : ManifestDirectory)
    (file : WalkedFile)
    (document : Yaml.Node) : Except Failure (Option (String × String)) :=
  match document.value? with
  | none => .error (yamlFailure "failed to parse " file)
  | some value =>
      if value.isNull then .ok none
      else
        let name := value.metadataName?.getD unknownName
        match directory.bundle? file name with
        | none => .ok none
        | some bundle =>
            match manifestText? value with
            | some text => .ok (some (bundle, text))
            | none => .error (yamlFailure ("failed to encode " ++ name ++ " from ") file)

/-- The documents of the text of a file that go into bundles. -/
def readText
    (directory : ManifestDirectory)
    (file : WalkedFile)
    (text : String) : Except Failure (List (String × String)) := do
  let stream := Yaml.stream text.toList
  let documents ← stream.documents.mapM (directory.readDocument file)
  if stream.complete then return documents.filterMap id
  else .error (yamlFailure "failed to parse " file)

/-- The documents of a file that go into bundles. -/
def readFile
    (directory : ManifestDirectory)
    (file : WalkedFile) : Except Failure (List (String × String)) := do
  let data ← file.contents
  match Utf8.decode data.toList with
  | .error _ =>
      .error ((Failure.because "stream did not contain valid UTF-8").within
        ("failed to read " ++ FilePath.display file.path))
  | .ok text => directory.readText file text

/-- The documents of an entry met on the walk. -/
def readEntry
    (directory : ManifestDirectory)
    (entry : Walked) : Except Failure (List (String × String)) :=
  match entry with
  | .error error => .error (error.toFailure directory.root)
  | .ok file => if isManifest file then directory.readFile file else .ok []

/-- All documents that go into bundles, in the order of the walk. -/
def documents
    (directory : ManifestDirectory)
    (tree : FileTree) : Except Failure (List (String × String)) := do
  let documents ← (tree.walk directory.root).mapM directory.readEntry
  return documents.flatten

/-- Put documents into their bundles. -/
def bundle (documents : List (String × String)) : Bundles :=
  documents.foldl (fun bundles document => bundles.push document.1 document.2) .empty

/-- The manifests of bundles, in the order of their names. -/
def manifests (bundles : Bundles) : List (String × ByteArray) :=
  bundles.entries.map fun entry => (entry.1, (separator.intercalate entry.2).toUTF8)

/-- Prepare the requests of a directory. -/
def prepare (directory : ManifestDirectory) (tree : FileTree) : Preparation :=
  match directory.documents tree with
  | .error failure => ⟨.error failure, []⟩
  | .ok documents =>
      let (requests, notices) := Request.ofManifests (manifests (bundle documents))
      ⟨.ok requests, notices
        ++ [.preparedManifests (FilePath.display directory.root) requests.length]⟩

end ManifestDirectory

end ManifestPolicy
