import ManifestPolicy.FileTree.Basic
import ManifestPolicy.Failure
import ManifestPolicy.Notice
import ManifestPolicy.Pattern.Reader

/-!
# Focus components

Categories of resources, each with a pattern of resource names. A resource belongs
to the first category, in the order of their names, whose pattern occurs in its
name. Without any category every resource belongs to the category without a name.
-/

namespace ManifestPolicy

/-- The categories that are validated, with their patterns. -/
structure Focus where
  categories : SortedMap String Pattern

namespace Focus

/-- The focus without categories. -/
def empty : Focus := ⟨.empty⟩

instance : Inhabited Focus := ⟨empty⟩

/-- Give a category a pattern, in the place of one it had. A text that is no
pattern changes nothing. -/
def add (focus : Focus) (category text : String) : Focus :=
  match Pattern.compile? text with
  | some pattern => ⟨focus.categories.insert category pattern⟩
  | none => focus

/-- The focus of categories and the texts of their patterns. The last pattern of a
category counts. -/
def ofPatterns (patterns : List (String × String)) : Focus :=
  patterns.foldl (fun focus entry => focus.add entry.1 entry.2) empty

/-- What is told about the texts that are no patterns. -/
def notices (patterns : List (String × String)) : List Notice :=
  patterns.filterMap fun entry =>
    if (Pattern.compile? entry.2).isSome then none else some (.skippedPattern entry.1)

/-- The category of a resource, if it is to be validated. -/
def classify (focus : Focus) (name : String) : Option String :=
  if focus.categories.isEmpty then some ""
  else
    (focus.categories.entries.find? fun entry => entry.2.occursIn name).map Prod.fst

/-- Whether there are no categories. -/
def isEmpty (focus : Focus) : Bool := focus.categories.isEmpty

/-- Number of categories. -/
def size (focus : Focus) : Nat := focus.categories.size

/-- Read members of an object that are all texts. -/
def readMembers : List (Except Flaw String × Draft) → Except DecodeError (List (String × String))
  | [] => .ok []
  | (.error flaw, _) :: _ => .error (.text flaw.read)
  | (.ok name, value) :: rest => do
      let text ← value.readString
      let texts ← readMembers rest
      return (name, text) :: texts

/-- Read the patterns of categories, where the last one of a category counts. -/
def readPatterns : Draft → Except DecodeError (SortedMap String String)
  | .object members ending => do
      let patterns ← readMembers members
      Draft.orFault (Draft.checkEnding ending)
      return .ofList patterns
  | draft => .error (draft.reject "a map")

/-- Load the focus from a file. -/
def load (tree : FileTree) (path : FilePath) : Except Failure (Focus × List Notice) := do
  let name := FilePath.display path
  let data ← (tree.read path).mapError fun error =>
    (Failure.because error.message).within ("failed to read " ++ name)
  let patterns ← (decodeText readPatterns data.toList).mapError fun error =>
    ({ outermost := .json error } : Failure).within ("failed to decode " ++ name)
  let focus := ofPatterns patterns.entries
  return (focus, notices patterns.entries ++ [.loadedFocusComponents name focus.size])

end Focus

end ManifestPolicy
