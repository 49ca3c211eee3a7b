import ManifestPolicy.Failure
import ManifestPolicy.FileTree.Basic

/-!
# Walking a file tree

All files at and below a path, depth first, with the entries of a directory in
the order of their names. Links are followed, so a file or directory may be met
by several names; a link back to a directory that is being walked is an error, and
so is a directory that cannot be listed. The walk goes on after an error, and a
reader stops at the first one.
-/

namespace ManifestPolicy

/-- Why an entry cannot be walked. -/
inductive WalkError
  | access (path : FilePath) (error : FileError)
  /-- A link leads to a directory that cannot be opened to be told from those being
  walked. -/
  | unopened (error : FileError)
  | loop (path ancestor : FilePath)
  deriving DecidableEq, Repr

namespace WalkError

/-- The wording of an error and of what caused it. -/
def messages : WalkError → List String
  | .access path error =>
      ["IO error for operation on " ++ FilePath.display path ++ ": " ++ error.message,
        error.message]
  | .unopened error => [error.message, error.message]
  | .loop path ancestor =>
      ["File system loop found: " ++ FilePath.display path ++ " points to an ancestor "
        ++ FilePath.display ancestor]

/-- The failure of a walk from a path. -/
def toFailure (root : FilePath) (error : WalkError) : Failure where
  outermost := .reason ("failed to walk " ++ FilePath.display root)
  causes := error.messages.map .reason

end WalkError

/-- A file met on a walk: its path, its names below the starting point, and its
contents, which are empty when something keeps them from being read. -/
structure WalkedFile where
  path : FilePath
  names : List FileName
  data : ByteArray
  fault : Option FileError := none

namespace WalkedFile

/-- The name of a file below the starting point of the walk. -/
def relativeName (file : WalkedFile) : String :=
  FilePath.display ([FilePath.separator].intercalate file.names)

/-- The extension of a file. -/
def extension? (file : WalkedFile) : Option (List UInt8) :=
  (FilePath.fileName? file.path).bind FilePath.extension?

/-- Read a file, if it can be read. -/
def contents (file : WalkedFile) : Except Failure ByteArray :=
  match file.fault with
  | none => .ok file.data
  | some error =>
      .error ((Failure.because error.message).within
        ("failed to read " ++ FilePath.display file.path))

theorem contents_of_fault
    {file : WalkedFile}
    {error : FileError}
    (faulty : file.fault = some error) :
    file.contents =
      .error ((Failure.because error.message).within
        ("failed to read " ++ FilePath.display file.path)) := by
  rw [contents, faulty]

theorem contents_of_readable
    {file : WalkedFile}
    (readable : file.fault = none) :
    file.contents = .ok file.data := by
  rw [contents, readable]

theorem contents_eq_ok_iff
    {file : WalkedFile}
    {data : ByteArray} :
    file.contents = .ok data ↔ file.fault = none ∧ file.data = data := by
  cases faulty : file.fault with
  | none => simp [contents_of_readable faulty]
  | some error => simp [contents_of_fault faulty]

end WalkedFile

/-- What a walk comes across. -/
abbrev Walked := Except WalkError WalkedFile

namespace FileTree

/-- The directories that are not being walked. -/
def unvisited (tree : FileTree) (ancestors : List (List FileName × FilePath)) :
    List (List FileName) :=
  tree.directories.filter fun location => !(ancestors.map Prod.fst).contains location

theorem unvisited_cons_length_le
    (tree : FileTree)
    (ancestor : List FileName × FilePath)
    (ancestors : List (List FileName × FilePath)) :
    (tree.unvisited (ancestor :: ancestors)).length ≤ (tree.unvisited ancestors).length := by
  unfold unvisited
  rw [← List.countP_eq_length_filter, ← List.countP_eq_length_filter]
  refine List.countP_mono_left ?_
  intro location _ unvisited
  simp_all

theorem unvisited_cons_length_lt
    {tree : FileTree}
    {location : List FileName}
    {ancestors : List (List FileName × FilePath)}
    (path : FilePath)
    (unvisited : location ∈ tree.unvisited ancestors) :
    (tree.unvisited ((location, path) :: ancestors)).length
      < (tree.unvisited ancestors).length := by
  have narrower :
      tree.unvisited ((location, path) :: ancestors) =
        (tree.unvisited ancestors).filter fun other => !(other == location) := by
    unfold FileTree.unvisited
    rw [List.filter_filter]
    refine List.filter_congr ?_
    intro other _
    simp [Bool.not_or]
  rw [narrower]
  refine Nat.lt_of_le_of_ne (List.length_filter_le _ _) ?_
  intro sameLength
  have kept := List.length_filter_eq_length_iff.1 sameLength location unvisited
  simp at kept

/-- Entries in the order of their names. -/
def inNameOrder (entries : List (FileName × FileNode)) :
    List { entry : FileName × FileNode // entry ∈ entries } :=
  entries.attach.mergeSort fun left right => (compare left.1.1 right.1.1).isLE

/-- Walk a node. `ancestors` are the directories being walked with the paths by
which they were reached, innermost first. -/
def walkFrom
    (tree : FileTree)
    (ancestors : List (List FileName × FilePath))
    (location : List FileName)
    (path : FilePath)
    (names : List FileName)
    (node : FileNode) : List Walked :=
  match node with
  | .file data => [.ok { path, names, data }]
  | .unreadable error => [.ok { path, names, data := .empty, fault := some error }]
  | .directory entries =>
      (inNameOrder entries).flatMap fun ⟨(name, inner), _⟩ =>
        tree.walkFrom ((location, path) :: ancestors) (location ++ [name])
          (FilePath.join path name) (names ++ [name]) inner
  | .sealed error => [.error (.access path error)]
  | .link _ =>
      match tree.resolve true path with
      | .error error => [.error (.access path error)]
      | .ok target =>
          match tree.node? target with
          | some (.file data) => [.ok { path, names, data }]
          | some (.unreadable error) =>
              [.ok { path, names, data := .empty, fault := some error }]
          | some (.directory entries) =>
              match ancestors.find? fun ancestor => ancestor.1 == target with
              | some ancestor => [.error (.loop path ancestor.2)]
              | none =>
                  if _unvisited : target ∈ tree.unvisited ancestors then
                    (inNameOrder entries).flatMap fun ⟨(name, inner), _⟩ =>
                      tree.walkFrom ((target, path) :: ancestors) (target ++ [name])
                        (FilePath.join path name) (names ++ [name]) inner
                  else []
          | some (.sealed error) => [.error (.unopened error)]
          | _ => [.error (.access path .notFound)]
termination_by ((tree.unvisited ancestors).length, sizeOf node)
decreasing_by
  · rename_i present
    have smaller := List.sizeOf_lt_of_mem present
    simp only [Prod.mk.sizeOf_spec] at smaller
    have narrower := tree.unvisited_cons_length_le (location, path) ancestors
    simp only [FileNode.directory.sizeOf_spec]
    rcases Nat.lt_or_eq_of_le narrower with fewer | same
    · exact .left _ _ fewer
    · rw [same]
      exact .right _ (by omega)
  · exact .left _ _ (unvisited_cons_length_lt path _unvisited)

/-- All files at and below a path. -/
def walk (tree : FileTree) (root : FilePath) : List Walked :=
  match tree.resolve false root with
  | .error error => [.error (.access root error)]
  | .ok location =>
      match tree.node? location with
      | some node => tree.walkFrom [] location root [] node
      | none => [.error (.access root .notFound)]

end FileTree

end ManifestPolicy
