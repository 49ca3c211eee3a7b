import ManifestPolicy.Text.Utf8

/-!
# File trees

A file system as a value: files, directories and symbolic links under one top
directory, with names that are arbitrary bytes. The contents of a file may be out of
reach, and so may those of a directory. Paths are resolved component by component, and
links are followed up to a limit.
-/

namespace ManifestPolicy

/-- The name of a directory entry. -/
abbrev FileName := List UInt8

/-- A path as it is written. -/
abbrev FilePath := List UInt8

/-- Why a file system call fails. -/
inductive FileError
  | notFound
  | permissionDenied
  | notDirectory
  | isDirectory
  | nameTooLong
  | tooManyLinks
  | zeroInName
  deriving DecidableEq, Repr

/-- The wording of a file system error. -/
def FileError.message : FileError → String
  | .notFound => "No such file or directory (os error 2)"
  | .permissionDenied => "Permission denied (os error 13)"
  | .notDirectory => "Not a directory (os error 20)"
  | .isDirectory => "Is a directory (os error 21)"
  | .nameTooLong => "File name too long (os error 36)"
  | .tooManyLinks => "Too many levels of symbolic links (os error 40)"
  | .zeroInName => "file name contained an unexpected NUL byte"

/-- What a name in a directory stands for. -/
inductive FileNode
  | file (data : ByteArray)
  /-- A file whose contents cannot be read. -/
  | unreadable (error : FileError)
  | directory (entries : List (FileName × FileNode))
  /-- A directory in which nothing can be listed or looked up. -/
  | sealed (error : FileError)
  | link (target : FilePath)
  deriving Inhabited

namespace FilePath

/-- The byte between the components of a path. -/
def separator : UInt8 := 0x2F

/-- The components of a path; one that is empty or a dot names the directory it
is looked up in. -/
def components (path : FilePath) : List FileName := path.splitOn separator

/-- Whether a path starts at the top directory. -/
def isAbsolute (path : FilePath) : Bool := path.head? == some separator

/-- Whether a component names the directory it is looked up in. -/
def isHere (name : FileName) : Bool := name == [] || name == [0x2E]

/-- Whether a component names the directory above. -/
def isUp (name : FileName) : Bool := name == [0x2E, 0x2E]

/-- The path of an entry of a directory. -/
def join (directory : FilePath) (name : FileName) : FilePath :=
  if directory = [] then name
  else if directory.getLast? = some separator then directory ++ name
  else directory ++ separator :: name

/-- The text of a path, with U+FFFD in the place of bytes that are no text. -/
def display (path : FilePath) : String := Utf8.lossy path

/-- The last component of a path that names an entry. -/
def fileName? (path : FilePath) : Option FileName :=
  match (components path).reverse.dropWhile isHere with
  | [] => none
  | name :: _ => if isUp name then none else some name

/-- What follows the last dot of a name, unless the name starts with that dot. -/
def extension? (name : FileName) : Option (List UInt8) :=
  let after := name.reverse.takeWhile (· != 0x2E)
  if after.length + 1 < name.length then some after.reverse else none

end FilePath

/-- A file system: its top directory and the directory in which relative paths
start. -/
structure FileTree where
  entries : List (FileName × FileNode) := []
  workingDirectory : List FileName := []
  deriving Inhabited

namespace FileNode

/-- The entry of a directory. -/
def child? (name : FileName) : FileNode → Option FileNode
  | .directory entries => (entries.find? fun entry => entry.1 == name).map Prod.snd
  | _ => none

/-- The entries that result when a node is put under a path, where directories
on the way are made and a node that stood there is replaced. -/
def putIn (entries : List (FileName × FileNode)) (node : FileNode) :
    List FileName → List (FileName × FileNode)
  | [] => entries
  | [name] =>
      match node, entries.lookup name with
      | .directory [], some (.directory _) => entries
      | _, _ => (entries.filter fun entry => entry.1 != name) ++ [(name, node)]
  | name :: rest =>
      let inner :=
        match entries.lookup name with
        | some (.directory inner) => inner
        | _ => []
      (entries.filter fun entry => entry.1 != name)
        ++ [(name, .directory (putIn inner node rest))]

/-- The node at the end of a list of names, without following links. -/
def descend (node : FileNode) : List FileName → Option FileNode
  | [] => some node
  | name :: rest => (node.child? name).bind fun inner => descend inner rest

end FileNode

namespace FileTree

/-- The top directory. -/
def top (tree : FileTree) : FileNode := .directory tree.entries

/-- Put a node under a path from the top directory. -/
def put (tree : FileTree) (path : List FileName) (node : FileNode) : FileTree :=
  { tree with entries := FileNode.putIn tree.entries node path }

/-- The node at a location. -/
def node? (tree : FileTree) (location : List FileName) : Option FileNode :=
  tree.top.descend location

/-- The greatest number of links followed in one path. -/
def linkLimit : Nat := 40

/-- The greatest length of a name. -/
def nameLimit : Nat := 255

/-- The greatest length of a path. -/
def pathLimit : Nat := 4095

/-- Resolve the components of a path from a directory. The last component is
followed only on request. Empty components are passed over without a lookup, so that
they may also follow the name of a sealed directory. -/
def resolveFrom
    (tree : FileTree)
    (followLast : Bool)
    (links : Nat)
    (location : List FileName)
    (rest : List FileName) : Except FileError (List FileName) :=
  match rest with
  | [] => .ok location
  | name :: later =>
      match tree.node? location with
      | some (.directory entries) =>
          if FilePath.isHere name then tree.resolveFrom followLast links location later
          else if FilePath.isUp name then
            tree.resolveFrom followLast links location.dropLast later
          else if nameLimit < name.length then .error .nameTooLong
          else
            match entries.lookup name with
            | none => .error .notFound
            | some (.link target) =>
                if later = [] ∧ followLast = false then .ok (location ++ [name])
                else
                  match links with
                  | 0 => .error .tooManyLinks
                  | links + 1 =>
                      tree.resolveFrom followLast links
                        (if FilePath.isAbsolute target then [] else location)
                        (FilePath.components target ++ later)
            | some _ => tree.resolveFrom followLast links (location ++ [name]) later
      | some (.sealed error) =>
          if name = [] then tree.resolveFrom followLast links location later
          else .error error
      | _ => .error .notDirectory
termination_by (links, rest.length)

/-- The location a path leads to. -/
def resolve
    (tree : FileTree)
    (followLast : Bool)
    (path : FilePath) : Except FileError (List FileName) :=
  if path.contains 0 then .error .zeroInName
  else if path = [] then .error .notFound
  else if pathLimit < path.length then .error .nameTooLong
  else
    tree.resolveFrom followLast linkLimit
      (if FilePath.isAbsolute path then [] else tree.workingDirectory)
      (FilePath.components path)

/-- The contents of the file a path leads to. -/
def read (tree : FileTree) (path : FilePath) : Except FileError ByteArray := do
  let location ← tree.resolve true path
  match tree.node? location with
  | some (.file data) => .ok data
  | some (.unreadable error) => .error error
  | some (.directory _) => .error .isDirectory
  | some (.sealed error) => .error error
  | _ => .error .notFound

/-- The locations of the directories at and below a node that are not sealed. -/
def directoriesBelow (location : List FileName) : FileNode → List (List FileName)
  | .file _ => []
  | .unreadable _ => []
  | .sealed _ => []
  | .link _ => []
  | .directory entries =>
      location :: entries.attach.flatMap fun ⟨(name, node), _⟩ =>
        directoriesBelow (location ++ [name]) node
termination_by node => sizeOf node
decreasing_by
  rename_i present
  have smaller := List.sizeOf_lt_of_mem present
  simp only [Prod.mk.sizeOf_spec] at smaller
  simp only [FileNode.directory.sizeOf_spec]
  omega

/-- The locations of all directories that are not sealed. -/
def directories (tree : FileTree) : List (List FileName) := directoriesBelow [] tree.top

end FileTree

end ManifestPolicy
