import ManifestPolicy.FileTree.Walk
import ManifestPolicy.Proofs.Text.Utf8
import Mathlib.Data.List.Basic

/-!
# What a walk meets, and in which order

A walk without errors meets exactly the files that are reached through directories and
links: no directory is left out for having been seen before or for being out of reach, since
either would be an error.
In a tree whose directories give each name once, files are met in the order of their names,
read as words from the starting point on: depth first, and the entries of a directory by
name.
-/

namespace ManifestPolicy

namespace FileNode

/-- Every directory in a node gives each name once, and no name is empty or has a separator
in it. -/
inductive Proper : FileNode → Prop
  | file (data : ByteArray) : Proper (.file data)
  | unreadable (error : FileError) : Proper (.unreadable error)
  | sealed (error : FileError) : Proper (.sealed error)
  | link (target : FilePath) : Proper (.link target)
  | directory
      {entries : List (FileName × FileNode)}
      (distinct : (entries.map Prod.fst).Nodup)
      (named : ∀ entry ∈ entries, entry.1 ≠ [] ∧ FilePath.separator ∉ entry.1)
      (inner : ∀ entry ∈ entries, Proper entry.2) :
      Proper (.directory entries)

/-- What is below a node is an entry of it, and the node is a directory that is not sealed. -/
theorem mem_of_child?
    {node inner : FileNode}
    {name : FileName}
    (found : node.child? name = some inner) :
    ∃ entries, node = .directory entries ∧ (name, inner) ∈ entries := by
  cases node with
  | file data => contradiction
  | unreadable error => contradiction
  | sealed error => contradiction
  | link target => contradiction
  | directory entries =>
      obtain ⟨⟨other, stored⟩, isEntry, rfl⟩ := Option.map_eq_some_iff.1 found
      obtain rfl : other = name := by simpa using List.find?_some isEntry
      exact ⟨entries, rfl, List.mem_of_find?_eq_some isEntry⟩

/-- Everything below a directory of a file system is part of one. -/
theorem Proper.descend
    {node inner : FileNode}
    {location : List FileName}
    (proper : node.Proper)
    (found : node.descend location = some inner) :
    inner.Proper := by
  induction location generalizing node with
  | nil =>
      obtain rfl := Option.some.inj found
      exact proper
  | cons name rest descendRest =>
      obtain ⟨child, isChild, foundBelow⟩ := Option.bind_eq_some_iff.1 found
      obtain ⟨entries, rfl, present⟩ := mem_of_child? isChild
      cases proper with
      | directory _ _ properInner => exact descendRest (properInner _ present) foundBelow

end FileNode

namespace FileTree

/-- The directories of a tree are those of a file system. -/
def Proper (tree : FileTree) : Prop := tree.top.Proper

theorem Proper.node?
    {tree : FileTree}
    (proper : tree.Proper)
    {location : List FileName}
    {node : FileNode}
    (found : tree.node? location = some node) :
    node.Proper :=
  FileNode.Proper.descend proper found

/-! ## Every directory has a location -/

/-- A directory that can be descended to is among those below. -/
theorem mem_directoriesBelow
    {node : FileNode}
    {rest : List FileName}
    {entries : List (FileName × FileNode)}
    (location : List FileName)
    (found : node.descend rest = some (.directory entries)) :
    location ++ rest ∈ directoriesBelow location node := by
  induction rest generalizing node location with
  | nil =>
      obtain rfl := Option.some.inj found
      rw [directoriesBelow, List.append_nil]
      exact List.mem_cons_self
  | cons name rest memRest =>
      obtain ⟨child, isChild, foundBelow⟩ := Option.bind_eq_some_iff.1 found
      obtain ⟨siblings, rfl, present⟩ := FileNode.mem_of_child? isChild
      have below := memRest (location ++ [name]) foundBelow
      rw [List.append_assoc, List.singleton_append] at below
      rw [directoriesBelow]
      refine List.mem_cons_of_mem _ (List.mem_flatMap.2 ⟨⟨(name, child), present⟩, ?_, below⟩)
      exact List.mem_attach _ _

theorem mem_directories
    {tree : FileTree}
    {location : List FileName}
    {entries : List (FileName × FileNode)}
    (found : tree.node? location = some (.directory entries)) :
    location ∈ tree.directories :=
  mem_directoriesBelow [] found

/-- A directory that is not being walked is one that has not been visited. -/
theorem mem_unvisited
    {tree : FileTree}
    {location : List FileName}
    {entries : List (FileName × FileNode)}
    (found : tree.node? location = some (.directory entries))
    {ancestors : List (List FileName × FilePath)}
    (notWalked : (ancestors.find? fun ancestor => ancestor.1 == location) = none) :
    location ∈ tree.unvisited ancestors := by
  refine List.mem_filter.2 ⟨mem_directories found, ?_⟩
  have absent : location ∉ ancestors.map Prod.fst := by
    intro present
    obtain ⟨ancestor, isAncestor, sameLocation⟩ := List.mem_map.1 present
    exact List.find?_eq_none.1 notWalked ancestor isAncestor (by simp [sameLocation])
  simpa using absent

/-! ## The files that are reached -/

/-- A file is reached from a node through directories and links that are followed. The node
has been reached by a path, and the names are those on the way to it. -/
inductive Reaches (tree : FileTree) : FilePath → List FileName → FileNode → WalkedFile → Prop
  | file (path : FilePath) (names : List FileName) (data : ByteArray) :
      Reaches tree path names (.file data) { path, names, data }
  | unreadable (path : FilePath) (names : List FileName) (error : FileError) :
      Reaches tree path names (.unreadable error)
        { path, names, data := .empty, fault := some error }
  | entry
      {path : FilePath}
      {names : List FileName}
      {entries : List (FileName × FileNode)}
      {name : FileName}
      {inner : FileNode}
      {file : WalkedFile}
      (present : (name, inner) ∈ entries)
      (below : Reaches tree (FilePath.join path name) (names ++ [name]) inner file) :
      Reaches tree path names (.directory entries) file
  | link
      {path target : FilePath}
      {names : List FileName}
      {location : List FileName}
      {node : FileNode}
      {file : WalkedFile}
      (leads : tree.resolve true path = .ok location)
      (found : tree.node? location = some node)
      (below : Reaches tree path names node file) :
      Reaches tree path names (.link target) file

/-- A sealed directory is reached from a node as files are, through directories and links. -/
inductive ReachesSealed (tree : FileTree) : FilePath → FileNode → Prop
  | sealed (path : FilePath) (error : FileError) : ReachesSealed tree path (.sealed error)
  | entry
      {path : FilePath}
      {entries : List (FileName × FileNode)}
      {name : FileName}
      {inner : FileNode}
      (present : (name, inner) ∈ entries)
      (below : ReachesSealed tree (FilePath.join path name) inner) :
      ReachesSealed tree path (.directory entries)
  | link
      {path target : FilePath}
      {location : List FileName}
      {node : FileNode}
      (leads : tree.resolve true path = .ok location)
      (found : tree.node? location = some node)
      (below : ReachesSealed tree path node) :
      ReachesSealed tree path (.link target)

/-- The files at and below a path, at any depth. -/
def Below (tree : FileTree) (root : FilePath) (file : WalkedFile) : Prop :=
  ∃ location node, tree.resolve false root = .ok location
    ∧ tree.node? location = some node ∧ tree.Reaches root [] node file

/-- There is a sealed directory at or below a path, at any depth. -/
def SealedBelow (tree : FileTree) (root : FilePath) : Prop :=
  ∃ location node, tree.resolve false root = .ok location
    ∧ tree.node? location = some node ∧ tree.ReachesSealed root node

section Walking

variable {tree : FileTree} {file : WalkedFile}

/-- The walk of a directory meets what the walks of its entries meet. -/
theorem mem_walkFrom_directory
    {ancestors : List (List FileName × FilePath)}
    {location : List FileName}
    {path : FilePath}
    {names : List FileName}
    {entries : List (FileName × FileNode)}
    {walked : Walked} :
    walked ∈ tree.walkFrom ancestors location path names (.directory entries)
      ↔ ∃ name inner, (name, inner) ∈ entries
        ∧ walked ∈ tree.walkFrom ((location, path) :: ancestors) (location ++ [name])
          (FilePath.join path name) (names ++ [name]) inner := by
  rw [walkFrom, List.mem_flatMap]
  constructor
  · rintro ⟨⟨⟨name, inner⟩, present⟩, _, met⟩
    exact ⟨name, inner, present, met⟩
  · rintro ⟨name, inner, present, met⟩
    exact ⟨⟨(name, inner), present⟩, List.mem_mergeSort.2 (List.mem_attach _ _), met⟩

/-- What is met on a walk is reached, by the way that the walk has gone. -/
theorem reaches_of_mem_walkFrom
    {ancestors : List (List FileName × FilePath)}
    {location : List FileName}
    {path : FilePath}
    {names : List FileName}
    {node : FileNode}
    (met : .ok file ∈ tree.walkFrom ancestors location path names node) :
    tree.Reaches path names node file := by
  fun_induction walkFrom tree ancestors location path names node with
  | case1 =>
      obtain rfl := Except.ok.inj (List.mem_singleton.1 met)
      exact .file ..
  | case2 =>
      obtain rfl := Except.ok.inj (List.mem_singleton.1 met)
      exact .unreadable ..
  | case3 ancestors location path names entries reachesRest =>
      obtain ⟨⟨⟨name, inner⟩, present⟩, _, metBelow⟩ := List.mem_flatMap.1 met
      exact .entry present (reachesRest name inner present metBelow)
  | case4 => simp at met
  | case5 => simp at met
  | case6 _ _ path names _ target leads data found =>
      obtain rfl := Except.ok.inj (List.mem_singleton.1 met)
      exact .link leads found (.file ..)
  | case7 _ _ path names _ target leads error found =>
      obtain rfl := Except.ok.inj (List.mem_singleton.1 met)
      exact .link leads found (.unreadable ..)
  | case8 => simp at met
  | case9 ancestors _ path names _ target leads entries found _ _ reachesRest =>
      obtain ⟨⟨⟨name, inner⟩, present⟩, _, metBelow⟩ := List.mem_flatMap.1 met
      exact .link leads found (.entry present (reachesRest name inner metBelow))
  | case10 => simp at met
  | case11 => simp at met
  | case12 => simp at met

/-- A link to a directory that is not being walked is walked like the directory. -/
theorem walkFrom_link_directory
    {path : FilePath}
    {destination : List FileName}
    {entries : List (FileName × FileNode)}
    (leads : tree.resolve true path = .ok destination)
    (found : tree.node? destination = some (.directory entries))
    {ancestors : List (List FileName × FilePath)}
    (notWalked : (ancestors.find? fun ancestor => ancestor.1 == destination) = none)
    (location : List FileName)
    (target : FilePath)
    (names : List FileName) :
    tree.walkFrom ancestors location path names (.link target) =
      tree.walkFrom ancestors destination path names (.directory entries) := by
  conv_lhs => rw [walkFrom]
  simp only [leads, found, notWalked]
  rw [dif_pos (mem_unvisited found notWalked), walkFrom]

/-- A link that is walked without an error is walked like what it leads to. -/
theorem walkFrom_link
    {path : FilePath}
    {destination : List FileName}
    {node : FileNode}
    (leads : tree.resolve true path = .ok destination)
    (found : tree.node? destination = some node)
    {ancestors : List (List FileName × FilePath)}
    {location : List FileName}
    {target : FilePath}
    {names : List FileName}
    (clear : ∀ error, .error error ∉ tree.walkFrom ancestors location path names (.link target)) :
    tree.walkFrom ancestors location path names (.link target) =
      tree.walkFrom ancestors destination path names node := by
  cases node with
  | directory entries =>
      cases walked : ancestors.find? fun ancestor => ancestor.1 == destination with
      | some ancestor =>
          rw [walkFrom] at clear
          simp only [leads, found, walked] at clear
          exact absurd (List.mem_singleton_self _) (clear (.loop path ancestor.2))
      | none => exact walkFrom_link_directory leads found walked location target names
  | file data | unreadable error =>
      conv_lhs => rw [walkFrom]
      simp only [leads, found]
      rw [walkFrom]
  | sealed error =>
      rw [walkFrom] at clear
      simp only [leads, found] at clear
      exact absurd (List.mem_singleton_self _) (clear (.unopened error))
  | link further =>
      rw [walkFrom] at clear
      simp only [leads, found] at clear
      exact absurd (List.mem_singleton_self _) (clear (.access path .notFound))

/-- What is reached is met, unless an error is: without one, a link is walked like what it leads
to. -/
theorem mem_walkFrom_of_reaches
    {path : FilePath}
    {names : List FileName}
    {node : FileNode}
    (reaches : tree.Reaches path names node file)
    {ancestors : List (List FileName × FilePath)}
    {location : List FileName}
    (clear : ∀ error, .error error ∉ tree.walkFrom ancestors location path names node) :
    .ok file ∈ tree.walkFrom ancestors location path names node := by
  induction reaches generalizing ancestors location with
  | file path names data =>
      rw [walkFrom]
      exact List.mem_singleton_self _
  | unreadable path names error =>
      rw [walkFrom]
      exact List.mem_singleton_self _
  | @entry path names entries name inner file present below metBelow =>
      refine mem_walkFrom_directory.2 ⟨name, inner, present, metBelow ?_⟩
      intro error failed
      exact clear error (mem_walkFrom_directory.2 ⟨name, inner, present, failed⟩)
  | link leads found below metBelow =>
      have sameWalk := walkFrom_link leads found clear
      rw [sameWalk] at clear ⊢
      exact metBelow clear

/-- A walk does not pass over a sealed directory, whichever way it is reached. -/
theorem exists_error_of_reachesSealed
    {path : FilePath}
    {node : FileNode}
    (reaches : tree.ReachesSealed path node)
    (ancestors : List (List FileName × FilePath))
    (location : List FileName)
    (names : List FileName) :
    ∃ error, .error error ∈ tree.walkFrom ancestors location path names node := by
  induction reaches generalizing ancestors location names with
  | sealed path error =>
      rw [walkFrom]
      exact ⟨_, List.mem_singleton_self _⟩
  | @entry path entries name inner present below failsBelow =>
      obtain ⟨error, failed⟩ :=
        failsBelow ((location, path) :: ancestors) (location ++ [name]) (names ++ [name])
      exact ⟨error, mem_walkFrom_directory.2 ⟨name, inner, present, failed⟩⟩
  | link leads found below failsBelow =>
      -- If the link were walked without an error, then like the node that it leads to.
      by_contra clear
      rw [not_exists] at clear
      obtain ⟨error, failed⟩ := failsBelow ancestors _ names
      rw [← walkFrom_link leads found clear] at failed
      exact clear error failed

/-- A walk without errors starts at a node. -/
theorem exists_start_of_clear
    {root : FilePath}
    (clear : ∀ error, .error error ∉ tree.walk root) :
    ∃ place node, tree.resolve false root = .ok place ∧ tree.node? place = some node
      ∧ tree.walk root = tree.walkFrom [] place root [] node := by
  unfold walk at clear ⊢
  cases starts : tree.resolve false root with
  | error error =>
      simp only [starts] at clear
      exact absurd (List.mem_singleton_self _) (clear (.access root error))
  | ok place =>
      cases isNode : tree.node? place with
      | none =>
          simp only [starts, isNode] at clear
          exact absurd (List.mem_singleton_self _) (clear (.access root .notFound))
      | some node => exact ⟨place, node, rfl, isNode, by simp only [isNode]⟩

/-- A walk without errors meets exactly the files at and below its starting point. -/
theorem mem_walk_iff_below
    {root : FilePath}
    (clear : ∀ error, .error error ∉ tree.walk root) :
    .ok file ∈ tree.walk root ↔ tree.Below root file := by
  obtain ⟨location, node, starts, found, isWalk⟩ := exists_start_of_clear clear
  rw [isWalk] at clear ⊢
  constructor
  · exact fun met => ⟨location, node, starts, found, reaches_of_mem_walkFrom met⟩
  · rintro ⟨other, otherNode, alsoStarts, foundOther, reaches⟩
    obtain rfl := Except.ok.inj (starts.symm.trans alsoStarts)
    obtain rfl := Option.some.inj (found.symm.trans foundOther)
    exact mem_walkFrom_of_reaches reaches clear

/-- Nothing is sealed where a walk meets no error. -/
theorem not_sealedBelow_of_clear
    {root : FilePath}
    (clear : ∀ error, .error error ∉ tree.walk root) :
    ¬ tree.SealedBelow root := by
  rintro ⟨location, node, starts, found, reaches⟩
  obtain ⟨other, otherNode, alsoStarts, foundOther, isWalk⟩ := exists_start_of_clear clear
  obtain rfl := Except.ok.inj (starts.symm.trans alsoStarts)
  obtain rfl := Option.some.inj (found.symm.trans foundOther)
  obtain ⟨error, failed⟩ := exists_error_of_reachesSealed reaches [] location []
  rw [isWalk] at clear
  exact clear error failed

end Walking

/-! ## The order of a walk -/

/-- The entries of a directory are walked in the order of their names. -/
theorem inNameOrder_sorted
    {entries : List (FileName × FileNode)}
    (distinct : (entries.map Prod.fst).Nodup) :
    (inNameOrder entries).Pairwise fun left right => compare left.1.1 right.1.1 = .lt := by
  have sorted : (inNameOrder entries).Pairwise fun left right =>
      (compare left.1.1 right.1.1).isLE = true := by
    refine List.pairwise_mergeSort ?_ ?_ _
    · exact fun _ _ _ => Std.TransCmp.isLE_trans
    · intro left right
      cases order : compare left.1.1 right.1.1 with
      | lt => rfl
      | eq => rfl
      | gt => simp [Std.OrientedCmp.gt_iff_lt.1 order]
  have different : (inNameOrder entries).Pairwise fun left right => left.1.1 ≠ right.1.1 := by
    have names :
        ((inNameOrder entries).map fun entry => entry.1.1).Perm (entries.map Prod.fst) := by
      have attached := (List.mergeSort_perm entries.attach fun left right =>
        (compare left.1.1 right.1.1).isLE).map fun entry => entry.1.1
      rwa [List.attach_map_val (f := Prod.fst)] at attached
    exact List.pairwise_map.1 (names.nodup_iff.2 distinct)
  refine (sorted.and different).imp ?_
  rintro left right ⟨notAfter, differ⟩
  cases order : compare left.1.1 right.1.1 with
  | lt => rfl
  | eq => exact absurd (Std.LawfulEqCmp.eq_of_compare order) differ
  | gt => simp [order] at notAfter

/-- The names of a file that is reached go on from those of the node. -/
theorem Reaches.names
    {tree : FileTree}
    {path : FilePath}
    {names : List FileName}
    {node : FileNode}
    {file : WalkedFile}
    (reaches : tree.Reaches path names node file) :
    ∃ below, file.names = names ++ below := by
  induction reaches with
  | file path names data => exact ⟨[], (List.append_nil _).symm⟩
  | unreadable path names error => exact ⟨[], (List.append_nil _).symm⟩
  | @entry path names entries name inner file present _ namesBelow =>
      obtain ⟨below, sameNames⟩ := namesBelow
      exact ⟨name :: below, by rw [sameNames, List.append_assoc, List.singleton_append]⟩
  | link _ _ _ namesBelow => exact namesBelow

/-- The names of a file that is reached in a file system are names of entries. -/
theorem Reaches.named
    {tree : FileTree}
    (proper : tree.Proper)
    {path : FilePath}
    {names : List FileName}
    {node : FileNode}
    (nodeProper : node.Proper)
    {file : WalkedFile}
    (reaches : tree.Reaches path names node file)
    (named : ∀ name ∈ names, name ≠ [] ∧ FilePath.separator ∉ name) :
    ∀ name ∈ file.names, name ≠ [] ∧ FilePath.separator ∉ name := by
  induction reaches with
  | file => exact named
  | unreadable => exact named
  | entry present _ namedBelow =>
      cases nodeProper with
      | directory _ namedEntries inner =>
          refine namedBelow (inner _ present) (List.forall_mem_append.2 ⟨named, ?_⟩)
          exact List.forall_mem_singleton.2 (namedEntries _ present)
  | link _ found _ namedBelow => exact namedBelow (proper.node? found) named

/-- The names of a file that is met are names of entries. -/
theorem named_of_mem_walk
    {tree : FileTree}
    (proper : tree.Proper)
    {root : FilePath}
    {file : WalkedFile}
    (met : .ok file ∈ tree.walk root) :
    ∀ name ∈ file.names, name ≠ [] ∧ FilePath.separator ∉ name := by
  unfold walk at met
  split at met
  · simp at met
  · split at met
    next node found =>
      exact (reaches_of_mem_walkFrom met).named proper (proper.node? found)
        (List.forall_mem_nil _)
    next => simp at met

/-- Of two files that are met on a walk, the first has the lesser names. -/
def Precedes (left right : Walked) : Prop :=
  ∀ file other, left = .ok file → right = .ok other → compare file.names other.names = .lt

/-- The walks of the entries of a directory, one after the other, are in order when each of
them is. -/
theorem pairwise_flatMap_inNameOrder
    {entries : List (FileName × FileNode)}
    (distinct : (entries.map Prod.fst).Nodup)
    (names : List FileName)
    {walk : { entry : FileName × FileNode // entry ∈ entries } → List Walked}
    (each : ∀ entry, (walk entry).Pairwise Precedes)
    (named :
      ∀ entry file, .ok file ∈ walk entry →
        ∃ below, file.names = names ++ [entry.1.1] ++ below) :
    ((inNameOrder entries).flatMap walk).Pairwise Precedes := by
  refine List.pairwise_flatMap.2 ⟨fun entry _ => each entry, ?_⟩
  refine (inNameOrder_sorted distinct).imp ?_
  rintro left right before _ met _ otherMet file other rfl rfl
  obtain ⟨below, sameNames⟩ := named left file met
  obtain ⟨otherBelow, sameOtherNames⟩ := named right other otherMet
  rw [sameNames, sameOtherNames, List.append_assoc, List.append_assoc,
    Utf8.compare_append_left, List.singleton_append, List.singleton_append,
    List.compare_cons_cons, before]
  rfl

/-- The entries of a directory are walked in the order of their names, and what is below an entry
begins with its name. -/
theorem pairwise_walkFrom
    {tree : FileTree}
    (proper : tree.Proper)
    {ancestors : List (List FileName × FilePath)}
    {location : List FileName}
    {path : FilePath}
    {names : List FileName}
    {node : FileNode}
    (nodeProper : node.Proper) :
    (tree.walkFrom ancestors location path names node).Pairwise Precedes := by
  fun_induction walkFrom tree ancestors location path names node with
  | case1 => exact List.pairwise_singleton _ _
  | case2 => exact List.pairwise_singleton _ _
  | case3 ancestors location path names entries sortedRest =>
      cases nodeProper with
      | directory distinct _ innerProper =>
          refine pairwise_flatMap_inNameOrder distinct names ?_ ?_
          · rintro ⟨⟨name, inner⟩, present⟩
            exact sortedRest name inner present (innerProper _ present)
          · rintro ⟨⟨name, inner⟩, present⟩ file met
            exact (reaches_of_mem_walkFrom met).names
  | case4 => exact List.pairwise_singleton _ _
  | case5 => exact List.pairwise_singleton _ _
  | case6 => exact List.pairwise_singleton _ _
  | case7 => exact List.pairwise_singleton _ _
  | case8 => exact List.pairwise_singleton _ _
  | case9 ancestors _ path names _ target _ entries found _ _ sortedRest =>
      cases proper.node? found with
      | directory distinct _ innerProper =>
          refine pairwise_flatMap_inNameOrder distinct names ?_ ?_
          · rintro ⟨⟨name, inner⟩, present⟩
            exact sortedRest name inner (innerProper _ present)
          · rintro ⟨⟨name, inner⟩, present⟩ file met
            exact (reaches_of_mem_walkFrom met).names
  | case10 => exact .nil
  | case11 => exact List.pairwise_singleton _ _
  | case12 => exact List.pairwise_singleton _ _

/-- Files are met depth first, and the entries of a directory in the order of their names. -/
theorem pairwise_walk
    {tree : FileTree}
    (proper : tree.Proper)
    (root : FilePath) :
    (tree.walk root).Pairwise Precedes := by
  unfold walk
  split
  · exact List.pairwise_singleton _ _
  · split
    next node found => exact pairwise_walkFrom proper (proper.node? found)
    next => exact List.pairwise_singleton _ _

end FileTree
end ManifestPolicy
