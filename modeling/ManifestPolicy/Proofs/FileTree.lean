import ManifestPolicy.FileTree.Walk

/-!
# Walking small trees

What a walk meets in a top directory that holds only files. Resolving a path and
walking recurse along links, so these are the equations by which concrete trees are
walked.
-/

namespace ManifestPolicy
namespace FileTree

/-- The path of a single dot leads to the top directory when paths start there. -/
theorem resolve_dot
    (entries : List (FileName × FileNode)) :
    ({ entries } : FileTree).resolve false [0x2E] = .ok [] := by
  have components : FilePath.components [0x2E] = [[0x2E]] := by decide
  rw [resolve, components, if_neg (by decide), if_neg (by decide), if_neg (by decide),
    if_neg (by decide)]
  simp [resolveFrom, node?, top, FileNode.descend, FilePath.isHere]

/-- A walk of a top directory that holds only files, in the order of their names, meets them
in that order. -/
theorem walk_dot_files
    {files : List (FileName × ByteArray)}
    (sorted : files.Pairwise fun left right => (compare left.1 right.1).isLE = true) :
    ({ entries := files.map fun file => (file.1, .file file.2) } : FileTree).walk [0x2E] =
      files.map fun file =>
        .ok { path := FilePath.join [0x2E] file.1, names := [file.1], data := file.2 } := by
  generalize isEntries : files.map (fun file => (file.1, FileNode.file file.2)) = entries
  have entriesSorted :
      (entries.attach.map Subtype.val).Pairwise fun left right =>
        (compare left.1 right.1).isLE = true := by
    rw [List.attach_map_subtype_val, ← isEntries, List.pairwise_map]
    exact sorted
  have inOrder : inNameOrder entries = entries.attach := by
    refine List.mergeSort_of_pairwise ?_
    exact List.pairwise_map.1 entriesSorted
  have walkEntries (walkEntry : FileName × FileNode → List Walked) :
      (entries.attach.flatMap fun entry => walkEntry entry.1) = entries.flatMap walkEntry := by
    rw [← List.flatMap_map, List.attach_map_subtype_val]
  simp only [walk, resolve_dot, node?, top, FileNode.descend, walkFrom, inOrder]
  refine (walkEntries fun entry =>
    walkFrom _ _ [entry.1] (FilePath.join [0x2E] entry.1) [entry.1] entry.2).trans ?_
  rw [← isEntries, List.flatMap_map]
  simp only [walkFrom]
  exact List.map_eq_flatMap.symm

/-- A walk of a top directory with one file meets that file. -/
theorem walk_dot_file
    (name : FileName)
    (data : ByteArray) :
    ({ entries := [(name, .file data)] } : FileTree).walk [0x2E] =
      [.ok { path := FilePath.join [0x2E] name, names := [name], data }] :=
  walk_dot_files (List.pairwise_singleton _ (name, data))

end FileTree
end ManifestPolicy
