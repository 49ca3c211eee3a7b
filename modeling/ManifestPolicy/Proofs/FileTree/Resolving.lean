import ManifestPolicy.Proofs.FileTree.Walk

/-!
# Where paths lead

A path leads from directory to directory and along links until its components are used up.
Whether a link at the end is followed makes no difference to a path that does not end at one.
-/

namespace ManifestPolicy

namespace FileNode

/-- An entry of a directory may be looked up in its list or asked of the directory. -/
theorem lookup_eq_child?
    (entries : List (FileName × FileNode))
    (name : FileName) :
    entries.lookup name = (FileNode.directory entries).child? name := by
  induction entries with
  | nil => rfl
  | cons entry rest sameRest =>
      obtain ⟨other, node⟩ := entry
      rw [List.lookup_cons, sameRest, child?, child?, List.find?_cons, Bool.beq_comm]
      cases other == name <;> rfl

/-- A location is descended to in steps. -/
theorem descend_append
    (node : FileNode)
    (location rest : List FileName) :
    node.descend (location ++ rest) =
      (node.descend location).bind fun inner => inner.descend rest := by
  induction location generalizing node with
  | nil => rfl
  | cons name location descendRest =>
      rw [List.cons_append, descend, descend]
      cases node.child? name with
      | none => rfl
      | some inner => exact descendRest inner

end FileNode

namespace FileTree

/-- What stands below a directory are its entries. -/
theorem node?_entry
    {tree : FileTree}
    {location : List FileName}
    {entries : List (FileName × FileNode)}
    (found : tree.node? location = some (.directory entries))
    (name : FileName) :
    tree.node? (location ++ [name]) = entries.lookup name := by
  rw [node?] at found ⊢
  rw [FileNode.descend_append, found, FileNode.lookup_eq_child?, Option.bind_some,
    FileNode.descend]
  cases (FileNode.directory entries).child? name <;> rfl

/-- Only directories that are not sealed have anything below them. -/
theorem exists_directory_of_entry
    {tree : FileTree}
    {location : List FileName}
    {name : FileName}
    {node : FileNode}
    (found : tree.node? (location ++ [name]) = some node) :
    ∃ entries, tree.node? location = some (.directory entries) := by
  rw [node?, FileNode.descend_append] at found
  obtain ⟨inner, isInner, foundBelow⟩ := Option.bind_eq_some_iff.1 found
  obtain ⟨child, isChild, _⟩ := Option.bind_eq_some_iff.1 foundBelow
  obtain ⟨entries, rfl, _⟩ := FileNode.mem_of_child? isChild
  exact ⟨entries, isInner⟩

/-- A component that names an entry of a directory. -/
structure EntryName (name : FileName) : Prop where
  notHere : FilePath.isHere name = false
  notUp : FilePath.isUp name = false
  short : name.length ≤ nameLimit

/-- The components of a path lead from a place to another, with a number of links that may
still be followed. -/
inductive Leads (tree : FileTree) (followLast : Bool) :
    Nat → List FileName → List FileName → List FileName → Prop
  | done (links : Nat) (place : List FileName) : Leads tree followLast links place [] place
  | here
      {links : Nat}
      {place rest target : List FileName}
      {name : FileName}
      {entries : List (FileName × FileNode)}
      (isDirectory : tree.node? place = some (.directory entries))
      (isHere : FilePath.isHere name = true)
      (later : Leads tree followLast links place rest target) :
      Leads tree followLast links place (name :: rest) target
  /-- An empty component is passed over also where nothing can be looked up. -/
  | pass
      {links : Nat}
      {place rest target : List FileName}
      {error : FileError}
      (isSealed : tree.node? place = some (.sealed error))
      (later : Leads tree followLast links place rest target) :
      Leads tree followLast links place ([] :: rest) target
  | up
      {links : Nat}
      {place rest target : List FileName}
      {name : FileName}
      {entries : List (FileName × FileNode)}
      (isDirectory : tree.node? place = some (.directory entries))
      (notHere : FilePath.isHere name = false)
      (isUp : FilePath.isUp name = true)
      (later : Leads tree followLast links place.dropLast rest target) :
      Leads tree followLast links place (name :: rest) target
  | entry
      {links : Nat}
      {place rest target : List FileName}
      {name : FileName}
      {node : FileNode}
      (entryName : EntryName name)
      (found : tree.node? (place ++ [name]) = some node)
      (notLink : ∀ path, node ≠ .link path)
      (later : Leads tree followLast links (place ++ [name]) rest target) :
      Leads tree followLast links place (name :: rest) target
  | link
      {links : Nat}
      {place rest target : List FileName}
      {name : FileName}
      {path : FilePath}
      (entryName : EntryName name)
      (found : tree.node? (place ++ [name]) = some (.link path))
      (followed : rest = [] → followLast = true)
      (later : Leads tree followLast links (if FilePath.isAbsolute path then [] else place)
        (FilePath.components path ++ rest) target) :
      Leads tree followLast (links + 1) place (name :: rest) target
  | last
      {links : Nat}
      {place : List FileName}
      {name : FileName}
      {path : FilePath}
      (entryName : EntryName name)
      (found : tree.node? (place ++ [name]) = some (.link path))
      (notFollowed : followLast = false) :
      Leads tree followLast links place [name] (place ++ [name])

section Resolving

variable
  {tree : FileTree}
  {followLast : Bool}
  {links : Nat}
  {place rest target : List FileName}

/-- A path that is resolved leads from place to place: one constructor for each way in which the
resolution goes on. -/
theorem leads_of_resolveFrom
    (resolves : tree.resolveFrom followLast links place rest = .ok target) :
    tree.Leads followLast links place rest target := by
  fun_induction resolveFrom tree followLast links place rest with
  | case1 links place =>
      obtain rfl := Except.ok.inj resolves
      exact .done links place
  | case2 links place name rest entries isDirectory isHere leadsLater =>
      exact .here isDirectory isHere (leadsLater resolves)
  | case3 links place name rest entries isDirectory notHere isUp leadsLater =>
      exact .up isDirectory (Bool.eq_false_iff.2 notHere) isUp (leadsLater resolves)
  | case4 => contradiction
  | case5 => contradiction
  | case6 links place name rest entries isDirectory notHere notUp short path isLink atEnd =>
      obtain ⟨rfl, notFollowed⟩ := atEnd
      obtain rfl := Except.ok.inj resolves
      rw [← node?_entry isDirectory] at isLink
      exact .last ⟨Bool.eq_false_iff.2 notHere, Bool.eq_false_iff.2 notUp, Nat.not_lt.1 short⟩
        isLink notFollowed
  | case7 => contradiction
  | case8 place name rest entries isDirectory notHere notUp short path isLink goesOn links
      leadsLater =>
      rw [← node?_entry isDirectory] at isLink
      have followed : rest = [] → followLast = true := by simpa using goesOn
      exact .link ⟨Bool.eq_false_iff.2 notHere, Bool.eq_false_iff.2 notUp, Nat.not_lt.1 short⟩
        isLink followed (leadsLater resolves)
  | case9 links place name rest entries isDirectory notHere notUp short node notLink isEntry
      leadsLater =>
      rw [← node?_entry isDirectory] at isEntry
      exact .entry ⟨Bool.eq_false_iff.2 notHere, Bool.eq_false_iff.2 notUp, Nat.not_lt.1 short⟩
        isEntry notLink (leadsLater resolves)
  | case10 links place rest error isSealed leadsLater => exact .pass isSealed (leadsLater resolves)
  | case11 => contradiction
  | case12 => contradiction

/-- A path that leads somewhere is resolved as that place. -/
theorem Leads.resolveFrom
    (leads : tree.Leads followLast links place rest target) :
    tree.resolveFrom followLast links place rest = .ok target := by
  induction leads with
  | done => rw [FileTree.resolveFrom]
  | here isDirectory isHere _ resolvesLater =>
      rw [FileTree.resolveFrom]
      simp only [isDirectory, isHere, if_true, resolvesLater]
  | pass isSealed _ resolvesLater =>
      rw [FileTree.resolveFrom]
      simp only [isSealed, if_true, resolvesLater]
  | up isDirectory notHere isUp _ resolvesLater =>
      rw [FileTree.resolveFrom]
      simp [isDirectory, notHere, isUp, resolvesLater]
  | @entry links place rest target name node entryName found notLink _ resolvesLater =>
      obtain ⟨entries, isDirectory⟩ := exists_directory_of_entry found
      rw [node?_entry isDirectory] at found
      rw [FileTree.resolveFrom]
      cases node with
      | link path => exact absurd rfl (notLink path)
      | file | unreadable | directory | sealed =>
          simp [isDirectory, entryName.notHere, entryName.notUp, entryName.short, found,
            resolvesLater]
  | @link links place rest target name path entryName found followed _ resolvesLater =>
      obtain ⟨entries, isDirectory⟩ := exists_directory_of_entry found
      rw [node?_entry isDirectory] at found
      have goesOn : ¬(rest = [] ∧ followLast = false) := by simpa using followed
      rw [FileTree.resolveFrom]
      simp [isDirectory, entryName.notHere, entryName.notUp, entryName.short, found, goesOn,
        resolvesLater]
  | last entryName found notFollowed =>
      obtain ⟨entries, isDirectory⟩ := exists_directory_of_entry found
      rw [node?_entry isDirectory] at found
      rw [FileTree.resolveFrom]
      simp [isDirectory, entryName.notHere, entryName.notUp, entryName.short, found, notFollowed]

/-- A path that does not end at a link leads to the same place when links at the end are
followed. -/
theorem Leads.follow
    (leads : tree.Leads false links place rest target)
    (notLink : ∀ path, tree.node? target ≠ some (.link path)) :
    tree.Leads true links place rest target := by
  induction leads with
  | done links place => exact .done links place
  | here isDirectory isHere _ leadsLater => exact .here isDirectory isHere (leadsLater notLink)
  | pass isSealed _ leadsLater => exact .pass isSealed (leadsLater notLink)
  | up isDirectory notHere isUp _ leadsLater =>
      exact .up isDirectory notHere isUp (leadsLater notLink)
  | entry entryName found isNoLink _ leadsLater =>
      exact .entry entryName found isNoLink (leadsLater notLink)
  | link entryName found followed _ leadsLater =>
      exact .link entryName found (fun _ => rfl) (leadsLater notLink)
  | last entryName found notFollowed => exact absurd found (notLink _)

/-- A path leads somewhere when it can be looked up and its components lead there. -/
theorem resolve_eq_ok_iff
    {path : FilePath} :
    tree.resolve followLast path = .ok target ↔
      (0 ∉ path ∧ path ≠ [] ∧ path.length ≤ pathLimit)
        ∧ tree.Leads followLast linkLimit
          (if FilePath.isAbsolute path then [] else tree.workingDirectory)
          (FilePath.components path) target := by
  rw [resolve]
  constructor
  · intro resolves
    split at resolves
    · contradiction
    next noZero =>
      split at resolves
      · contradiction
      next notEmpty =>
        split at resolves
        · contradiction
        next notLong =>
          refine ⟨⟨by simpa using noZero, notEmpty, Nat.not_lt.1 notLong⟩, ?_⟩
          exact leads_of_resolveFrom resolves
  · rintro ⟨⟨noZero, notEmpty, short⟩, leads⟩
    rw [if_neg (by simpa using noZero), if_neg notEmpty, if_neg (Nat.not_lt.2 short)]
    exact leads.resolveFrom

/-- To follow a link at the end makes no difference where there is none. -/
theorem resolve_follow
    {path : FilePath}
    (resolves : tree.resolve false path = .ok target)
    (notLink : ∀ path, tree.node? target ≠ some (.link path)) :
    tree.resolve true path = .ok target := by
  obtain ⟨usable, leads⟩ := resolve_eq_ok_iff.1 resolves
  exact resolve_eq_ok_iff.2 ⟨usable, leads.follow notLink⟩

end Resolving

/-- A file in a directory that a path leads to is below that path. -/
theorem below_of_entry
    {tree : FileTree}
    {root : FilePath}
    {place location : List FileName}
    {node : FileNode}
    (starts : tree.resolve false root = .ok place)
    (isNode : tree.node? place = some node)
    (leads : tree.resolve true root = .ok location)
    {entries : List (FileName × FileNode)}
    (isDirectory : tree.node? location = some (.directory entries))
    {name : FileName}
    {data : ByteArray}
    (present : (name, .file data) ∈ entries) :
    tree.Below root { path := FilePath.join root name, names := [name], data } := by
  have below : tree.Reaches root [] (.directory entries)
      { path := FilePath.join root name, names := [name], data } :=
    .entry present (.file _ _ data)
  refine ⟨place, node, starts, isNode, ?_⟩
  by_cases isLink : ∃ path, node = .link path
  · obtain ⟨path, rfl⟩ := isLink
    exact .link leads isDirectory below
  · have samePlace := resolve_follow starts fun path found =>
      isLink ⟨path, Option.some.inj (isNode.symm.trans found)⟩
    obtain rfl := Except.ok.inj (samePlace.symm.trans leads)
    obtain rfl := Option.some.inj (isNode.symm.trans isDirectory)
    exact below

end FileTree
end ManifestPolicy
