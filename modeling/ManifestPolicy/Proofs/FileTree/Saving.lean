import ManifestPolicy.Proofs.FileTree.Resolving

/-!
# Saving files

New files are saved in a directory one after the other. Everything that stood in the tree
before still stands there: paths lead where they led, and a walk that met no error meets what
it met, and otherwise only files that were saved.
-/

namespace ManifestPolicy

namespace FileNode

/-- Two nodes are the same, but for what is in them if they are directories. -/
inductive Alike : FileNode → FileNode → Prop
  | file (data : ByteArray) : Alike (.file data) (.file data)
  | unreadable (error : FileError) : Alike (.unreadable error) (.unreadable error)
  | sealed (error : FileError) : Alike (.sealed error) (.sealed error)
  | link (target : FilePath) : Alike (.link target) (.link target)
  | directory (entries others : List (FileName × FileNode)) :
      Alike (.directory entries) (.directory others)

theorem Alike.refl (node : FileNode) : node.Alike node := by
  cases node with
  | file data => exact .file data
  | unreadable error => exact .unreadable error
  | sealed error => exact .sealed error
  | link target => exact .link target
  | directory entries => exact .directory entries entries

theorem Alike.trans
    {first second third : FileNode}
    (left : first.Alike second)
    (right : second.Alike third) :
    first.Alike third := by
  cases left <;> cases right <;> constructor

/-- What stood there, or did not, may be compared over several changes. -/
theorem rel_alike_trans
    {first second third : Option FileNode}
    (left : Option.Rel Alike first second)
    (right : Option.Rel Alike second third) :
    Option.Rel Alike first third := by
  cases left with
  | none =>
      cases right
      exact .none
  | some alike =>
      cases right with
      | some alikeToo => exact .some (alike.trans alikeToo)

/-! ## One entry of a directory -/

/-- A directory after an entry has been added or replaced. -/
theorem child?_replace
    (entries : List (FileName × FileNode))
    (changed name : FileName)
    (node : FileNode) :
    (FileNode.directory
      ((entries.filter fun entry => entry.1 != changed) ++ [(changed, node)])).child? name =
      if name = changed then some node else (FileNode.directory entries).child? name := by
  rw [child?, child?, List.find?_append]
  by_cases same : name = changed
  · subst same
    have absent :
        ((entries.filter fun entry => entry.1 != name).find? fun entry => entry.1 == name) =
          none := by
      refine List.find?_eq_none.2 fun entry kept => ?_
      simpa using (List.mem_filter.1 kept).2
    rw [absent, if_pos rfl, Option.none_or, List.find?_cons_of_pos (by simp)]
    rfl
  · have others (entry : FileName × FileNode) :
        decide ((entry.1 != changed) = true ∧ (entry.1 == name) = true) =
          (entry.1 == name) := by
      by_cases isEntry : entry.1 = name <;> simp [isEntry, same]
    rw [List.find?_filter, List.find?_cons_of_neg (by simpa using Ne.symm same),
      List.find?_nil, Option.or_none, if_neg same]
    simp only [others]

/-- Only directories have anything below them. -/
theorem exists_directory_of_descend
    {node : FileNode}
    {location : List FileName}
    {entries : List (FileName × FileNode)}
    (found : node.descend location = some (.directory entries)) :
    ∃ others, node = .directory others := by
  cases location with
  | nil => exact ⟨entries, Option.some.inj found⟩
  | cons name rest =>
      obtain ⟨child, isChild, _⟩ := Option.bind_eq_some_iff.1 found
      obtain ⟨others, isDirectory, _⟩ := mem_of_child? isChild
      exact ⟨others, isDirectory⟩

/-! ## Putting a file -/

theorem putIn_file
    (entries : List (FileName × FileNode))
    (name : FileName)
    (data : ByteArray) :
    putIn entries (.file data) [name] =
      (entries.filter fun entry => entry.1 != name) ++ [(name, .file data)] := by
  rw [putIn]
  simp

/-- A node is put below a directory in the directory on the way, which stays where it is. -/
theorem putIn_below
    {entries children : List (FileName × FileNode)}
    {first : FileName}
    (isDirectory : (FileNode.directory entries).child? first = some (.directory children))
    (node : FileNode)
    (rest : List FileName)
    (name : FileName) :
    putIn entries node (first :: (rest ++ [name])) =
      (entries.filter fun entry => entry.1 != first)
        ++ [(first, .directory (putIn children node (rest ++ [name])))] := by
  rw [putIn]
  · rw [lookup_eq_child?, isDirectory]
  · simp

/-- A file that has been put in a directory stands there. -/
theorem descend_putIn_self
    {entries inner : List (FileName × FileNode)}
    {location : List FileName}
    (found : (FileNode.directory entries).descend location = some (.directory inner))
    (name : FileName)
    (data : ByteArray) :
    (FileNode.directory (putIn entries (.file data) (location ++ [name]))).descend
      (location ++ [name]) = some (.file data) := by
  induction location generalizing entries with
  | nil =>
      rw [List.nil_append, putIn_file, descend, child?_replace, if_pos rfl]
      rfl
  | cons first rest foundRest =>
      obtain ⟨child, isChild, foundBelow⟩ := Option.bind_eq_some_iff.1 found
      obtain ⟨children, rfl⟩ := exists_directory_of_descend foundBelow
      rw [List.cons_append, putIn_below isChild, descend, child?_replace, if_pos rfl]
      exact foundRest foundBelow

/-- Everything else stays as it is, but for what directories contain. -/
theorem descend_putIn_other
    {entries inner : List (FileName × FileNode)}
    {location : List FileName}
    (found : (FileNode.directory entries).descend location = some (.directory inner))
    {name : FileName}
    (isNew : inner.lookup name = none)
    (data : ByteArray)
    {place : List FileName}
    (different : place ≠ location ++ [name]) :
    Option.Rel Alike ((FileNode.directory entries).descend place)
      ((FileNode.directory (putIn entries (.file data) (location ++ [name]))).descend place) := by
  induction location generalizing entries place with
  | nil =>
      obtain rfl := FileNode.directory.inj (Option.some.inj found)
      rw [lookup_eq_child?] at isNew
      rw [List.nil_append, putIn_file]
      cases place with
      | nil => exact .some (.directory _ _)
      | cons first later =>
          rw [descend, descend, child?_replace]
          by_cases isPut : first = name
          · -- Nothing stands below the new file.
            subst isPut
            rw [if_pos rfl, isNew]
            cases later with
            | nil => exact absurd rfl different
            | cons second others => exact .none
          · rw [if_neg isPut]
            cases ((FileNode.directory entries).child? first).bind fun node =>
              node.descend later with
            | none => exact .none
            | some node => exact .some (.refl node)
  | cons first rest otherRest =>
      obtain ⟨child, isChild, foundBelow⟩ := Option.bind_eq_some_iff.1 found
      obtain ⟨children, rfl⟩ := exists_directory_of_descend foundBelow
      rw [List.cons_append, putIn_below isChild]
      cases place with
      | nil => exact .some (.directory _ _)
      | cons second later =>
          rw [descend, descend, child?_replace]
          by_cases onTheWay : second = first
          · subst onTheWay
            rw [if_pos rfl, isChild]
            refine otherRest foundBelow ?_
            rintro rfl
            exact different rfl
          · rw [if_neg onTheWay]
            cases ((FileNode.directory entries).child? second).bind fun node =>
              node.descend later with
            | none => exact .none
            | some node => exact .some (.refl node)

/-- A directory of a file system stays one when an entry is added or replaced. -/
theorem Proper.replace
    {entries : List (FileName × FileNode)}
    (proper : (FileNode.directory entries).Proper)
    {name : FileName}
    (named : name ≠ [] ∧ FilePath.separator ∉ name)
    {node : FileNode}
    (nodeProper : node.Proper) :
    (FileNode.directory
      ((entries.filter fun entry => entry.1 != name) ++ [(name, node)])).Proper := by
  cases proper with
  | directory distinct namedEntries inner =>
      refine .directory ?_ ?_ ?_
      · rw [List.map_append, List.map_singleton, List.nodup_append]
        refine ⟨distinct.sublist (List.filter_sublist.map _), List.pairwise_singleton _ _, ?_⟩
        rintro other isOther _ isName rfl
        rw [List.mem_singleton] at isName
        obtain ⟨entry, kept, isEntry⟩ := List.mem_map.1 isOther
        simpa [isEntry, isName] using (List.mem_filter.1 kept).2
      · refine List.forall_mem_append.2 ⟨?_, List.forall_mem_singleton.2 named⟩
        exact fun entry kept => namedEntries entry (List.mem_filter.1 kept).1
      · refine List.forall_mem_append.2 ⟨?_, List.forall_mem_singleton.2 nodeProper⟩
        exact fun entry kept => inner entry (List.mem_filter.1 kept).1

/-- A file system stays one when a file is put in one of its directories. -/
theorem Proper.putIn
    {entries inner : List (FileName × FileNode)}
    (proper : (FileNode.directory entries).Proper)
    {location : List FileName}
    (found : (FileNode.directory entries).descend location = some (.directory inner))
    {name : FileName}
    (named : name ≠ [] ∧ FilePath.separator ∉ name)
    (data : ByteArray) :
    (FileNode.directory (putIn entries (.file data) (location ++ [name]))).Proper := by
  induction location generalizing entries with
  | nil =>
      rw [List.nil_append, putIn_file]
      exact proper.replace named (.file data)
  | cons first rest properRest =>
      obtain ⟨child, isChild, foundBelow⟩ := Option.bind_eq_some_iff.1 found
      obtain ⟨children, rfl⟩ := exists_directory_of_descend foundBelow
      rw [List.cons_append, putIn_below isChild]
      obtain ⟨_, sameDirectory, present⟩ := mem_of_child? isChild
      obtain rfl := FileNode.directory.inj sameDirectory
      cases proper with
      | directory distinct namedEntries innerProper =>
          exact Proper.replace (.directory distinct namedEntries innerProper)
            (namedEntries _ present) (properRest (innerProper _ present) foundBelow)

end FileNode

namespace FileTree

/-- Save files in a directory, one after the other. -/
def save
    (tree : FileTree)
    (location : List FileName)
    (files : List (FileName × ByteArray)) : FileTree :=
  files.foldl (fun tree file => tree.put (location ++ [file.1]) (.file file.2)) tree

/-- What saving new files leaves: they stand in the directory, where nothing stood before,
and everything else is as it was. -/
structure Saved
    (tree saved : FileTree)
    (location : List FileName)
    (files : List (FileName × ByteArray)) : Prop where
  workingDirectory : saved.workingDirectory = tree.workingDirectory
  proper : saved.Proper
  isNew : ∀ file ∈ files, tree.node? (location ++ [file.1]) = none
  present : ∀ file ∈ files, saved.node? (location ++ [file.1]) = some (.file file.2)
  others : ∀ place, (∀ file ∈ files, place ≠ location ++ [file.1]) →
    Option.Rel FileNode.Alike (tree.node? place) (saved.node? place)

/-- In a directory that gives each name once, every entry is found under its name. -/
theorem lookup_of_mem
    {entries : List (FileName × FileNode)}
    (distinct : (entries.map Prod.fst).Nodup)
    {name : FileName}
    {node : FileNode}
    (present : (name, node) ∈ entries) :
    entries.lookup name = some node := by
  induction entries with
  | nil => contradiction
  | cons entry rest lookupRest =>
      obtain ⟨other, otherNode⟩ := entry
      rw [List.map_cons, List.nodup_cons] at distinct
      rcases List.mem_cons.1 present with same | later
      · obtain ⟨rfl, rfl⟩ := Prod.mk.inj same
        exact List.lookup_cons_self
      · have different : (name == other) = false := by
          rw [beq_eq_false_iff_ne]
          rintro rfl
          exact distinct.1 (List.mem_map.2 ⟨_, later, rfl⟩)
        rw [List.lookup_cons, different]
        exact lookupRest distinct.2 later

/-- In a file system the entries of a directory are what stands below it. -/
theorem mem_entries_iff
    {tree : FileTree}
    (proper : tree.Proper)
    {location : List FileName}
    {entries : List (FileName × FileNode)}
    (found : tree.node? location = some (.directory entries))
    {name : FileName}
    {node : FileNode} :
    (name, node) ∈ entries ↔ tree.node? (location ++ [name]) = some node := by
  rw [node?_entry found]
  cases proper.node? found with
  | directory distinct _ _ =>
      refine ⟨lookup_of_mem distinct, fun isEntry => ?_⟩
      rw [FileNode.lookup_eq_child?] at isEntry
      obtain ⟨_, sameDirectory, present⟩ := FileNode.mem_of_child? isEntry
      rwa [FileNode.directory.inj sameDirectory]

section Relation

variable
  {tree saved : FileTree}
  {location : List FileName}
  {files : List (FileName × ByteArray)}

/-- What stood in the tree before still stands there. -/
theorem Saved.node?
    (grown : Saved tree saved location files)
    {place : List FileName}
    {node : FileNode}
    (found : tree.node? place = some node) :
    ∃ other, saved.node? place = some other ∧ node.Alike other := by
  have different : ∀ file ∈ files, place ≠ location ++ [file.1] := by
    rintro file isFile rfl
    exact absurd (found.symm.trans (grown.isNew file isFile)) (by simp)
  have related := grown.others place different
  rw [found] at related
  generalize isOther : saved.node? place = other at related
  cases related with
  | some alike => exact ⟨_, rfl, alike⟩

/-- What stands at a place before and after is the same, but for the contents of directories. -/
theorem Saved.alike
    (grown : Saved tree saved location files)
    {place : List FileName}
    {node other : FileNode}
    (found : tree.node? place = some node)
    (stillFound : saved.node? place = some other) :
    node.Alike other := by
  obtain ⟨_, isOther, alike⟩ := grown.node? found
  rwa [Option.some.inj (stillFound.symm.trans isOther)]

/-- What stands in the tree afterwards stood there before, or is a file that was saved. -/
theorem Saved.node?_saved
    (grown : Saved tree saved location files)
    {place : List FileName}
    {other : FileNode}
    (found : saved.node? place = some other) :
    (∃ node, tree.node? place = some node ∧ node.Alike other)
      ∨ ∃ file ∈ files, place = location ++ [file.1] ∧ other = .file file.2 := by
  by_cases isFile : ∃ file ∈ files, place = location ++ [file.1]
  · obtain ⟨file, isFile, rfl⟩ := isFile
    rw [grown.present file isFile] at found
    exact .inr ⟨file, isFile, rfl, (Option.some.inj found).symm⟩
  · have related := grown.others place fun file present same => isFile ⟨file, present, same⟩
    rw [found] at related
    generalize isNode : tree.node? place = node at related
    cases related with
    | some alike => exact .inl ⟨_, rfl, alike⟩

end Relation

/-! ## Saving one file and then others -/

/-- To put one new file in a directory is to save it. -/
theorem saved_put
    {tree : FileTree}
    (proper : tree.Proper)
    {location : List FileName}
    {entries : List (FileName × FileNode)}
    (found : tree.node? location = some (.directory entries))
    {name : FileName}
    (named : name ≠ [] ∧ FilePath.separator ∉ name)
    (isNew : tree.node? (location ++ [name]) = none)
    (data : ByteArray) :
    Saved tree (tree.put (location ++ [name]) (.file data)) location [(name, data)] where
  workingDirectory := rfl
  proper := FileNode.Proper.putIn proper found named data
  isNew := List.forall_mem_singleton.2 isNew
  present := List.forall_mem_singleton.2 (FileNode.descend_putIn_self found name data)
  others := by
    rw [node?_entry found] at isNew
    intro place different
    exact FileNode.descend_putIn_other found isNew data (different _ List.mem_cons_self)

/-- To save no files changes nothing. -/
theorem saved_refl
    {tree : FileTree}
    (proper : tree.Proper)
    (location : List FileName) :
    Saved tree tree location [] where
  workingDirectory := rfl
  proper := proper
  isNew := List.forall_mem_nil _
  present := List.forall_mem_nil _
  others := by
    intro place _
    cases tree.node? place with
    | none => exact .none
    | some node => exact .some (.refl node)

/-- Files are saved one after the other: those saved first are still there, as they are no
directories. -/
theorem Saved.cons
    {tree between saved : FileTree}
    {location : List FileName}
    {file : FileName × ByteArray}
    {files : List (FileName × ByteArray)}
    (first : Saved tree between location [file])
    (later : Saved between saved location files) :
    Saved tree saved location (file :: files) where
  workingDirectory := later.workingDirectory.trans first.workingDirectory
  proper := later.proper
  isNew := by
    refine List.forall_mem_cons.2 ⟨first.isNew file List.mem_cons_self, ?_⟩
    intro other isFile
    rw [Option.eq_none_iff_forall_ne_some]
    intro node found
    obtain ⟨_, isBetween, _⟩ := first.node? found
    rw [later.isNew other isFile] at isBetween
    contradiction
  present := by
    refine List.forall_mem_cons.2 ⟨?_, later.present⟩
    obtain ⟨other, isOther, alike⟩ := later.node? (first.present file List.mem_cons_self)
    cases alike
    exact isOther
  others := by
    intro place notSaved
    obtain ⟨notFile, notLater⟩ := List.forall_mem_cons.1 notSaved
    exact FileNode.rel_alike_trans (first.others place (List.forall_mem_singleton.2 notFile))
      (later.others place notLater)

/-- New files with different names are saved. -/
theorem saved_save
    {tree : FileTree}
    (proper : tree.Proper)
    {location : List FileName}
    {entries : List (FileName × FileNode)}
    (found : tree.node? location = some (.directory entries))
    {files : List (FileName × ByteArray)}
    (distinct : (files.map Prod.fst).Nodup)
    (named : ∀ file ∈ files, file.1 ≠ [] ∧ FilePath.separator ∉ file.1)
    (isNew : ∀ file ∈ files, tree.node? (location ++ [file.1]) = none) :
    Saved tree (tree.save location files) location files := by
  induction files generalizing tree entries with
  | nil => exact saved_refl proper location
  | cons file files savedRest =>
      rw [List.map_cons, List.nodup_cons] at distinct
      obtain ⟨fileNamed, restNamed⟩ := List.forall_mem_cons.1 named
      obtain ⟨fileNew, restNew⟩ := List.forall_mem_cons.1 isNew
      have first := saved_put proper found fileNamed fileNew file.2
      obtain ⟨_, stillFound, alike⟩ := first.node? found
      cases alike with
      | directory _ others =>
          refine first.cons (savedRest first.proper stillFound distinct.2 restNamed ?_)
          intro other isFile
          rw [Option.eq_none_iff_forall_ne_some]
          intro node isNode
          rcases first.node?_saved isNode with ⟨_, before, _⟩ | ⟨_, isFirst, samePlace, _⟩
          · rw [restNew other isFile] at before
            contradiction
          · obtain rfl := List.mem_singleton.1 isFirst
            have sameName : other.1 = file.1 := by simpa using samePlace
            exact distinct.1 (sameName ▸ List.mem_map_of_mem isFile)

/-! ## Paths lead where they led -/

section Walking

variable
  {tree saved : FileTree}
  {location : List FileName}
  {files : List (FileName × ByteArray)}

/-- A directory stays a directory. -/
theorem Saved.node?_directory
    (grown : Saved tree saved location files)
    {place : List FileName}
    {entries : List (FileName × FileNode)}
    (found : tree.node? place = some (.directory entries)) :
    ∃ others, saved.node? place = some (.directory others) := by
  obtain ⟨_, isOther, alike⟩ := grown.node? found
  cases alike with
  | directory _ others => exact ⟨others, isOther⟩

/-- A path leads where it led, since nothing that it goes over has been replaced. -/
theorem Saved.leads
    (grown : Saved tree saved location files)
    {followLast : Bool}
    {links : Nat}
    {place rest target : List FileName}
    (leads : tree.Leads followLast links place rest target) :
    saved.Leads followLast links place rest target := by
  induction leads with
  | done links place => exact .done links place
  | here isDirectory isHere _ leadsLater =>
      obtain ⟨_, stillDirectory⟩ := grown.node?_directory isDirectory
      exact .here stillDirectory isHere leadsLater
  | pass isSealed _ leadsLater =>
      obtain ⟨_, stillSealed, alike⟩ := grown.node? isSealed
      cases alike
      exact .pass stillSealed leadsLater
  | up isDirectory notHere isUp _ leadsLater =>
      obtain ⟨_, stillDirectory⟩ := grown.node?_directory isDirectory
      exact .up stillDirectory notHere isUp leadsLater
  | entry entryName found notLink _ leadsLater =>
      obtain ⟨_, stillFound, alike⟩ := grown.node? found
      refine .entry entryName stillFound ?_ leadsLater
      rintro path rfl
      cases alike
      exact notLink path rfl
  | link entryName found followed _ leadsLater =>
      obtain ⟨_, stillFound, alike⟩ := grown.node? found
      cases alike
      exact .link entryName stillFound followed leadsLater
  | last entryName found notFollowed =>
      obtain ⟨_, stillFound, alike⟩ := grown.node? found
      cases alike
      exact .last entryName stillFound notFollowed

/-- The same of a path as it is written. -/
theorem Saved.resolve
    (grown : Saved tree saved location files)
    {followLast : Bool}
    {path : FilePath}
    {target : List FileName}
    (resolves : tree.resolve followLast path = .ok target) :
    saved.resolve followLast path = .ok target := by
  obtain ⟨usable, leads⟩ := resolve_eq_ok_iff.1 resolves
  rw [resolve_eq_ok_iff, grown.workingDirectory]
  exact ⟨usable, grown.leads leads⟩

/-! ## A walk meets what it met -/

/-- A file that was saved, wherever it is met. -/
inductive NewFile (files : List (FileName × ByteArray)) : Walked → Prop
  | met
      {file : FileName × ByteArray}
      (isFile : file ∈ files)
      (path : FilePath)
      (names : List FileName) :
      NewFile files
        (.ok { path := FilePath.join path file.1, names := names ++ [file.1], data := file.2 })

/-- A walk meets all that another walk meets, and otherwise only files that were saved. -/
structure Meets
    (files : List (FileName × ByteArray))
    (before after : List Walked) : Prop where
  kept : ∀ walked ∈ before, walked ∈ after
  added : ∀ walked ∈ after, walked ∈ before ∨ NewFile files walked

theorem meets_refl
    (files : List (FileName × ByteArray))
    (walked : List Walked) :
    Meets files walked walked :=
  ⟨fun _ => id, fun _ => .inl⟩

/-- A clear walk of a directory meets what it met when the walks of its entries do. -/
theorem Saved.meets_directory
    (grown : Saved tree saved location files)
    (proper : tree.Proper)
    {place : List FileName}
    {entries others : List (FileName × FileNode)}
    (isDirectory : tree.node? place = some (.directory entries))
    (stillDirectory : saved.node? place = some (.directory others))
    {ancestors : List (List FileName × FilePath)}
    {path : FilePath}
    {names : List FileName}
    (clear : ∀ error, .error error ∉
      tree.walkFrom ancestors place path names (.directory entries))
    (below : ∀ name inner other, (name, inner) ∈ entries →
      tree.node? (place ++ [name]) = some inner →
      saved.node? (place ++ [name]) = some other →
      (∀ error, .error error ∉
        tree.walkFrom ((place, path) :: ancestors) (place ++ [name])
          (FilePath.join path name) (names ++ [name]) inner) →
      Meets files
        (tree.walkFrom ((place, path) :: ancestors) (place ++ [name])
          (FilePath.join path name) (names ++ [name]) inner)
        (saved.walkFrom ((place, path) :: ancestors) (place ++ [name])
          (FilePath.join path name) (names ++ [name]) other)) :
    Meets files (tree.walkFrom ancestors place path names (.directory entries))
      (saved.walkFrom ancestors place path names (.directory others)) := by
  have meetsEntry name inner other
      (present : (name, inner) ∈ entries)
      (isOther : saved.node? (place ++ [name]) = some other) :=
    below name inner other present ((mem_entries_iff proper isDirectory).1 present) isOther
      fun error failed => clear error (mem_walkFrom_directory.2 ⟨name, inner, present, failed⟩)
  constructor
  · intro walked met
    obtain ⟨name, inner, present, metBelow⟩ := mem_walkFrom_directory.1 met
    obtain ⟨other, isOther, _⟩ := grown.node? ((mem_entries_iff proper isDirectory).1 present)
    refine mem_walkFrom_directory.2 ⟨name, other, ?_, ?_⟩
    · exact (mem_entries_iff grown.proper stillDirectory).2 isOther
    · exact (meetsEntry name inner other present isOther).kept walked metBelow
  · intro walked met
    obtain ⟨name, other, present, metBelow⟩ := mem_walkFrom_directory.1 met
    have isOther := (mem_entries_iff grown.proper stillDirectory).1 present
    rcases grown.node?_saved isOther with ⟨inner, isInner, _⟩ | ⟨file, isFile, samePlace, rfl⟩
    · have wasPresent := (mem_entries_iff proper isDirectory).2 isInner
      rcases (meetsEntry name inner other wasPresent isOther).added walked metBelow with old | new
      · exact .inl (mem_walkFrom_directory.2 ⟨name, inner, wasPresent, old⟩)
      · exact .inr new
    · have sameName : name = file.1 := by
        simpa using (List.append_inj' samePlace rfl).2
      subst sameName
      rw [walkFrom, List.mem_singleton] at metBelow
      subst metBelow
      exact .inr (.met isFile path names)

/-- A walk from where a walk met no error meets what that walk met. -/
theorem Saved.meets_walkFrom
    (grown : Saved tree saved location files)
    (proper : tree.Proper)
    {ancestors : List (List FileName × FilePath)}
    {place : List FileName}
    {path : FilePath}
    {names : List FileName}
    {node other : FileNode}
    (found : tree.node? place = some node)
    (stillFound : saved.node? place = some other)
    (clear : ∀ error, .error error ∉ tree.walkFrom ancestors place path names node) :
    Meets files (tree.walkFrom ancestors place path names node)
      (saved.walkFrom ancestors place path names other) := by
  -- The walk has to be clear: a link that led nowhere may lead to a file that was saved.
  fun_induction walkFrom tree ancestors place path names node generalizing other with
  | case1 =>
      cases grown.alike found stillFound
      rw [walkFrom]
      exact meets_refl _ _
  | case2 =>
      cases grown.alike found stillFound
      rw [walkFrom]
      exact meets_refl _ _
  | case3 ancestors place path names entries meetsBelow =>
      cases grown.alike found stillFound with
      | directory _ others =>
          rw [← walkFrom] at clear ⊢
          exact grown.meets_directory proper found stillFound clear
            fun name inner _ present => meetsBelow name inner present
  | case4 => exact absurd (List.mem_singleton_self _) (clear _)
  | case5 => exact absurd (List.mem_singleton_self _) (clear _)
  | case6 ancestors place path names _ target leads data isFile =>
      cases grown.alike found stillFound
      obtain ⟨_, stillFile, alike⟩ := grown.node? isFile
      cases alike
      rw [walkFrom]
      simp only [grown.resolve leads, stillFile]
      exact meets_refl _ _
  | case7 ancestors place path names _ target leads error isUnreadable =>
      cases grown.alike found stillFound
      obtain ⟨_, stillUnreadable, alike⟩ := grown.node? isUnreadable
      cases alike
      rw [walkFrom]
      simp only [grown.resolve leads, stillUnreadable]
      exact meets_refl _ _
  | case8 => exact absurd (List.mem_singleton_self _) (clear _)
  | case9 ancestors place path names _ target leads entries isDirectory notWalked _ meetsBelow =>
      cases grown.alike found stillFound
      obtain ⟨others, stillDirectory⟩ := grown.node?_directory isDirectory
      rw [walkFrom_link_directory (grown.resolve leads) stillDirectory notWalked]
      rw [← walkFrom] at clear ⊢
      exact grown.meets_directory proper isDirectory stillDirectory clear
        fun name inner _ _ => meetsBelow name inner
  | case10 ancestors place path names _ target leads entries isDirectory notWalked walked =>
      exact absurd (mem_unvisited isDirectory notWalked) walked
  | case11 => exact absurd (List.mem_singleton_self _) (clear _)
  | case12 => exact absurd (List.mem_singleton_self _) (clear _)

/-- A walk that met no error meets what it met, and otherwise only files that were saved. -/
theorem Saved.meets_walk
    (grown : Saved tree saved location files)
    (proper : tree.Proper)
    {root : FilePath}
    (clear : ∀ error, .error error ∉ tree.walk root) :
    Meets files (tree.walk root) (saved.walk root) := by
  obtain ⟨place, node, starts, isNode, isWalk⟩ := exists_start_of_clear clear
  obtain ⟨other, isOther, _⟩ := grown.node? isNode
  have savedWalk : saved.walk root = saved.walkFrom [] place root [] other := by
    simp only [walk, grown.resolve starts, isOther]
  rw [isWalk] at clear ⊢
  rw [savedWalk]
  exact grown.meets_walkFrom proper isNode isOther clear

/-- Such a walk still meets no error. -/
theorem Meets.clear
    {before after : List Walked}
    (meets : Meets files before after)
    (clear : ∀ error, .error error ∉ before) :
    ∀ error, .error error ∉ after := by
  intro error failed
  rcases meets.added _ failed with old | new
  · exact clear error old
  · cases new

/-- Every file that was saved in the directory of a walk is met. -/
theorem Saved.mem_walk
    (grown : Saved tree saved location files)
    (proper : tree.Proper)
    {root : FilePath}
    (clear : ∀ error, .error error ∉ tree.walk root)
    (leads : tree.resolve true root = .ok location)
    {entries : List (FileName × FileNode)}
    (isDirectory : tree.node? location = some (.directory entries))
    {file : FileName × ByteArray}
    (isFile : file ∈ files) :
    .ok { path := FilePath.join root file.1, names := [file.1], data := file.2 } ∈
      saved.walk root := by
  obtain ⟨place, node, starts, isNode, _⟩ := exists_start_of_clear clear
  obtain ⟨other, isOther, _⟩ := grown.node? isNode
  obtain ⟨others, stillDirectory⟩ := grown.node?_directory isDirectory
  rw [mem_walk_iff_below ((grown.meets_walk proper clear).clear clear)]
  refine below_of_entry (grown.resolve starts) isOther (grown.resolve leads) stillDirectory ?_
  exact (mem_entries_iff grown.proper stillDirectory).2 (grown.present file isFile)

end Walking

end FileTree
end ManifestPolicy
