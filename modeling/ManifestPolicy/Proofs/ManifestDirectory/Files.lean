import ManifestPolicy.Proofs.ManifestDirectory.Partition
import Mathlib.Data.List.Forall2
import Mathlib.Data.List.Nodup
import Mathlib.Data.List.Perm.Basic

/-!
# One request for each file

Without a focus, a request carries the documents of the files that are displayed by its name.
Displaying a path loses the bytes that are no text, so that two files may be displayed alike.
They share a request then, and requests and files correspond one to one only if no two files
are displayed alike, as is the case when all names are texts.
-/

namespace ManifestPolicy

/-! ## Displaying a file -/

namespace WalkedFile

/-- Names that hold no separator are told apart after joining. -/
theorem names_eq_of_intercalate
    {left right : List FileName}
    (leftNamed : ∀ name ∈ left, name ≠ [] ∧ FilePath.separator ∉ name)
    (rightNamed : ∀ name ∈ right, name ≠ [] ∧ FilePath.separator ∉ name)
    (same : [FilePath.separator].intercalate left = [FilePath.separator].intercalate right) :
    left = right := by
  -- Splitting undoes joining, but for no names at all: they are joined like one empty name.
  have split {names : List FileName}
      (named : ∀ name ∈ names, name ≠ [] ∧ FilePath.separator ∉ name) :
      names = if [FilePath.separator].intercalate names = [] then []
        else ([FilePath.separator].intercalate names).splitOn FilePath.separator := by
    cases names with
    | nil => rfl
    | cons name rest =>
        have parts := List.splitOn_intercalate FilePath.separator
          (fun name present => (named name present).2) (List.cons_ne_nil name rest)
        rw [if_neg, parts]
        intro empty
        rw [empty] at parts
        exact (named name List.mem_cons_self).1 (List.cons.inj parts).1.symm
  rw [split leftNamed, split rightNamed, same]

theorem exists_encode_of_intercalate
    {names : List FileName}
    (texts : ∀ name ∈ names, ∃ text, name = Utf8.encode text) :
    ∃ text, [FilePath.separator].intercalate names = Utf8.encode text := by
  induction names with
  | nil => exact ⟨"", by decide +kernel⟩
  | cons name rest encodeRest =>
      obtain ⟨⟨text, rfl⟩, restTexts⟩ := List.forall_mem_cons.1 texts
      obtain ⟨below, isBelow⟩ := encodeRest restTexts
      cases rest with
      | nil => exact ⟨text, List.intercalate_singleton⟩
      | cons next others =>
          refine ⟨text ++ ("/" ++ below), ?_⟩
          have slash : [FilePath.separator] = Utf8.encode "/" := by decide +kernel
          rw [List.intercalate_cons_cons, isBelow, slash, Utf8.encode_append, Utf8.encode_append,
            List.append_assoc]

/-- Files whose names are texts are displayed alike only if they have the same names. -/
theorem names_eq_of_relativeName
    {left right : WalkedFile}
    (leftNamed : ∀ name ∈ left.names, name ≠ [] ∧ FilePath.separator ∉ name)
    (rightNamed : ∀ name ∈ right.names, name ≠ [] ∧ FilePath.separator ∉ name)
    (leftTexts : ∀ name ∈ left.names, ∃ text, name = Utf8.encode text)
    (rightTexts : ∀ name ∈ right.names, ∃ text, name = Utf8.encode text)
    (same : left.relativeName = right.relativeName) :
    left.names = right.names := by
  obtain ⟨leftText, isLeft⟩ := exists_encode_of_intercalate leftTexts
  obtain ⟨rightText, isRight⟩ := exists_encode_of_intercalate rightTexts
  rw [relativeName, relativeName, FilePath.display, FilePath.display, isLeft, isRight,
    Utf8.lossy_encode, Utf8.lossy_encode] at same
  refine names_eq_of_intercalate leftNamed rightNamed ?_
  rw [isLeft, isRight, same]

end WalkedFile

namespace ManifestDirectory

open Yaml

/-! ## Files with documents -/

/-- An entry met on the walk, if it is a manifest with documents. -/
def filled? : Walked → Option WalkedFile
  | .error _ => none
  | .ok file => if isManifest file ∧ valuesIn file ≠ [] then some file else none

/-- The manifests that hold documents, in the order of the walk. -/
def filled (directory : ManifestDirectory) (tree : FileTree) : List WalkedFile :=
  (tree.walk directory.root).filterMap filled?

theorem filled?_eq_some_iff
    {entry : Walked}
    {file : WalkedFile} :
    filled? entry = some file ↔ entry = .ok file ∧ isManifest file = true ∧ valuesIn file ≠ [] := by
  cases entry with
  | error error => simp [filled?]
  | ok other =>
      simp only [filled?, Option.ite_none_right_eq_some, Option.some.injEq, Except.ok.injEq]
      constructor
      · rintro ⟨holds, rfl⟩
        exact ⟨rfl, holds⟩
      · rintro ⟨rfl, holds⟩
        exact ⟨holds, rfl⟩

theorem mem_filled_iff
    {directory : ManifestDirectory}
    {tree : FileTree}
    {file : WalkedFile} :
    file ∈ directory.filled tree ↔
      .ok file ∈ tree.walk directory.root ∧ isManifest file = true ∧ valuesIn file ≠ [] := by
  unfold filled
  rw [List.mem_filterMap]
  constructor
  · rintro ⟨entry, met, isFile⟩
    obtain ⟨rfl, holds⟩ := filled?_eq_some_iff.1 isFile
    exact ⟨met, holds⟩
  · rintro ⟨met, holds⟩
    exact ⟨_, met, filled?_eq_some_iff.2 ⟨rfl, holds⟩⟩

theorem found_eq
    (directory : ManifestDirectory)
    (tree : FileTree) :
    directory.found tree =
      (directory.filled tree).flatMap fun file => (valuesIn file).map (file, ·) := by
  rw [found, filled, List.filterMap_eq_flatMap_toList, List.flatMap_assoc]
  congr 1
  funext entry
  cases entry with
  | error error => rfl
  | ok file =>
      cases manifest : isManifest file <;> by_cases none : valuesIn file = [] <;>
        simp [foundIn, filled?, manifest, none]

/-- Files that are met on a walk of a file system have different names. -/
theorem filled_names_nodup
    {directory : ManifestDirectory}
    {tree : FileTree}
    (proper : tree.Proper) :
    ((directory.filled tree).map WalkedFile.names).Nodup := by
  refine List.pairwise_map.2 (List.pairwise_filterMap.2 ?_)
  refine (FileTree.pairwise_walk proper directory.root).imp ?_
  intro left right precedes file isFile other isOther same
  obtain ⟨rfl, _⟩ := filled?_eq_some_iff.1 isFile
  obtain ⟨rfl, _⟩ := filled?_eq_some_iff.1 isOther
  have before := precedes file other rfl rfl
  rw [same] at before
  simp at before

/-- If the names of all files are texts, the files are displayed differently. -/
theorem filled_relativeName_nodup
    {directory : ManifestDirectory}
    {tree : FileTree}
    (proper : tree.Proper)
    (texts : ∀ file ∈ directory.filled tree, ∀ name ∈ file.names, ∃ text, name = Utf8.encode text) :
    ((directory.filled tree).map WalkedFile.relativeName).Nodup := by
  have different : ((directory.filled tree).map WalkedFile.names).Nodup :=
    filled_names_nodup proper
  have named (file : WalkedFile) (present : file ∈ directory.filled tree) :=
    FileTree.named_of_mem_walk proper (mem_filled_iff.1 present).1
  rw [List.nodup_map_iff_inj_on different.of_map]
  intro left leftPresent right rightPresent same
  refine List.inj_on_of_nodup_map different leftPresent rightPresent ?_
  exact WalkedFile.names_eq_of_relativeName (named left leftPresent) (named right rightPresent)
    (texts left leftPresent) (texts right rightPresent) same

/-! ## Requests -/

/-- A request carries the texts of the documents of files, in order, and of no others. -/
def Carries (request : Request) (files : List WalkedFile) : Prop :=
  ∃ texts : List String, texts.map some = (files.flatMap valuesIn).map manifestText?
    ∧ Base64.decode? request.content.data = some (separator.intercalate texts).toUTF8

/-- Requests and files correspond one to one: each request has the name of its file and carries
the documents of that file. -/
def OneToOne (requests : List Request) (files : List WalkedFile) : Prop :=
  ∃ arrangement : List WalkedFile, arrangement.Perm files
    ∧ List.Forall₂ (fun request file =>
      request.resource = file.relativeName ∧ Carries request [file]) requests arrangement

/-- Among names that differ, each is that of one file. -/
theorem filter_relativeName
    {files : List WalkedFile}
    (distinct : (files.map WalkedFile.relativeName).Nodup)
    {file : WalkedFile}
    (present : file ∈ files) :
    files.filter (·.relativeName = file.relativeName) = [file] := by
  induction files with
  | nil => contradiction
  | cons head rest filterRest =>
      obtain ⟨headDiffers, restDistinct⟩ := List.nodup_cons.1 distinct
      rcases List.mem_cons.1 present with rfl | later
      · rw [List.filter_cons_of_pos (by simp), List.filter_eq_nil_iff.2]
        intro other isOther displayed
        exact headDiffers (List.mem_map.2 ⟨other, isOther, of_decide_eq_true displayed⟩)
      · rw [List.filter_cons_of_neg, filterRest restDistinct later]
        intro displayed
        exact headDiffers (List.mem_map.2 ⟨file, later, (of_decide_eq_true displayed).symm⟩)

/-- Requests that carry the documents of the files displayed by their names correspond to the
files one to one if no two files are displayed alike, and only then. -/
theorem oneToOne_iff
    {requests : List Request}
    {files : List WalkedFile}
    (distinct : (requests.map Request.resource).Nodup)
    (named : ∀ name,
      name ∈ requests.map Request.resource ↔ name ∈ files.map WalkedFile.relativeName)
    (carries : ∀ request ∈ requests,
      Carries request (files.filter (·.relativeName = request.resource))) :
    OneToOne requests files ↔ (files.map WalkedFile.relativeName).Nodup := by
  constructor
  · rintro ⟨arrangement, permuted, each⟩
    have sameNames : requests.map Request.resource = arrangement.map WalkedFile.relativeName := by
      rw [← List.forall₂_eq_eq_eq, List.forall₂_map_left_iff, List.forall₂_map_right_iff]
      exact each.imp fun _ _ corresponds => corresponds.1
    rw [sameNames] at distinct
    exact (permuted.map _).nodup_iff.1 distinct
  · intro differently
    -- The names of the requests are those of the files in another order. The files are put into
    -- that order, too, which pairs each request with the one file displayed by its name.
    have permuted := (List.perm_ext_iff_of_nodup distinct differently).2 named
    have displayed : List.Forall₂ (fun name file => name = WalkedFile.relativeName file)
        (files.map WalkedFile.relativeName) files :=
      List.forall₂_map_left_iff.2 (List.forall₂_same.2 fun _ _ => rfl)
    obtain ⟨arrangement, matched, rearranged⟩ := List.perm_comp_forall₂ permuted displayed
    rw [List.forall₂_map_left_iff] at matched
    refine ⟨arrangement, rearranged, List.forall₂_iff_zip.2 ⟨matched.length_eq, ?_⟩⟩
    intro request file pair
    obtain ⟨isRequest, isFile⟩ := List.of_mem_zip pair
    have sameName := List.forall₂_zip matched pair
    have carried := carries request isRequest
    rw [sameName, filter_relativeName differently (rearranged.mem_iff.1 isFile)] at carried
    exact ⟨sameName, carried⟩

/-- The manifests of all bundles stay below the size limit. -/
def Fits (directory : ManifestDirectory) (tree : FileTree) : Prop :=
  ∀ documents, directory.documents tree = .ok documents →
    ∀ manifest ∈ manifests (bundle documents),
      Base64.encodedLength manifest.2.size < Request.sizeLimit

/-- Manifests below the size limit all become requests. -/
theorem resources_of_ofManifests
    {manifests : List (String × ByteArray)}
    (fit : ∀ manifest ∈ manifests, Base64.encodedLength manifest.2.size < Request.sizeLimit) :
    (Request.ofManifests manifests).1.map Request.resource = manifests.map Prod.fst := by
  have allFit : manifests.filter (fun entry => Request.fits entry.2) = manifests :=
    List.filter_eq_self.2 fun entry isEntry => decide_eq_true (fit entry isEntry)
  rw [Request.ofManifests_fst, allFit, List.map_map]
  rfl

/-- Without a focus the documents of a bundle are those of the files displayed by its name. -/
theorem map_filter_found
    {directory : ManifestDirectory}
    (unfocused : directory.focus.isEmpty = true)
    (tree : FileTree)
    (name : String) :
    ((directory.found tree).filter fun document => directory.bundleOf? document = some name).map
        Prod.snd =
      ((directory.filled tree).filter (·.relativeName = name)).flatMap valuesIn := by
  rw [found_eq]
  induction directory.filled tree with
  | nil => rfl
  | cons file rest filterRest =>
      by_cases displayed : file.relativeName = name <;>
        simpa [bundleOf?, unfocused, displayed, List.filter_map, Function.comp_def] using filterRest

section Prepared

variable
  {directory : ManifestDirectory}
  {tree : FileTree}
  {requests : List Request}

theorem resources_of_prepared
    (prepared : (directory.prepare tree).outcome = .ok requests)
    (fits : directory.Fits tree) :
    ∃ bundles, directory.Partitions tree bundles
      ∧ requests.map Request.resource = bundles.keys := by
  obtain ⟨documents, reads, rfl⟩ := documents_of_prepared prepared
  refine ⟨bundle documents, partitions_of_documents reads, ?_⟩
  rw [resources_of_ofManifests (fits documents reads), manifests, List.map_map]
  rfl

/-- Without a focus a request carries every file that is displayed by its name. -/
theorem carries_of_prepared
    (unfocused : directory.focus.isEmpty = true)
    (prepared : (directory.prepare tree).outcome = .ok requests)
    {request : Request}
    (present : request ∈ requests) :
    Carries request ((directory.filled tree).filter (·.relativeName = request.resource)) := by
  obtain ⟨documents, reads, rfl⟩ := documents_of_prepared prepared
  obtain ⟨manifest, isManifest, decodes⟩ := mem_of_ofManifests present
  obtain ⟨⟨name, texts⟩, isEntry, same⟩ := List.mem_map.1 isManifest
  obtain ⟨rfl, rfl⟩ := Prod.mk.inj same
  refine ⟨texts, ?_, decodes⟩
  have contents := (partitions_of_documents reads).contents request.resource
  rw [SortedMap.mem_entries_iff.1 isEntry, Option.getD_some] at contents
  rw [contents, ← map_filter_found unfocused, List.map_map]
  rfl

theorem mem_keys_iff_of_unfocused
    (unfocused : directory.focus.isEmpty = true)
    {bundles : Bundles}
    (partitions : directory.Partitions tree bundles)
    (name : String) :
    name ∈ bundles.keys ↔ name ∈ (directory.filled tree).map WalkedFile.relativeName := by
  rw [partitions.mem_keys_iff, found_eq, List.mem_map]
  simp only [bundleOf?, unfocused, if_true, Option.some.injEq, List.mem_flatMap, List.mem_map]
  constructor
  · rintro ⟨document, ⟨file, present, value, _, rfl⟩, displayed⟩
    exact ⟨file, present, displayed⟩
  · rintro ⟨file, present, displayed⟩
    obtain ⟨value, isValue⟩ := List.exists_mem_of_ne_nil _ (mem_filled_iff.1 present).2.2
    exact ⟨(file, value), ⟨file, present, value, isValue, rfl⟩, displayed⟩

/-- Without a focus, the requests have the names by which files with documents are displayed,
each once, and carry the documents of the files displayed so. Requests and files correspond
one to one if no two files are displayed alike, and only then. This holds if all names are
texts. -/
theorem requests_of_files
    (unfocused : directory.focus.isEmpty = true)
    (prepared : (directory.prepare tree).outcome = .ok requests)
    (fits : directory.Fits tree) :
    (∀ file, file ∈ directory.filled tree ↔
      tree.Below directory.root file ∧ isManifest file = true ∧ valuesIn file ≠ [])
      ∧ (requests.map Request.resource).Nodup
      ∧ (∀ name, name ∈ requests.map Request.resource ↔
        name ∈ (directory.filled tree).map WalkedFile.relativeName)
      ∧ (∀ request ∈ requests,
        Carries request ((directory.filled tree).filter (·.relativeName = request.resource)))
      ∧ (OneToOne requests (directory.filled tree) ↔
        ((directory.filled tree).map WalkedFile.relativeName).Nodup)
      ∧ (tree.Proper →
        (∀ file ∈ directory.filled tree, ∀ name ∈ file.names, ∃ text, name = Utf8.encode text) →
        OneToOne requests (directory.filled tree)) := by
  obtain ⟨bundles, partitions, areKeys⟩ := resources_of_prepared prepared fits
  have distinct : (requests.map Request.resource).Nodup := by
    rw [areKeys]
    exact bundles.keys_nodup
  have named (name : String) : name ∈ requests.map Request.resource ↔
      name ∈ (directory.filled tree).map WalkedFile.relativeName := by
    rw [areKeys]
    exact mem_keys_iff_of_unfocused unfocused partitions name
  have carries (request : Request) (present : request ∈ requests) :=
    carries_of_prepared unfocused prepared present
  have corresponds := oneToOne_iff distinct named carries
  refine ⟨fun file => ?_, distinct, named, carries, corresponds, fun proper texts => ?_⟩
  · rw [mem_filled_iff, FileTree.mem_walk_iff_below (walk_clear_of_prepared prepared)]
  · exact corresponds.2 (filled_relativeName_nodup proper texts)

end Prepared

/-! ## Two files that are displayed alike -/

namespace SharedRun

/-- Two files whose names differ in a byte that is no text. -/
def files : List (FileName × ByteArray) :=
  [(0xFE :: Utf8.encode ".yaml", "a: 1\n".toUTF8), (0xFF :: Utf8.encode ".yaml", "b: 2\n".toUTF8)]

def tree : FileTree where
  entries := files.map fun file => (file.1, .file file.2)

def directory : ManifestDirectory := ⟨[0x2E], .empty⟩

/-- The documents of both files. -/
def request : Request := ⟨"\uFFFD.yaml", ⟨"1", "YTogMQotLS0KYjogMg=="⟩⟩

theorem walk_tree : tree.walk directory.root =
    files.map fun file =>
      .ok { path := FilePath.join [0x2E] file.1, names := [file.1], data := file.2 } :=
  FileTree.walk_dot_files (by decide +kernel)

theorem documents_tree : directory.documents tree =
    .ok [("\uFFFD.yaml", "a: 1"), ("\uFFFD.yaml", "b: 2")] := by
  rw [documents_eq, walk_tree]
  decide +kernel

theorem prepared : (directory.prepare tree).outcome = .ok [request] := by
  simp only [prepare, documents_tree]
  decide +kernel

theorem fits : directory.Fits tree := by
  intro documents reads
  rw [documents_tree] at reads
  rw [← Except.ok.inj reads]
  decide +kernel

theorem displayed_alike :
    (directory.filled tree).map WalkedFile.relativeName = ["\uFFFD.yaml", "\uFFFD.yaml"] := by
  rw [filled, walk_tree]
  decide +kernel

end SharedRun

open SharedRun in
theorem shared_request_of_files :
    directory.focus.isEmpty = true
      ∧ (directory.prepare tree).outcome = .ok [request]
      ∧ directory.Fits tree
      ∧ (directory.filled tree).map WalkedFile.relativeName = ["\uFFFD.yaml", "\uFFFD.yaml"]
      ∧ Carries request (directory.filled tree)
      ∧ ¬ OneToOne [request] (directory.filled tree) := by
  have unfocused : directory.focus.isEmpty = true := rfl
  obtain ⟨_, _, _, carries, corresponds, _⟩ := requests_of_files unfocused prepared fits
  have allShare : (directory.filled tree).filter (·.relativeName = request.resource) =
      directory.filled tree := by
    rw [List.filter_eq_self, filled, walk_tree]
    decide +kernel
  refine ⟨unfocused, prepared, fits, displayed_alike, ?_, ?_⟩
  · rw [← allShare]
    exact carries request List.mem_cons_self
  · rw [corresponds, displayed_alike]
    decide

end ManifestDirectory
end ManifestPolicy
