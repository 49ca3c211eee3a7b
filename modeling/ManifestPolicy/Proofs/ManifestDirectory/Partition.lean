import ManifestPolicy.Proofs.FileTree.Walk
import ManifestPolicy.Proofs.ManifestDirectory

/-!
# How documents are put into bundles

The documents of the manifests below a directory are listed in the order in which they are
met: files in the order of the walk, and then the documents of a file. Bundles are compared
with that list. Each holds the documents that belong to it, in this order, and no document is
lost or put into two bundles. Preparing fails only if the walk fails, a manifest is no text,
or one of its documents does not parse or belongs to a bundle and cannot be written.
-/

namespace ManifestPolicy
namespace ManifestDirectory

open Yaml

/-! ## Documents and where they belong -/

/-- The values of the documents of a file, but for those that are null. -/
def valuesIn (file : WalkedFile) : List Value :=
  match Utf8.decode file.data.toList with
  | .error _ => []
  | .ok text =>
      (stream text.toList).documents.filterMap fun document =>
        document.value?.filter fun value => !value.isNull

/-- The values of the documents of an entry met on the walk, with their file. -/
def foundIn : Walked → List (WalkedFile × Value)
  | .error _ => []
  | .ok file => if isManifest file then (valuesIn file).map (file, ·) else []

/-- The values of the documents of all manifests, with their files, in the order of the walk
and then of the documents in a file. -/
def found (directory : ManifestDirectory) (tree : FileTree) : List (WalkedFile × Value) :=
  (tree.walk directory.root).flatMap foundIn

/-- The bundle of a document: that of its file when there is no focus, and otherwise the
category of the name in its metadata, which is "unknown" if there is none. -/
def bundleOf? (directory : ManifestDirectory) (document : WalkedFile × Value) : Option String :=
  if directory.focus.isEmpty then some document.1.relativeName
  else directory.focus.classify (document.2.metadataName?.getD "unknown")

theorem assignedOf_eq
    (directory : ManifestDirectory)
    (entry : Walked) :
    directory.assignedOf entry =
      (foundIn entry).filterMap fun document =>
        (directory.bundleOf? document).map fun bundle => (bundle, document.2) := by
  cases entry with
  | error error => rfl
  | ok file =>
      rw [assignedOf, foundIn, valuesIn]
      split
      · cases Utf8.decode file.data.toList with
        | error fault => rfl
        | ok text =>
            dsimp only
            rw [List.filterMap_map, List.filterMap_filterMap]
            refine List.filterMap_congr ?_
            intro document _
            unfold assign?
            cases document.value? with
            | none => rfl
            | some value =>
                cases null : value.isNull with
                | true => simp [null, Option.filter]
                | false => simp [null, Option.filter, bundleOf?, bundle?, unknownName]
      · rfl

/-- The documents that go into bundles are those found that have one. -/
theorem assigned_eq
    (directory : ManifestDirectory)
    (tree : FileTree) :
    directory.assigned tree =
      (directory.found tree).filterMap fun document =>
        (directory.bundleOf? document).map fun bundle => (bundle, document.2) := by
  rw [assigned, found, List.filterMap_flatMap]
  congr 1
  funext entry
  exact directory.assignedOf_eq entry

/-! ## Failing -/

/-- A file cannot be read, or is no text. -/
def IsUnreadable (file : WalkedFile) : Prop :=
  file.fault ≠ none ∨ ∃ fault, Utf8.decode file.data.toList = .error fault

/-- A text has a document that does not parse. -/
def IsUnparsed (file : WalkedFile) : Prop :=
  ∃ text, Utf8.decode file.data.toList = .ok text
    ∧ ((stream text.toList).complete = false
      ∨ ∃ document ∈ (stream text.toList).documents, document.value? = none)

/-- A file has a document that belongs to a bundle and has no written form. -/
def IsUnwritten (directory : ManifestDirectory) (file : WalkedFile) : Prop :=
  ∃ value ∈ valuesIn file,
    (directory.bundleOf? (file, value)).isSome = true ∧ value.render? = none

/-- Something keeps the documents of a directory from being bundled. -/
def Obstructed (directory : ManifestDirectory) (tree : FileTree) : Prop :=
  (∃ error, .error error ∈ tree.walk directory.root)
    ∨ ∃ file, .ok file ∈ tree.walk directory.root ∧ isManifest file = true
      ∧ (IsUnreadable file ∨ IsUnparsed file ∨ directory.IsUnwritten file)

/-- A document obstructs if it has no value, or a value in a bundle that cannot be written. -/
theorem readDocument_error_iff
    {directory : ManifestDirectory}
    {file : WalkedFile}
    {document : Node} :
    (∃ failure, directory.readDocument file document = .error failure) ↔
      document.value? = none
        ∨ ∃ value, (document.value?.filter fun value => !value.isNull) = some value
          ∧ (directory.bundleOf? (file, value)).isSome = true ∧ value.render? = none := by
  unfold readDocument
  cases document.value? with
  | none => simp
  | some value =>
      cases null : value.isNull with
      | true => simp [null, Option.filter]
      | false =>
          have sameBundle : directory.bundleOf? (file, value) =
              directory.bundle? file (value.metadataName?.getD unknownName) := rfl
          simp only [null, Option.filter, Bool.not_false, if_true, Option.some.injEq,
            exists_eq_left', sameBundle]
          cases directory.bundle? file (value.metadataName?.getD unknownName) with
          | none => simp
          | some bundle =>
              cases written : value.render? <;> simp [manifestText?, written]

/-- A text obstructs at its end or by one of its documents. -/
theorem readText_error_iff
    {directory : ManifestDirectory}
    {file : WalkedFile}
    {text : String} :
    (∃ failure, directory.readText file text = .error failure) ↔
      ((stream text.toList).complete = false
        ∨ ∃ document ∈ (stream text.toList).documents, document.value? = none)
      ∨ ∃ value ∈ (stream text.toList).documents.filterMap fun document =>
          document.value?.filter fun value => !value.isNull,
        (directory.bundleOf? (file, value)).isSome = true ∧ value.render? = none := by
  have stopped :
      (∃ failure, (stream text.toList).documents.mapM (directory.readDocument file) =
          .error failure) ↔
        (∃ document ∈ (stream text.toList).documents, document.value? = none)
          ∨ ∃ value ∈ (stream text.toList).documents.filterMap fun document =>
              document.value?.filter fun value => !value.isNull,
            (directory.bundleOf? (file, value)).isSome = true ∧ value.render? = none := by
    rw [mapM_error_iff]
    simp only [readDocument_error_iff, List.mem_filterMap]
    constructor
    · rintro ⟨document, present, unparsed | ⟨value, isValue, unwritten⟩⟩
      · exact .inl ⟨document, present, unparsed⟩
      · exact .inr ⟨value, ⟨document, present, isValue⟩, unwritten⟩
    · rintro (⟨document, present, unparsed⟩ | ⟨value, ⟨document, present, isValue⟩, unwritten⟩)
      · exact ⟨document, present, .inl unparsed⟩
      · exact ⟨document, present, .inr ⟨value, isValue, unwritten⟩⟩
  have failing :
      (∃ failure, directory.readText file text = .error failure) ↔
        (∃ failure, (stream text.toList).documents.mapM (directory.readDocument file) =
          .error failure) ∨ (stream text.toList).complete = false := by
    simp only [readText]
    cases (stream text.toList).documents.mapM (directory.readDocument file) <;>
      cases (stream text.toList).complete <;>
      simp [bind, Except.bind, pure, Except.pure]
  rw [failing, stopped]
  exact or_comm.trans or_assoc.symm

theorem readFile_error_iff
    {directory : ManifestDirectory}
    {file : WalkedFile} :
    (∃ failure, directory.readFile file = .error failure) ↔
      IsUnreadable file ∨ IsUnparsed file ∨ directory.IsUnwritten file := by
  unfold readFile IsUnreadable IsUnparsed IsUnwritten valuesIn
  cases faulty : file.fault with
  | some error => simp [WalkedFile.contents_of_fault faulty, bind, Except.bind]
  | none =>
      rw [WalkedFile.contents_of_readable faulty]
      cases isText : Utf8.decode file.data.toList with
      | error fault => simp [isText, bind, Except.bind]
      | ok text => simp [isText, bind, Except.bind, readText_error_iff]

theorem readEntry_error_iff
    {directory : ManifestDirectory}
    {entry : Walked} :
    (∃ failure, directory.readEntry entry = .error failure) ↔
      (∃ error, entry = .error error)
        ∨ ∃ file, entry = .ok file ∧ isManifest file = true
          ∧ (IsUnreadable file ∨ IsUnparsed file ∨ directory.IsUnwritten file) := by
  cases entry with
  | error error => simp [readEntry]
  | ok file =>
      cases manifest : isManifest file <;> simp [readEntry, manifest, readFile_error_iff]

theorem documents_eq
    (directory : ManifestDirectory)
    (tree : FileTree) :
    directory.documents tree =
      ((tree.walk directory.root).mapM directory.readEntry).map List.flatten := by
  unfold documents
  cases (tree.walk directory.root).mapM directory.readEntry <;> rfl

/-- Documents are not read if and only if something obstructs. -/
theorem documents_error_iff
    {directory : ManifestDirectory}
    {tree : FileTree} :
    (∃ failure, directory.documents tree = .error failure) ↔ directory.Obstructed tree := by
  have stopped :
      (∃ failure, directory.documents tree = .error failure) ↔
        ∃ failure, (tree.walk directory.root).mapM directory.readEntry = .error failure := by
    rw [documents_eq]
    cases (tree.walk directory.root).mapM directory.readEntry <;> simp [Except.map]
  rw [stopped, mapM_error_iff]
  simp only [readEntry_error_iff]
  constructor
  · rintro ⟨_, met, ⟨error, rfl⟩ | ⟨file, rfl, obstructed⟩⟩
    · exact .inl ⟨error, met⟩
    · exact .inr ⟨file, met, obstructed⟩
  · rintro (⟨error, met⟩ | ⟨file, met, obstructed⟩)
    · exact ⟨_, met, .inl ⟨error, rfl⟩⟩
    · exact ⟨_, met, .inr ⟨file, rfl, obstructed⟩⟩

/-! ## Bundles -/

/-- The documents of a directory, put into bundles. Every bundle holds the texts of the
documents that belong to it, in order, and those of no others. -/
structure Partitions
    (directory : ManifestDirectory)
    (tree : FileTree)
    (bundles : Bundles) : Prop where
  contents :
    ∀ name, ((bundles.get? name).getD []).map some =
      ((directory.found tree).filter fun document => directory.bundleOf? document = some name).map
        fun document => manifestText? document.2
  /-- Each document that belongs to some bundle is in one of them once. -/
  each_once :
    (bundles.values.flatten.map some).Perm
      (((directory.found tree).filter fun document => (directory.bundleOf? document).isSome).map
        fun document => manifestText? document.2)
  names_increasing :
    bundles.keys.Pairwise fun left right =>
      compare (Utf8.encode left) (Utf8.encode right) = .lt
  not_empty : ∀ texts ∈ bundles.values, texts ≠ []

theorem map_some_of_assigns
    {values : List (String × Value)}
    {documents : List (String × String)}
    (assigns : List.Forall₂ Assigns values documents) :
    documents.map (fun document => some document.2) =
      values.map fun value => manifestText? value.2 := by
  induction assigns with
  | nil => rfl
  | cons assigns _ sameRest => rw [List.map_cons, List.map_cons, sameRest, assigns.2.2]

/-- Selecting values by their bundles is selecting documents by their bundles. -/
theorem map_filter_assigned
    (directory : ManifestDirectory)
    (tree : FileTree)
    (select : String → Bool) :
    ((directory.assigned tree).filter fun value => select value.1).map
        (fun value => manifestText? value.2) =
      ((directory.found tree).filter fun document => (directory.bundleOf? document).any select).map
        fun document => manifestText? document.2 := by
  rw [assigned_eq]
  induction directory.found tree with
  | nil => rfl
  | cons document rest selectRest =>
      cases isBundle : directory.bundleOf? document with
      | none => simpa [isBundle] using selectRest
      | some bundle =>
          cases selected : select bundle <;> simpa [isBundle, selected] using selectRest

theorem getD_bundle
    (documents : List (String × String))
    (name : String) :
    ((bundle documents).get? name).getD [] =
      (documents.filter (·.1 = name)).map Prod.snd := by
  rw [bundle, SortedMap.get?_foldl_push]
  split
  next none => simp [List.isEmpty_iff.1 none]
  next some => simp

/-- Documents that are read are partitioned into bundles. -/
theorem partitions_of_documents
    {directory : ManifestDirectory}
    {tree : FileTree}
    {documents : List (String × String)}
    (reads : directory.documents tree = .ok documents) :
    directory.Partitions tree (bundle documents) := by
  have assigns := assigns_of_documents reads
  constructor
  case contents =>
    intro name
    have ofBundle : List.Forall₂ Assigns
        ((directory.assigned tree).filter (·.1 = name)) (documents.filter (·.1 = name)) :=
      List.rel_filter (fun value document assigns => by simp [assigns.1]) assigns
    have texts := directory.map_filter_assigned tree (· = name)
    rw [← map_some_of_assigns ofBundle] at texts
    rw [getD_bundle, List.map_map]
    refine texts.trans ?_
    congr 2
    funext document
    cases directory.bundleOf? document <;> simp
  case each_once =>
    have permuted := (SortedMap.flatten_values_foldl_push documents .empty).map some
    have texts := directory.map_filter_assigned tree fun _ => true
    rw [List.filter_true, ← map_some_of_assigns assigns] at texts
    refine permuted.trans (.of_eq ?_)
    simpa [SortedMap.values, SortedMap.empty, Function.comp_def] using texts
  case names_increasing =>
    refine List.pairwise_map.2 ((bundle documents).sorted.imp ?_)
    exact fun before => Utf8.compare_encode_of_lt before
  case not_empty =>
    intro texts present
    obtain ⟨⟨name, _⟩, isEntry, rfl⟩ := List.mem_map.1 present
    exact (encodes_of_bundle reads isEntry).1

/-- There is a bundle of each name that a document belongs to. -/
theorem Partitions.mem_keys_iff
    {directory : ManifestDirectory}
    {tree : FileTree}
    {bundles : Bundles}
    (partitions : directory.Partitions tree bundles)
    {name : String} :
    name ∈ bundles.keys ↔
      ∃ document ∈ directory.found tree, directory.bundleOf? document = some name := by
  have contents := partitions.contents name
  rw [SortedMap.mem_keys_iff]
  cases held : bundles.get? name with
  | none =>
      rw [held, Option.getD_none, List.map_nil, eq_comm, List.map_eq_nil_iff] at contents
      simpa using contents
  | some texts =>
      have some := partitions.not_empty texts (SortedMap.mem_values_iff.2 ⟨name, held⟩)
      refine iff_of_true rfl ?_
      by_contra absent
      rw [held, Option.getD_some, List.filter_eq_nil_iff.2, List.map_nil, List.map_eq_nil_iff]
        at contents
      · exact some contents
      · intro document present belongs
        exact absent ⟨document, present, by simpa using belongs⟩

/-! ## Files that are no manifests -/

/-- Whether an entry met on the walk is an error or a file of manifests. -/
def matters : Walked → Bool
  | .error _ => true
  | .ok file => isManifest file

/-- Entries that do not matter are read as no documents. -/
theorem readEntry_of_not_matters
    (directory : ManifestDirectory)
    (entry : Walked)
    (matter : matters entry = false) :
    directory.readEntry entry = .ok [] := by
  cases entry with
  | error error => contradiction
  | ok file => exact if_neg (Bool.eq_false_iff.1 matter)

/-- Only entries that matter have a say in what is prepared. -/
theorem prepare_congr
    {directory : ManifestDirectory}
    {tree other : FileTree}
    (sameManifests :
      (tree.walk directory.root).filter matters = (other.walk directory.root).filter matters) :
    directory.prepare tree = directory.prepare other := by
  have sameDocuments : directory.documents tree = directory.documents other := by
    have others := flatten_mapM_filter directory.readEntry_of_not_matters
    rw [documents_eq, documents_eq, ← others, sameManifests, others]
  rw [prepare, prepare, sameDocuments]

/-! ## Preparing -/

/-- Nor is anything prepared in that case. -/
theorem prepare_error_iff
    {directory : ManifestDirectory}
    {tree : FileTree} :
    (∃ failure, (directory.prepare tree).outcome = .error failure) ↔ directory.Obstructed tree := by
  rw [← documents_error_iff, prepare]
  cases directory.documents tree <;> simp

theorem documents_of_prepared
    {directory : ManifestDirectory}
    {tree : FileTree}
    {requests : List Request}
    (prepared : (directory.prepare tree).outcome = .ok requests) :
    ∃ documents, directory.documents tree = .ok documents
      ∧ requests = (Request.ofManifests (manifests (bundle documents))).1 := by
  unfold prepare at prepared
  cases reads : directory.documents tree with
  | error failure => simp [reads] at prepared
  | ok documents =>
      simp only [reads] at prepared
      exact ⟨documents, rfl, (Except.ok.inj prepared).symm⟩

/-- A directory that is prepared has been walked without errors. -/
theorem walk_clear_of_prepared
    {directory : ManifestDirectory}
    {tree : FileTree}
    {requests : List Request}
    (prepared : (directory.prepare tree).outcome = .ok requests) :
    ∀ error, .error error ∉ tree.walk directory.root := by
  intro error failed
  obtain ⟨failure, fails⟩ := prepare_error_iff.2 (.inl ⟨error, failed⟩)
  simp [prepared] at fails

/-- Preparing a directory fails exactly if something obstructs it. Otherwise nothing below the
directory is sealed, and its requests are made of bundles into which the documents of all
manifests below the directory are put, files in the order of their names. Files that are no
manifests make no difference. -/
theorem prepare_partitions
    (directory : ManifestDirectory)
    (tree : FileTree) :
    ((∃ failure, (directory.prepare tree).outcome = .error failure) ↔ directory.Obstructed tree)
      ∧ (∀ requests, (directory.prepare tree).outcome = .ok requests →
        (∀ file, .ok file ∈ tree.walk directory.root ↔ tree.Below directory.root file)
          ∧ ¬ tree.SealedBelow directory.root
          ∧ (tree.Proper → (tree.walk directory.root).Pairwise FileTree.Precedes)
          ∧ ∃ bundles, directory.Partitions tree bundles
            ∧ requests = (Request.ofManifests (manifests bundles)).1)
      ∧ ∀ other : FileTree,
        (tree.walk directory.root).filter matters = (other.walk directory.root).filter matters →
        directory.prepare tree = directory.prepare other := by
  refine ⟨prepare_error_iff, ?_, fun _ => prepare_congr⟩
  intro requests prepared
  have clear := walk_clear_of_prepared prepared
  refine ⟨fun _ => FileTree.mem_walk_iff_below clear, FileTree.not_sealedBelow_of_clear clear,
    fun proper => ?_, ?_⟩
  · exact FileTree.pairwise_walk proper directory.root
  · obtain ⟨documents, reads, areRequests⟩ := documents_of_prepared prepared
    exact ⟨bundle documents, partitions_of_documents reads, areRequests⟩

/-! ## A document that no category takes -/

namespace OutsideRun

/-- A document that has no written form, as its key is a mapping. -/
def file : WalkedFile where
  path := FilePath.join [0x2E] (Utf8.encode "a.yaml")
  names := [Utf8.encode "a.yaml"]
  data := "? \x7bx: 1\x7d\n: y\n".toUTF8

def tree : FileTree where
  entries := [(Utf8.encode "a.yaml", .file file.data)]

def directory : ManifestDirectory := ⟨[0x2E], .ofPatterns [("hub", "^hub$")]⟩

theorem walk_tree : tree.walk directory.root = [.ok file] := FileTree.walk_dot_file _ _

theorem prepared : (directory.prepare tree).outcome = .ok [] := by
  have documents : directory.documents tree = .ok [] := by
    rw [documents_eq, walk_tree]
    decide +kernel
  simp only [prepare, documents]
  decide +kernel

end OutsideRun

open OutsideRun in
/-- A document without a written form does not keep a directory from being prepared if it
belongs to no bundle, since it is never written. -/
theorem unwritten_outside_focus :
    ¬ ((∃ failure, (directory.prepare tree).outcome = .error failure) ↔
      (∃ error, .error error ∈ tree.walk directory.root)
        ∨ ∃ file, .ok file ∈ tree.walk directory.root ∧ isManifest file = true
          ∧ (IsUnreadable file ∨ IsUnparsed file
            ∨ ∃ value ∈ valuesIn file, value.render? = none)) := by
  intro fails
  have unwritten : ∃ value ∈ valuesIn file, value.render? = none := by decide +kernel
  have met : .ok file ∈ tree.walk directory.root := by simp [walk_tree]
  obtain ⟨failure, failed⟩ :=
    fails.2 (.inr ⟨file, met, by decide +kernel, .inr (.inr unwritten)⟩)
  rw [prepared] at failed
  contradiction

end ManifestDirectory
end ManifestPolicy
