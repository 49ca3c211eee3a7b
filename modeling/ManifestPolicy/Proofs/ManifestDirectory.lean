import ManifestPolicy.ManifestDirectory
import ManifestPolicy.Proofs.FileTree
import ManifestPolicy.Proofs.Request
import ManifestPolicy.Proofs.SortedMap
import ManifestPolicy.Proofs.Traversal
import ManifestPolicy.Proofs.Yaml.Printer

/-!
# Documents of prepared manifests

A prepared manifest joins the texts of the documents of a bundle, each without the blanks at
its end. Joining them neither changes nor merges nor splits documents: the manifest is read as
the values of its documents if and only if each of them is still read as its value once the
blanks at its end are gone.
-/

namespace ManifestPolicy
namespace ManifestDirectory

open Yaml

/-! ## Values and their bundles -/

/-- The bundle and the value of a document that goes into a bundle. -/
def assign?
    (directory : ManifestDirectory)
    (file : WalkedFile)
    (document : Node) : Option (String × Value) :=
  document.value?.bind fun value =>
    if value.isNull then none
    else
      (directory.bundle? file (value.metadataName?.getD unknownName)).map fun bundle =>
        (bundle, value)

/-- The values of the documents of an entry met on the walk, with their bundles. -/
def assignedOf (directory : ManifestDirectory) : Walked → List (String × Value)
  | .error _ => []
  | .ok file =>
      if isManifest file then
        match Utf8.decode file.data.toList with
        | .error _ => []
        | .ok text => (stream text.toList).documents.filterMap (directory.assign? file)
      else []

/-- The values of all documents that go into bundles, in the order in which they are read. -/
def assigned (directory : ManifestDirectory) (tree : FileTree) : List (String × Value) :=
  (tree.walk directory.root).flatMap directory.assignedOf

/-- The values of the documents of a bundle, in the order in which they are read. -/
def valuesOf
    (directory : ManifestDirectory)
    (tree : FileTree)
    (bundle : String) : List Value :=
  ((directory.assigned tree).filter (·.1 = bundle)).map Prod.snd

/-- The text of a document is that of its value, which is not null. -/
def Encodes (value : Value) (text : String) : Prop :=
  value.isNull = false ∧ manifestText? value = some text

/-- The same of a document with its bundle. -/
def Assigns (value : String × Value) (document : String × String) : Prop :=
  value.1 = document.1 ∧ Encodes value.2 document.2

/-- A document that is read has the bundle and the value it is given. -/
theorem assigns_of_readDocument
    {directory : ManifestDirectory}
    {file : WalkedFile}
    {document : Node}
    {result : Option (String × String)}
    (reads : directory.readDocument file document = .ok result) :
    Option.Rel Assigns (directory.assign? file document) result := by
  unfold readDocument at reads
  unfold assign?
  cases isValue : document.value? with
  | none => simp [isValue] at reads
  | some value =>
      simp only [isValue] at reads
      rw [Option.bind_some]
      split at reads
      next isNull =>
        rw [if_pos isNull, ← Except.ok.inj reads]
        exact .none
      next notNull =>
        rw [if_neg notNull]
        cases isBundle : directory.bundle? file (value.metadataName?.getD unknownName) with
        | none =>
            simp only [isBundle] at reads
            rw [← Except.ok.inj reads]
            exact .none
        | some bundle =>
            simp only [isBundle] at reads
            cases isText : manifestText? value with
            | none => simp [isText] at reads
            | some text =>
                simp only [isText] at reads
                rw [← Except.ok.inj reads]
                exact .some ⟨rfl, Bool.eq_false_iff.2 notNull, isText⟩

theorem assigns_of_readText
    {directory : ManifestDirectory}
    {file : WalkedFile}
    {text : String}
    {documents : List (String × String)}
    (reads : directory.readText file text = .ok documents) :
    List.Forall₂ Assigns ((stream text.toList).documents.filterMap (directory.assign? file))
      documents := by
  unfold readText at reads
  cases results : (stream text.toList).documents.mapM (directory.readDocument file) with
  | error failure => simp [results, bind, Except.bind] at reads
  | ok found =>
      simp only [results, bind, Except.bind] at reads
      split at reads
      · rw [← Except.ok.inj reads]
        exact List.rel_filterMap (fun _ _ related => assigns_of_readDocument related)
          (forall₂_of_mapM results)
      · contradiction

theorem assigns_of_readFile
    {directory : ManifestDirectory}
    {file : WalkedFile}
    {documents : List (String × String)}
    (manifest : isManifest file = true)
    (reads : directory.readFile file = .ok documents) :
    List.Forall₂ Assigns (directory.assignedOf (.ok file)) documents := by
  unfold readFile at reads
  rw [assignedOf, if_pos manifest]
  cases faulty : file.fault with
  | some error =>
      rw [WalkedFile.contents_of_fault faulty] at reads
      contradiction
  | none =>
      rw [WalkedFile.contents_of_readable faulty] at reads
      cases isText : Utf8.decode file.data.toList with
      | error fault => simp [isText, bind, Except.bind] at reads
      | ok text =>
          simp only [isText, bind, Except.bind] at reads
          exact assigns_of_readText reads

/-- The same of all documents of an entry, in order. -/
theorem assigns_of_readEntry
    {directory : ManifestDirectory}
    {entry : Walked}
    {documents : List (String × String)}
    (reads : directory.readEntry entry = .ok documents) :
    List.Forall₂ Assigns (directory.assignedOf entry) documents := by
  cases entry with
  | error failure => contradiction
  | ok file =>
      simp only [readEntry] at reads
      split at reads
      next manifest => exact assigns_of_readFile manifest reads
      next other =>
        rw [assignedOf, if_neg other, ← Except.ok.inj reads]
        exact .nil

/-- Every document that is read is the text of a value that is assigned to its bundle. -/
theorem assigns_of_documents
    {directory : ManifestDirectory}
    {tree : FileTree}
    {documents : List (String × String)}
    (reads : directory.documents tree = .ok documents) :
    List.Forall₂ Assigns (directory.assigned tree) documents := by
  unfold ManifestDirectory.documents at reads
  cases results : (tree.walk directory.root).mapM directory.readEntry with
  | error failure => simp [results, bind, Except.bind] at reads
  | ok found =>
      simp only [results, bind, Except.bind, pure, Except.pure] at reads
      rw [← Except.ok.inj reads]
      exact List.rel_flatten (List.forall₂_map_left_iff.2
        ((forall₂_of_mapM results).imp fun _ _ => assigns_of_readEntry))

/-! ## Bundles -/

/-- A bundle holds the texts of the values that are assigned to it, in order. -/
theorem encodes_of_bundle
    {directory : ManifestDirectory}
    {tree : FileTree}
    {documents : List (String × String)}
    (reads : directory.documents tree = .ok documents)
    {name : String}
    {texts : List String}
    (present : (name, texts) ∈ (bundle documents).entries) :
    texts ≠ [] ∧ List.Forall₂ Encodes (directory.valuesOf tree name) texts := by
  have found := SortedMap.mem_entries_iff.1 present
  rw [bundle, SortedMap.get?_foldl_push] at found
  have sameBundle : List.Forall₂ Assigns
      ((directory.assigned tree).filter (·.1 = name)) (documents.filter (·.1 = name)) := by
    refine List.rel_filter (fun value document assigns => ?_) (assigns_of_documents reads)
    simp [assigns.1]
  split at found
  · contradiction
  next some =>
    rw [SortedMap.get?_empty, Option.getD_none, List.nil_append] at found
    rw [← Option.some.inj found]
    refine ⟨fun none => some ?_, ?_⟩
    · rw [List.isEmpty_iff]
      exact List.map_eq_nil_iff.1 none
    · rw [valuesOf, List.forall₂_map_left_iff, List.forall₂_map_right_iff]
      exact sameBundle.imp fun _ _ assigns => assigns.2

/-- A request carries the manifest of a bundle under its name. -/
theorem mem_of_ofManifests
    {manifests : List (String × ByteArray)}
    {request : Request}
    (present : request ∈ (Request.ofManifests manifests).1) :
    ∃ manifest, (request.resource, manifest) ∈ manifests
      ∧ Base64.decode? request.content.data = some manifest := by
  rw [Request.ofManifests_fst] at present
  obtain ⟨⟨resource, manifest⟩, kept, rfl⟩ := List.mem_map.1 present
  exact ⟨manifest, (List.mem_filter.1 kept).1, Base64.decode?_encode manifest⟩

/-! ## Reading manifests -/

/-- The text of a value without the blanks at its end, and then an ending, are read as a
value. -/
def Rereads (value : Value) (ending : List Char) (reading : Value) : Prop :=
  ∃ text, manifestText? value = some text ∧ ReadsAs (text.toList ++ ending) [reading]

/-- The text of each value is read alone as one of the readings, with the line break that ends
it. The last text has none. -/
def AllReread : List Value → List Value → Prop
  | [last], [reading] => Rereads last [] reading
  | value :: rest, reading :: readings => Rereads value ['\n'] reading ∧ AllReread rest readings
  | rest, readings => rest = readings

/-- A value is read back from its text, which has one line break and no other blanks at its
end. -/
def ReadBack (value : Value) : Prop :=
  ∃ text, value.render? = some text ∧ ReadsAs text.toList [value]
    ∧ text.toList = Text.trimEnd text.toList ++ ['\n']

/-- Such a value is still read from its text without the blanks at its end if that gets its
line break back. -/
theorem ReadBack.rereads
    {value : Value}
    (readBack : ReadBack value) :
    Rereads value ['\n'] value := by
  obtain ⟨text, renders, inverts, loses⟩ := readBack
  refine ⟨String.ofList (Text.trimEnd text.toList), ?_, ?_⟩
  · rw [manifestText?, renders]
    rfl
  · rw [String.toList_ofList, ← loses]
    exact inverts

/-- Of values that are read back, only the last can be lost, since it does not get its line
break back. -/
theorem allReread_iff_of_readBack
    {before : List Value}
    (readBack : ∀ value ∈ before, ReadBack value)
    (last : Value) :
    AllReread (before ++ [last]) (before ++ [last]) ↔ Rereads last [] last := by
  induction before with
  | nil => rfl
  | cons value rest rereadsRest =>
      obtain ⟨first, others⟩ := List.forall_mem_cons.1 readBack
      rw [← rereadsRest others, List.cons_append, AllReread]
      · exact and_iff_right first.rereads
      · intro reading empty
        simp at empty

/-- A block that ends with the text loses the line break of its last line. -/
example :
    (stream "data: |\n  a".toList).documents.map (fun root => root.value?.bind Value.render?) =
      [some "data: a\n"] := by
  decide +kernel

theorem rereads_iff
    {value : Value}
    {text : String}
    (encodes : Encodes value text)
    (ending : List Char)
    (reading : Value) :
    Rereads value ending reading ↔ ReadsAs (text.toList ++ ending) [reading] := by
  constructor
  · rintro ⟨other, isOther, reads⟩
    rw [encodes.2] at isOther
    rwa [Option.some.inj isOther]
  · exact fun reads => ⟨text, encodes.2, reads⟩

/-- Each piece of a manifest is read alone if and only if each value is read from its text. -/
theorem forall₂_pieces_iff
    {values readings : List Value}
    {texts : List String}
    (encodes : List.Forall₂ Encodes values texts)
    (same : readings.length = values.length) :
    List.Forall₂ (fun piece reading => ReadsAs piece [reading])
        (pieces (texts.map String.toList)) readings ↔
      AllReread values readings := by
  induction encodes generalizing readings with
  | nil =>
      rw [List.length_eq_zero_iff.1 same]
      exact iff_of_true .nil rfl
  | @cons value text values texts encodesFirst encodesRest rereadsRest =>
      obtain ⟨reading, others, rfl⟩ := List.exists_cons_of_length_eq_add_one same
      have sameRest : others.length = values.length := Nat.succ.inj same
      cases encodesRest with
      | nil =>
          rw [List.length_eq_zero_iff.1 sameRest, AllReread, rereads_iff encodesFirst,
            List.append_nil]
          simp [pieces]
      | cons next others =>
          rw [AllReread, rereads_iff encodesFirst, ← rereadsRest sameRest]
          · exact List.forall₂_cons
          · exact fun impossible _ => List.cons_ne_nil _ _ impossible

/-- The text of a document may stand between two markers. -/
theorem tidy_of_encodes
    {value : Value}
    {text : String}
    (encodes : Encodes value text) :
    Tidy text.toList := by
  obtain ⟨whole, renders, rfl⟩ := Option.map_eq_some_iff.1 encodes.2
  rw [String.toList_ofList]
  exact Value.tidy_trimEnd renders

theorem tidy_of_forall₂
    {values : List Value}
    {texts : List String}
    (encodes : List.Forall₂ Encodes values texts) :
    ∀ text ∈ texts.map String.toList, Tidy text := by
  induction encodes with
  | nil => simp
  | cons encodesFirst _ tidyRest =>
      exact List.forall_mem_cons.2 ⟨tidy_of_encodes encodesFirst, tidyRest⟩

theorem not_isNull_of_forall₂
    {values : List Value}
    {texts : List String}
    (encodes : List.Forall₂ Encodes values texts) :
    ∀ value ∈ values, value.isNull = false :=
  ((List.forall₂_and_left values texts).1 encodes).1

/-- A manifest is its texts, joined by markers. -/
theorem toList_intercalate (texts : List String) :
    (separator.intercalate texts).toList = joined (texts.map String.toList) := by
  induction texts with
  | nil => rfl
  | cons text rest joinRest =>
      cases rest with
      | nil => simp [joined]
      | cons next others =>
          rw [String.intercalate_cons_cons, String.toList_append, String.toList_append, joinRest]
          simp [joined, separator, marked]

/-- What a request carries has a document for each value of its bundle, in order, and each
document is read as what is left of the text of that value is read as alone. It is read as the
values if and only if each of them is read from its text without the blanks at its end, and
when those before the last are read back from their texts, if and only if the last is. -/
theorem manifest_reads_iff
    {directory : ManifestDirectory}
    {tree : FileTree}
    {requests : List Request}
    (prepared : (directory.prepare tree).outcome = .ok requests)
    {request : Request}
    (present : request ∈ requests) :
    ∃ text : String, Base64.decode? request.content.data = some text.toUTF8
      ∧ (∀ readings : List Value,
        readings.length = (directory.valuesOf tree request.resource).length →
        (∀ reading ∈ readings, reading.isNull = false) →
        (ReadsAs text.toList readings ↔
          AllReread (directory.valuesOf tree request.resource) readings))
      ∧ (ReadsAs text.toList (directory.valuesOf tree request.resource) ↔
        AllReread (directory.valuesOf tree request.resource)
          (directory.valuesOf tree request.resource))
      ∧ ∀ (before : List Value) (last : Value),
        directory.valuesOf tree request.resource = before ++ [last] →
        (∀ value ∈ before, ReadBack value) →
        (ReadsAs text.toList (before ++ [last]) ↔ Rereads last [] last) := by
  unfold prepare at prepared
  cases reads : directory.documents tree with
  | error failure => simp [reads] at prepared
  | ok documents =>
      simp only [reads] at prepared
      rw [← Except.ok.inj prepared] at present
      obtain ⟨manifest, isManifest, decodes⟩ := mem_of_ofManifests present
      obtain ⟨⟨name, texts⟩, isEntry, same⟩ := List.mem_map.1 isManifest
      obtain ⟨rfl, rfl⟩ := Prod.mk.inj same
      obtain ⟨some, encodes⟩ := encodes_of_bundle reads isEntry
      have general : ∀ readings : List Value,
          readings.length = (directory.valuesOf tree request.resource).length →
          (∀ reading ∈ readings, reading.isNull = false) →
          (ReadsAs (separator.intercalate texts).toList readings ↔
            AllReread (directory.valuesOf tree request.resource) readings) := by
        intro readings sameLength speaking
        have lengths : (texts.map String.toList).length = readings.length := by
          rw [List.length_map, sameLength, encodes.length_eq]
        have some : readings ≠ [] := by
          intro empty
          rw [empty, List.length_nil, List.length_map] at lengths
          exact some (List.length_eq_zero_iff.1 lengths)
        rw [toList_intercalate, readsAs_joined_iff (tidy_of_forall₂ encodes) lengths some speaking,
          forall₂_pieces_iff encodes sameLength]
      have whole := general _ rfl (not_isNull_of_forall₂ encodes)
      refine ⟨_, decodes, general, whole, ?_⟩
      intro before last areValues readBack
      rw [← allReread_iff_of_readBack readBack last, ← areValues]
      exact whole

/-! ## A manifest of two documents -/

namespace PairRun

/-- A file with two documents. -/
def tree : FileTree where
  entries := [(Utf8.encode "pair.yaml", .file "a: 1\n---\nb: 2\n".toUTF8)]

def directory : ManifestDirectory := ⟨[0x2E], .empty⟩

/-- Both documents, encoded. -/
def request : Request := ⟨"pair.yaml", ⟨"1", "YTogMQotLS0KYjogMg=="⟩⟩

theorem prepared : (directory.prepare tree).outcome = .ok [request] := by
  have documents : directory.documents tree =
      .ok [("pair.yaml", "a: 1"), ("pair.yaml", "b: 2")] := by
    rw [ManifestDirectory.documents, tree, directory, FileTree.walk_dot_file]
    decide +kernel
  simp only [prepare, documents]
  decide +kernel

end PairRun

theorem pair_manifest_reads_iff :
    (PairRun.directory.prepare PairRun.tree).outcome = .ok [PairRun.request]
      ∧ PairRun.request ∈ [PairRun.request]
      ∧ ∃ text : String, Base64.decode? PairRun.request.content.data = some text.toUTF8
        ∧ (ReadsAs text.toList (PairRun.directory.valuesOf PairRun.tree "pair.yaml") ↔
          AllReread (PairRun.directory.valuesOf PairRun.tree "pair.yaml")
            (PairRun.directory.valuesOf PairRun.tree "pair.yaml")) := by
  have present : PairRun.request ∈ [PairRun.request] := List.mem_cons_self
  obtain ⟨text, decodes, _, reads, _⟩ := manifest_reads_iff PairRun.prepared present
  exact ⟨PairRun.prepared, present, text, decodes, reads⟩

end ManifestDirectory
end ManifestPolicy
