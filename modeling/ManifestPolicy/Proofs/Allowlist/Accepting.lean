import ManifestPolicy.Proofs.Allowlist.Loading
import ManifestPolicy.Proofs.FileTree
import ManifestPolicy.Proofs.FileTree.Saving
import ManifestPolicy.Proofs.Operation
import ManifestPolicy.Proofs.Review.Records

/-!
# Accepting what was reported

The records of new violations are saved as files of the allowlist. The allowlist can still be
loaded, and has the keys that it had and those of the saved violations. A second review then
reports only violations that cannot be accepted because they name no resource.
-/

namespace ManifestPolicy

/-! ## Files in a directory -/

namespace FilePath

/-- The last component of the path of an entry is its name, however the path of the directory
ends. -/
theorem components_join
    (directory : FilePath)
    {name : FileName}
    (named : separator ∉ name) :
    ∃ before, components (join directory name) = before ++ [name] := by
  have alone : components name = [name] := List.splitOn_eq_singleton named
  have below (path : FilePath) :
      components (path ++ separator :: name) = components path ++ [name] := by
    rw [components, List.splitOn_append_cons_self, ← alone]
    rfl
  rw [join]
  split
  · exact ⟨[], alone⟩
  split
  next isLast =>
    obtain ⟨path, rfl⟩ := List.getLast?_eq_some_iff.1 isLast
    rw [List.append_assoc, List.singleton_append]
    exact ⟨_, below path⟩
  next => exact ⟨_, below directory⟩

/-- The last component of the path of an entry is its name. -/
theorem fileName?_join
    (directory : FilePath)
    {name : FileName}
    (named : separator ∉ name)
    (notHere : isHere name = false)
    (notUp : isUp name = false) :
    fileName? (join directory name) = some name := by
  obtain ⟨before, parts⟩ := components_join directory named
  rw [fileName?, parts, List.reverse_append, List.reverse_singleton, List.singleton_append,
    List.dropWhile_cons_of_neg (by simp [notHere])]
  simp [notUp]

/-- A name with an extension has a dot and something before it. -/
theorem length_of_extension?
    {name extension : List UInt8}
    (isExtension : extension? name = some extension) :
    extension.length + 1 < name.length := by
  rw [extension?] at isExtension
  split at isExtension
  next long =>
    obtain rfl := Option.some.inj isExtension
    rwa [List.length_reverse]
  next => contradiction

end FilePath

/-- A name for a file of accepted violations in JSON. -/
structure JsonName (name : FileName) : Prop where
  named : FilePath.separator ∉ name
  extension : FilePath.extension? name = some (Utf8.encode "json")

namespace JsonName

variable {name : FileName}

theorem length (jsonName : JsonName name) : 5 < name.length := by
  have long := FilePath.length_of_extension? jsonName.extension
  have four : (Utf8.encode "json").length = 4 := by decide +kernel
  omega

theorem ne_nil (jsonName : JsonName name) : name ≠ [] := by
  rintro rfl
  exact absurd jsonName.length (by decide)

/-- A file of that name has the format, wherever it is. -/
theorem ofFile?_join
    (jsonName : JsonName name)
    (directory : FilePath)
    (names : List FileName)
    (data : ByteArray) :
    AllowlistFormat.ofFile? { path := FilePath.join directory name, names, data } =
      some .json := by
  have long := jsonName.length
  have notHere : FilePath.isHere name = false := by
    rw [FilePath.isHere, Bool.or_eq_false_iff, beq_eq_false_iff_ne, beq_eq_false_iff_ne]
    constructor <;> rintro rfl <;> simp at long
  have notUp : FilePath.isUp name = false := by
    rw [FilePath.isUp, beq_eq_false_iff_ne]
    rintro rfl
    simp at long
  have isExtension : WalkedFile.extension?
      { path := FilePath.join directory name, names, data } = some (Utf8.encode "json") := by
    rw [WalkedFile.extension?, FilePath.fileName?_join directory jsonName.named notHere notUp]
    exact jsonName.extension
  rw [AllowlistFormat.ofFile?, isExtension]
  simp

end JsonName

/-! ## Reading saved records -/

/-- The text of a value is read back as that value. -/
def Json.ReadsBack (value : Json) : Prop :=
  (document value.pretty.toUTF8.toList).trailing = false
    ∧ (document value.pretty.toUTF8.toList).root.value? = some value

namespace Violation

/-- Violations whose text is read back are decoded from it. -/
theorem decode_prettyList
    {violations : List Violation}
    (plain : ∀ violation ∈ violations, violation.Plain)
    (readsBack : (Json.array (violations.map toJson)).ReadsBack) :
    AllowlistFormat.json.decode (prettyList violations).toUTF8 = .ok violations := by
  obtain ⟨complete, shown⟩ := readsBack
  obtain ⟨items, ending, isArray, closed, shownItems⟩ := Draft.exists_of_value?_array shown
  have reads : Draft.readList Violation.read
      (Json.document (prettyList violations).toUTF8.toList).root = .ok violations := by
    rw [prettyList, isArray]
    exact Draft.readItems_eq_ok closed (forall₂_read_toJson plain shownItems)
  rw [AllowlistFormat.decode, mapError_eq_ok_iff, decodeText]
  rw [← prettyList] at complete
  simp only [reads, complete, bind, Except.bind]
  rfl

/-- A violation that was decoded from a response of the service, and perhaps stamped with the
name of its manifest. -/
def Received (violation : Violation) : Prop :=
  ∃ (operation : Operation) (decoded : List Violation) (original : Violation),
    operation.violations = .ok decoded ∧ original ∈ decoded
      ∧ (violation = original ∨ ∃ name, violation = original.stampResource name)

/-- What was received from a service has no policy name, message or resource among its details. -/
theorem Received.plain
    {violation : Violation}
    (received : violation.Received) :
    violation.Plain := by
  obtain ⟨operation, decoded, original, decodes, present, same⟩ := received
  have plain := Operation.plain_of_violations decodes original present
  rcases same with rfl | ⟨name, rfl⟩
  · exact plain
  · exact ⟨plain.unnamed, plain.ordered⟩

/-- The ways in which violations are normalized. -/
def purifiers : List (Violation → Violation) :=
  [id, withoutDetails, withoutMessage, withoutResource]

/-- Purifiers add no details of their own. -/
theorem Plain.purify
    {violation : Violation}
    (plain : violation.Plain)
    {purify : Violation → Violation}
    (isPurifier : purify ∈ purifiers) :
    (purify violation).Plain := by
  simp only [purifiers, List.mem_cons, List.not_mem_nil, or_false] at isPurifier
  rcases isPurifier with rfl | rfl | rfl | rfl
  · exact plain
  · exact ⟨fun _ _ => rfl, by simp [withoutDetails]⟩
  · exact ⟨plain.unnamed, plain.ordered⟩
  · exact ⟨plain.unnamed, plain.ordered⟩

end Violation

/-! ## Keys -/

namespace Allowlist

/-- An entry of a walk lists one thing at most. -/
theorem Lists.unique
    {entry : Walked}
    {left right : List Violation}
    (isLeft : Lists entry left)
    (isRight : Lists entry right) :
    left = right := by
  have readsLeft : readEntry [] entry = .ok left := readEntry_eq_ok_iff.2 isLeft
  have readsRight : readEntry [] entry = .ok right := readEntry_eq_ok_iff.2 isRight
  exact Except.ok.inj (readsLeft.symm.trans readsRight)

/-- The keys of an allowlist that was loaded are those of the violations that are listed. -/
theorem contains_of_tryLoad
    {tree : FileTree}
    {root : FilePath}
    {allowlist : Allowlist}
    (loads : tryLoad tree root = .ok allowlist)
    {key : ResourceKey} :
    allowlist.entries.contains key = true ↔
      ∃ entry ∈ tree.walk root, ∃ violations, Lists entry violations
        ∧ ∃ violation ∈ violations, violation.key? = some key := by
  obtain ⟨lists, listed, rfl⟩ := tryLoad_eq_ok_iff.1 loads
  rw [contains_ofList_iff]
  constructor
  · rintro ⟨violation, present, isKey⟩
    obtain ⟨violations, isList, isListed⟩ := List.mem_flatten.1 present
    obtain ⟨entry, met, lists⟩ := exists_of_forall₂ listed.flip isList
    exact ⟨entry, met, violations, lists, violation, isListed, isKey⟩
  · rintro ⟨entry, met, violations, lists, violation, isListed, isKey⟩
    obtain ⟨others, isList, listsToo⟩ := exists_of_forall₂ listed met
    obtain rfl := lists.unique listsToo
    exact ⟨violation, List.mem_flatten.2 ⟨violations, isList, isListed⟩, isKey⟩

end Allowlist

/-! ## Reviews -/

namespace Reviewer

/-- A review against an allowlist that has all keys of what was reported, and those that were
accepted before, reports nothing but violations without a resource. -/
theorem reviewAll_of_accepted
    {reviewer : Reviewer}
    {results : List ResourceResult}
    {allowlist : Allowlist}
    (accepts : ∀ key, allowlist.entries.contains key = true ↔
      reviewer.allowlist.entries.contains key = true
        ∨ ∃ review ∈ reviewer.reviewAll results, ∃ violation ∈ review.reported,
          violation.key? = some key) :
    ({ reviewer with allowlist } : Reviewer).reviewAll results =
      (reviewer.reviewAll results).map fun review =>
        { review with reported := review.recorded.filter (·.resource.isNone) } := by
  rw [reviewAll, reviewAll, List.map_map]
  refine List.map_congr_left fun result present => ?_
  have isReview : reviewer.review result ∈ reviewer.reviewAll results :=
    List.mem_map_of_mem present
  have sameReported : allowlist.filter (reviewer.review result).recorded =
      (reviewer.review result).recorded.filter (·.resource.isNone) := by
    rw [Allowlist.filter_eq]
    refine List.filter_congr fun violation isRecorded => ?_
    rw [Violation.resource_isNone, Allowlist.contains]
    cases isKey : violation.key? with
    | none => rfl
    | some key =>
        have accepted : allowlist.entries.contains key = true := by
          rw [accepts]
          -- What had not been accepted was reported.
          by_cases before : reviewer.allowlist.entries.contains key = true
          · exact .inl before
          · have isReported : violation ∈ (reviewer.review result).reported := by
              rw [review, Allowlist.filter_eq]
              exact List.mem_filter.2 ⟨isRecorded, by simp [Allowlist.contains, isKey, before]⟩
            exact .inr ⟨_, isReview, violation, isReported, isKey⟩
        rw [Option.any_some, accepted]
        rfl
  exact congrArg (fun reported => ({ reviewer.review result with reported } : Review))
    sameReported

/-- What is recorded is plain, since it was received. -/
theorem plain_of_recorded
    {reviewer : Reviewer}
    (isPurifier : reviewer.purify ∈ Violation.purifiers)
    {results : List ResourceResult}
    (received : ∀ result ∈ results, ∀ violation ∈ result.violations, violation.Received)
    {review : Review}
    (reviewed : review ∈ reviewer.reviewAll results)
    {violation : Violation}
    (isRecorded : violation ∈ review.recorded) :
    violation.Plain := by
  obtain ⟨result, present, rfl⟩ := List.mem_map.1 reviewed
  obtain ⟨original, isOriginal, rfl⟩ := List.mem_map.1 (Violation.mem_of_mem_dedup isRecorded)
  exact (received result present original isOriginal).plain.purify isPurifier

/-- What is reported is among what is recorded. -/
theorem mem_recorded_of_reported
    {reviewer : Reviewer}
    {results : List ResourceResult}
    {review : Review}
    (reviewed : review ∈ reviewer.reviewAll results)
    {violation : Violation}
    (isReported : violation ∈ review.reported) :
    violation ∈ review.recorded := by
  obtain ⟨result, _, rfl⟩ := List.mem_map.1 reviewed
  exact (reviewer.reported_sublist result).subset isReported

end Reviewer

/-! ## Saving records -/

namespace Allowlist

/-- Files of lists of violations. -/
def filesOf (lists : List (FileName × List Violation)) : List (FileName × ByteArray) :=
  lists.map fun file => (file.1, (Violation.prettyList file.2).toUTF8)

theorem names_filesOf (lists : List (FileName × List Violation)) :
    (filesOf lists).map Prod.fst = lists.map Prod.fst := by
  rw [filesOf, List.map_map]
  rfl

/-- A file of a list lists it, wherever the file is met. -/
theorem lists_of_saved
    {file : FileName × List Violation}
    (jsonName : JsonName file.1)
    (plain : ∀ violation ∈ file.2, violation.Plain)
    (readsBack : (Json.array (file.2.map Violation.toJson)).ReadsBack)
    (path : FilePath)
    (names : List FileName) :
    Lists (.ok {
      path := FilePath.join path file.1, names,
      data := (Violation.prettyList file.2).toUTF8 }) file.2 :=
  .accepted (jsonName.ofFile?_join path names _) rfl (Violation.decode_prettyList plain readsBack)

/-- Lists of violations that are saved as new files of an allowlist are accepted with what was
accepted before. -/
theorem tryLoad_save
    {tree : FileTree}
    (proper : tree.Proper)
    {root : FilePath}
    {location : List FileName}
    (leads : tree.resolve true root = .ok location)
    {entries : List (FileName × FileNode)}
    (isDirectory : tree.node? location = some (.directory entries))
    {allowlist : Allowlist}
    (loads : tryLoad tree root = .ok allowlist)
    {lists : List (FileName × List Violation)}
    (distinct : (lists.map Prod.fst).Nodup)
    (newNames : ∀ file ∈ lists, JsonName file.1 ∧ entries.lookup file.1 = none)
    (plain : ∀ file ∈ lists, ∀ violation ∈ file.2, violation.Plain)
    (readsBack : ∀ file ∈ lists, (Json.array (file.2.map Violation.toJson)).ReadsBack) :
    ∃ reloaded, tryLoad (tree.save location (filesOf lists)) root = .ok reloaded
      ∧ ∀ key, reloaded.entries.contains key = true ↔
        allowlist.entries.contains key = true
          ∨ ∃ file ∈ lists, ∃ violation ∈ file.2, violation.key? = some key := by
  have grown : FileTree.Saved tree (tree.save location (filesOf lists)) location
      (filesOf lists) := by
    refine FileTree.saved_save proper isDirectory ?_ ?_ ?_
    · rwa [names_filesOf]
    · refine List.forall_mem_map.2 fun file isFile => ?_
      exact ⟨(newNames file isFile).1.ne_nil, (newNames file isFile).1.named⟩
    · refine List.forall_mem_map.2 fun file isFile => ?_
      rw [FileTree.node?_entry isDirectory, (newNames file isFile).2]
  obtain ⟨clear, _⟩ := (exists_lists_iff _).1 (exists_tryLoad_iff.1 ⟨allowlist, loads⟩)
  have meets := grown.meets_walk proper clear
  have listsFile (file : FileName × List Violation) (isFile : file ∈ lists) :=
    lists_of_saved (newNames file isFile).1 (plain file isFile) (readsBack file isFile)
  have listsNew {walked : Walked} (isNew : FileTree.NewFile (filesOf lists) walked) :
      ∃ file ∈ lists, Lists walked file.2 := by
    cases isNew with
    | met isFile path names =>
        obtain ⟨file, isList, rfl⟩ := List.mem_map.1 isFile
        exact ⟨file, isList, listsFile file isList path _⟩
  obtain ⟨reloaded, reloads⟩ :
      ∃ reloaded, tryLoad (tree.save location (filesOf lists)) root = .ok reloaded := by
    refine exists_tryLoad_iff.2 (exists_forall₂ fun walked met => ?_)
    rcases meets.added walked met with old | isNew
    · obtain ⟨before, listed, _⟩ := tryLoad_eq_ok_iff.1 loads
      obtain ⟨violations, _, isListed⟩ := exists_of_forall₂ listed old
      exact ⟨violations, isListed⟩
    · obtain ⟨file, _, isListed⟩ := listsNew isNew
      exact ⟨file.2, isListed⟩
  refine ⟨reloaded, reloads, fun key => ?_⟩
  rw [contains_of_tryLoad loads, contains_of_tryLoad reloads]
  constructor
  · rintro ⟨walked, met, violations, isListed, hasKey⟩
    rcases meets.added walked met with old | isNew
    · exact .inl ⟨walked, old, violations, isListed, hasKey⟩
    · obtain ⟨file, isFile, listsToo⟩ := listsNew isNew
      obtain rfl := isListed.unique listsToo
      exact .inr ⟨file, isFile, hasKey⟩
  · rintro (⟨walked, old, violations, isListed, hasKey⟩ | ⟨file, isFile, hasKey⟩)
    · exact ⟨walked, meets.kept walked old, violations, isListed, hasKey⟩
    · have met := grown.mem_walk proper clear leads isDirectory (List.mem_map_of_mem isFile)
      exact ⟨_, met, file.2, listsFile file isFile root _, hasKey⟩

/-- Accepting what was reported silences it and nothing else. When every record of new
violations is saved as a new JSON file in the directory of an allowlist that was loaded, the
allowlist can still be loaded and has the keys it had and those of what was reported. A second
review of the same results then records the same and reports exactly what is recorded without
a resource; it passes when there is nothing of that kind. -/
theorem accepting_silences
    {tree : FileTree}
    (proper : tree.Proper)
    {root : FilePath}
    {location : List FileName}
    (leads : tree.resolve true root = .ok location)
    {entries : List (FileName × FileNode)}
    (isDirectory : tree.node? location = some (.directory entries))
    {reviewer : Reviewer}
    (loads : tryLoad tree root = .ok reviewer.allowlist)
    (isPurifier : reviewer.purify ∈ Violation.purifiers)
    {results : List ResourceResult}
    (received : ∀ result ∈ results, ∀ violation ∈ result.violations, violation.Received)
    {lists : List (FileName × List Violation)}
    (saves : lists.map Prod.snd = Review.recordedLists (reviewer.reviewAll results))
    (distinct : (lists.map Prod.fst).Nodup)
    (newNames : ∀ file ∈ lists, JsonName file.1 ∧ entries.lookup file.1 = none)
    (readsBack : ∀ file ∈ lists, (Json.array (file.2.map Violation.toJson)).ReadsBack) :
    let reviews := reviewer.reviewAll results
    ∃ reloaded, tryLoad (tree.save location (filesOf lists)) root = .ok reloaded
      ∧ (∀ key, reloaded.entries.contains key = true ↔
        reviewer.allowlist.entries.contains key = true
          ∨ ∃ review ∈ reviews, ∃ violation ∈ review.reported, violation.key? = some key)
      ∧ (({ reviewer with allowlist := reloaded } : Reviewer).reviewAll results =
        reviews.map fun review =>
          { review with reported := review.recorded.filter (·.resource.isNone) })
      ∧ (Review.verdict (({ reviewer with allowlist := reloaded } : Reviewer).reviewAll results) =
          .ok () ↔
        ∀ review ∈ reviews, ∀ violation ∈ review.recorded, violation.resource ≠ none) := by
  intro reviews
  have isReported {violation : Violation} :
      (∃ file ∈ lists, violation ∈ file.2) ↔
        ∃ review ∈ reviews, violation ∈ review.reported := by
    rw [← Review.mem_recordedLists_iff, ← saves]
    constructor
    · rintro ⟨file, isFile, present⟩
      exact ⟨file.2, List.mem_map_of_mem isFile, present⟩
    · rintro ⟨_, isList, present⟩
      obtain ⟨file, isFile, rfl⟩ := List.mem_map.1 isList
      exact ⟨file, isFile, present⟩
  have plain : ∀ file ∈ lists, ∀ violation ∈ file.2, violation.Plain := by
    intro file isFile violation present
    obtain ⟨review, reviewed, reported⟩ := isReported.1 ⟨file, isFile, present⟩
    exact Reviewer.plain_of_recorded isPurifier received reviewed
      (Reviewer.mem_recorded_of_reported reviewed reported)
  obtain ⟨reloaded, reloads, contains⟩ :=
    tryLoad_save proper leads isDirectory loads distinct newNames plain readsBack
  have accepts (key : ResourceKey) :
      reloaded.entries.contains key = true ↔
        reviewer.allowlist.entries.contains key = true
          ∨ ∃ review ∈ reviews, ∃ violation ∈ review.reported, violation.key? = some key := by
    rw [contains]
    refine or_congr_right ?_
    constructor
    · rintro ⟨file, isFile, violation, present, isKey⟩
      obtain ⟨review, reviewed, reported⟩ := isReported.1 ⟨file, isFile, present⟩
      exact ⟨review, reviewed, violation, reported, isKey⟩
    · rintro ⟨review, reviewed, violation, reported, isKey⟩
      obtain ⟨file, isFile, present⟩ := isReported.2 ⟨review, reviewed, reported⟩
      exact ⟨file, isFile, violation, present, isKey⟩
  have rerun := Reviewer.reviewAll_of_accepted accepts
  refine ⟨reloaded, reloads, accepts, rerun, ?_⟩
  rw [rerun, Review.verdict_eq_ok_iff, List.forall_mem_map]
  simp only [List.filter_eq_nil_iff, Option.isNone_iff_eq_none]
  exact .rfl

/-! ## Records of one run

Of three violations one was accepted before and one names no resource. The messages are
emptied. -/

namespace WebRun

/-- The file of violations that were accepted before. -/
def tree : FileTree where
  entries := [(Utf8.encode "known.yaml",
    .file "- policyName: deny\n  resourceKey:\n    kind: Role\n    name: web\n".toUTF8)]

def reviewer : Reviewer where
  allowlist := .ofList [{ policyName := "deny", resource := some { kind := "Role", name := "web" } }]
  purify := Violation.withoutMessage

def response : Json :=
  let found (kind : String) : Json :=
    .object [("policyName", .text "deny"), ("message", .text "denied"),
      ("resourceKey", .object [("kind", .text kind), ("name", .text "pod-0")]),
      ("severity", .integer 3)]
  .object [("violations", .array [found "Pod", found "Role", .object []])]

def decoded : List Violation :=
  let found (kind : String) : Violation :=
    { policyName := "deny"
      message := "denied"
      resource := some { kind, name := "pod-0" }
      details := .ofList [("severity", .integer 3)] }
  [found "Pod", found "Role", {}]

def results : List ResourceResult := [⟨"web", decoded.map (Violation.stampResource "web")⟩]

/-- The records under their names, one for each policy. -/
def lists : List (FileName × List Violation) :=
  [(Utf8.encode "web-.json", [{}]),
    (Utf8.encode "web-deny.json", [{
      policyName := "deny"
      resource := some { kind := "Pod", name := "web" }
      details := .ofList [("severity", .integer 3)] }])]

/-- The tree of the run is one of a file system. -/
theorem tree_proper : tree.Proper := by
  refine .directory (by decide +kernel) (by decide +kernel) ?_
  exact List.forall_mem_singleton.2 (.file _)

theorem loaded : tryLoad tree [0x2E] = .ok reviewer.allowlist := by
  have read :
      readEntry [0x2E]
        (.ok {
          path := FilePath.join [0x2E] (Utf8.encode "known.yaml")
          names := [Utf8.encode "known.yaml"]
          data := "- policyName: deny\n  resourceKey:\n    kind: Role\n    name: web\n".toUTF8 }) =
        .ok [{ policyName := "deny", resource := some { kind := "Role", name := "web" } }] := by
    decide +kernel
  simp only [tryLoad, tree, FileTree.walk_dot_file, List.mapM_cons, read]
  rfl

theorem received :
    ∀ result ∈ results, ∀ violation ∈ result.violations, violation.Received := by
  refine List.forall_mem_singleton.2 (List.forall_mem_map.2 fun original present => ?_)
  refine ⟨{ name := "operations/1", done := true, response := some response }, decoded,
    original, ?_, present, .inr ⟨"web", rfl⟩⟩
  decide +kernel

theorem readsBack :
    ∀ file ∈ lists, (Json.array (file.2.map Violation.toJson)).ReadsBack := by
  refine List.forall_mem_cons.2 ⟨?_, List.forall_mem_singleton.2 ?_⟩
  · exact ⟨by decide +kernel, by decide +kernel⟩
  · exact ⟨by decide +kernel, by decide +kernel⟩

end WebRun

/-- The records of a run over one pod, saved and loaded, silence the review that wrote them. -/
theorem web_records_accepted :
    ∃ reloaded, tryLoad (WebRun.tree.save [] (filesOf WebRun.lists)) [0x2E] = .ok reloaded
      ∧ reloaded.entries.contains ⟨"deny", "", "Pod", "web", ""⟩ = true
      ∧ (({ WebRun.reviewer with allowlist := reloaded } : Reviewer).reviewAll WebRun.results).map
        Review.reported = [[{}]]
      ∧ Review.verdict (({ WebRun.reviewer with allowlist := reloaded } : Reviewer).reviewAll
        WebRun.results) ≠ .ok () := by
  have leads : WebRun.tree.resolve true [0x2E] = .ok [] :=
    FileTree.resolve_follow (FileTree.resolve_dot _) (by rintro _ ⟨⟩)
  have isPurifier : WebRun.reviewer.purify ∈ Violation.purifiers := by
    simp [WebRun.reviewer, Violation.purifiers]
  have newNames : ∀ file ∈ WebRun.lists,
      JsonName file.1 ∧ WebRun.tree.entries.lookup file.1 = none := by
    refine List.forall_mem_cons.2 ⟨?_, List.forall_mem_singleton.2 ?_⟩
    · exact ⟨⟨by decide +kernel, by decide +kernel⟩, by decide +kernel⟩
    · exact ⟨⟨by decide +kernel, by decide +kernel⟩, by decide +kernel⟩
  obtain ⟨reloaded, reloads, contains, rerun, passes⟩ :=
    accepting_silences WebRun.tree_proper leads rfl WebRun.loaded isPurifier WebRun.received
      (by decide +kernel) (by decide +kernel) newNames WebRun.readsBack
  refine ⟨reloaded, reloads, (contains _).2 (.inr ?_), ?_, ?_⟩
  · decide +kernel
  · rw [rerun]
    decide +kernel
  · rw [Ne, passes]
    decide +kernel

end Allowlist
end ManifestPolicy
