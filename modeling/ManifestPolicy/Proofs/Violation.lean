import ManifestPolicy.Proofs.Json.Record
import ManifestPolicy.Violation

/-!
# Reading and writing violations

A violation that has been read writes what it was read from: its policy, its message and its
resource, each complete, and every other member as it was. A violation whose details have
none of the three names, with their values in order, is read back as it was, and every
violation that has been read is one of these.
-/

namespace ManifestPolicy

namespace ResourceRef

/-- The parts of a resource. -/
def textParts : List (TextPart ResourceRef) :=
  [⟨"group", ResourceRef.group, fun group record => { record with group }⟩,
    ⟨"kind", ResourceRef.kind, fun kind record => { record with kind }⟩,
    ⟨"name", ResourceRef.name, fun name record => { record with name }⟩,
    ⟨"version", ResourceRef.version, fun version record => { record with version }⟩]

theorem independent_textParts : TextPart.Independent textParts where
  distinct := by decide
  get_set := by simp [textParts]
  get_set_of_ne := by simp [textParts]

/-- What is read as a resource has every part that was given, and nothing for the others. -/
theorem read_textPart
    {draft : Draft}
    {value : Json}
    (shown : draft.value? = some value)
    {resource : ResourceRef}
    (reads : shape.read draft = .ok resource)
    (index : Nat)
    {part : TextPart ResourceRef}
    (isPart : textParts[index]? = some part) :
    Json.text (part.get resource) =
      (value.part? part.name index).getD (.text (part.get shape.start)) :=
  RecordShape.read_part
    (RecordShape.setsPart_of_independent rfl independent_textParts isPart) shown reads

/-- A resource with all its parts and nothing else; a part that is missing is empty. -/
def complete (value : Json) : Json :=
  .object
    [("group", (value.part? "group" 0).getD (.text "")),
      ("kind", (value.part? "kind" 1).getD (.text "")),
      ("name", (value.part? "name" 2).getD (.text "")),
      ("version", (value.part? "version" 3).getD (.text ""))]

/-- What is read as a resource is written complete. -/
theorem toMembers_of_read
    {draft : Draft}
    {value : Json}
    (shown : draft.value? = some value)
    {resource : ResourceRef}
    (reads : shape.read draft = .ok resource) :
    .object resource.toMembers = complete value := by
  have group : Json.text resource.group = (value.part? "group" 0).getD (.text "") :=
    read_textPart shown reads 0 rfl
  have kind : Json.text resource.kind = (value.part? "kind" 1).getD (.text "") :=
    read_textPart shown reads 1 rfl
  have name : Json.text resource.name = (value.part? "name" 2).getD (.text "") :=
    read_textPart shown reads 2 rfl
  have version : Json.text resource.version = (value.part? "version" 3).getD (.text "") :=
    read_textPart shown reads 3 rfl
  rw [toMembers, complete, group, kind, name, version]

/-- A resource is read back as it was. -/
theorem read_toMembers
    {draft : Draft}
    {resource : ResourceRef}
    (shown : draft.value? = some (.object resource.toMembers)) :
    shape.read draft = .ok resource := by
  obtain ⟨drafted, ending, rfl, complete, shown⟩ := Draft.exists_of_value?_object shown
  have reads : RecordShape.readMembers shape.fields shape.start [] drafted =
      .ok (resource, ["version", "name", "kind", "group"]) := by
    refine shape.readText_of_shows shown (by decide) rfl fun _ shown => ?_
    refine shape.readText_of_shows shown (by decide) rfl fun _ shown => ?_
    refine shape.readText_of_shows shown (by decide) rfl fun _ shown => ?_
    refine shape.readText_of_shows shown (by decide) rfl fun _ shown => ?_
    exact RecordShape.readMembers_of_shows_nil shown _ _
  exact RecordShape.read_object complete reads rfl

end ResourceRef

namespace Violation

/-- The names of the members that are no details. -/
def named : List String := ["policyName", "message", "resourceKey"]

/-- A violation whose details have none of the other names. Their values are in order, as
values are when they have been read. -/
structure Plain (violation : Violation) : Prop where
  unnamed : ∀ name ∈ named, violation.details.get? name = none
  ordered : ∀ name value, violation.details.get? name = some value → value.Ordered

/-! ## What one member does -/

/-- How a member changes the violation. -/
inductive Takes (name : String) (draft : Draft) (violation : Violation) : Violation → Prop
  | policyName
      {text : String}
      (isName : name = "policyName")
      (isText : draft = .text text) :
      Takes name draft violation { violation with policyName := text }
  | message
      {text : String}
      (isName : name = "message")
      (isText : draft = .text text) :
      Takes name draft violation { violation with message := text }
  | absent
      (isName : name = "resourceKey")
      (isNull : draft = .null) :
      Takes name draft violation { violation with resource := none }
  | resource
      {resource : ResourceRef}
      (isName : name = "resourceKey")
      (present : draft ≠ .null)
      (reads : ResourceRef.shape.read draft = .ok resource) :
      Takes name draft violation { violation with resource := some resource }
  | detail
      {value : Json}
      (isDetail : name ∉ named)
      (reads : draft.toJson = .ok value) :
      Takes name draft violation
        { violation with details := violation.details.insert name value }

theorem readMembers_cons
    {name : String}
    {draft : Draft}
    {rest : List (Except Flaw String × Draft)}
    {violation result : Violation}
    {seen : Seen}
    (reads : readMembers violation seen ((.ok name, draft) :: rest) = .ok result) :
    ∃ changed seenNext, Takes name draft violation changed
      ∧ readMembers changed seenNext rest = .ok result := by
  rw [readMembers] at reads
  split at reads
  next isName =>
    obtain ⟨_, _, reads⟩ := bind_eq_ok reads
    obtain ⟨text, isText, reads⟩ := bind_eq_ok reads
    exact ⟨_, _, .policyName isName (Draft.readString_eq_ok isText), reads⟩
  next noPolicy =>
    split at reads
    next isName =>
      obtain ⟨_, _, reads⟩ := bind_eq_ok reads
      obtain ⟨text, isText, reads⟩ := bind_eq_ok reads
      exact ⟨_, _, .message isName (Draft.readString_eq_ok isText), reads⟩
    next noMessage =>
      split at reads
      next isName =>
        obtain ⟨_, _, reads⟩ := bind_eq_ok reads
        obtain ⟨resource, isResource, reads⟩ := bind_eq_ok reads
        rcases Draft.readOptional_eq_ok isResource with ⟨rfl, rfl⟩ | ⟨present, _, isRead, rfl⟩
        · exact ⟨_, _, .absent isName rfl, reads⟩
        · exact ⟨_, _, .resource isName present isRead, reads⟩
      next noResource =>
        obtain ⟨detail, isDetail, reads⟩ := bind_eq_ok reads
        have isOther : name ∉ named := by simp [named, noPolicy, noMessage, noResource]
        exact ⟨_, _, .detail isOther (mapError_eq_ok_iff.1 isDetail), reads⟩

/-! ## What is read is plain -/

theorem Takes.plain
    {name : String}
    {draft : Draft}
    {violation changed : Violation}
    (takes : Takes name draft violation changed)
    (plain : violation.Plain) :
    changed.Plain := by
  cases takes with
  | policyName | message | absent | resource => exact ⟨plain.unnamed, plain.ordered⟩
  | detail isDetail reads =>
      constructor
      · intro other isNamed
        have different : other ≠ name := by
          rintro rfl
          exact isDetail isNamed
        rw [SortedMap.get?_insert, if_neg different, plain.unnamed other isNamed]
      · intro other stored found
        rw [SortedMap.get?_insert] at found
        split at found
        · obtain rfl := Option.some.inj found
          exact Draft.ordered_of_toJson reads
        · exact plain.ordered other stored found

theorem plain_of_readMembers
    {members : List (Except Flaw String × Draft)}
    {violation result : Violation}
    {seen : Seen}
    (plain : violation.Plain)
    (reads : readMembers violation seen members = .ok result) :
    result.Plain := by
  induction members generalizing violation seen with
  | nil =>
      obtain rfl := Except.ok.inj reads
      exact plain
  | cons member rest plainRest =>
      obtain ⟨_ | name, draft⟩ := member
      · contradiction
      · obtain ⟨changed, seenNext, takes, readsRest⟩ := readMembers_cons reads
        exact plainRest (takes.plain plain) readsRest

/-- Every violation that is read is plain. -/
theorem plain_of_read
    {draft : Draft}
    {violation : Violation}
    (reads : Violation.read draft = .ok violation) :
    violation.Plain := by
  cases draft with
  | object members ending =>
      obtain ⟨result, readsMembers, reads⟩ := bind_eq_ok reads
      obtain ⟨_, _, same⟩ := bind_eq_ok reads
      obtain rfl := Except.ok.inj same
      exact plain_of_readMembers ⟨fun _ _ => rfl, by simp⟩ readsMembers
  | _ => contradiction

/-! ## What has been read is written again -/

/-- A part of a violation is what the member of one name gives, or what it was. -/
theorem readMembers_part
    {β : Type}
    (part : Violation → β)
    (name : String)
    (given : Json → β)
    (sets : ∀ draft value violation changed, draft.value? = some value →
      Takes name draft violation changed → part changed = given value)
    (leaves : ∀ other draft violation changed, other ≠ name →
      Takes other draft violation changed → part changed = part violation)
    {drafted : List (Except Flaw String × Draft)}
    {members : List (String × Json)}
    (shown : List.Forall₂ Draft.ShowsMember drafted members)
    (distinct : (members.map Prod.fst).Nodup)
    {violation result : Violation}
    {seen : Seen}
    (reads : readMembers violation seen drafted = .ok result) :
    part result = (((Json.object members).get? name).map given).getD (part violation) := by
  induction shown generalizing violation seen with
  | nil =>
      obtain rfl := Except.ok.inj reads
      rfl
  | @cons drafted member rest members showsMember _ partRest =>
      obtain ⟨drafted, draft⟩ := drafted
      obtain ⟨other, value⟩ := member
      obtain ⟨rfl, showsValue⟩ := showsMember
      rw [List.map_cons, List.nodup_cons] at distinct
      obtain ⟨changed, seenNext, takes, readsRest⟩ := readMembers_cons reads
      rw [partRest distinct.2 readsRest, Json.get?_object_cons]
      by_cases isPart : other = name
      · subst isPart
        rw [if_pos rfl, Json.get?_object_eq_none_iff.2 distinct.1]
        exact sets draft value violation changed showsValue takes
      · rw [if_neg isPart, leaves other draft violation changed isPart takes]

/-- The member that is written for a resource, if it is not null. -/
def writtenResource (value : Json) : Option Json :=
  if value = .null then none else some (ResourceRef.complete value)

section Reading

variable
  {drafted : List (Except Flaw String × Draft)}
  {members : List (String × Json)}
  {result : Violation}

theorem readMembers_policyName
    (shown : List.Forall₂ Draft.ShowsMember drafted members)
    (distinct : (members.map Prod.fst).Nodup)
    (reads : readMembers {} {} drafted = .ok result) :
    Json.text result.policyName = ((Json.object members).get? "policyName").getD (.text "") := by
  have given := readMembers_part (fun violation => Json.text violation.policyName)
    "policyName" id ?_ ?_ shown distinct reads
  · rwa [Option.map_id_fun] at given
  · intro draft value violation changed showsValue takes
    cases takes with
    | policyName _ isText =>
        subst isText
        exact Option.some.inj showsValue
    | message isName | absent isName | resource isName => simp at isName
    | detail isDetail => simp [named] at isDetail
  · intro other draft violation changed different takes
    cases takes with
    | policyName isName => exact absurd isName different
    | message | absent | resource | detail => rfl

theorem readMembers_message
    (shown : List.Forall₂ Draft.ShowsMember drafted members)
    (distinct : (members.map Prod.fst).Nodup)
    (reads : readMembers {} {} drafted = .ok result) :
    Json.text result.message = ((Json.object members).get? "message").getD (.text "") := by
  have given := readMembers_part (fun violation => Json.text violation.message)
    "message" id ?_ ?_ shown distinct reads
  · rwa [Option.map_id_fun] at given
  · intro draft value violation changed showsValue takes
    cases takes with
    | message _ isText =>
        subst isText
        exact Option.some.inj showsValue
    | policyName isName | absent isName | resource isName => simp at isName
    | detail isDetail => simp [named] at isDetail
  · intro other draft violation changed different takes
    cases takes with
    | message isName => exact absurd isName different
    | policyName | absent | resource | detail => rfl

theorem readMembers_resource
    (shown : List.Forall₂ Draft.ShowsMember drafted members)
    (distinct : (members.map Prod.fst).Nodup)
    (reads : readMembers {} {} drafted = .ok result) :
    (result.resource.map fun resource => Json.object resource.toMembers) =
      ((Json.object members).get? "resourceKey").bind writtenResource := by
  have given := readMembers_part
    (fun violation => violation.resource.map fun resource => Json.object resource.toMembers)
    "resourceKey" writtenResource ?_ ?_ shown distinct reads
  · rw [given]
    cases (Json.object members).get? "resourceKey" <;> rfl
  · intro draft value violation changed showsValue takes
    cases takes with
    | absent _ isNull =>
        subst isNull
        obtain rfl := Option.some.inj showsValue
        rfl
    | resource _ present reads =>
        have notNull : value ≠ .null := by
          rintro rfl
          exact present (Draft.eq_draft_of_value? showsValue (by simp) (by simp))
        rw [writtenResource, if_neg notNull, ← ResourceRef.toMembers_of_read showsValue reads]
        rfl
    | policyName isName | message isName => simp at isName
    | detail isDetail => simp [named] at isDetail
  · intro other draft violation changed different takes
    cases takes with
    | absent isName | resource isName => exact absurd isName different
    | policyName | message | detail => rfl

theorem readMembers_detail
    (shown : List.Forall₂ Draft.ShowsMember drafted members)
    (distinct : (members.map Prod.fst).Nodup)
    (reads : readMembers {} {} drafted = .ok result)
    {name : String}
    (isDetail : name ∉ named) :
    result.details.get? name = ((Json.object members).get? name).map Json.sorted := by
  have given := readMembers_part (fun violation => violation.details.get? name)
    name (fun value => some value.sorted) ?_ ?_ shown distinct reads
  · rw [given]
    cases (Json.object members).get? name <;> rfl
  · intro draft value violation changed showsValue takes
    cases takes with
    | detail _ reads =>
        rw [Draft.toJson_of_value? showsValue] at reads
        rw [SortedMap.get?_insert, if_pos rfl, Except.ok.inj reads]
    | policyName isName | message isName | absent isName | resource isName =>
        subst isName
        simp [named] at isDetail
  · intro other draft violation changed different takes
    cases takes with
    | detail => rw [SortedMap.get?_insert, if_neg (Ne.symm different)]
    | policyName | message | absent | resource => rfl

end Reading

/-! ## What is written is read again -/

section Writing

variable
  {drafted : List (Except Flaw String × Draft)}
  {members : List (String × Json)}
  {violation result : Violation}
  {seen : Seen}

theorem readMembers_of_shows_policyName
    {text : String}
    (shown : List.Forall₂ Draft.ShowsMember drafted (("policyName", .text text) :: members))
    (fresh : seen.policyName = false)
    (later : ∀ rest, List.Forall₂ Draft.ShowsMember rest members →
      readMembers { violation with policyName := text } { seen with policyName := true } rest =
        .ok result) :
    readMembers violation seen drafted = .ok result := by
  obtain ⟨draft, rest, rfl, showsText, showsRest⟩ := Draft.exists_cons_of_shows shown
  rw [readMembers, if_pos rfl, fresh, Draft.eq_text_of_value? showsText]
  exact later rest showsRest

theorem readMembers_of_shows_message
    {text : String}
    (shown : List.Forall₂ Draft.ShowsMember drafted (("message", .text text) :: members))
    (fresh : seen.message = false)
    (later : ∀ rest, List.Forall₂ Draft.ShowsMember rest members →
      readMembers { violation with message := text } { seen with message := true } rest =
        .ok result) :
    readMembers violation seen drafted = .ok result := by
  obtain ⟨draft, rest, rfl, showsText, showsRest⟩ := Draft.exists_cons_of_shows shown
  rw [readMembers, if_neg (by decide), if_pos rfl, fresh, Draft.eq_text_of_value? showsText]
  exact later rest showsRest

theorem readMembers_of_shows_resource
    {resource : ResourceRef}
    (shown : List.Forall₂ Draft.ShowsMember drafted
      (("resourceKey", .object resource.toMembers) :: members))
    (fresh : seen.resource = false)
    (later : ∀ rest, List.Forall₂ Draft.ShowsMember rest members →
      readMembers { violation with resource := some resource } { seen with resource := true }
        rest = .ok result) :
    readMembers violation seen drafted = .ok result := by
  obtain ⟨draft, rest, rfl, showsResource, showsRest⟩ := Draft.exists_cons_of_shows shown
  have present : draft ≠ .null := by
    rintro rfl
    simp [Draft.value?] at showsResource
  rw [readMembers, if_neg (by decide), if_neg (by decide), if_pos rfl, fresh,
    Draft.readOptional_of_present present (ResourceRef.read_toMembers showsResource)]
  exact later rest showsRest

theorem readMembers_of_shows_all
    (shown : List.Forall₂ Draft.ShowsMember drafted members)
    (details : ∀ member ∈ members, member.1 ∉ named ∧ member.2.Ordered) :
    readMembers violation seen drafted =
      .ok { violation with
        details := members.foldl (fun map member => map.insert member.1 member.2)
          violation.details } := by
  induction shown generalizing violation with
  | nil => rfl
  | @cons first member rest members showsMember _ readsRest =>
      obtain ⟨_, draft⟩ := first
      obtain ⟨name, value⟩ := member
      obtain ⟨rfl, showsValue⟩ := showsMember
      obtain ⟨⟨isDetail, ordered⟩, laterDetails⟩ := List.forall_mem_cons.1 details
      simp only [named, List.mem_cons, List.not_mem_nil, or_false, not_or] at isDetail
      obtain ⟨noPolicy, noMessage, noResource⟩ := isDetail
      have isValue : draft.readJson = .ok value := by
        rw [Draft.readJson, Draft.toJson_of_value? showsValue, Json.sorted_of_ordered ordered]
        rfl
      rw [readMembers, if_neg noPolicy, if_neg noMessage, if_neg noResource, isValue]
      exact readsRest laterDetails

/-- Details are read back as they are listed. -/
theorem readMembers_of_shows_details
    {details : SortedMap String Json}
    (shown : List.Forall₂ Draft.ShowsMember drafted details.entries)
    (areDetails : ∀ member ∈ details.entries, member.1 ∉ named ∧ member.2.Ordered)
    (noDetails : violation.details = .empty) :
    readMembers violation seen drafted = .ok { violation with details } := by
  have collected :
      details.entries.foldl (fun map member => map.insert member.1 member.2)
        violation.details = details := by
    rw [noDetails]
    exact SortedMap.ofList_entries details
  rw [readMembers_of_shows_all shown areDetails, collected]

/-- A plain violation is read back as it was. -/
theorem read_toJson
    (plain : violation.Plain)
    {draft : Draft}
    (shown : draft.value? = some violation.toJson) :
    Violation.read draft = .ok violation := by
  obtain ⟨drafted, ending, rfl, complete, shown⟩ := Draft.exists_of_value?_object shown
  obtain ⟨policyName, message, resource, details⟩ := violation
  have areDetails : ∀ member ∈ details.entries, member.1 ∉ named ∧ member.2.Ordered := by
    rintro ⟨name, value⟩ present
    have found := SortedMap.mem_entries_iff.1 present
    refine ⟨fun isNamed => ?_, plain.ordered name value found⟩
    exact absurd (found.symm.trans (plain.unnamed name isNamed)) (by simp)
  have reads : readMembers {} {} drafted = .ok ⟨policyName, message, resource, details⟩ := by
    refine readMembers_of_shows_policyName shown rfl fun _ shown => ?_
    refine readMembers_of_shows_message shown rfl fun _ shown => ?_
    cases resource with
    | none => exact readMembers_of_shows_details shown areDetails rfl
    | some resource =>
        refine readMembers_of_shows_resource shown rfl fun _ shown => ?_
        exact readMembers_of_shows_details shown areDetails rfl
  rw [Violation.read, reads]
  simp only [bind, Except.bind, complete, Draft.orFault, Except.mapError]
  rfl

/-- A list of plain violations is read back as it was. -/
theorem forall₂_read_toJson
    {violations : List Violation}
    (plain : ∀ violation ∈ violations, violation.Plain)
    {items : List Draft}
    (shown : List.Forall₂ (fun item value => item.value? = some value) items
      (violations.map toJson)) :
    List.Forall₂ (fun item violation => Violation.read item = .ok violation) items
      violations := by
  induction violations generalizing items with
  | nil =>
      cases shown
      exact .nil
  | cons violation rest readsRest =>
      obtain ⟨isPlain, restPlain⟩ := List.forall_mem_cons.1 plain
      cases shown with
      | cons showsFirst showsRest =>
          exact .cons (read_toJson isPlain showsFirst) (readsRest restPlain showsRest)

/-- What is written under a name. -/
theorem get?_toJson
    (plain : violation.Plain)
    (name : String) :
    violation.toJson.get? name =
      if name = "policyName" then some (.text violation.policyName)
      else if name = "message" then some (.text violation.message)
      else if name = "resourceKey" then
        violation.resource.map fun resource => .object resource.toMembers
      else violation.details.get? name := by
  rw [toJson, toMembers, List.append_assoc, List.cons_append, List.singleton_append,
    Json.get?_object_cons, Json.get?_object_cons, Json.get?_object_append,
    Json.get?_object_entries]
  simp only [eq_comm (a := name)]
  split
  · rfl
  split
  · rfl
  split
  next isResource =>
    rw [plain.unnamed name (by simp [named, ← isResource]), Option.or_none]
    cases violation.resource with
    | none => rfl
    | some resource => simp [Json.get?_object_cons, isResource]
  next noResource =>
    cases violation.resource with
    | none => rfl
    | some resource => simp [Json.get?_object_cons, noResource]

/-- No name is written twice. -/
theorem toMembers_names_nodup (plain : violation.Plain) :
    (violation.toMembers.map Prod.fst).Nodup := by
  have within :
      (violation.toMembers.map Prod.fst).Sublist (named ++ violation.details.keys) := by
    rw [toMembers, List.map_append]
    refine List.Sublist.append ?_ (List.Sublist.refl _)
    cases violation.resource <;> simp [named]
  refine within.nodup (List.nodup_append.2 ⟨by decide, violation.details.keys_nodup, ?_⟩)
  rintro name isNamed _ isDetail rfl
  have found := SortedMap.mem_keys_iff.1 isDetail
  rw [plain.unnamed name isNamed] at found
  contradiction

end Writing

/-- What is written of a violation that was read from an object. -/
theorem toJson_of_read
    {draft : Draft}
    {members : List (String × Json)}
    (shown : draft.value? = some (.object members))
    (distinct : (members.map Prod.fst).Nodup)
    {violation : Violation}
    (reads : Violation.read draft = .ok violation) :
    (violation.toMembers.map Prod.fst).Nodup
    ∧ violation.toJson.get? "policyName" =
      some (((Json.object members).get? "policyName").getD (.text ""))
    ∧ violation.toJson.get? "message" =
      some (((Json.object members).get? "message").getD (.text ""))
    ∧ violation.toJson.get? "resourceKey" =
      ((Json.object members).get? "resourceKey").bind writtenResource
    ∧ ∀ name ∉ named,
      violation.toJson.get? name = ((Json.object members).get? name).map Json.sorted := by
  have plain := plain_of_read reads
  obtain ⟨drafted, ending, rfl, _, shown⟩ := Draft.exists_of_value?_object shown
  obtain ⟨result, readsMembers, reads⟩ := bind_eq_ok reads
  obtain ⟨_, _, same⟩ := bind_eq_ok reads
  obtain rfl := Except.ok.inj same
  refine ⟨toMembers_names_nodup plain, ?_, ?_, ?_, fun name isDetail => ?_⟩
  · rw [get?_toJson plain, if_pos rfl, readMembers_policyName shown distinct readsMembers]
  · rw [get?_toJson plain, if_neg (by decide), if_pos rfl,
      readMembers_message shown distinct readsMembers]
  · rw [get?_toJson plain, if_neg (by decide), if_neg (by decide), if_pos rfl,
      readMembers_resource shown distinct readsMembers]
  · have ⟨noPolicy, noMessage, noResource⟩ :
        name ≠ "policyName" ∧ name ≠ "message" ∧ name ≠ "resourceKey" := by
      simpa [named] using isDetail
    rw [get?_toJson plain, if_neg noPolicy, if_neg noMessage, if_neg noResource,
      readMembers_detail shown distinct readsMembers isDetail]

end Violation
end ManifestPolicy
