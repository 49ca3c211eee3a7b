import Mathlib.Data.List.Nodup
import ManifestPolicy.Proofs.Json.Value

/-!
# What is read as a record

A record is read from the members of an object or from the items of an array, one field
after the other. What every field preserves holds of the whole record, and a part that only
one field sets is what that field has been given, or what it was at the start.
-/

namespace ManifestPolicy

variable {σ α : Type}

namespace Draft

theorem readString_eq_ok
    {draft : Draft}
    {text : String}
    (reads : draft.readString = .ok text) :
    draft = .text text := by
  cases draft with
  | text value =>
      obtain rfl := Except.ok.inj reads
      rfl
  | _ => contradiction

/-- What is read as absent is null, and anything else has been read. -/
theorem readOptional_eq_ok
    {read : Draft → Except DecodeError α}
    {draft : Draft}
    {result : Option α}
    (reads : draft.readOptional read = .ok result) :
    (draft = .null ∧ result = none)
      ∨ (draft ≠ .null ∧ ∃ value, read draft = .ok value ∧ some value = result) := by
  cases draft with
  | null => exact .inl ⟨rfl, (Except.ok.inj reads).symm⟩
  | _ => exact .inr ⟨by simp, map_eq_ok reads⟩

/-- An optional field is read as there unless it is null. -/
theorem readOptional_of_present
    {read : Draft → Except DecodeError α}
    {draft : Draft}
    (present : draft ≠ .null)
    {value : α}
    (reads : read draft = .ok value) :
    draft.readOptional read = .ok (some value) := by
  cases draft with
  | null => contradiction
  | _ => exact congrArg (Except.map some) reads

theorem readString_of_value?
    {draft : Draft}
    {text : String}
    (shown : draft.value? = some (.text text)) :
    draft.readString = .ok text := by
  rw [eq_text_of_value? shown]
  rfl

/-- A list is read from drafts that are all read. -/
theorem readItems_eq_ok
    {read : Draft → Except DecodeError α}
    {ending : Ending}
    (complete : checkEnding ending = .ok ())
    {items : List Draft}
    {values : List α}
    (reads : List.Forall₂ (fun item value => read item = .ok value) items values) :
    readItems read items ending = .ok values := by
  induction reads with
  | nil =>
      rw [readItems, complete]
      rfl
  | cons isFirst _ readsRest =>
      rw [readItems, isFirst, readsRest]
      rfl

/-- What holds of every item that is read holds of all of them. -/
theorem forall_of_readItems
    {read : Draft → Except DecodeError α}
    {property : α → Prop}
    (each : ∀ item value, read item = .ok value → property value)
    {items : List Draft}
    {ending : Ending}
    {values : List α}
    (reads : readItems read items ending = .ok values) :
    ∀ value ∈ values, property value := by
  induction items generalizing values with
  | nil =>
      obtain ⟨_, _, same⟩ := bind_eq_ok reads
      obtain rfl := Except.ok.inj same
      exact List.forall_mem_nil _
  | cons item rest forallRest =>
      obtain ⟨value, isValue, reads⟩ := bind_eq_ok reads
      obtain ⟨others, areOthers, same⟩ := bind_eq_ok reads
      obtain rfl := Except.ok.inj same
      exact List.forall_mem_cons.2 ⟨each item value isValue, forallRest areOthers⟩

/-- What holds of whatever is read holds of all items of a list. -/
theorem forall_of_readList
    {read : Draft → Except DecodeError α}
    {property : α → Prop}
    (each : ∀ item value, read item = .ok value → property value)
    {draft : Draft}
    {values : List α}
    (reads : draft.readList read = .ok values) :
    ∀ value ∈ values, property value := by
  cases draft with
  | array items ending => exact forall_of_readItems each reads
  | _ => contradiction

end Draft

namespace Json

/-- The part of a record that is given by name in an object or by its place in an array. -/
def part? (name : String) (position : Nat) : Json → Option Json
  | .object members => (object members).get? name
  | .array items => items[position]?
  | _ => none

end Json

namespace Field

/-- A field leaves a part of the record as it is. -/
def Leaves (field : Field σ) (part : σ → α) : Prop :=
  ∀ draft change, field.read draft = .ok change → ∀ record, part (change record) = part record

/-- A field takes a text for a part of the record. -/
def TakesText (field : Field σ) (part : σ → String) : Prop :=
  ∀ draft change, field.read draft = .ok change →
    ∃ text, draft = .text text ∧ ∀ record, part (change record) = text

end Field

/-- A part of a record that is a text, and how it is changed. -/
structure TextPart (σ : Type) where
  name : String
  get : σ → String
  set : String → σ → σ

namespace TextPart

/-- The field that reads a text, which may be missing. -/
def field (part : TextPart σ) : Field σ :=
  ⟨part.name, false, fun draft => draft.readString.map part.set⟩

/-- Parts of different names that are changed independently of each other. -/
structure Independent (parts : List (TextPart σ)) : Prop where
  distinct : (parts.map TextPart.name).Nodup
  get_set : ∀ part ∈ parts, ∀ text record, part.get (part.set text record) = text
  get_set_of_ne : ∀ part ∈ parts, ∀ other ∈ parts, other.name ≠ part.name →
    ∀ text record, part.get (other.set text record) = part.get record

end TextPart

namespace RecordShape

variable {shape : RecordShape σ} {fields : List (Field σ)}

/-- A member is taken by the field of its name, which has not been seen before, or passed
over. -/
inductive Takes
    (fields : List (Field σ))
    (name : String)
    (draft : Draft)
    (record : σ)
    (seen : List String) : σ → List String → Prop
  | field
      {field : Field σ}
      {change : σ → σ}
      (isField : (fields.find? fun field => field.name == name) = some field)
      (fresh : name ∉ seen)
      (reads : field.read draft = .ok change) :
      Takes fields name draft record seen (change record) (name :: seen)
  | other
      (noField : (fields.find? fun field => field.name == name) = none) :
      Takes fields name draft record seen record seen

/-- Where members are read, the first is taken and the rest are read after it. -/
theorem readMembers_cons
    {name : String}
    {draft : Draft}
    {rest : List (Except Flaw String × Draft)}
    {record : σ}
    {seen : List String}
    {result : σ × List String}
    (reads : readMembers fields record seen ((.ok name, draft) :: rest) = .ok result) :
    ∃ changed seenNext, Takes fields name draft record seen changed seenNext
      ∧ readMembers fields changed seenNext rest = .ok result := by
  rw [readMembers] at reads
  split at reads
  next noField =>
    obtain ⟨_, _, readsRest⟩ := bind_eq_ok reads
    exact ⟨record, seen, .other noField, readsRest⟩
  next field isField =>
    split at reads
    next repeated => contradiction
    next fresh =>
      obtain ⟨change, isChange, readsRest⟩ := bind_eq_ok reads
      exact ⟨change record, name :: seen, .field isField fresh isChange, readsRest⟩

/-- A member that shows what its field takes is taken. -/
theorem readMembers_of_shows
    (shape : RecordShape σ)
    {name : String}
    {value : Json}
    {drafted : List (Except Flaw String × Draft)}
    {members : List (String × Json)}
    (shown : List.Forall₂ Draft.ShowsMember drafted ((name, value) :: members))
    {seen : List String}
    (fresh : name ∉ seen)
    {required : Bool}
    {readPart : Draft → Except DecodeError α}
    {set : α → σ → σ}
    (isField : (shape.fields.find? fun field => field.name == name) =
      some ⟨name, required, fun draft => (readPart draft).map set⟩)
    {given : α}
    (reads : ∀ draft : Draft, draft.value? = some value → readPart draft = .ok given)
    {record : σ}
    {result : σ × List String}
    (later : ∀ rest, List.Forall₂ Draft.ShowsMember rest members →
      readMembers shape.fields (set given record) (name :: seen) rest = .ok result) :
    readMembers shape.fields record seen drafted = .ok result := by
  obtain ⟨draft, rest, rfl, showsValue, showsRest⟩ := Draft.exists_cons_of_shows shown
  rw [readMembers]
  simp only [isField, if_neg fresh, reads draft showsValue]
  exact later rest showsRest

/-- A member that shows a text is taken by the field of a text. -/
theorem readText_of_shows
    (shape : RecordShape σ)
    {name text : String}
    {drafted : List (Except Flaw String × Draft)}
    {members : List (String × Json)}
    (shown : List.Forall₂ Draft.ShowsMember drafted ((name, .text text) :: members))
    {seen : List String}
    (fresh : name ∉ seen)
    {required : Bool}
    {set : String → σ → σ}
    (isField : (shape.fields.find? fun field => field.name == name) =
      some ⟨name, required, fun draft => draft.readString.map set⟩)
    {record : σ}
    {result : σ × List String}
    (later : ∀ rest, List.Forall₂ Draft.ShowsMember rest members →
      readMembers shape.fields (set text record) (name :: seen) rest = .ok result) :
    readMembers shape.fields record seen drafted = .ok result :=
  shape.readMembers_of_shows shown fresh isField
    (fun _ shown => Draft.readString_of_value? shown) later

theorem readMembers_of_shows_nil
    {drafted : List (Except Flaw String × Draft)}
    (shown : List.Forall₂ Draft.ShowsMember drafted [])
    (record : σ)
    (seen : List String) :
    readMembers fields record seen drafted = .ok (record, seen) := by
  cases shown
  rfl

theorem read_object
    {members : List (Except Flaw String × Draft)}
    {ending : Ending}
    (complete : Draft.checkEnding ending = .ok ())
    {record : σ}
    {seen : List String}
    (reads : readMembers shape.fields shape.start [] members = .ok (record, seen))
    (nothingMissing : missing? shape.fields seen = none) :
    shape.read (.object members ending) = .ok record := by
  rw [read, reads]
  simp only [complete, nothingMissing, bind, Except.bind, Draft.orFault, Except.mapError]
  rfl

/-! ## What all fields preserve -/

/-- What every field keeps of a record is kept by all members. -/
theorem readMembers_preserves
    {property : σ → Prop}
    (preserves : ∀ field ∈ fields, ∀ draft change, field.read draft = .ok change →
      ∀ record, property record → property (change record))
    {members : List (Except Flaw String × Draft)}
    {record : σ}
    {seen : List String}
    {result : σ × List String}
    (holds : property record)
    (reads : readMembers fields record seen members = .ok result) :
    property result.1 := by
  induction members generalizing record seen with
  | nil =>
      obtain rfl := Except.ok.inj reads
      exact holds
  | cons member rest holdsRest =>
      obtain ⟨_ | name, draft⟩ := member
      · contradiction
      · obtain ⟨changed, seenNext, takes, readsRest⟩ := readMembers_cons reads
        cases takes with
        | field isField fresh reads =>
            have isKnown := List.mem_of_find?_eq_some isField
            exact holdsRest (preserves _ isKnown draft _ reads record holds) readsRest
        | other noField => exact holdsRest holds readsRest

/-- The same where fields are read by position. -/
theorem readPositions_preserves
    {property : σ → Prop}
    (preserves : ∀ field ∈ fields, ∀ draft change, field.read draft = .ok change →
      ∀ record, property record → property (change record))
    {items : List Draft}
    {count : Nat}
    {ending : Ending}
    {record result : σ}
    {position : Nat}
    (holds : property record)
    (reads : readPositions shape count ending record position fields items = .ok result) :
    property result := by
  induction fields generalizing items record position with
  | nil =>
      cases items with
      | nil =>
          obtain ⟨_, _, same⟩ := bind_eq_ok reads
          obtain rfl := Except.ok.inj same
          exact holds
      | cons item rest => cases ending <;> simp [readPositions] at reads
  | cons field others holdsOthers =>
      obtain ⟨preservesField, preservesOthers⟩ := List.forall_mem_cons.1 preserves
      cases items with
      | nil =>
          obtain ⟨_, _, reads⟩ := bind_eq_ok reads
          split at reads
          · contradiction
          · exact holdsOthers preservesOthers holds reads
      | cons item rest =>
          obtain ⟨change, isChange, readsRest⟩ := bind_eq_ok reads
          exact holdsOthers preservesOthers (preservesField item change isChange record holds)
            readsRest

/-- What holds at the start and is preserved by all fields holds of the record. -/
theorem read_preserves
    (property : σ → Prop)
    (atStart : property shape.start)
    (preserves : ∀ field ∈ shape.fields, ∀ draft change, field.read draft = .ok change →
      ∀ record, property record → property (change record))
    {draft : Draft}
    {record : σ}
    (reads : shape.read draft = .ok record) :
    property record := by
  cases draft with
  | object members ending =>
      obtain ⟨⟨result, seen⟩, readsMembers, reads⟩ := bind_eq_ok reads
      obtain ⟨_, _, reads⟩ := bind_eq_ok reads
      split at reads
      · contradiction
      · obtain rfl := Except.ok.inj reads
        exact readMembers_preserves preserves atStart readsMembers
  | array items ending => exact readPositions_preserves preserves atStart reads
  | _ => contradiction

/-! ## What one field sets -/

/-- A part of a record that one field alone may set is what the member of that name says. It stays
as it is where that name was seen or is not there. -/
theorem readMembers_part
    {name : String}
    {part : σ → String}
    (known : (fields.find? fun field => field.name == name).isSome)
    (takes : ∀ field ∈ fields, field.name = name → field.TakesText part)
    (leaves : ∀ field ∈ fields, field.name ≠ name → field.Leaves part)
    {drafted : List (Except Flaw String × Draft)}
    {members : List (String × Json)}
    (shown : List.Forall₂ Draft.ShowsMember drafted members)
    {record : σ}
    {seen : List String}
    {result : σ × List String}
    (reads : readMembers fields record seen drafted = .ok result) :
    Json.text (part result.1) =
      if name ∈ seen then .text (part record)
      else ((Json.object members).get? name).getD (.text (part record)) := by
  induction shown generalizing record seen with
  | nil =>
      obtain rfl := Except.ok.inj reads
      rw [Json.get?_object_nil, Option.getD_none, ite_self]
  | @cons drafted member rest members showsMember _ partRest =>
      obtain ⟨drafted, draft⟩ := drafted
      obtain ⟨other, value⟩ := member
      obtain ⟨rfl, showsValue⟩ := showsMember
      obtain ⟨changed, seenNext, member, readsRest⟩ := readMembers_cons reads
      rw [partRest readsRest, Json.get?_object_cons]
      cases member with
      | @field field change isField fresh reads =>
          have isKnown := List.mem_of_find?_eq_some isField
          have sameName : field.name = other := by simpa using List.find?_some isField
          by_cases isPart : other = name
          · -- A second member of this name would have been refused.
            subst isPart
            obtain ⟨text, rfl, sets⟩ := takes field isKnown sameName draft change reads
            obtain rfl := Option.some.inj showsValue
            rw [if_pos List.mem_cons_self, if_neg fresh, if_pos rfl, sets, Option.getD_some]
          · have keeps := leaves field isKnown (sameName.trans_ne isPart) draft change reads
            have stillSeen : name ∈ other :: seen ↔ name ∈ seen :=
              List.mem_cons.trans (or_iff_right (Ne.symm isPart))
            rw [if_neg isPart, keeps]
            simp only [stillSeen]
      | other noField =>
          have isOther : other ≠ name := by
            rintro rfl
            simp [noField] at known
          rw [if_neg isOther]

/-- No item changes nothing. -/
theorem readPositions_nil
    {count : Nat}
    {ending : Ending}
    {record result : σ}
    {position : Nat}
    (reads : readPositions shape count ending record position fields [] = .ok result) :
    result = record := by
  induction fields generalizing position with
  | nil =>
      obtain ⟨_, _, same⟩ := bind_eq_ok reads
      exact (Except.ok.inj same).symm
  | cons field others sameOthers =>
      obtain ⟨_, _, reads⟩ := bind_eq_ok reads
      split at reads
      · contradiction
      · exact sameOthers reads

/-- A part of a record that one field alone may set is the item at the place of that field. -/
theorem readPositions_part
    {name : String}
    {index : Nat}
    {part : σ → String}
    (distinct : (fields.map Field.name).Nodup)
    (isPart : (fields.map Field.name)[index]? = some name)
    (takes : ∀ field ∈ fields, field.name = name → field.TakesText part)
    (leaves : ∀ field ∈ fields, field.name ≠ name → field.Leaves part)
    {items : List Draft}
    {values : List Json}
    (shown : List.Forall₂ (fun item value => item.value? = some value) items values)
    {count : Nat}
    {ending : Ending}
    {record result : σ}
    {position : Nat}
    (reads : readPositions shape count ending record position fields items = .ok result) :
    Json.text (part result) = (values[index]?).getD (.text (part record)) := by
  induction fields generalizing items values record position index with
  | nil => simp at isPart
  | cons field others partOthers =>
      obtain ⟨takesField, takesOthers⟩ := List.forall_mem_cons.1 takes
      obtain ⟨leavesField, leavesOthers⟩ := List.forall_mem_cons.1 leaves
      rw [List.map_cons, List.nodup_cons] at distinct
      cases shown with
      | nil =>
          obtain rfl := readPositions_nil reads
          rfl
      | @cons item value rest values showsItem showsRest =>
          obtain ⟨change, isChange, readsRest⟩ := bind_eq_ok reads
          cases index with
          | zero =>
              obtain rfl := Option.some.inj isPart
              obtain ⟨text, rfl, sets⟩ := takesField rfl item change isChange
              obtain rfl := Option.some.inj showsItem
              have keeps : ∀ other ∈ others, ∀ draft change, other.read draft = .ok change →
                  ∀ record, part record = text → part (change record) = text := by
                intro other isOther draft change isChange record isText
                have different : other.name ≠ field.name := by
                  intro sameName
                  exact distinct.1 (sameName ▸ List.mem_map_of_mem isOther)
                rw [leavesOthers other isOther different draft change isChange, isText]
              exact congrArg _ (readPositions_preserves keeps (sets record) readsRest)
          | succ index =>
              have different : field.name ≠ name := by
                rintro rfl
                exact distinct.1 (List.mem_of_getElem? isPart)
              have below := partOthers distinct.2 isPart takesOthers leavesOthers showsRest readsRest
              rwa [leavesField different item change isChange] at below

/-- A part of a record is a text that the field of one name sets, and no other field. -/
structure SetsPart
    (shape : RecordShape σ)
    (name : String)
    (index : Nat)
    (part : σ → String) : Prop where
  distinct : (shape.fields.map Field.name).Nodup
  isPart : (shape.fields.map Field.name)[index]? = some name
  takes : ∀ field ∈ shape.fields, field.name = name → field.TakesText part
  leaves : ∀ field ∈ shape.fields, field.name ≠ name → field.Leaves part

/-- Every one of independent texts is set by its own field only. -/
theorem setsPart_of_independent
    {parts : List (TextPart σ)}
    (areFields : shape.fields = parts.map TextPart.field)
    (independent : TextPart.Independent parts)
    {index : Nat}
    {part : TextPart σ}
    (isPart : parts[index]? = some part) :
    shape.SetsPart part.name index part.get := by
  have present := List.mem_of_getElem? isPart
  have names : shape.fields.map Field.name = parts.map TextPart.name := by
    rw [areFields, List.map_map]
    rfl
  refine ⟨by rw [names]; exact independent.distinct, ?_, ?_, ?_⟩
  · rw [names, List.getElem?_map, isPart]
    rfl
  · rw [areFields]
    refine List.forall_mem_map.2 fun other isOther sameName draft change reads => ?_
    obtain rfl := List.inj_on_of_nodup_map independent.distinct isOther present sameName
    obtain ⟨text, isText, rfl⟩ := map_eq_ok reads
    exact ⟨text, Draft.readString_eq_ok isText, independent.get_set other isOther text⟩
  · rw [areFields]
    refine List.forall_mem_map.2 fun other isOther different draft change reads => ?_
    obtain ⟨text, _, rfl⟩ := map_eq_ok reads
    exact independent.get_set_of_ne part present other isOther different text

/-- A part that is set by one field only is the text given for it, or what it was at the
start. -/
theorem read_part
    {name : String}
    {index : Nat}
    {part : σ → String}
    (sets : shape.SetsPart name index part)
    {draft : Draft}
    {value : Json}
    (shown : draft.value? = some value)
    {record : σ}
    (reads : shape.read draft = .ok record) :
    Json.text (part record) = (value.part? name index).getD (.text (part shape.start)) := by
  have known : (shape.fields.find? fun field => field.name == name).isSome := by
    obtain ⟨field, isField, sameName⟩ := List.mem_map.1 (List.mem_of_getElem? sets.isPart)
    exact List.find?_isSome.2 ⟨field, isField, beq_iff_eq.2 sameName⟩
  cases draft with
  | object members ending =>
      obtain ⟨_, values, shownMembers, rfl⟩ := Draft.value?_object_iff.1 shown
      obtain ⟨⟨result, seen⟩, readsMembers, reads⟩ := bind_eq_ok reads
      obtain ⟨_, _, reads⟩ := bind_eq_ok reads
      split at reads
      · contradiction
      · obtain rfl := Except.ok.inj reads
        exact readMembers_part known sets.takes sets.leaves
          (Draft.forall₂_of_valueMembers? shownMembers) readsMembers
  | array items ending =>
      obtain ⟨_, values, shownItems, rfl⟩ := Draft.value?_array_iff.1 shown
      exact readPositions_part sets.distinct sets.isPart sets.takes sets.leaves
        (Draft.forall₂_of_valueItems? shownItems) reads
  | _ => contradiction

end RecordShape
end ManifestPolicy
