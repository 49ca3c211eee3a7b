import ManifestPolicy.Json.Decode
import ManifestPolicy.Proofs.SortedMap
import ManifestPolicy.Proofs.Traversal

/-!
# The value that a draft shows

A draft in which nothing is at fault shows a value, with the members of its objects in the
order of the text. Reading it as a value puts them in the order of their names, and every
value that is read is in that order at all depths. A value in memory shows itself.
-/

namespace ManifestPolicy

namespace Json

/-! ## Members -/

@[simp] theorem get?_object_nil (name : String) : (object []).get? name = none := rfl

theorem get?_object_cons
    (name other : String)
    (value : Json)
    (rest : List (String × Json)) :
    (object ((other, value) :: rest)).get? name =
      if other = name then some value else (object rest).get? name := by
  by_cases same : other = name <;> simp [get?, same]

theorem get?_object_eq_none_iff
    {name : String}
    {members : List (String × Json)} :
    (object members).get? name = none ↔ name ∉ members.map Prod.fst := by
  simp only [get?, Option.map_eq_none_iff, List.find?_eq_none, beq_iff_eq, List.mem_map,
    Prod.exists, exists_and_right, exists_eq_right, not_exists, Prod.forall]
  constructor
  · intro absent value present
    exact absent name value present rfl
  · rintro absent other value present rfl
    exact absent value present

/-- Of two members with one name the first is found. -/
theorem get?_object_append
    (name : String)
    (left right : List (String × Json)) :
    (object (left ++ right)).get? name =
      ((object left).get? name).or ((object right).get? name) := by
  simp only [get?, List.find?_append]
  cases left.find? fun member => member.1 == name <;> rfl

theorem get?_object_entries
    (map : SortedMap String Json)
    (name : String) :
    (object map.entries).get? name = map.get? name := by
  have sameTest (other : String) : (other == name) = (compare name other == .eq) := by
    rw [Bool.eq_iff_iff, beq_iff_eq, beq_iff_eq, Std.LawfulEqCmp.compare_eq_iff_eq, eq_comm]
  simp only [get?, SortedMap.get?, sameTest]

/-! ## Order -/

mutual

/-- Every object lists its members in increasing order of their names, each name once. -/
def Ordered : Json → Prop
  | .array items => OrderedItems items
  | .object members =>
      (members.Pairwise fun earlier later => compare earlier.1 later.1 = .lt)
        ∧ OrderedMembers members
  | _ => True

/-- All items are in order. -/
def OrderedItems : List Json → Prop
  | [] => True
  | item :: rest => Ordered item ∧ OrderedItems rest

/-- The values of all members are in order. -/
def OrderedMembers : List (String × Json) → Prop
  | [] => True
  | (_, value) :: rest => Ordered value ∧ OrderedMembers rest

end

mutual

/-- The same value with the members of all objects in the order of their names. -/
def sorted : Json → Json
  | .array items => .array (sortedItems items)
  | .object members => .ofMembers (sortedMembers members)
  | value => value

/-- The same items with their members in order. -/
def sortedItems : List Json → List Json
  | [] => []
  | item :: rest => sorted item :: sortedItems rest

/-- The same members with those of their values in order. -/
def sortedMembers : List (String × Json) → List (String × Json)
  | [] => []
  | (name, value) :: rest => (name, sorted value) :: sortedMembers rest

end

theorem orderedMembers_iff
    {members : List (String × Json)} :
    OrderedMembers members ↔ ∀ member ∈ members, Ordered member.2 := by
  induction members with
  | nil => simp [OrderedMembers]
  | cons member rest orderedRest =>
      obtain ⟨name, value⟩ := member
      rw [OrderedMembers, orderedRest, List.forall_mem_cons]

theorem ordered_ofMembers
    {members : List (String × Json)}
    (ordered : OrderedMembers members) :
    (ofMembers members).Ordered := by
  refine ⟨(SortedMap.ofList members).sorted, orderedMembers_iff.2 ?_⟩
  rintro ⟨name, value⟩ present
  exact SortedMap.forall_get?_ofList (orderedMembers_iff.1 ordered)
    (SortedMap.mem_entries_iff.1 present)

mutual

/-- A value that is in order stays as it is. -/
theorem sorted_of_ordered : ∀ {value : Json}, value.Ordered → value.sorted = value
  | .null, _ => rfl
  | .boolean _, _ => rfl
  | .integer _, _ => rfl
  | .real _, _ => rfl
  | .text _, _ => rfl
  | .array items, ordered => by rw [sorted, sortedItems_of_ordered ordered]
  | .object members, ordered => by
      rw [sorted, sortedMembers_of_ordered ordered.2, ofMembers,
        SortedMap.ofList_entries ⟨members, ordered.1⟩]

theorem sortedItems_of_ordered :
    ∀ {items : List Json}, OrderedItems items → sortedItems items = items
  | [], _ => rfl
  | _ :: _, ordered => by
      rw [sortedItems, sorted_of_ordered ordered.1, sortedItems_of_ordered ordered.2]

theorem sortedMembers_of_ordered :
    ∀ {members : List (String × Json)}, OrderedMembers members →
      sortedMembers members = members
  | [], _ => rfl
  | (_, _) :: _, ordered => by
      rw [sortedMembers, sorted_of_ordered ordered.1, sortedMembers_of_ordered ordered.2]

end

end Json

namespace Draft

mutual

/-- The value that a draft shows, with members in the order of the text, if nothing is at
fault in it. -/
def value? : Draft → Option Json
  | .null => some .null
  | .boolean value => some (.boolean value)
  | .integer value => some (.integer value)
  | .real value => some (.real value)
  | .text value => some (.text value)
  | .flawed _ => none
  | .array items ending => do
      let values ← valueItems? items
      (checkEnding ending).toOption
      return .array values
  | .object members ending => do
      let values ← valueMembers? members
      (checkEnding ending).toOption
      return .object values

/-- The values that items show. -/
def valueItems? : List Draft → Option (List Json)
  | [] => some []
  | item :: rest => do
      let value ← value? item
      let values ← valueItems? rest
      return value :: values

/-- The members that are shown. -/
def valueMembers? : List (Except Flaw String × Draft) → Option (List (String × Json))
  | [] => some []
  | (.error _, _) :: _ => none
  | (.ok name, item) :: rest => do
      let value ← value? item
      let values ← valueMembers? rest
      return (name, value) :: values

end

mutual

/-- A value in memory shows itself. -/
@[simp] theorem value?_draft : ∀ value : Json, value.draft.value? = some value
  | .null => rfl
  | .boolean _ => rfl
  | .integer _ => rfl
  | .real _ => rfl
  | .text _ => rfl
  | .array items => by rw [Json.draft, value?, valueItems?_draft items]; rfl
  | .object members => by rw [Json.draft, value?, valueMembers?_draft members]; rfl

/-- Every item of a drafted array has the value it was drafted from. -/
theorem valueItems?_draft :
    ∀ items : List Json, valueItems? (Json.draftItems items) = some items
  | [] => rfl
  | item :: rest => by
      rw [Json.draftItems, valueItems?, value?_draft item, valueItems?_draft rest]
      rfl

/-- The same of members and their names. -/
theorem valueMembers?_draft :
    ∀ members : List (String × Json), valueMembers? (Json.draftMembers members) = some members
  | [] => rfl
  | (name, value) :: rest => by
      rw [Json.draftMembers, valueMembers?, value?_draft value, valueMembers?_draft rest]
      rfl

end

/-- An array has a value if it was ended and every item has one. -/
theorem value?_array_iff
    {items : List Draft}
    {ending : Ending}
    {value : Json} :
    (Draft.array items ending).value? = some value ↔
      checkEnding ending = .ok () ∧ ∃ values, valueItems? items = some values
        ∧ .array values = value := by
  rw [value?]
  cases valueItems? items <;> cases ending <;> simp [checkEnding, Except.toOption]

/-- The same of an object and its members. -/
theorem value?_object_iff
    {members : List (Except Flaw String × Draft)}
    {ending : Ending}
    {value : Json} :
    (Draft.object members ending).value? = some value ↔
      checkEnding ending = .ok () ∧ ∃ values, valueMembers? members = some values
        ∧ .object values = value := by
  rw [value?]
  cases valueMembers? members <;> cases ending <;> simp [checkEnding, Except.toOption]

theorem valueItems?_cons_iff
    {item : Draft}
    {rest : List Draft}
    {values : List Json} :
    valueItems? (item :: rest) = some values ↔
      ∃ value others, item.value? = some value ∧ valueItems? rest = some others
        ∧ value :: others = values := by
  rw [valueItems?]
  cases item.value? <;> cases valueItems? rest <;> simp

theorem valueMembers?_cons_iff
    {name : String}
    {item : Draft}
    {rest : List (Except Flaw String × Draft)}
    {values : List (String × Json)} :
    valueMembers? ((.ok name, item) :: rest) = some values ↔
      ∃ value others, item.value? = some value ∧ valueMembers? rest = some others
        ∧ (name, value) :: others = values := by
  rw [valueMembers?]
  cases item.value? <;> cases valueMembers? rest <;> simp

mutual

/-- A draft that shows a value is read as that value, in order. -/
theorem toJson_of_value? :
    ∀ {draft : Draft} {value : Json}, draft.value? = some value → draft.toJson = .ok value.sorted
  | .null, _, shown => by
      obtain rfl := Option.some.inj shown
      rfl
  | .boolean _, _, shown => by
      obtain rfl := Option.some.inj shown
      rfl
  | .integer _, _, shown => by
      obtain rfl := Option.some.inj shown
      rfl
  | .real _, _, shown => by
      obtain rfl := Option.some.inj shown
      rfl
  | .text _, _, shown => by
      obtain rfl := Option.some.inj shown
      rfl
  | .flawed _, _, shown => by contradiction
  | .array items ending, _, shown => by
      obtain ⟨complete, values, shownItems, rfl⟩ := value?_array_iff.1 shown
      rw [toJson, toJsonItems_of_valueItems? shownItems, complete]
      rfl
  | .object members ending, _, shown => by
      obtain ⟨complete, values, shownMembers, rfl⟩ := value?_object_iff.1 shown
      rw [toJson, toJsonMembers_of_valueMembers? shownMembers, complete]
      rfl

/-- Items are read as their values, with the members of objects sorted. -/
theorem toJsonItems_of_valueItems? :
    ∀ {items : List Draft} {values : List Json}, valueItems? items = some values →
      toJsonItems items = .ok (Json.sortedItems values)
  | [], _, shown => by
      obtain rfl := Option.some.inj shown
      rfl
  | item :: rest, _, shown => by
      obtain ⟨value, values, shownItem, shownRest, rfl⟩ := valueItems?_cons_iff.1 shown
      rw [toJsonItems, toJson_of_value? shownItem, toJsonItems_of_valueItems? shownRest]
      rfl

theorem toJsonMembers_of_valueMembers? :
    ∀ {members : List (Except Flaw String × Draft)} {values : List (String × Json)},
      valueMembers? members = some values →
        toJsonMembers members = .ok (Json.sortedMembers values)
  | [], _, shown => by
      obtain rfl := Option.some.inj shown
      rfl
  | (.error _, _) :: _, _, shown => by contradiction
  | (.ok name, item) :: rest, _, shown => by
      obtain ⟨value, values, shownItem, shownRest, rfl⟩ := valueMembers?_cons_iff.1 shown
      rw [toJsonMembers, toJson_of_value? shownItem, toJsonMembers_of_valueMembers? shownRest]
      rfl

end

mutual

/-- Every value that is read is in order. -/
theorem ordered_of_toJson :
    ∀ {draft : Draft} {value : Json}, draft.toJson = .ok value → value.Ordered
  | .null, _, read => by
      obtain rfl := Except.ok.inj read
      trivial
  | .boolean _, _, read => by
      obtain rfl := Except.ok.inj read
      trivial
  | .integer _, _, read => by
      obtain rfl := Except.ok.inj read
      trivial
  | .real _, _, read => by
      obtain rfl := Except.ok.inj read
      trivial
  | .text _, _, read => by
      obtain rfl := Except.ok.inj read
      trivial
  | .flawed _, _, read => by contradiction
  | .array items ending, _, read => by
      obtain ⟨values, readItems, read⟩ := bind_eq_ok read
      obtain ⟨_, _, same⟩ := bind_eq_ok read
      obtain rfl := Except.ok.inj same
      exact ordered_of_toJsonItems readItems
  | .object members ending, _, read => by
      obtain ⟨values, readMembers, read⟩ := bind_eq_ok read
      obtain ⟨_, _, same⟩ := bind_eq_ok read
      obtain rfl := Except.ok.inj same
      exact Json.ordered_ofMembers (ordered_of_toJsonMembers readMembers)

/-- What is read of items has its members sorted. -/
theorem ordered_of_toJsonItems :
    ∀ {items : List Draft} {values : List Json}, toJsonItems items = .ok values →
      Json.OrderedItems values
  | [], _, read => by
      obtain rfl := Except.ok.inj read
      trivial
  | item :: rest, _, read => by
      obtain ⟨value, readItem, read⟩ := bind_eq_ok read
      obtain ⟨values, readRest, same⟩ := bind_eq_ok read
      obtain rfl := Except.ok.inj same
      exact ⟨ordered_of_toJson readItem, ordered_of_toJsonItems readRest⟩

theorem ordered_of_toJsonMembers :
    ∀ {members : List (Except Flaw String × Draft)} {values : List (String × Json)},
      toJsonMembers members = .ok values → Json.OrderedMembers values
  | [], _, read => by
      obtain rfl := Except.ok.inj read
      trivial
  | (.error _, _) :: _, _, read => by contradiction
  | (.ok name, item) :: rest, _, read => by
      obtain ⟨value, readItem, read⟩ := bind_eq_ok read
      obtain ⟨values, readRest, same⟩ := bind_eq_ok read
      obtain rfl := Except.ok.inj same
      exact ⟨ordered_of_toJson readItem, ordered_of_toJsonMembers readRest⟩

end

/-- Only null is read as null. -/
theorem eq_null_of_toJson
    {draft : Draft}
    (read : draft.toJson = .ok .null) :
    draft = .null := by
  cases draft with
  | null => rfl
  | array items ending | object members ending =>
      obtain ⟨_, _, read⟩ := bind_eq_ok read
      obtain ⟨_, _, same⟩ := bind_eq_ok read
      simp [Json.ofMembers, pure, Except.pure] at same
  | _ => simp [toJson] at read

/-! ## Members in the order of the text -/

/-- A member of a draft and the member that it shows. -/
def ShowsMember
    (drafted : Except Flaw String × Draft)
    (member : String × Json) : Prop :=
  drafted.1 = .ok member.1 ∧ drafted.2.value? = some member.2

/-- The draft of a member stands where the member does. -/
theorem exists_cons_of_shows
    {name : String}
    {value : Json}
    {drafted : List (Except Flaw String × Draft)}
    {members : List (String × Json)}
    (shown : List.Forall₂ ShowsMember drafted ((name, value) :: members)) :
    ∃ draft rest, drafted = (.ok name, draft) :: rest ∧ draft.value? = some value
      ∧ List.Forall₂ ShowsMember rest members := by
  cases shown with
  | @cons first _ rest _ showsFirst showsRest =>
      obtain ⟨_, draft⟩ := first
      obtain ⟨rfl, showsValue⟩ := showsFirst
      exact ⟨draft, rest, rfl, showsValue, showsRest⟩

theorem forall₂_of_valueItems?
    {items : List Draft}
    {values : List Json}
    (shown : valueItems? items = some values) :
    List.Forall₂ (fun item value => item.value? = some value) items values := by
  induction items generalizing values with
  | nil =>
      obtain rfl := Option.some.inj shown
      exact .nil
  | cons item rest shownRest =>
      obtain ⟨value, others, isItem, areRest, rfl⟩ := valueItems?_cons_iff.1 shown
      exact .cons isItem (shownRest areRest)

theorem forall₂_of_valueMembers?
    {drafted : List (Except Flaw String × Draft)}
    {members : List (String × Json)}
    (shown : valueMembers? drafted = some members) :
    List.Forall₂ ShowsMember drafted members := by
  induction drafted generalizing members with
  | nil =>
      obtain rfl := Option.some.inj shown
      exact .nil
  | cons first rest shownRest =>
      obtain ⟨_ | name, item⟩ := first
      · contradiction
      · obtain ⟨value, others, isItem, areRest, rfl⟩ := valueMembers?_cons_iff.1 shown
        exact .cons ⟨rfl, isItem⟩ (shownRest areRest)

/-- What shows an object is an object that is not cut short. -/
theorem exists_of_value?_object
    {draft : Draft}
    {members : List (String × Json)}
    (shown : draft.value? = some (.object members)) :
    ∃ drafted ending, draft = .object drafted ending ∧ checkEnding ending = .ok ()
      ∧ List.Forall₂ ShowsMember drafted members := by
  cases draft with
  | object drafted ending =>
      obtain ⟨complete, values, shownMembers, same⟩ := value?_object_iff.1 shown
      obtain rfl := Json.object.inj same
      exact ⟨drafted, ending, rfl, complete, forall₂_of_valueMembers? shownMembers⟩
  | array items ending =>
      obtain ⟨_, _, _, same⟩ := value?_array_iff.1 shown
      contradiction
  | _ => simp [value?] at shown

/-- What shows an array is an array that is not cut short. -/
theorem exists_of_value?_array
    {draft : Draft}
    {values : List Json}
    (shown : draft.value? = some (.array values)) :
    ∃ items ending, draft = .array items ending ∧ checkEnding ending = .ok ()
      ∧ List.Forall₂ (fun item value => item.value? = some value) items values := by
  cases draft with
  | array items ending =>
      obtain ⟨complete, shownValues, shownItems, same⟩ := value?_array_iff.1 shown
      obtain rfl := Json.array.inj same
      exact ⟨items, ending, rfl, complete, forall₂_of_valueItems? shownItems⟩
  | object members ending =>
      obtain ⟨_, _, _, same⟩ := value?_object_iff.1 shown
      contradiction
  | _ => simp [value?] at shown

/-- What shows a value that is no collection is that value. -/
theorem eq_draft_of_value?
    {draft : Draft}
    {value : Json}
    (shown : draft.value? = some value)
    (noArray : ∀ values, value ≠ .array values)
    (noObject : ∀ members, value ≠ .object members) :
    draft = value.draft := by
  cases draft with
  | array items ending =>
      obtain ⟨_, values, _, rfl⟩ := value?_array_iff.1 shown
      exact absurd rfl (noArray values)
  | object members ending =>
      obtain ⟨_, values, _, rfl⟩ := value?_object_iff.1 shown
      exact absurd rfl (noObject values)
  | flawed flaw => contradiction
  | _ =>
      obtain rfl := Option.some.inj shown
      rfl

/-- Only a draft of a text has a text for its value. -/
theorem eq_text_of_value?
    {draft : Draft}
    {text : String}
    (shown : draft.value? = some (.text text)) :
    draft = .text text :=
  eq_draft_of_value? shown (by simp) (by simp)

end Draft

/-- A text in which nothing is at fault is read as the value that it shows, if this is in
order. -/
theorem Json.parse_of_document
    {bytes : List UInt8}
    {root : Draft}
    {value : Json}
    (read : Json.document bytes = ⟨root, false⟩)
    (shown : root.value? = some value)
    (ordered : value.Ordered) :
    Json.parse bytes = .ok value := by
  rw [Json.parse, read, Draft.toJson_of_value? shown, Json.sorted_of_ordered ordered]
  rfl

end ManifestPolicy
