import ManifestPolicy.SortedMap
import ManifestPolicy.Decimal.Shortest

/-!
# JSON values

A value of the JSON data model. Integers between `-2 ^ 63` and `2 ^ 64` are kept
apart from other numbers, which are binary floating-point values. An object that
has been read lists its members in increasing order of their names, each name
once; `Json.ofMembers` establishes that order. A record that is written lists
its fields first.
-/

namespace ManifestPolicy

/-- A JSON value. -/
inductive Json
  | null
  | boolean (value : Bool)
  | integer (value : Int)
  | real (value : Binary64)
  | text (value : String)
  | array (items : List Json)
  | object (members : List (String × Json))
  deriving Repr, Inhabited

namespace Json

mutual

/-- Whether two values are equal. -/
def beq : Json → Json → Bool
  | .null, .null => true
  | .boolean left, .boolean right => left == right
  | .integer left, .integer right => left == right
  | .real left, .real right => left == right
  | .text left, .text right => left == right
  | .array left, .array right => beqItems left right
  | .object left, .object right => beqMembers left right
  | _, _ => false

/-- Whether two lists of values are equal. -/
def beqItems : List Json → List Json → Bool
  | [], [] => true
  | left :: leftRest, right :: rightRest => beq left right && beqItems leftRest rightRest
  | _, _ => false

/-- Whether two lists of members are equal. -/
def beqMembers : List (String × Json) → List (String × Json) → Bool
  | [], [] => true
  | (leftName, left) :: leftRest, (rightName, right) :: rightRest =>
      leftName == rightName && beq left right && beqMembers leftRest rightRest
  | _, _ => false

end

mutual

theorem eq_of_beq : ∀ {left right : Json}, beq left right = true → left = right
  | .null, right, same => by cases right <;> simp_all [beq]
  | .boolean _, right, same => by cases right <;> simp_all [beq]
  | .integer _, right, same => by cases right <;> simp_all [beq]
  | .real _, right, same => by cases right <;> simp_all [beq]
  | .text _, right, same => by cases right <;> simp_all [beq]
  | .array items, right, same => by
      cases right <;> simp only [beq, Bool.false_eq_true] at same
      rw [eq_of_beqItems same]
  | .object members, right, same => by
      cases right <;> simp only [beq, Bool.false_eq_true] at same
      rw [eq_of_beqMembers same]

theorem eq_of_beqItems : ∀ {left right : List Json}, beqItems left right = true → left = right
  | [], right, same => by cases right <;> simp_all [beqItems]
  | first :: rest, right, same => by
      cases right <;> simp only [beqItems, Bool.false_eq_true, Bool.and_eq_true] at same
      rw [eq_of_beq same.1, eq_of_beqItems same.2]

theorem eq_of_beqMembers :
    ∀ {left right : List (String × Json)}, beqMembers left right = true → left = right
  | [], right, same => by cases right <;> simp_all [beqMembers]
  | (name, value) :: rest, right, same => by
      rcases right with _ | ⟨⟨otherName, other⟩, otherRest⟩
      · simp [beqMembers] at same
      · simp only [beqMembers, Bool.and_eq_true, beq_iff_eq] at same
        rw [same.1.1, eq_of_beq same.1.2, eq_of_beqMembers same.2]

end

mutual

@[simp] theorem beq_self : ∀ value : Json, beq value value = true
  | .null => rfl
  | .boolean _ => by simp [beq]
  | .integer _ => by simp [beq]
  | .real _ => by simp [beq]
  | .text _ => by simp [beq]
  | .array items => by simp [beq, beqItems_self items]
  | .object members => by simp [beq, beqMembers_self members]

theorem beqItems_self : ∀ items : List Json, beqItems items items = true
  | [] => rfl
  | first :: rest => by simp [beqItems, beq_self first, beqItems_self rest]

theorem beqMembers_self :
    ∀ members : List (String × Json), beqMembers members members = true
  | [] => rfl
  | (name, value) :: rest => by
      simp [beqMembers, beq_self value, beqMembers_self rest]

end

instance : DecidableEq Json := fun left right =>
  if same : beq left right = true then .isTrue (eq_of_beq same)
  else .isFalse fun equal => same (equal ▸ beq_self left)

/-- The object with the given members, where the last value of a name counts. -/
def ofMembers (members : List (String × Json)) : Json :=
  .object (SortedMap.ofList members).entries

/-- The member of an object. -/
def get? (name : String) : Json → Option Json
  | .object members => (members.find? fun member => member.1 == name).map Prod.snd
  | _ => none

end Json

end ManifestPolicy
