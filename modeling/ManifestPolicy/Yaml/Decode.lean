import ManifestPolicy.Yaml.Value
import ManifestPolicy.Json.Basic

/-!
# Decoding YAML

Readers of the shapes that records are made of. Where a text is expected, the text
of any scalar is taken as it is written; where a collection is expected, nothing at
all stands for an empty one. A reader fails on a value of another shape.
-/

namespace ManifestPolicy
namespace Yaml
namespace Node

/-- A node, or what it is an alias of. -/
def target (definitions : List (Nat × Node)) (node : Node) : Expansion Node :=
  match node with
  | .alias anchor => follow definitions anchor
  | node => pure node

/-- Read the text of a scalar. -/
def readText (definitions : List (Nat × Node)) (node : Node) : Expansion String := do
  match ← node.target definitions with
  | .scalar _ text _ => return String.ofList text
  | _ => failure

/-- Read the items of a sequence. -/
def readItems (definitions : List (Nat × Node)) (node : Node) : Expansion (List Node) := do
  match ← node.target definitions with
  | .sequence _ items => return items
  | .scalar _ [] true => return []
  | _ => failure

/-- Read the entries of a mapping, whose keys are texts. -/
def readMembers
    (definitions : List (Nat × Node))
    (node : Node) : Expansion (List (Node × Node)) := do
  match ← node.target definitions with
  | .mapping _ entries => return entries
  | .scalar _ [] true => return []
  | _ => failure

/-- Whether a node is null, where nothing at all is null too. A node with the tag of
null must be. -/
def readAbsence (definitions : List (Nat × Node)) (node : Node) : Expansion Bool := do
  match ← node.target definitions with
  | .scalar mark text true =>
      match mark.tag with
      | none => return text.isEmpty || Scalar.isNull text
      | some tag =>
          if tag = Scalar.standardTag "null" then
            if Scalar.isNull text then return true else failure
          else return false
  | _ => return false

end Node

namespace Scalar

/-- The JSON value of a scalar. Numbers that are not finite become null. -/
def toJson : Scalar → Json
  | .null => .null
  | .boolean value => .boolean value
  | .integer value => .integer value
  | .real value => if value.isFinite then .real value else .null
  | .text value => .text value

end Scalar

namespace Value

mutual

/-- The JSON value of a value without tags whose keys are texts. The last value of a
key counts. -/
def toJson? : Value → Option Json
  | .scalar none content => some content.toJson
  | .sequence none items => (toJsonItems? items).map .array
  | .mapping none entries => (toJsonMembers? entries).map .ofMembers
  | _ => none

/-- The JSON values of items. -/
def toJsonItems? : List Value → Option (List Json)
  | [] => some []
  | item :: rest => do
      let value ← toJson? item
      let values ← toJsonItems? rest
      return value :: values

/-- The JSON members of entries. -/
def toJsonMembers? : List (Value × Value) → Option (List (String × Json))
  | [] => some []
  | (.scalar none (.text name), value) :: rest => do
      let value ← toJson? value
      let values ← toJsonMembers? rest
      return (name, value) :: values
  | _ => none

end

end Value
end Yaml
end ManifestPolicy
