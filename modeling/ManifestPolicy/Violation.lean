import ManifestPolicy.Json.Decode

/-!
# Violations

One policy finding of the validation service. A violation may name the resource
it was found in; together with the policy that gives the key under which
violations are compared and accepted. Whatever else the service attached is kept
as details, in the order of their names.
-/

namespace ManifestPolicy

/-- The resource a violation was found in. -/
structure ResourceRef where
  group : String := ""
  kind : String := ""
  name : String := ""
  version : String := ""
  deriving DecidableEq, Repr, Inhabited

/-- One policy finding. -/
structure Violation where
  policyName : String := ""
  message : String := ""
  resource : Option ResourceRef := none
  details : SortedMap String Json := .empty
  deriving DecidableEq, Inhabited

/-- The identity of the findings of one policy about one resource. -/
structure ResourceKey where
  policy : String
  group : String
  kind : String
  name : String
  version : String
  deriving DecidableEq, Repr, Inhabited

namespace ResourceKey

/-- The parts of a key, most significant first. -/
def parts (key : ResourceKey) : List String :=
  [key.policy, key.group, key.kind, key.name, key.version]

theorem parts_injective
    {left right : ResourceKey}
    (sameParts : left.parts = right.parts) :
    left = right := by
  cases left
  cases right
  simp_all [parts]

/-- Keys are ordered by their parts. -/
instance : Ord ResourceKey := ⟨compareOn parts⟩

instance : Std.TransOrd ResourceKey :=
  inferInstanceAs (Std.TransCmp (compareOn parts))

instance : Std.LawfulEqOrd ResourceKey where
  compare_self := Std.ReflCmp.compare_self
  eq_of_compare {left right} same :=
    have sameParts : compare left.parts right.parts = .eq := same
    parts_injective (Std.LawfulEqCmp.eq_of_compare sameParts)

/-- The text of a key. -/
def describe (key : ResourceKey) : String :=
  "policyName: " ++ key.policy ++ ", group: " ++ key.group ++ ", kind: " ++ key.kind
    ++ ", name: " ++ key.name ++ ", version: " ++ key.version

end ResourceKey

namespace ResourceRef

/-- How a resource is written: a missing part is empty. -/
def shape : RecordShape ResourceRef where
  name := "ResourceRef"
  start := {}
  fields := [
    ⟨"group", false, fun draft =>
      draft.readString.map fun group record => { record with group }⟩,
    ⟨"kind", false, fun draft =>
      draft.readString.map fun kind record => { record with kind }⟩,
    ⟨"name", false, fun draft =>
      draft.readString.map fun name record => { record with name }⟩,
    ⟨"version", false, fun draft =>
      draft.readString.map fun version record => { record with version }⟩]

/-- The written form of a resource. -/
def toMembers (resource : ResourceRef) : List (String × Json) :=
  [("group", .text resource.group), ("kind", .text resource.kind),
    ("name", .text resource.name), ("version", .text resource.version)]

end ResourceRef

namespace Violation

/-- The key of a violation that names a resource. -/
def key? (violation : Violation) : Option ResourceKey :=
  violation.resource.map fun resource =>
    ⟨violation.policyName, resource.group, resource.kind, resource.name, resource.version⟩

/-- Put the caller's name of the manifest in the place of the one the service
gave, which knows only the text it was sent. -/
def stampResource (name : String) (violation : Violation) : Violation :=
  { violation with resource := violation.resource.map fun resource => { resource with name } }

/-- The members of a violation, in the order in which they are written. -/
def toMembers (violation : Violation) : List (String × Json) :=
  [("policyName", .text violation.policyName), ("message", .text violation.message)]
    ++ (violation.resource.toList.map fun resource =>
      ("resourceKey", .object resource.toMembers))
    ++ violation.details.entries

/-- The written form of a violation. -/
def toJson (violation : Violation) : Json := .object violation.toMembers

/-- Which of the named members have been read. -/
structure Seen where
  policyName : Bool := false
  message : Bool := false
  resource : Bool := false

/-- Refuse a member that has been read before. -/
def once (seen : Bool) (name : String) : Except DecodeError Unit :=
  if seen then .error (.shape (.duplicateField name)) else .ok ()

/-- Read members in order; all but three are details, of which the last value
counts. -/
def readMembers (violation : Violation) (seen : Seen) :
    List (Except Flaw String × Draft) → Except DecodeError Violation
  | [] => .ok violation
  | (.error flaw, _) :: _ => .error (.text flaw.read)
  | (.ok name, value) :: rest =>
      if name = "policyName" then do
        once seen.policyName name
        let policyName ← value.readString
        readMembers { violation with policyName } { seen with policyName := true } rest
      else if name = "message" then do
        once seen.message name
        let message ← value.readString
        readMembers { violation with message } { seen with message := true } rest
      else if name = "resourceKey" then do
        once seen.resource name
        let resource ← value.readOptional ResourceRef.shape.read
        readMembers { violation with resource } { seen with resource := true } rest
      else do
        let detail ← value.readJson
        let details := violation.details.insert name detail
        readMembers { violation with details } seen rest

/-- Read a violation, which is always an object. -/
def read : Draft → Except DecodeError Violation
  | .object members ending => do
      let violation ← readMembers {} {} members
      Draft.orFault (Draft.checkEnding ending)
      return violation
  | draft => .error (draft.reject "struct Violation")

/-- The text of a list of violations, one item or member a line. -/
def prettyList (violations : List Violation) : String :=
  (Json.array (violations.map toJson)).pretty

end Violation

end ManifestPolicy
