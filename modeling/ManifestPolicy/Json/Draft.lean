import ManifestPolicy.Json.Basic

/-!
# JSON text before it is judged

A draft is a JSON text whose brackets have been matched and whose members keep
their order and their repeats. Where the text is at fault the draft says so in
place, so that a reader of the draft meets faults in the order of the text, and
a reader who passes over a part need not see the faults that only matter to one
who wants its value.
-/

namespace ManifestPolicy

/-- Why a text is no JSON value. -/
inductive TextFault
  /-- The text breaks the grammar or a limit. -/
  | malformed
  /-- The text ends too early. -/
  | truncated
  deriving DecidableEq, Repr, Inhabited

/-- A fault in place: what a reader of the value meets, and what a reader who
passes over it meets. -/
structure Flaw where
  read : TextFault
  skipped : Option TextFault
  deriving DecidableEq, Repr, Inhabited

/-- A fault that no reader gets past. -/
def Flaw.hard (fault : TextFault) : Flaw := ⟨fault, some fault⟩

/-- A fault in the value alone. -/
def Flaw.soft (fault : TextFault) : Flaw := ⟨fault, none⟩

/-- How the items of a container end. -/
inductive Ending
  /-- A closing bracket. -/
  | closed
  /-- A fault before the closing bracket. -/
  | cut (fault : TextFault)
  /-- The items of a value in memory, whose number is known beforehand. -/
  | counted
  deriving DecidableEq, Repr, Inhabited

/-- A JSON text in document order. -/
inductive Draft
  | null
  | boolean (value : Bool)
  | integer (value : Int)
  | real (value : Binary64)
  | text (value : String)
  | flawed (flaw : Flaw)
  | array (items : List Draft) (ending : Ending)
  | object (members : List (Except Flaw String × Draft)) (ending : Ending)
  deriving Repr, Inhabited

namespace Json

mutual

/-- The draft of a value in memory. -/
def draft : Json → Draft
  | .null => .null
  | .boolean value => .boolean value
  | .integer value => .integer value
  | .real value => .real value
  | .text value => .text value
  | .array items => .array (draftItems items) .counted
  | .object members => .object (draftMembers members) .counted

/-- The drafts of items. -/
def draftItems : List Json → List Draft
  | [] => []
  | item :: rest => draft item :: draftItems rest

/-- The drafts of members. -/
def draftMembers : List (String × Json) → List (Except Flaw String × Draft)
  | [] => []
  | (name, value) :: rest => (.ok name, draft value) :: draftMembers rest

end

end Json

namespace Draft

/-- What the end of a container does to a reader who has taken all items. -/
def checkEnding : Ending → Except TextFault Unit
  | .cut fault => .error fault
  | .closed => .ok ()
  | .counted => .ok ()

mutual

/-- The value of a draft, or the first fault in it. -/
def toJson : Draft → Except TextFault Json
  | .null => .ok .null
  | .boolean value => .ok (.boolean value)
  | .integer value => .ok (.integer value)
  | .real value => .ok (.real value)
  | .text value => .ok (.text value)
  | .flawed flaw => .error flaw.read
  | .array items ending => do
      let values ← toJsonItems items
      checkEnding ending
      return .array values
  | .object members ending => do
      let values ← toJsonMembers members
      checkEnding ending
      return .ofMembers values

/-- The values of items, or the first fault in them. -/
def toJsonItems : List Draft → Except TextFault (List Json)
  | [] => .ok []
  | item :: rest => do
      let value ← toJson item
      let values ← toJsonItems rest
      return value :: values

/-- The names and values of members, or the first fault in them. -/
def toJsonMembers :
    List (Except Flaw String × Draft) → Except TextFault (List (String × Json))
  | [] => .ok []
  | (.error flaw, _) :: _ => .error flaw.read
  | (.ok name, item) :: rest => do
      let value ← toJson item
      let values ← toJsonMembers rest
      return (name, value) :: values

end

/-- Pass over a fault if a reader may. -/
def passOver : Option TextFault → Except TextFault Unit
  | none => .ok ()
  | some fault => .error fault

mutual

/-- Pass over a draft, or meet the first fault that cannot be passed over. -/
def skip : Draft → Except TextFault Unit
  | .flawed flaw => passOver flaw.skipped
  | .array items ending => do
      skipItems items
      checkEnding ending
  | .object members ending => do
      skipMembers members
      checkEnding ending
  | _ => .ok ()

/-- Pass over items. -/
def skipItems : List Draft → Except TextFault Unit
  | [] => .ok ()
  | item :: rest => do
      skip item
      skipItems rest

/-- Pass over members. -/
def skipMembers : List (Except Flaw String × Draft) → Except TextFault Unit
  | [] => .ok ()
  | (.error flaw, item) :: rest => do
      passOver flaw.skipped
      skip item
      skipMembers rest
  | (.ok _, item) :: rest => do
      skip item
      skipMembers rest

end

end Draft

end ManifestPolicy
