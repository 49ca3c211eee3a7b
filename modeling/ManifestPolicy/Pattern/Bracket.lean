import ManifestPolicy.Pattern.Escape

/-!
# Sets in brackets

A set in brackets lists characters, ranges, named sets and further brackets.
Doubled signs between lists take the intersection, the difference or the symmetric
difference of what is on their left and the next list. Brackets are read with a
stack of those that are open.
-/

namespace ManifestPolicy
namespace Pattern

/-- A list of members under construction: their union, how many they are, and how
deep brackets are nested among them. -/
structure Members where
  set : CodeSet := .empty
  count : Nat := 0
  height : Nat := 0
  deriving Inhabited

namespace Members

/-- Add a member. -/
def add (members : Members) (set : CodeSet) (height : Nat) : Members :=
  ⟨members.set.union set, members.count + 1, max members.height height⟩

/-- The nesting of a list, which counts as a level when it is no single member. -/
def depth (members : Members) : Nat :=
  if 2 ≤ members.count then members.height + 1 else members.height

end Members

/-- The signs between lists. -/
inductive SetOperation
  | intersection
  | difference
  | symmetricDifference
  deriving DecidableEq, Repr

namespace SetOperation

/-- The operation that a doubled sign stands for. -/
def ofSign? (sign : Char) : Option SetOperation :=
  match sign with
  | '&' => some .intersection
  | '-' => some .difference
  | '~' => some .symmetricDifference
  | _ => none

/-- Apply an operation. -/
def apply (operation : SetOperation) (left right : CodeSet) : CodeSet :=
  match operation with
  | .intersection => left.intersection right
  | .difference => left.difference right
  | .symmetricDifference => left.symmetricDifference right

end SetOperation

/-- A set that is complete up to an operation, with its nesting. -/
structure Operand where
  set : CodeSet
  depth : Nat
  deriving Inhabited

/-- Brackets that are open: whether they are negated, the members read before them
in the brackets around them, and what stands on the left of an operation. -/
structure OpenBracket where
  negated : Bool
  outer : Members
  left : Option (Operand × SetOperation)

/-- Apply the operation that is pending in brackets. Both sides are closed under
case first. -/
def OpenBracket.combine (bracket : OpenBracket) (flags : Flags) (members : Members) : Operand :=
  match bracket.left with
  | none => ⟨members.set, members.depth⟩
  | some (left, operation) =>
      let fold (set : CodeSet) : CodeSet := if flags.caseless then foldCase flags set else set
      ⟨operation.apply (fold left.set) (fold members.set), max left.depth members.depth + 1⟩

/-- Read a primitive inside brackets. -/
def readMember (flags : Flags) (text : List Char) : Option (Primitive × List Char) :=
  match text with
  | [] => none
  | '\\' :: rest => readEscape flags rest
  | character :: rest => some (.character character false, rest)

/-- The code of a character in brackets. -/
def memberCode? (flags : Flags) (primitive : Primitive) : Option Nat :=
  match primitive with
  | .character value _ =>
      if flags.unicode || value.toNat < 0x80 then some value.toNat else none
  | _ => none

/-- Read a character, a range or an escaped set. A dash before a closing bracket or
another dash stands for itself or an operation. -/
def readRange (flags : Flags) (text : List Char) : Option (CodeSet × List Char) := do
  let (first, rest) ← readMember flags text
  let rest := flags.skip rest
  let next ← rest.head?
  let after := flags.peekAfter rest
  if next ≠ '-' ∨ after = some ']' ∨ after = some '-' then
    match first with
    | .oneOf set => return (set, rest)
    | .check _ => none
    | first => return (.single (← memberCode? flags first), rest)
  else
    let (last, rest) ← readMember flags (flags.advance rest)
    let low ← memberCode? flags first
    let high ← memberCode? flags last
    if low ≤ high then some (.range low high, rest) else none

/-- Read a named set such as `[:alpha:]`. -/
def readBracketName (flags : Flags) (text : List Char) : Option (CodeSet × List Char) :=
  match text with
  | '[' :: ':' :: rest =>
      let (negated, rest) :=
        match rest with
        | '^' :: rest => (true, rest)
        | rest => (false, rest)
      let name := rest.takeWhile (· != ':')
      match rest.drop name.length with
      | ':' :: ']' :: rest =>
          match bracketNames.lookup (String.ofList name) with
          | some set => (finishSet flags negated set).map fun set => (set, rest)
          | none => none
      | _ => none
  | _ => none

/-- Whether a text begins with the name of a set, whatever becomes of it. -/
def beginsBracketName (text : List Char) : Bool := (readBracketName {} text).isSome

/-- Take the dashes that stand for themselves at the beginning of brackets. -/
def takeDashes (flags : Flags) : Nat → List Char → Members → Members × List Char
  | 0, text, members => (members, text)
  | fuel + 1, text, members =>
      if text.head? = some '-' then
        takeDashes flags fuel (flags.advance text) (members.add (.single '-'.toNat) 0)
      else (members, text)

/-- Read the beginning of brackets after the opening one: whether they are negated,
and the dashes or the closing bracket that stand for themselves. -/
def readOpening (flags : Flags) (text : List Char) : Option ((Bool × Members) × List Char) :=
  let text := flags.skip text
  let negated := text.head? == some '^'
  let text := if negated then flags.advance text else text
  let (members, text) := takeDashes flags text.length text {}
  let (members, text) :=
    if members.count = 0 ∧ text.head? = some ']' then
      (members.add (.single ']'.toNat) 0, flags.advance text)
    else (members, text)
  if text.isEmpty then none else some ((negated, members), text)

/-- Read the rest of brackets, given the open ones from the inside out. -/
def readMembers (flags : Flags) :
    Nat → List OpenBracket → Members → List Char → Option (Operand × List Char)
  | 0, _, _, _ => none
  | fuel + 1, stack, members, text =>
      match stack, flags.skip text with
      | bracket :: outer, next :: rest =>
          if next = '[' then
            if beginsBracketName (next :: rest) then do
              let (set, rest) ← readBracketName flags (next :: rest)
              readMembers flags fuel stack (members.add set 0) rest
            else do
              let ((negated, inner), rest) ← readOpening flags rest
              readMembers flags fuel (⟨negated, members, none⟩ :: stack) inner rest
          else if next = ']' then do
            let operand := bracket.combine flags members
            let set ← finishSet flags bracket.negated operand.set
            if outer.isEmpty then some (⟨set, operand.depth + 1⟩, rest)
            else readMembers flags fuel outer (bracket.outer.add set (operand.depth + 1)) rest
          else
            match SetOperation.ofSign? next, rest with
            | some operation, second :: rest =>
                if second = next then
                  let left := bracket.combine flags members
                  readMembers flags fuel
                    ({ bracket with left := some (left, operation) } :: outer) {} rest
                else do
                  let (set, rest) ← readRange flags (next :: second :: rest)
                  readMembers flags fuel stack (members.add set 0) rest
            | _, _ => do
                let (set, rest) ← readRange flags (next :: rest)
                readMembers flags fuel stack (members.add set 0) rest
      | _, _ => none

/-- Read a set in brackets after the opening one. -/
def readBrackets (flags : Flags) (text : List Char) : Option (Operand × List Char) := do
  let ((negated, members), rest) ← readOpening flags text
  readMembers flags (text.length + 1) [⟨negated, {}, none⟩] members rest

end Pattern
end ManifestPolicy
