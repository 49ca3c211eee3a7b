import ManifestPolicy.Pattern.Bracket
import ManifestPolicy.Pattern.Weight

/-!
# Reading patterns

A pattern is read from left to right with a stack of the groups that are open, one
construct at a time. Flags set inside a group are in force up to its end. Patterns
with back-references or conditions on the text around a match are refused, and so
are those that are nested too deep or too large.
-/

namespace ManifestPolicy

/-- A pattern that names are searched with. -/
structure Pattern where
  expression : Pattern.Expression

namespace Pattern

/-- An expression with its nesting. -/
structure Piece where
  expression : Expression := .empty
  height : Nat := 0
  deriving Inhabited

/-- What stands side by side: expressions, and places where flags are set. -/
inductive Item
  | flags
  | piece (piece : Piece)

/-- The expression of an item. -/
def Item.toPiece : Item → Piece
  | .flags => {}
  | .piece content => content

namespace Piece

/-- Put pieces side by side. -/
def sequence : List Piece → Piece
  | [] => {}
  | [piece] => piece
  | piece :: rest =>
      { expression := rest.foldl (fun first second => .sequence first second.expression)
          piece.expression
        height := (rest.map height).foldl max piece.height + 1 }

/-- The choice between two expressions or more. -/
def chain : Expression → List Piece → Expression
  | first, [] => first
  | first, second :: rest => .choice first (chain second.expression rest)

/-- The choice between pieces. -/
def choice : List Piece → Piece
  | [] => {}
  | [piece] => piece
  | piece :: rest =>
      { expression := chain piece.expression rest
        height := (rest.map height).foldl max piece.height + 1 }

/-- Repeat a piece. -/
def repeated (piece : Piece) (least : Nat) (greatest : Option Nat) : Piece :=
  ⟨.repetition piece.expression least greatest, piece.height + 1⟩

end Piece

/-- A group that is open: what stands before it in the group around it, and the
flags to go back to. -/
structure OpenGroup where
  captures : Bool
  flags : Flags
  alternatives : List Piece
  items : List Item

/-- A pattern that has been read up to some place. The alternatives and items of the
innermost group stand latest first. -/
structure Reading where
  rest : List Char
  flags : Flags := {}
  alternatives : List Piece := []
  items : List Item := []
  groups : List OpenGroup := []
  names : List (List Char) := []

namespace Reading

/-- Go on after a piece. -/
def push (reading : Reading) (piece : Piece) (rest : List Char) : Reading :=
  { reading with items := .piece piece :: reading.items, rest }

/-- The last alternative of the innermost group. -/
def lastAlternative (reading : Reading) : Piece :=
  .sequence (reading.items.reverse.map Item.toPiece)

/-- The content of the innermost group. -/
def content (reading : Reading) : Piece :=
  .choice (reading.alternatives.reverse ++ [reading.lastAlternative])

/-- Begin an alternative. -/
def pushAlternative (reading : Reading) (rest : List Char) : Reading :=
  { reading with alternatives := reading.lastAlternative :: reading.alternatives
                 items := []
                 rest }

/-- Open a group. -/
def openGroup
    (reading : Reading)
    (captures : Bool)
    (flags : Flags)
    (rest : List Char) : Reading :=
  { reading with
    groups := ⟨captures, reading.flags, reading.alternatives, reading.items⟩ :: reading.groups
    flags
    alternatives := []
    items := []
    rest }

/-- Close the innermost group. -/
def closeGroup (reading : Reading) (rest : List Char) : Option Reading :=
  match reading.groups with
  | [] => none
  | group :: groups =>
      let content := reading.content
      let piece : Piece := ⟨.group group.captures content.expression, content.height + 1⟩
      some { reading with
        groups
        flags := group.flags
        alternatives := group.alternatives
        items := .piece piece :: group.items
        rest }

/-- Repeat the last piece. There must be one. -/
def repeatLast
    (reading : Reading)
    (least : Nat)
    (greatest : Option Nat)
    (rest : List Char) : Option Reading :=
  match reading.items with
  | .piece piece :: items =>
      let rest := if rest.head? = some '?' then rest.drop 1 else rest
      some { reading with items := .piece (piece.repeated least greatest) :: items, rest }
  | _ => none

/-- Read the bounds of a repetition after the opening brace. -/
def readBounds (reading : Reading) (text : List Char) : Option Reading := do
  let flags := reading.flags
  let (least, rest) ← readNumber flags (flags.skip text)
  match rest with
  | '}' :: rest => reading.repeatLast least (some least) (flags.skip rest)
  | ',' :: rest =>
      match flags.skip rest with
      | '}' :: rest => reading.repeatLast least none (flags.skip rest)
      | rest => do
          let (greatest, rest) ← readNumber flags rest
          match rest with
          | '}' :: rest =>
              if least ≤ greatest then
                reading.repeatLast least (some greatest) (flags.skip rest)
              else none
          | _ => none
  | _ => none

/-- Whether a character may stand in the name of a group. -/
def isNameCharacter (first : Bool) (character : Char) : Bool :=
  let code := character.toNat
  if first then character == '_' || CodeProperty.alphabetic.contains code
  else
    ['_', '.', '[', ']'].contains character || CodeProperty.alphabetic.contains code
      || Category.decimalNumber.contains code || Category.letterNumber.contains code
      || Category.otherNumber.contains code

/-- Read the name of a group, which no other group has, up to the closing angle
bracket. -/
def readName (reading : Reading) (text : List Char) : Option Reading :=
  let name := text.takeWhile (· != '>')
  let valid :=
    match name with
    | [] => false
    | first :: rest => isNameCharacter true first && rest.all (isNameCharacter false)
  match text.drop name.length with
  | '>' :: rest =>
      if valid && !reading.names.contains name then
        some { reading.openGroup true reading.flags rest with names := name :: reading.names }
      else none
  | _ => none

/-- Read flags up to what ends them. `set` is the value that flags are given,
`seen` the letters met, and `pending` whether a dash came last. -/
def readFlags (set : Bool) (seen : List Char) (pending : Bool) (flags : Flags) :
    List Char → Option (Flags × List Char)
  | [] => none
  | letter :: rest =>
      if letter = ':' ∨ letter = ')' then
        if pending then none else some (flags, letter :: rest)
      else if letter ∈ seen then none
      else if letter = '-' then readFlags false (letter :: seen) true flags rest
      else do
        let flags ← flags.set letter set
        readFlags set (letter :: seen) false flags rest

/-- Read what follows an opening parenthesis. -/
def readGroup (reading : Reading) (text : List Char) : Option Reading :=
  match text with
  | '?' :: '=' :: _ => none
  | '?' :: '!' :: _ => none
  | '?' :: '<' :: '=' :: _ => none
  | '?' :: '<' :: '!' :: _ => none
  | '?' :: 'P' :: '<' :: rest => reading.readName rest
  | '?' :: '<' :: rest => reading.readName rest
  | '?' :: rest => do
      let (flags, after) ← readFlags true [] false reading.flags rest
      match after with
      | ':' :: after => some (reading.openGroup false flags after)
      | _ :: after =>
          if rest.head? = some ')' then none
          else some { reading with flags, items := .flags :: reading.items, rest := after }
      | [] => none
  | rest => some (reading.openGroup true reading.flags rest)

/-- The expression of a character. -/
def ofCharacter? (flags : Flags) (value : Char) (byte : Bool) : Option Expression :=
  let set := CodeSet.single value.toNat
  if flags.unicode then
    some (.oneOf (if flags.caseless then foldCase flags set else set))
  else if value.toNat < 0x80 then
    some (.oneOf (if flags.caseless then foldCase flags set else set))
  else if byte then none
  else some (.oneOf set)

/-- The expression of a dot. -/
def ofDot? (flags : Flags) : Option Expression :=
  let lineFeed := CodeSet.single '\n'.toNat
  if !flags.unicode then none
  else if flags.dotAll then some (.oneOf .all)
  else if flags.carriageReturns then
    some (.oneOf (lineFeed.union (.single '\r'.toNat)).complement)
  else some (.oneOf lineFeed.complement)

/-- The expression of a primitive. -/
def ofPrimitive? (flags : Flags) : Primitive → Option Expression
  | .character value byte => ofCharacter? flags value byte
  | .oneOf set => some (.oneOf set)
  | .check assertion => some (.check assertion)

/-- The beginning of the text or of a line. -/
def startAnchor (flags : Flags) : Assertion :=
  if flags.multiLine then .lineStart flags.carriageReturns else .textStart

/-- The end of the text or of a line. -/
def endAnchor (flags : Flags) : Assertion :=
  if flags.multiLine then .lineEnd flags.carriageReturns else .textEnd

/-- Read the construct that a character begins. -/
def readConstruct (reading : Reading) (first : Char) (rest : List Char) : Option Reading :=
  let flags := reading.flags
  match first with
  | '(' => reading.readGroup (flags.skip rest)
  | ')' => reading.closeGroup rest
  | '|' => some (reading.pushAlternative rest)
  | '[' => do
      let (operand, rest) ← readBrackets flags rest
      return reading.push ⟨.oneOf operand.set, operand.depth⟩ rest
  | '?' => reading.repeatLast 0 (some 1) rest
  | '*' => reading.repeatLast 0 none rest
  | '+' => reading.repeatLast 1 none rest
  | '{' => reading.readBounds rest
  | '\\' => do
      let (primitive, rest) ← readEscape flags rest
      return reading.push ⟨← ofPrimitive? flags primitive, 0⟩ rest
  | '.' => do return reading.push ⟨← ofDot? flags, 0⟩ rest
  | '^' => some (reading.push ⟨.check (startAnchor flags), 0⟩ rest)
  | '$' => some (reading.push ⟨.check (endAnchor flags), 0⟩ rest)
  | character => do
      return reading.push ⟨← ofCharacter? flags character false, 0⟩ rest

/-- Read constructs to the end of a pattern. -/
def readAll : Nat → Reading → Option Reading
  | 0, _ => none
  | fuel + 1, reading =>
      match reading.flags.skip reading.rest with
      | [] => some reading
      | first :: rest => do readAll fuel (← reading.readConstruct first rest)

end Reading

/-- How deep a pattern may be nested. -/
def heightLimit : Nat := 250

/-- Read a pattern. -/
def compile? (text : String) : Option Pattern := do
  let reading ← Reading.readAll (text.length + 1) { rest := text.toList }
  let piece := reading.content
  if reading.groups.isEmpty && piece.height ≤ heightLimit && piece.expression.isSmall then
    return ⟨piece.expression⟩
  else none

/-- Whether a pattern occurs in a text. -/
def occursIn (pattern : Pattern) (text : String) : Bool :=
  pattern.expression.matchesIn text.toList

end Pattern
end ManifestPolicy
