import ManifestPolicy.Yaml.Token

/-!
# YAML documents

The trees that the tokens of a text stand for. Nodes keep their tags, and an
alias keeps the number of the anchor it refers to: every anchor is numbered by
how many names have been used for anchors before it.
-/

namespace ManifestPolicy
namespace Yaml

/-- What may stand in front of a node: the number of its anchor, and its tag
with the handle expanded. -/
structure Mark where
  anchor : Option Nat := none
  tag : Option (List UInt8) := none
  deriving DecidableEq, Inhabited

/-- A node of a document. -/
inductive Node
  | scalar (mark : Mark) (text : List Char) (plain : Bool)
  | sequence (mark : Mark) (items : List Node)
  | mapping (mark : Mark) (entries : List (Node × Node))
  | alias (anchor : Nat)
  deriving Inhabited

namespace Node

/-- The node that stands where nothing is written. -/
def blank : Node := .scalar {} [] true

mutual

/-- The anchored nodes of a tree, in the order in which they begin. -/
def definitions : Node → List (Nat × Node)
  | .scalar mark text plain =>
      mark.anchor.toList.map fun anchor => (anchor, .scalar mark text plain)
  | .sequence mark items =>
      (mark.anchor.toList.map fun anchor => (anchor, .sequence mark items))
        ++ definitionsOfItems items
  | .mapping mark entries =>
      (mark.anchor.toList.map fun anchor => (anchor, .mapping mark entries))
        ++ definitionsOfEntries entries
  | .alias _ => []

/-- The anchored nodes of items. -/
def definitionsOfItems : List Node → List (Nat × Node)
  | [] => []
  | item :: rest => definitions item ++ definitionsOfItems rest

/-- The anchored nodes of entries. -/
def definitionsOfEntries : List (Node × Node) → List (Nat × Node)
  | [] => []
  | (key, value) :: rest =>
      definitions key ++ definitions value ++ definitionsOfEntries rest

end

mutual

/-- The number of scalars, aliases and collection ends and starts of a tree. -/
def eventCount : Node → Nat
  | .scalar .. => 1
  | .sequence _ items => 2 + eventCountOfItems items
  | .mapping _ entries => 2 + eventCountOfEntries entries
  | .alias _ => 1

/-- The number of events of items. -/
def eventCountOfItems : List Node → Nat
  | [] => 0
  | item :: rest => eventCount item + eventCountOfItems rest

/-- The number of events of entries. -/
def eventCountOfEntries : List (Node × Node) → Nat
  | [] => 0
  | (key, value) :: rest => eventCount key + eventCount value + eventCountOfEntries rest

end

end Node

/-- The tokens still to be read, the numbers of the anchors met in the document,
and the tag handles in force. -/
structure Reading where
  tokens : List Token
  anchors : List (List Char × Nat) := []
  handles : List (List UInt8 × List UInt8) := []

/-- A step of reading, which may fail. -/
abbrev Reader := StateT Reading Option

namespace Reader

/-- The next token. -/
def peek : Reader Token := fun reading =>
  match reading.tokens with
  | [] => none
  | token :: _ => some (token, reading)

/-- Pass over the next token. -/
def skip : Reader Unit := fun reading =>
  some ((), { reading with tokens := reading.tokens.drop 1 })

/-- Give an anchor its number. -/
def defineAnchor (name : List Char) : Reader Nat := fun reading =>
  let number := reading.anchors.length
  let others := reading.anchors.filter fun entry => entry.1 != name
  some (number, { reading with anchors := (name, number) :: others })

/-- The number of the anchor that an alias refers to. -/
def findAnchor (name : List Char) : Reader Nat := fun reading =>
  (reading.anchors.lookup name).map fun number => (number, reading)

/-- Expand the handle of a tag. -/
def expandTag (handle suffix : List UInt8) : Reader (List UInt8) := fun reading =>
  if handle.isEmpty then some (suffix, reading)
  else (reading.handles.lookup handle).map fun expansion => (expansion ++ suffix, reading)

/-- Read an anchor if there is one. -/
def anchor? : Reader (Option Nat) := do
  match ← peek with
  | .anchor name => do
      skip
      return some (← defineAnchor name)
  | _ => return none

/-- Read a tag if there is one. -/
def tag? : Reader (Option (List UInt8 × List UInt8)) := do
  match ← peek with
  | .tag handle suffix => do
      skip
      return some (handle, suffix)
  | _ => return none

/-- Read what stands in front of a node, in either order. -/
def mark : Reader Mark := do
  let first ← anchor?
  let tag ← tag?
  let anchor ← if first.isSome || tag.isNone then pure first else anchor?
  match tag with
  | none => return { anchor }
  | some (handle, suffix) => return { anchor, tag := some (← expandTag handle suffix) }

/-- Whether a token ends the place of an item or a value in a block. -/
def endsPlace (token : Token) : Bool :=
  token == .key || token == .value || token == .blockEnd

mutual

/-- Read a node. A block collection may only stand in a block, and a sequence
without indentation only under a key. -/
def node (fuel : Nat) (block indentless : Bool) : Reader Node :=
  match fuel with
  | 0 => failure
  | fuel + 1 => do
      match ← peek with
      | .alias name => do
          skip
          return .alias (← findAnchor name)
      | _ => do
          let mark ← mark
          match ← peek with
          | .scalar text plain => do
              skip
              return .scalar mark text plain
          | .flowSequenceStart => do
              skip
              return .sequence mark (← flowItems fuel true)
          | .flowMappingStart => do
              skip
              return .mapping mark (← flowEntries fuel true)
          | token =>
              if indentless && token == .entry then
                return .sequence mark (← indentlessItems fuel)
              else if block && token == .sequenceStart then do
                skip
                return .sequence mark (← blockItems fuel)
              else if block && token == .mappingStart then do
                skip
                return .mapping mark (← blockEntries fuel)
              else if mark.anchor.isSome || mark.tag.isSome then
                return .scalar mark [] true
              else failure

/-- Read the items of a block sequence and its end. -/
def blockItems (fuel : Nat) : Reader (List Node) :=
  match fuel with
  | 0 => failure
  | fuel + 1 => do
      match ← peek with
      | .entry => do
          skip
          let next ← peek
          let item ←
            if next == .entry || next == .blockEnd then pure Node.blank
            else node fuel true false
          return item :: (← blockItems fuel)
      | .blockEnd => do
          skip
          return []
      | _ => failure

/-- Read the items of a sequence without indentation. -/
def indentlessItems (fuel : Nat) : Reader (List Node) :=
  match fuel with
  | 0 => failure
  | fuel + 1 => do
      match ← peek with
      | .entry => do
          skip
          let next ← peek
          let item ←
            if next == .entry || endsPlace next then pure Node.blank
            else node fuel true false
          return item :: (← indentlessItems fuel)
      | _ => return []

/-- Read the entries of a block mapping and its end. -/
def blockEntries (fuel : Nat) : Reader (List (Node × Node)) :=
  match fuel with
  | 0 => failure
  | fuel + 1 => do
      match ← peek with
      | .key => do
          skip
          let next ← peek
          let key ← if endsPlace next then pure Node.blank else node fuel true true
          let value ← blockValue fuel
          return (key, value) :: (← blockEntries fuel)
      | .blockEnd => do
          skip
          return []
      | _ => failure

/-- Read the value of a block entry, which may be left out. -/
def blockValue (fuel : Nat) : Reader Node :=
  match fuel with
  | 0 => failure
  | fuel + 1 => do
      match ← peek with
      | .value => do
          skip
          let next ← peek
          if endsPlace next then return Node.blank else node fuel true true
      | _ => return Node.blank

/-- Read the items of a flow sequence and its end. An item with a colon is a
mapping of one entry. -/
def flowItems (fuel : Nat) (first : Bool) : Reader (List Node) :=
  match fuel with
  | 0 => failure
  | fuel + 1 => do
      let next ← peek
      if next == .flowSequenceEnd then do
        skip
        return []
      else do
        if first then pure ()
        else if next == .comma then skip
        else failure
        match ← peek with
        | .flowSequenceEnd => do
            skip
            return []
        | .key => do
            skip
            let entry ← flowPair fuel
            return .mapping {} [entry] :: (← flowItems fuel false)
        | _ => do
            let item ← node fuel false false
            return item :: (← flowItems fuel false)

/-- Read the single entry of a mapping among the items of a flow sequence. -/
def flowPair (fuel : Nat) : Reader (Node × Node) :=
  match fuel with
  | 0 => failure
  | fuel + 1 => do
      let next ← peek
      let key ←
        if next == .value || next == .comma || next == .flowSequenceEnd then do
          skip
          pure Node.blank
        else node fuel false false
      match ← peek with
      | .value => do
          skip
          let next ← peek
          if next == .comma || next == .flowSequenceEnd then return (key, Node.blank)
          else return (key, ← node fuel false false)
      | _ => return (key, Node.blank)

/-- Read the entries of a flow mapping and its end. -/
def flowEntries (fuel : Nat) (first : Bool) : Reader (List (Node × Node)) :=
  match fuel with
  | 0 => failure
  | fuel + 1 => do
      let next ← peek
      if next == .flowMappingEnd then do
        skip
        return []
      else do
        if first then pure ()
        else if next == .comma then skip
        else failure
        match ← peek with
        | .flowMappingEnd => do
            skip
            return []
        | .key => do
            skip
            let next ← peek
            let key ←
              if next == .value || next == .comma || next == .flowMappingEnd then
                pure Node.blank
              else node fuel false false
            let value ← flowValue fuel
            return (key, value) :: (← flowEntries fuel false)
        | _ => do
            let key ← node fuel false false
            return (key, Node.blank) :: (← flowEntries fuel false)

/-- Read the value of a flow entry, which may be left out. -/
def flowValue (fuel : Nat) : Reader Node :=
  match fuel with
  | 0 => failure
  | fuel + 1 => do
      match ← peek with
      | .value => do
          skip
          let next ← peek
          if next == .comma || next == .flowMappingEnd then return Node.blank
          else node fuel false false
      | _ => return Node.blank

end

/-- The tag handles that need no directive. -/
def standardHandles : List (List UInt8 × List UInt8) :=
  [(Lexer.bytesOf ['!'], Lexer.bytesOf ['!']),
    (Lexer.bytesOf ['!', '!'], Lexer.bytesOf "tag:yaml.org,2002:".toList)]

/-- Read directives. A version is stated once and is 1.1 or 1.2; a handle is
stated once. -/
def directives (versioned : Bool) (handles : List (List UInt8 × List UInt8)) :
    List Token → Option (List (List UInt8 × List UInt8) × List Token)
  | .version major minor :: rest =>
      if versioned ∨ major ≠ 1 ∨ (minor ≠ 1 ∧ minor ≠ 2) then none
      else directives true handles rest
  | .tagHandle handle expansion :: rest =>
      if (handles.lookup handle).isSome then none
      else directives versioned (handles ++ [(handle, expansion)]) rest
  | tokens => some (handles ++ standardHandles, tokens)

/-- Whether a token ends the place of the content of a document. -/
def endsDocument : Token → Bool
  | .version .. => true
  | .tagHandle .. => true
  | .documentStart => true
  | .documentEnd => true
  | .streamEnd => true
  | _ => false

/-- Fuel that suffices for a number of tokens. -/
def fuelFor (tokens : List Token) : Nat := 4 * tokens.length + 4

/-- Read the content of a document. -/
def content (explicit : Bool) : Reader Node := fun reading =>
  (do
    let next ← peek
    if explicit && endsDocument next then return Node.blank
    else node (fuelFor reading.tokens) true false : Reader Node) reading

end Reader

/-- The documents of a text before the first fault, and whether there is none. -/
structure Stream where
  documents : List Node
  complete : Bool
  deriving Inhabited

/-- Read the documents that tokens stand for. Only the first may begin without a
marker. -/
def readDocuments : Nat → Bool → List Token → Stream
  | 0, _, _ => ⟨[], false⟩
  | fuel + 1, first, tokens =>
      let tokens := if first then tokens else tokens.dropWhile (· == .documentEnd)
      match tokens with
      | [] => ⟨[], false⟩
      | .streamEnd :: _ => ⟨[], true⟩
      | next :: _ =>
          let opening : Option (Bool × List (List UInt8 × List UInt8) × List Token) :=
            if first && (next == .documentEnd || !Reader.endsDocument next) then
              some (false, Reader.standardHandles, tokens)
            else
              match Reader.directives false [] tokens with
              | some (handles, .documentStart :: rest) => some (true, handles, rest)
              | _ => none
          match opening with
          | none => ⟨[], false⟩
          | some (explicit, handles, tokens) =>
              match Reader.content explicit { tokens, handles } with
              | none => ⟨[], false⟩
              | some (root, reading) =>
                  let rest :=
                    match reading.tokens with
                    | .documentEnd :: rest => rest
                    | rest => rest
                  let later := readDocuments fuel false rest
                  ⟨root :: later.documents, later.complete⟩

/-- The documents of a text. A text without any holds one empty document. -/
def stream (text : List Char) : Stream :=
  let tokens := tokens text
  let read := readDocuments (tokens.length + 1) true tokens
  if read.complete && read.documents.isEmpty then ⟨[Node.blank], true⟩ else read

end Yaml
end ManifestPolicy
