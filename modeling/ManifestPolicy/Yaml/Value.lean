import ManifestPolicy.Yaml.Node
import ManifestPolicy.Yaml.Scalar
import ManifestPolicy.Text.Utf8

/-!
# YAML values

What a document says once its aliases are followed and its scalars are read. A
value may have a tag of its own; a mapping keeps its entries in the order in which
they are written, and the value of a document has no key twice in a mapping.
-/

namespace ManifestPolicy
namespace Yaml

/-- A value, with the name of its tag. -/
inductive Value
  | scalar (tag : Option String) (scalar : Scalar)
  | sequence (tag : Option String) (items : List Value)
  | mapping (tag : Option String) (entries : List (Value × Value))
  deriving Inhabited

namespace Value

mutual

/-- Whether two values are the same key of a mapping. The order of the entries of
a mapping does not matter. -/
def same : Value → Value → Bool
  | .scalar leftTag left, .scalar rightTag right => leftTag == rightTag && left.same right
  | .sequence leftTag left, .sequence rightTag right =>
      leftTag == rightTag && sameItems left right
  | .mapping leftTag left, .mapping rightTag right =>
      leftTag == rightTag && left.length == right.length && sameEntries left right
  | _, _ => false

/-- Whether two sequences have the same items. -/
def sameItems : List Value → List Value → Bool
  | [], [] => true
  | left :: leftRest, right :: rightRest => same left right && sameItems leftRest rightRest
  | _, _ => false

/-- Whether every entry is among the entries of another mapping. -/
def sameEntries : List (Value × Value) → List (Value × Value) → Bool
  | [], _ => true
  | (key, value) :: rest, others =>
      (others.any fun other => same key other.1 && same value other.2)
        && sameEntries rest others

end

/-- Whether a key is none of the keys of entries. -/
def isNewKey (key : Value) (entries : List (Value × Value)) : Bool :=
  entries.all fun entry => !key.same entry.1

mutual

/-- Whether no mapping in a value has a key twice. -/
def keysDiffer : Value → Bool
  | .scalar .. => true
  | .sequence _ items => keysOfItemsDiffer items
  | .mapping _ entries => keysOfEntriesDiffer entries

/-- Whether no mapping in items has a key twice. -/
def keysOfItemsDiffer : List Value → Bool
  | [] => true
  | item :: rest => keysDiffer item && keysOfItemsDiffer rest

/-- Whether entries have different keys and no mapping in them has a key twice. -/
def keysOfEntriesDiffer : List (Value × Value) → Bool
  | [] => true
  | (key, value) :: rest =>
      key.isNewKey rest && keysDiffer key && keysDiffer value && keysOfEntriesDiffer rest

end

/-- The text of a value that is one. -/
def text? : Value → Option String
  | .scalar _ (.text text) => some text
  | _ => none

/-- Whether a value is null. -/
def isNull : Value → Bool
  | .scalar _ .null => true
  | _ => false

/-- The key that a name without a tag is. -/
def isKey (name : String) : Value → Bool
  | .scalar none (.text text) => text == name
  | _ => false

/-- The value under a name. -/
def get? (name : String) : Value → Option Value
  | .mapping _ entries => (entries.find? fun entry => isKey name entry.1).map Prod.snd
  | _ => none

/-- The name that the metadata of a document state. -/
def metadataName? (document : Value) : Option String := do
  let metadata ← document.get? "metadata"
  let name ← metadata.get? "name"
  name.text?

end Value

/-- A tag without the exclamation mark that begins it. -/
def tagStem (tag : List Char) : List Char :=
  match tag with
  | '!' :: next :: rest => next :: rest
  | _ => tag

/-- The name of a local tag. Other tags name standard types. -/
def tagName? (tag : List UInt8) : Option String :=
  if tag.head? = some '!'.toUInt8 then
    match Utf8.decode tag with
    | .ok text => some (String.ofList (tagStem (tagStem text.toList)))
    | .error _ => none
  else none

namespace Node

/-- A step of building a value. It may follow as many aliases as the number says
and fails when one more is met. -/
abbrev Expansion := StateT Nat Option

/-- Follow an alias. -/
def follow (definitions : List (Nat × Node)) (anchor : Nat) : Expansion Node := fun jumps =>
  match jumps, (definitions.reverse.lookup anchor : Option Node) with
  | jumps + 1, some target => some (target, jumps)
  | _, _ => none

/-- The tag of a value, unless the place it stands in has been given one. -/
def ownTag (marked : Bool) (mark : Mark) : Option String :=
  if marked then none else mark.tag.bind tagName?

/-- Read entries in order. A key in a place that has been given a tag has none of
its own. -/
def readEntries
    (read : Bool → Node → Expansion Value)
    (marked : Bool) :
    List (Node × Node) → Expansion (List (Value × Value))
  | [] => pure []
  | (key, value) :: rest => do
      let key ← read marked key
      let value ← read false value
      let entries ← readEntries read marked rest
      return (key, value) :: entries

/-- Read a node that is no alias, given how nodes inside it are read. -/
def readContent
    (read : Option (Bool → Node → Expansion Value))
    (marked : Bool) : Node → Expansion Value
  | .alias _ => failure
  | .scalar mark text plain =>
      match ownTag marked mark with
      | some tag => do
          let scalar ← liftM (if plain then Scalar.ofPlain text else some (untyped text))
          return .scalar (some tag) scalar
      | none => do
          let scalar ← liftM <|
            match mark.tag, marked with
            | some tag, false => Scalar.ofTagged tag text plain
            | _, _ => if plain then Scalar.ofPlain text else some (untyped text)
          return .scalar none scalar
  | .sequence mark items =>
      match read with
      | none => failure
      | some read => do
          return .sequence (ownTag marked mark) (← items.mapM (read false))
  | .mapping mark entries =>
      match read with
      | none => failure
      | some read => do
          let tag := ownTag marked mark
          return .mapping tag (← readEntries read (marked || tag.isSome) entries)
where
  /-- A scalar that is text whatever it looks like. -/
  untyped (text : List Char) : Scalar := .text (String.ofList text)

/-- Read a node, or what it is an alias of, whose tag then is its own. -/
def readTarget
    (definitions : List (Nat × Node))
    (read : Option (Bool → Node → Expansion Value))
    (marked : Bool)
    (node : Node) : Expansion Value :=
  match node with
  | .alias anchor => do readContent read false (← follow definitions anchor)
  | node => readContent read marked node

/-- Read a node in which collections are nested at most `depth` deep. -/
def readNode (definitions : List (Nat × Node)) : Nat → Bool → Node → Expansion Value
  | 0 => readTarget definitions none
  | depth + 1 => readTarget definitions (some (readNode definitions depth))

/-- How deep collections may be nested. -/
def depthLimit : Nat := 128

/-- How many aliases may be followed in a document. -/
def jumpLimit (root : Node) : Nat := 100 * root.eventCount

/-- Run a reader on the document with a root. -/
def expand? (root : Node) (read : Expansion α) : Option α :=
  (read.run root.jumpLimit).map Prod.fst

/-- The value of a document. -/
def value? (root : Node) : Option Value :=
  (root.expand? (readNode root.definitions depthLimit false root)).filter Value.keysDiffer

end Node
end Yaml
end ManifestPolicy
