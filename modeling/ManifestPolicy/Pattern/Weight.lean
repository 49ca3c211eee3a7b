import ManifestPolicy.Pattern.Expression

/-!
# The size of an expression

The memory that the automaton of an expression takes, where every repetition is
written out. Expressions above a limit are refused. A set of characters beyond
ASCII is counted as the tree of the byte ranges that encode it.
-/

namespace ManifestPolicy
namespace Pattern

/-! ### Sets as byte ranges -/

/-- The greatest codes of one, two and three bytes. -/
def widthLimits : List Nat := [0x7F, 0x7FF, 0xFFFF]

/-- The first code after a cut of a range whose codes are not encoded by the same
ranges of bytes. -/
def cut? (low high : Nat) : Option Nat :=
  let splits (bound : Nat) : Bool := low < bound && bound ≤ high
  let atWidth := (widthLimits.map (· + 1) ++ [0xD800, 0xE000]).find? splits
  let aligned (block : Nat) : Option Nat :=
    if low / block = high / block then none
    else if low % block ≠ 0 then some ((low / block + 1) * block)
    else if high % block ≠ block - 1 then some (high / block * block)
    else none
  if high ≤ 0x7F then none
  else atWidth <|> aligned (Nat.pow 2 6) <|> aligned (Nat.pow 2 12) <|> aligned (Nat.pow 2 18)

/-- Cut a range until every part is encoded by ranges of bytes. -/
def cutRange : Nat → Nat × Nat → List (Nat × Nat)
  | 0, range => [range]
  | fuel + 1, (low, high) =>
      match cut? low high with
      | none => [(low, high)]
      | some bound => cutRange fuel (low, bound - 1) ++ cutRange fuel (bound, high)

/-- The bytes of a code. -/
def bytesOf (code : Nat) : List Nat :=
  let continuation (shift : Nat) : Nat := 0x80 + code / shift % 64
  if code ≤ 0x7F then [code]
  else if code ≤ 0x7FF then [0xC0 + code / 64, continuation 1]
  else if code ≤ 0xFFFF then [0xE0 + code / 4096, continuation 64, continuation 1]
  else [0xF0 + code / 262144, continuation 4096, continuation 64, continuation 1]

/-- The byte ranges that encode a set, one list for each part, in order. -/
def byteRanges (set : CodeSet) : List (List (Nat × Nat)) :=
  let parts := set.ranges.flatMap (cutRange 64)
  let characters := parts.filter fun part => part.2 < 0xD800 || 0xE000 ≤ part.1
  characters.map fun part => (bytesOf part.1).zip (bytesOf part.2)

/-- Number of ranges that two lists begin with alike. -/
def sharedLength : List (Nat × Nat) → List (Nat × Nat) → Nat
  | left :: leftRest, right :: rightRest =>
      if left = right then sharedLength leftRest rightRest + 1 else 0
  | _, _ => 0

/-- Number of nodes of the tree of lists in order, after a list that is in it. -/
def nodeCount (before : List (Nat × Nat)) : List (List (Nat × Nat)) → Nat
  | [] => 0
  | ranges :: rest => ranges.length - sharedLength before ranges + nodeCount ranges rest

/-! ### Expressions -/

/-- The size of a state. -/
def stateSize : Nat := 32

/-- The size of the automaton of a set. -/
def setWeight (set : CodeSet) : Nat :=
  match set.ranges with
  | [(low, high)] =>
      if low = high then stateSize * (bytesOf low).length
      else rangesWeight set
  | _ => rangesWeight set
where
  /-- The size of the automaton of a set of several codes. -/
  rangesWeight (set : CodeSet) : Nat :=
    if set.ranges.all fun range => range.2 ≤ 0x7F then
      2 * stateSize + 8 * set.ranges.length
    else
      let sequences := byteRanges set
      2 * stateSize + 4 * sequences.length + stateSize * nodeCount [] sequences

namespace Expression

/-- Whether an expression can match without passing a character. -/
def canBeEmpty : Expression → Bool
  | .empty => true
  | .oneOf _ => false
  | .check _ => true
  | .sequence first second => first.canBeEmpty && second.canBeEmpty
  | .choice first second => first.canBeEmpty || second.canBeEmpty
  | .group _ inner => inner.canBeEmpty
  | .repetition inner least _ => least == 0 || inner.canBeEmpty

/-- The size of the automaton of an expression. `further` is whether it is a later
alternative of a choice that has been counted. -/
def weight (further : Bool) : Expression → Nat
  | .empty => stateSize
  | .oneOf set => setWeight set
  | .check _ => stateSize
  | .sequence first second => weight false first + weight false second
  | .choice first second =>
      (if further then 0 else 2 * stateSize) + 4 + weight false first + weight true second
  | .group captures inner => weight false inner + if captures then 2 * stateSize else 0
  | .repetition inner least none =>
      if least = 0 then weight false inner + stateSize * if inner.canBeEmpty then 3 else 1
      else least * weight false inner + stateSize
  | .repetition inner least (some greatest) =>
      if greatest ≤ least then max stateSize (least * weight false inner)
      else greatest * weight false inner + stateSize * (greatest - least + 1)

/-- The greatest size of an automaton. -/
def weightLimit : Nat := 10 * Nat.pow 2 20

/-- Whether the automaton of an expression, with what begins and ends it, is small
enough. -/
def isSmall (expression : Expression) : Bool :=
  expression.weight false + 6 * stateSize ≤ weightLimit

end Expression
end Pattern
end ManifestPolicy
