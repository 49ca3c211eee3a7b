import ManifestPolicy.Unicode.Named

/-!
# Expressions that search a text

An expression is matched from all places of a text at once: a set of places is a
number whose binary digits say which places are in it, and every expression maps
the set of places where a match may start to the set of places where it may end.
Matching therefore takes no choice back and always ends.
-/

namespace ManifestPolicy
namespace Pattern

/-- A set of places in a text. Place `n` lies before the character with index
`n`. -/
abbrev Places := Nat

/-- A condition on a place. -/
inductive Assertion
  | textStart
  | textEnd
  | lineStart (carriageReturns : Bool)
  | lineEnd (carriageReturns : Bool)
  | wordBoundary (word : CodeSet)
  | noWordBoundary (word : CodeSet)
  | wordStart (word : CodeSet)
  | wordEnd (word : CodeSet)
  | noWordBefore (word : CodeSet)
  | noWordAfter (word : CodeSet)
  deriving Repr

namespace Assertion

/-- Whether a condition holds between two characters, where the text may end. -/
def holds (assertion : Assertion) (before after : Option Char) : Bool :=
  let isWord (set : CodeSet) (side : Option Char) : Bool :=
    side.any fun character => set.contains character.toNat
  match assertion with
  | .textStart => before.isNone
  | .textEnd => after.isNone
  | .lineStart false => before.all (· == '\n')
  | .lineEnd false => after.all (· == '\n')
  | .lineStart true => before.all fun last => last == '\n' || (last == '\r' && after != some '\n')
  | .lineEnd true => after.all fun next => next == '\r' || (next == '\n' && before != some '\r')
  | .wordBoundary set => isWord set before != isWord set after
  | .noWordBoundary set => isWord set before == isWord set after
  | .wordStart set => !isWord set before && isWord set after
  | .wordEnd set => isWord set before && !isWord set after
  | .noWordBefore set => !isWord set before
  | .noWordAfter set => !isWord set after

end Assertion

/-- An expression. -/
inductive Expression
  | empty
  | oneOf (set : CodeSet)
  | check (assertion : Assertion)
  | sequence (first second : Expression)
  | choice (first second : Expression)
  | group (captures : Bool) (inner : Expression)
  | repetition (inner : Expression) (least : Nat) (greatest : Option Nat)
  deriving Repr, Inhabited

namespace Expression

/-- The places where a test of the neighbours holds, given the character before the
first. -/
def placesOf (test : Option Char → Option Char → Bool) (before : Option Char) :
    List Char → Places
  | [] => if test before none then 1 else 0
  | after :: rest =>
      2 * placesOf test (some after) rest + if test before (some after) then 1 else 0

/-- The places of a text before a member of a set. -/
def placesBefore (set : CodeSet) (text : List Char) : Places :=
  placesOf (fun _ after => after.any fun character => set.contains character.toNat) none text

end Expression

/-- An expression on one text: every set of characters and every condition is
replaced by the places where it holds. -/
inductive Plan
  | stay
  | pass (allowed : Places)
  | check (allowed : Places)
  | sequence (first second : Plan)
  | choice (first second : Plan)
  | repetition (inner : Plan) (least : Nat) (greatest : Option Nat)

/-- The plan of an expression on a text. -/
def Expression.plan (text : List Char) : Expression → Plan
  | .empty => .stay
  | .oneOf set => .pass (placesBefore set text)
  | .check assertion => .check (placesOf assertion.holds none text)
  | .sequence first second => .sequence (first.plan text) (second.plan text)
  | .choice first second => .choice (first.plan text) (second.plan text)
  | .group _ inner => inner.plan text
  | .repetition inner least greatest => .repetition (inner.plan text) least greatest

namespace Plan

/-- Apply a step a number of times, or until it changes nothing. -/
def iterate (step : Places → Places) : Nat → Places → Places
  | 0, places => places
  | count + 1, places =>
      let next := step places
      if next = places then places else iterate step count next

/-- The places where matches that start in a set of places may end, in a text of
some length. A repetition without an upper bound is over after as many rounds as
there are places. -/
def ends (length : Nat) : Plan → Places → Places
  | .stay, places => places
  | .pass allowed, places => (places &&& allowed) <<< 1
  | .check allowed, places => places &&& allowed
  | .sequence first second, places => second.ends length (first.ends length places)
  | .choice first second, places => first.ends length places ||| second.ends length places
  | .repetition inner least greatest, places =>
      let further := (greatest.map fun greatest => greatest - least).getD (length + 1)
      iterate (fun reached => reached ||| inner.ends length reached) further
        (iterate (inner.ends length) least places)

end Plan

/-- Whether an expression matches somewhere in a text. -/
def Expression.matchesIn (expression : Expression) (text : List Char) : Bool :=
  (expression.plan text).ends text.length (Nat.pow 2 (text.length + 1) - 1) != 0

end Pattern
end ManifestPolicy
