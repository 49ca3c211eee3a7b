/-!
# Sets of code points

A set of code points is a list of inclusive ranges in increasing order, no two
of which touch. Such a list is determined by its members, and union,
intersection and complement are each one pass over it. Tables of character
properties are written as text and read by `CodeSet.ofText`.
-/

namespace ManifestPolicy

/-- A set of code points, as inclusive ranges. -/
structure CodeSet where
  ranges : List (Nat × Nat)
  deriving DecidableEq, Repr, Inhabited

namespace CodeSet

/-- The greatest code point. -/
def greatest : Nat := 0x10FFFF

/-- Whether a code point is a member. -/
def contains (set : CodeSet) (code : Nat) : Bool :=
  set.ranges.any fun range => range.1 ≤ code && code ≤ range.2

/-- The set without members. -/
def empty : CodeSet := ⟨[]⟩

/-- The set of all code points. -/
def all : CodeSet := ⟨[(0, greatest)]⟩

/-- Whether there is no member. -/
def isEmpty (set : CodeSet) : Bool := set.ranges.isEmpty

/-- The set of one code point. -/
def single (code : Nat) : CodeSet := ⟨[(code, code)]⟩

/-- The set of the code points between two bounds, both included. -/
def range (low high : Nat) : CodeSet := if low ≤ high then ⟨[(low, high)]⟩ else empty

/-- Put a range in front of ranges that start no earlier, joining those it
touches. -/
def join (first : Nat × Nat) : List (Nat × Nat) → List (Nat × Nat)
  | [] => [first]
  | second :: rest =>
      if second.1 ≤ first.2 + 1 then join (first.1, max first.2 second.2) rest
      else first :: second :: rest

/-- The set covered by ranges in any order. -/
def ofRanges (ranges : List (Nat × Nat)) : CodeSet :=
  let ordered := (ranges.filter fun range => range.1 ≤ range.2).mergeSort
    fun left right => left.1 ≤ right.1
  ⟨ordered.foldr join []⟩

/-- Members of either set. -/
def union (left right : CodeSet) : CodeSet := ofRanges (left.ranges ++ right.ranges)

/-- The gaps that ranges leave between a lower bound and the greatest code
point. -/
def gaps (low : Nat) : List (Nat × Nat) → List (Nat × Nat)
  | [] => if low ≤ greatest then [(low, greatest)] else []
  | range :: rest =>
      if low < range.1 then (low, range.1 - 1) :: gaps (range.2 + 1) rest
      else gaps (max low (range.2 + 1)) rest

/-- Code points that are no members. -/
def complement (set : CodeSet) : CodeSet := ⟨gaps 0 set.ranges⟩

/-- Members of both sets. -/
def intersection (left right : CodeSet) : CodeSet :=
  (left.complement.union right.complement).complement

/-- Members of the first set that are not in the second. -/
def difference (left right : CodeSet) : CodeSet := left.intersection right.complement

/-- Members of exactly one of two sets. -/
def symmetricDifference (left right : CodeSet) : CodeSet :=
  (left.union right).difference (left.intersection right)

/-- The value of a hexadecimal digit. -/
def hexDigit? (digit : Char) : Option Nat :=
  if digit.isDigit then some (digit.toNat - '0'.toNat)
  else if 'a' ≤ digit ∧ digit ≤ 'f' then some (digit.toNat - 'a'.toNat + 10)
  else if 'A' ≤ digit ∧ digit ≤ 'F' then some (digit.toNat - 'A'.toNat + 10)
  else none

/-- The ranges of a table still to be read, with the bounds under way: `low` is
set once a dash has been passed. -/
def readRanges (low : Option Nat) (value : Nat) : List Char → List (Nat × Nat)
  | [] => [(low.getD value, value)]
  | '-' :: rest => readRanges (some value) 0 rest
  | ' ' :: rest => (low.getD value, value) :: readRanges none 0 rest
  | digit :: rest => readRanges low (value * 16 + (hexDigit? digit).getD 0) rest

/-- Read rows of hexadecimal ranges such as `9-d 20 85`. -/
def ofText (rows : List String) : CodeSet :=
  ofRanges (rows.flatMap fun row => readRanges none 0 row.toList)

end CodeSet

end ManifestPolicy
