import ManifestPolicy.Decimal.Binary64

/-!
# What plain text stands for

A scalar without quotes stands for null, a truth value, a number or itself. The
rules are those of the core schema with three additions: integers may have a
binary prefix, numbers may have a plus sign, and digits after a leading zero are
text.
-/

namespace ManifestPolicy
namespace Yaml

/-- The value of a scalar. -/
inductive Scalar
  | null
  | boolean (value : Bool)
  | integer (value : Int)
  | real (value : Binary64)
  | text (value : String)
  deriving DecidableEq, Repr, Inhabited

namespace Scalar

/-- Whether two scalars are the same key of a mapping. Numbers are compared by
value, but an integer is never a floating-point number. -/
def same : Scalar → Scalar → Bool
  | .real left, .real right => left.same right
  | left, right => left == right

/-- The value of a digit in any base up to sixteen. -/
def digit? (character : Char) : Option Nat :=
  if '0' ≤ character ∧ character ≤ '9' then some (character.toNat - '0'.toNat)
  else if 'a' ≤ character ∧ character ≤ 'f' then some (character.toNat - 'a'.toNat + 10)
  else if 'A' ≤ character ∧ character ≤ 'F' then some (character.toNat - 'A'.toNat + 10)
  else none

/-- Whether a character is a decimal digit. -/
def isDecimal (character : Char) : Bool := '0' ≤ character && character ≤ '9'

/-- The number that digits denote after a number that has been read. -/
def readDigits (base number : Nat) : List Char → Option Nat
  | [] => some number
  | character :: rest => do
      let digit ← digit? character
      if digit < base then readDigits base (number * base + digit) rest else none

/-- The number that a non-empty run of digits denotes. -/
def natural? (base : Nat) (text : List Char) : Option Nat :=
  if text.isEmpty then none else readDigits base 0 text

/-- Whether a text has digits after a leading zero, which makes it no number. -/
def hasLeadingZero (text : List Char) : Bool :=
  let unsigned :=
    match text with
    | '-' :: rest => rest
    | '+' :: rest => rest
    | rest => rest
  match unsigned with
  | '0' :: next :: rest => (next :: rest).all isDecimal
  | _ => false

/-- The number that a text denotes in the base that its beginning states. -/
def magnitude? (leadingZero : Bool) : List Char → Option Nat
  | '0' :: 'x' :: rest => natural? 16 rest
  | '0' :: 'o' :: rest => natural? 8 rest
  | '0' :: 'b' :: rest => natural? 2 rest
  | digits => if leadingZero then none else natural? 10 digits

/-- The integer of at most 128 bits that a text denotes. -/
def integer? (text : List Char) : Option Int :=
  match text with
  | '-' :: rest =>
      match magnitude? (hasLeadingZero text) rest with
      | some number => if number ≤ Nat.pow 2 127 then some (-(number : Int)) else none
      | none => none
  | _ =>
      let unsigned := if text.head? = some '+' then text.drop 1 else text
      match magnitude? (hasLeadingZero text) unsigned with
      | some number => if number < Nat.pow 2 128 then some (number : Int) else none
      | none => none

/-- The exponent that follows the digits of a number. -/
def exponent? : List Char → Option Int
  | [] => some 0
  | 'e' :: rest => signed rest
  | 'E' :: rest => signed rest
  | _ => none
where
  /-- An exponent with an optional sign. -/
  signed : List Char → Option Int
    | '-' :: rest => (natural? 10 rest).map fun number => -(number : Int)
    | '+' :: rest => (natural? 10 rest).map fun number => (number : Int)
    | rest => (natural? 10 rest).map fun number => (number : Int)

/-- The floating-point number that digits with an optional point and exponent
denote. -/
def unsignedReal? (negative : Bool) (text : List Char) : Option Binary64 := do
  let whole := text.takeWhile isDecimal
  let rest := text.dropWhile isDecimal
  let (fraction, rest) :=
    match rest with
    | '.' :: rest => (rest.takeWhile isDecimal, rest.dropWhile isDecimal)
    | rest => ([], rest)
  let digits ← natural? 10 (whole ++ fraction)
  let exponent ← exponent? rest
  return .ofDecimal negative digits (exponent - fraction.length)

/-- The floating-point number that a text denotes. Numbers too great for the
format are text. -/
def real? (text : List Char) : Option Binary64 :=
  let unsigned := if text.head? = some '+' then text.drop 1 else text
  if text.head? = some '+' ∧ (unsigned.head? = some '+' ∨ unsigned.head? = some '-') then none
  else if [".inf", ".Inf", ".INF"].contains (String.ofList unsigned) then
    some (.infinite false)
  else if ["-.inf", "-.Inf", "-.INF"].contains (String.ofList text) then some (.infinite true)
  else if [".nan", ".NaN", ".NAN"].contains (String.ofList text) then some .nan
  else
    let number :=
      match unsigned with
      | '-' :: rest => unsignedReal? true rest
      | rest => unsignedReal? false rest
    number.filter Binary64.isFinite

/-- Whether a text is a spelling of null. -/
def isNull (text : List Char) : Bool :=
  ["null", "Null", "NULL", "~"].contains (String.ofList text)

/-- The truth value that a text denotes. -/
def boolean? (text : List Char) : Option Bool :=
  if ["true", "True", "TRUE"].contains (String.ofList text) then some true
  else if ["false", "False", "FALSE"].contains (String.ofList text) then some false
  else none

/-- The value of an integer, which must fit in 64 bits. -/
def ofInteger (number : Int) : Option Scalar :=
  if -Int.pow 2 63 ≤ number ∧ number < Int.pow 2 64 then some (.integer number) else none

/-- What a text without quotes stands for. An integer of more than 64 bits is an
error, and one of more than 128 bits is read as a floating-point number. -/
def ofPlain (text : List Char) : Option Scalar :=
  if text.isEmpty || isNull text then some .null
  else
    match boolean? text with
    | some value => some (.boolean value)
    | none =>
        match integer? text with
        | some number => ofInteger number
        | none =>
            match if hasLeadingZero text then none else real? text with
            | some number => some (.real number)
            | none => some (.text (String.ofList text))

/-- The tag prefix of the types that every document may name. -/
def standardTag (name : String) : List UInt8 :=
  ("tag:yaml.org,2002:" ++ name).toUTF8.toList

/-- What a scalar with a tag of its own stands for. A standard tag demands its
type. -/
def ofTagged (tag : List UInt8) (text : List Char) (plain : Bool) : Option Scalar :=
  if tag = standardTag "bool" then (boolean? text).map .boolean
  else if tag = standardTag "int" then (integer? text).bind ofInteger
  else if tag = standardTag "float" then (real? text).map .real
  else if tag = standardTag "null" then if isNull text then some .null else none
  else if tag.head? = some '!'.toUInt8 ∧ plain then ofPlain text
  else some (.text (String.ofList text))

end Scalar
end Yaml
end ManifestPolicy
