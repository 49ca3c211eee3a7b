import ManifestPolicy.Json.Basic

/-!
# JSON text

The two written forms of a value. The compact form has no white space; the
indented form puts every item and member on a line of its own. Strings are
escaped as little as the format permits.
-/

namespace ManifestPolicy
namespace Json

/-- Numbers are positional between `1e-5` and `1e16`, and other exponents carry
their sign; what is no number is written as null. -/
def numberStyle : NumberStyle := ⟨-5, 16, "+", "null", "null", "null"⟩

/-- The four hexadecimal digits of a code point below 256. -/
def codeDigits (code : Nat) : List Char :=
  ['0', '0', Nat.digitChar (code / 16), Nat.digitChar (code % 16)]

/-- How a character is written in a string. -/
def escape (character : Char) : List Char :=
  if character = '"' then ['\\', '"']
  else if character = '\\' then ['\\', '\\']
  else if character = '\n' then ['\\', 'n']
  else if character = '\r' then ['\\', 'r']
  else if character = '\t' then ['\\', 't']
  else if character = '\x08' then ['\\', 'b']
  else if character = '\x0c' then ['\\', 'f']
  else if character.toNat < 0x20 then '\\' :: 'u' :: codeDigits character.toNat
  else [character]

/-- A string in quotes. -/
def quote (text : String) : String :=
  String.ofList ('"' :: text.toList.flatMap escape ++ ['"'])

/-- The text of a value that holds no others. -/
def atom : Json → String
  | .null => "null"
  | .boolean value => if value then "true" else "false"
  | .integer value => toString value
  | .real value => numberStyle.render value
  | .text value => quote value
  | .array _ => "[]"
  | .object _ => "\x7b\x7d"

mutual

/-- The text of a value without white space. -/
def compact : Json → String
  | .array items => "[" ++ compactItems items ++ "]"
  | .object members => "\x7b" ++ compactMembers members ++ "\x7d"
  | value => value.atom

/-- The texts of items, between commas. -/
def compactItems : List Json → String
  | [] => ""
  | [item] => compact item
  | item :: rest => compact item ++ "," ++ compactItems rest

/-- The texts of members, between commas. -/
def compactMembers : List (String × Json) → String
  | [] => ""
  | [(name, value)] => quote name ++ ":" ++ compact value
  | (name, value) :: rest =>
      quote name ++ ":" ++ compact value ++ "," ++ compactMembers rest

end

/-- The beginning of a line at a depth. -/
def indent (depth : Nat) : String := String.ofList ('\n' :: List.replicate (2 * depth) ' ')

mutual

/-- The text of a value with one item or member a line. -/
def indented (depth : Nat) : Json → String
  | .array [] => "[]"
  | .array items => "[" ++ indentedItems (depth + 1) items ++ indent depth ++ "]"
  | .object [] => "\x7b\x7d"
  | .object members =>
      "\x7b" ++ indentedMembers (depth + 1) members ++ indent depth ++ "\x7d"
  | value => value.atom

/-- Items on lines of their own, between commas. -/
def indentedItems (depth : Nat) : List Json → String
  | [] => ""
  | [item] => indent depth ++ indented depth item
  | item :: rest => indent depth ++ indented depth item ++ "," ++ indentedItems depth rest

/-- Members on lines of their own, between commas. -/
def indentedMembers (depth : Nat) : List (String × Json) → String
  | [] => ""
  | [(name, value)] => indent depth ++ quote name ++ ": " ++ indented depth value
  | (name, value) :: rest =>
      indent depth ++ quote name ++ ": " ++ indented depth value ++ ","
        ++ indentedMembers depth rest

end

/-- The text of a value with one item or member a line. -/
def pretty (value : Json) : String := value.indented 0

end Json
end ManifestPolicy
