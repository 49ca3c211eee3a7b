import ManifestPolicy.Unicode.Property

/-!
# Quoted text

A text in double quotes in which every character is visible: quotes and
backslashes are escaped, the common control characters have short escapes, and
all other characters that print nothing of their own are written by number. A
mark that attaches to the character before it counts as one of those.
-/

namespace ManifestPolicy
namespace Quoted

/-- Code points that a reader cannot see: separators except the space, control and
format characters, and code points without a character. -/
def invisible : CodeSet :=
  (CodeSet.ofRanges <| List.flatMap CodeSet.ranges [
    Category.control, Category.format, Category.surrogate, Category.privateUse,
    Category.unassigned, Category.lineSeparator, Category.paragraphSeparator,
    Category.spaceSeparator]).difference (.single ' '.toNat)

/-- A number in lower-case hexadecimal digits. -/
def hexadecimal (number : Nat) : List Char := Nat.toDigits 16 number

/-- How a character is written between quotes. -/
def escape (character : Char) : List Char :=
  match character with
  | '"' => ['\\', '"']
  | '\\' => ['\\', '\\']
  | '\n' => ['\\', 'n']
  | '\r' => ['\\', 'r']
  | '\t' => ['\\', 't']
  | '\x00' => ['\\', '0']
  | _ =>
      let code := character.toNat
      if 0x20 ≤ code && code < 0x7F then [character]
      else if CodeProperty.graphemeExtend.contains code || invisible.contains code then
        ['\\', 'u', '{'] ++ hexadecimal code ++ ['}']
      else [character]

end Quoted

/-- A text between double quotes, with its escapes. -/
def quoted (text : String) : String :=
  String.ofList ('"' :: text.toList.flatMap Quoted.escape ++ ['"'])

/-- A list of texts in brackets, each of them quoted. -/
def quotedList (texts : List String) : String :=
  "[" ++ ", ".intercalate (texts.map quoted) ++ "]"

end ManifestPolicy
