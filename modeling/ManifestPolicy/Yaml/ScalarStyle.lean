import ManifestPolicy.Yaml.Cursor
import ManifestPolicy.Yaml.Scalar
import ManifestPolicy.Decimal.Shortest

/-!
# How a scalar is written

The simplest written form in which a scalar reads back as itself: plain text
where that stands for the text, a block for several lines, single quotes where
the text would mean something else, and double quotes where characters have to be
escaped.
-/

namespace ManifestPolicy
namespace Yaml

/-- The written forms of a scalar. -/
inductive ScalarStyle
  | plain
  | singleQuoted
  | doubleQuoted
  | literal
  deriving DecidableEq, Repr

/-- Whether a character is written as it is. -/
def isPrintable (character : Char) : Bool :=
  let code := character.toNat
  code == 10 || (0x20 ≤ code && code ≤ 0x7E) || (0xA0 ≤ code && code ≤ 0xD7FF)
    || (0xE000 ≤ code && code ≤ 0xFFFD && code != 0xFEFF) || 0x10000 ≤ code

namespace ScalarStyle

/-- Neighbouring characters. -/
def neighbours (text : List Char) : List (Char × Char) := text.zip (text.drop 1)

/-- Characters that may not begin a plain scalar. -/
def openingIndicators : List Char :=
  ['#', ',', '[', ']', '\x7b', '\x7d', '&', '*', '!', '|', '>', '\'', '"', '%', '@', '\x60']

/-- Whether the beginning of a text means something in a block. -/
def beginsWithIndicator (text : List Char) : Bool :=
  text.take 3 == ['-', '-', '-'] || text.take 3 == ['.', '.', '.']
    || match text with
      | [] => false
      | first :: rest =>
          openingIndicators.contains first
            || (['?', ':', '-'].contains first && rest.head?.all isGap)

/-- Whether a later part of a text means something in a block: a colon before a
gap, or a number sign after one. -/
def holdsIndicator (text : List Char) : Bool :=
  (text.drop 1).getLast? == some ':'
    || (neighbours text).any fun pair => isGap pair.1 && pair.2 == '#'
    || (neighbours (text.drop 1)).any fun pair => pair.1 == ':' && isGap pair.2

/-- Whether characters have to be escaped, or spaces before a line break would
be lost. -/
def needsEscapes (text : List Char) : Bool :=
  text.any (fun character => !isPrintable character)
    || (neighbours text).any fun pair => pair.1 == ' ' && isBreak pair.2

/-- Whether a text begins or ends with a space or a line break. -/
def hasOuterGap (text : List Char) : Bool :=
  let outer (character : Char) : Bool := character == ' ' || isBreak character
  text.head?.any outer || text.getLast?.any outer

/-- Whether a text may be written plainly. -/
def allowsPlain (text : List Char) : Bool :=
  !(hasOuterGap text || needsEscapes text || text.any isBreak || beginsWithIndicator text
    || holdsIndicator text)

/-- Whether a text may be written in single quotes. -/
def allowsSingleQuotes (text : List Char) : Bool :=
  !(needsEscapes text || (neighbours text).any fun pair => isBreak pair.1 && pair.2 == ' ')

/-- Whether a text may be written as a block. -/
def allowsLiteral (text : List Char) : Bool :=
  !(needsEscapes text || text.getLast? == some ' ')

/-- Whether a text without quotes stands for itself. -/
def standsForItself (text : List Char) : Bool :=
  match Scalar.ofPlain text with
  | some (.text _) => !Scalar.hasLeadingZero text
  | _ => false

/-- The form of a text. A key that shares a line with its value is no block. -/
def ofText (simpleKey : Bool) (text : List Char) : ScalarStyle :=
  if text.contains '\n' then
    if allowsLiteral text && !simpleKey then .literal else .doubleQuoted
  else if standsForItself text && allowsPlain text then .plain
  else if allowsSingleQuotes text then .singleQuoted
  else .doubleQuoted

end ScalarStyle

namespace Scalar

/-- Numbers are positional between `1e-5` and `1e16`, and positive exponents have
no sign. -/
def numberStyle : NumberStyle := ⟨-5, 16, "", ".inf", "-.inf", ".nan"⟩

/-- The characters of a scalar. -/
def characters : Scalar → List Char
  | .null => "null".toList
  | .boolean value => (if value then "true" else "false").toList
  | .integer value => (toString value).toList
  | .real value => (numberStyle.render value).toList
  | .text value => value.toList

/-- The written form of a scalar. Only texts need quotes. -/
def style (simpleKey : Bool) : Scalar → ScalarStyle
  | .text value => .ofText simpleKey value.toList
  | _ => .plain

end Scalar
end Yaml
end ManifestPolicy
