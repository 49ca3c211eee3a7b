import ManifestPolicy.Yaml.ScalarStyle
import ManifestPolicy.Yaml.Value

/-!
# YAML text

The text of a value in block form: entries and items on lines of their own,
mappings and sequences indented by two columns, except that a sequence stands in
the column of the key it belongs to. Lines are never folded.
-/

namespace ManifestPolicy
namespace Yaml

/-- Text that is being written, latest character first. -/
structure Pen where
  written : List Char := []
  column : Nat := 0
  /-- Whether the last character is a blank or begins a line. -/
  spaced : Bool := true
  /-- Whether only indentation and markers stand on the line. -/
  fresh : Bool := true

namespace Pen

/-- Write a character of a line. -/
def put (pen : Pen) (character : Char) : Pen :=
  { pen with written := character :: pen.written, column := pen.column + 1 }

/-- Write characters of a line. -/
def puts (pen : Pen) (text : List Char) : Pen := text.foldl put pen

/-- End the line with a character. -/
def endLine (pen : Pen) (character : Char) : Pen :=
  { pen with written := character :: pen.written, column := 0 }

/-- Write a blank unless one has just been written. -/
def space (pen : Pen) : Pen := if pen.spaced then pen else pen.put ' '

/-- Take note that text has been written on the line. -/
def afterText (pen : Pen) : Pen := { pen with spaced := false, fresh := false }

/-- Write a marker that may be followed by more markers on the line. -/
def marker (pen : Pen) (character : Char) : Pen :=
  { pen.space.put character with spaced := false }

/-- Go to a column at the start of a line, on a new one if need be. -/
def startLine (pen : Pen) (indent : Nat) : Pen :=
  let stays := pen.fresh && (pen.column < indent || (pen.column == indent && pen.spaced))
  let pen := if stays then pen else pen.endLine '\n'
  let pen := pen.puts (List.replicate (indent - pen.column) ' ')
  { pen with spaced := true, fresh := true }

/-! ### Tags -/

/-- The characters that a tag holds as they are. -/
def isTagCharacter (byte : UInt8) : Bool :=
  let character := Char.ofNat byte.toNat
  byte < 0x80 && (isWord character || ";/?:@&=+$,.~*'()[]".toList.contains character)

/-- A byte of a tag. -/
def tagByte (byte : UInt8) : List Char :=
  if isTagCharacter byte then [Char.ofNat byte.toNat]
  else
    let digit (value : Nat) : Char := (Nat.digitChar value).toUpper
    ['%', digit (byte.toNat / 16), digit (byte.toNat % 16)]

/-- The text of a tag after the exclamation mark that begins it. -/
def tagSuffix (name : String) : String :=
  match name.toList with
  | '!' :: rest => String.ofList rest
  | _ => name

/-- Write a tag. The tag without a name is written in full. -/
def tag (pen : Pen) (name : Option String) : Pen :=
  match name with
  | none => pen
  | some name =>
      let suffix := (Utf8.encode (tagSuffix name)).flatMap tagByte
      let text := if suffix.isEmpty then "!<%21>".toList else '!' :: suffix
      (pen.space.puts text).afterText

/-! ### Scalars -/

/-- Write a text in single quotes. A quote inside is written twice. -/
def singleQuoted (pen : Pen) (indent : Nat) (text : List Char) : Pen :=
  let write (state : Pen × Bool) (character : Char) : Pen × Bool :=
    let (pen, broken) := state
    if isBreak character then ({ pen.endLine character with fresh := true }, true)
    else
      let pen := if broken then pen.startLine indent else pen
      let pen := if character == '\'' then pen.put '\'' else pen
      ({ pen.put character with fresh := false }, false)
  let (pen, broken) := text.foldl write (pen.space.put '\'' |>.afterText, false)
  let pen := if broken then pen.startLine indent else pen
  (pen.put '\'').afterText

/-- The hexadecimal digits of a code, most significant first. -/
def hexDigits (count code : Nat) : List Char :=
  (List.range count).reverse.map fun place =>
    (Nat.digitChar (code / Nat.pow 16 place % 16)).toUpper

/-- The letter after the backslash of a short escape. -/
def escapeLetter? (character : Char) : Option Char :=
  match character.toNat with
  | 0 => some '0'
  | 7 => some 'a'
  | 8 => some 'b'
  | 9 => some 't'
  | 10 => some 'n'
  | 11 => some 'v'
  | 12 => some 'f'
  | 13 => some 'r'
  | 0x1B => some 'e'
  | 0x22 => some '"'
  | 0x5C => some '\\'
  | 0x85 => some 'N'
  | 0x2028 => some 'L'
  | 0x2029 => some 'P'
  | _ => none

/-- How a character is written in double quotes. -/
def escape (character : Char) : List Char :=
  if isPrintable character && !isBreak character && character != '"' && character != '\\' then
    [character]
  else
    let code := character.toNat
    match escapeLetter? character with
    | some letter => ['\\', letter]
    | none =>
        if code ≤ 0xFF then '\\' :: 'x' :: hexDigits 2 code
        else if code ≤ 0xFFFF then '\\' :: 'u' :: hexDigits 4 code
        else '\\' :: 'U' :: hexDigits 8 code

/-- Write a text in double quotes. -/
def doubleQuoted (pen : Pen) (text : List Char) : Pen :=
  (pen.space.puts ('"' :: text.flatMap escape ++ ['"'])).afterText

/-- What the first line of a block says: the indentation if the text begins with
a gap, and what becomes of the line breaks at the end. -/
def blockHints (text : List Char) : List Char :=
  let indentation :=
    if text.head?.any fun first => first == ' ' || isBreak first then ['2'] else []
  let ending :=
    match text.reverse with
    | [] => ['-']
    | last :: earlier =>
        if !isBreak last then ['-']
        else if earlier.head?.all isBreak then ['+']
        else []
  indentation ++ ending

/-- Write a text as a block. -/
def literal (pen : Pen) (indent : Nat) (text : List Char) : Pen :=
  let write (state : Pen × Bool) (character : Char) : Pen × Bool :=
    let (pen, broken) := state
    if isBreak character then ({ pen.endLine character with fresh := true }, true)
    else
      let pen := if broken then pen.startLine indent else pen
      ({ pen.put character with fresh := false }, false)
  let opened := (pen.space.puts ('|' :: blockHints text)).endLine '\n'
  (text.foldl write ({ opened with spaced := true, fresh := true }, true)).1

/-- Write a scalar whose further lines are indented. -/
def scalar (pen : Pen) (indent : Nat) (simpleKey : Bool) (scalar : Scalar) : Pen :=
  let text := scalar.characters
  match scalar.style simpleKey with
  | .plain => (pen.space.puts text).afterText
  | .singleQuoted => pen.singleQuoted indent text
  | .doubleQuoted => pen.doubleQuoted text
  | .literal => pen.literal indent text

end Pen

namespace Value

/-- The length of a written tag. -/
def tagLength (tag : Option String) : Nat :=
  match tag with
  | none => 0
  | some name => 1 + (Pen.tagSuffix name).utf8ByteSize

/-- Whether a key shares a line with its value: it is short and has one line. -/
def isSimpleKey : Value → Bool
  | .scalar tag content =>
      let text := content.characters
      !text.any isBreak
        && tagLength tag + (String.ofList text).utf8ByteSize ≤ 128
  | .sequence tag items => items.isEmpty && tagLength tag ≤ 128
  | .mapping tag entries => entries.isEmpty && tagLength tag ≤ 128

/-- The column of what is inside a value at a column. -/
def deeper (indent : Option Nat) : Nat := (indent.map (· + 2)).getD 0

mutual

/-- Write a value below a column. `entry` is whether it is a key or a value of a
mapping, and `simpleKey` whether it is a key that shares a line with its value. -/
def write (indent : Option Nat) (entry simpleKey : Bool) : Value → Pen → Pen
  | .scalar tag content, pen =>
      (pen.tag tag).scalar (indent.elim 2 (· + 2)) simpleKey content
  | .sequence tag [], pen => ((pen.tag tag).space.puts ['[', ']']).afterText
  | .sequence tag items, pen =>
      let pen := pen.tag tag
      let inner := if entry && !pen.fresh then indent.getD 0 else deeper indent
      writeItems inner items pen
  | .mapping tag [], pen => ((pen.tag tag).space.puts ['\x7b', '\x7d']).afterText
  | .mapping tag entries, pen => writeEntries (deeper indent) entries (pen.tag tag)

/-- Write items in a column. -/
def writeItems (indent : Nat) : List Value → Pen → Pen
  | [], pen => pen
  | item :: rest, pen =>
      writeItems indent rest
        (write (some indent) false false item ((pen.startLine indent).marker '-'))

/-- Write entries in a column. -/
def writeEntries (indent : Nat) : List (Value × Value) → Pen → Pen
  | [], pen => pen
  | (key, value) :: rest, pen =>
      let pen := pen.startLine indent
      let pen :=
        if key.isSimpleKey then
          ((write (some indent) true true key pen).put ':').afterText
        else
          let pen := write (some indent) true false key (pen.marker '?')
          (pen.startLine indent).marker ':'
      writeEntries indent rest (write (some indent) true false value pen)

end

/-- Whether a key could be taken for a tag if it were the only one of a mapping
without a tag. -/
def resemblesTag : Value → Bool
  | .scalar tag _ => tag.isSome
  | .sequence tag _ => tag.isSome
  | .mapping tag entries => tag.isSome || entries.length == 1

mutual

/-- Whether a value has a written form: no mapping without a tag has a single
entry whose key resembles a tag. -/
def isWritable : Value → Bool
  | .scalar .. => true
  | .sequence _ items => areWritable items
  | .mapping tag entries =>
      (tag.isSome || entries.length != 1 || !entries.any fun entry => entry.1.resemblesTag)
        && haveWritableParts entries

/-- Whether all items have a written form. -/
def areWritable : List Value → Bool
  | [] => true
  | item :: rest => isWritable item && areWritable rest

/-- Whether all keys and values have a written form. -/
def haveWritableParts : List (Value × Value) → Bool
  | [] => true
  | (key, value) :: rest =>
      isWritable key && isWritable value && haveWritableParts rest

end

/-- The text of a value, if it has one. -/
def render? (value : Value) : Option String :=
  if value.isWritable then
    let pen := (write none false false value {}).startLine 0
    some (String.ofList pen.written.reverse)
  else none

end Value
end Yaml
end ManifestPolicy
