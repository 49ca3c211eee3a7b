import ManifestPolicy.Text.Utf8
import ManifestPolicy.Yaml.ScalarText

/-!
# YAML tokens

A text as indicators, names and scalars. Indentation becomes tokens that open and
close block collections. Whether a scalar is the key of a mapping is known only
at the colon after it, so the place of every candidate is remembered and the
tokens of the key are put in front of it afterwards. A candidate ends with its
line, or after 1024 characters.
-/

namespace ManifestPolicy
namespace Yaml

/-- A token of a YAML text. -/
inductive Token
  | version (major minor : Nat)
  | tagHandle (handle : List UInt8) (expansion : List UInt8)
  | documentStart
  | documentEnd
  | streamEnd
  | sequenceStart
  | mappingStart
  | blockEnd
  | flowSequenceStart
  | flowSequenceEnd
  | flowMappingStart
  | flowMappingEnd
  | entry
  | comma
  | key
  | value
  | alias (name : List Char)
  | anchor (name : List Char)
  | tag (handle : List UInt8) (suffix : List UInt8)
  | scalar (text : List Char) (plain : Bool)
  deriving DecidableEq, Inhabited

/-- The place of a token that may turn out to be a key. One at the indentation
of its block has to. -/
structure KeyCandidate where
  required : Bool
  token : Nat
  index : Nat
  line : Nat
  column : Nat

/-- A text that is being cut into tokens. -/
structure Lexer where
  cursor : Cursor
  tokens : Array Token := #[]
  /-- The column of the innermost block collection. -/
  indent : Int := -1
  /-- The columns of the block collections around it. -/
  outer : List Int := []
  /-- Whether a key may start here. -/
  keyAllowed : Bool := true
  /-- The key candidate of each flow collection, innermost first, and of the
  block around them. -/
  candidates : List (Option KeyCandidate) := [none]

namespace Lexer

/-- Whether a flow collection is open. -/
def inFlow (lexer : Lexer) : Bool := 1 < lexer.candidates.length

/-- Append a token. -/
def emit (lexer : Lexer) (token : Token) : Lexer :=
  { lexer with tokens := lexer.tokens.push token }

/-- The greatest distance of a colon from the start of its key. -/
def keyLimit : Nat := 1024

/-- Give up a candidate that can be no key any more. -/
def expire (cursor : Cursor) : Option KeyCandidate → Option (Option KeyCandidate)
  | none => some none
  | some candidate =>
      if candidate.line < cursor.line ∨ candidate.index + keyLimit < cursor.index then
        if candidate.required then none else some none
      else some (some candidate)

/-- Give up all candidates that can be no keys any more. -/
def expireAll (lexer : Lexer) : Option Lexer := do
  let candidates ← lexer.candidates.mapM (expire lexer.cursor)
  return { lexer with candidates }

/-- Give up the innermost candidate. -/
def dropCandidate (lexer : Lexer) : Option Lexer :=
  match lexer.candidates with
  | some candidate :: rest =>
      if candidate.required then none else some { lexer with candidates := none :: rest }
  | _ => some lexer

/-- Remember the next token as a candidate. -/
def markCandidate (lexer : Lexer) : Option Lexer :=
  if lexer.keyAllowed then do
    let lexer ← lexer.dropCandidate
    let candidate : KeyCandidate :=
      { required := !lexer.inFlow && lexer.indent == (lexer.cursor.column : Int)
        token := lexer.tokens.size
        index := lexer.cursor.index
        line := lexer.cursor.line
        column := lexer.cursor.column }
    return { lexer with candidates := some candidate :: lexer.candidates.drop 1 }
  else some lexer

/-- Open a block collection at a column that lies further in than the innermost
one. Its token goes to a place among the tokens. -/
def openBlock (lexer : Lexer) (column place : Nat) (token : Token) : Lexer :=
  if !lexer.inFlow && decide (lexer.indent < (column : Int)) then
    { lexer with
      tokens := lexer.tokens.insertIdx! place token
      indent := column
      outer := lexer.indent :: lexer.outer }
  else lexer

/-- Close the block collections that lie further in than a column. -/
def closeBlocks (lexer : Lexer) (column : Int) : Lexer :=
  if lexer.inFlow then lexer
  else
    let levels := lexer.indent :: lexer.outer
    let closed := levels.takeWhile fun level => column < level
    let kept := levels.drop closed.length
    { lexer with
      tokens := lexer.tokens ++ closed.map fun _ => Token.blockEnd
      indent := kept.headD (-1)
      outer := kept.drop 1 }

/-- Pass over spaces, comments and line breaks. A line break in a block allows a
key again. -/
def skipBetween : Nat → Lexer → Lexer
  | 0, lexer => lexer
  | fuel + 1, lexer =>
      let cursor := lexer.cursor
      let cursor :=
        if cursor.column == 0 && cursor.isAt byteOrderMark then cursor.advance 1 else cursor
      let cursor := cursor.skipWhile fun character =>
        character == ' ' || ((lexer.inFlow || !lexer.keyAllowed) && character == '\t')
      let cursor :=
        if cursor.isAt '#' then cursor.skipWhile fun character => !isBreak character
        else cursor
      if cursor.peek?.any isBreak then
        skipBetween fuel
          { lexer with
            cursor := cursor.skipBreak
            keyAllowed := lexer.keyAllowed || !lexer.inFlow }
      else { lexer with cursor }

/-- Pass over a number of characters. -/
def advance (lexer : Lexer) (count : Nat) : Lexer :=
  { lexer with cursor := lexer.cursor.advance count }

/-- Allow or forbid a key to start here. -/
def allowKey (lexer : Lexer) (keyAllowed : Bool) : Lexer := { lexer with keyAllowed }

/-! ### Names and tags -/

/-- Read the characters of a word. -/
def readWord (cursor : Cursor) : List Char × Cursor := cursor.spanWhile isWord

/-- The bytes of characters. -/
def bytesOf (text : List Char) : List UInt8 := Utf8.encode (String.ofList text)

/-- Whether a character may stand in a tag; some only between angle brackets. -/
def isTagCharacter (verbatim : Bool) (character : Char) : Bool :=
  isWord character || (";/?:@&=+$.%!~*'()".toList.contains character)
    || (verbatim && (character == ',' || character == '[' || character == ']'))

/-- The number of bytes of the character that a byte starts. -/
def leadWidth (byte : Nat) : Nat :=
  if byte < 0x80 then 1
  else if byte < 0xC0 then 0
  else if byte < 0xE0 then 2
  else if byte < 0xF0 then 3
  else if byte < 0xF8 then 4
  else 0

/-- Read a byte written as a percent sign and two hexadecimal digits. -/
def readPercent (cursor : Cursor) : Option (Nat × Cursor) :=
  match cursor.rest.take 3 with
  | ['%', high, low] => do
      let first ← CodeSet.hexDigit? high
      let second ← CodeSet.hexDigit? low
      return (first * 16 + second, cursor.advance 3)
  | _ => none

/-- Read the further bytes of a character written in percent form. -/
def readPercentTail : Nat → List UInt8 → Cursor → Option (List UInt8 × Cursor)
  | 0, bytes, cursor => some (bytes, cursor)
  | owed + 1, bytes, cursor => do
      let (byte, cursor) ← readPercent cursor
      if byte / 64 ≠ 2 then none
      else readPercentTail owed (bytes ++ [byte.toUInt8]) cursor

/-- Read the characters of a tag. -/
def readTagText (verbatim : Bool) :
    Nat → List UInt8 → Cursor → Option (List UInt8 × Cursor)
  | 0, bytes, cursor => some (bytes, cursor)
  | fuel + 1, bytes, cursor =>
      match cursor.peek? with
      | none => some (bytes, cursor)
      | some character =>
          if character = '%' then do
            let (byte, next) ← readPercent cursor
            match leadWidth byte with
            | 0 => none
            | width + 1 =>
                let (bytes, next) ← readPercentTail width (bytes ++ [byte.toUInt8]) next
                readTagText verbatim fuel bytes next
          else if isTagCharacter verbatim character then
            readTagText verbatim fuel (bytes ++ bytesOf [character]) (cursor.advance 1)
          else some (bytes, cursor)

/-- Read the text of a tag after a head, which counts as a part of it but for
its exclamation mark. -/
def readTagAfter
    (verbatim : Bool)
    (head : List Char)
    (cursor : Cursor) : Option (List UInt8 × Cursor) := do
  let (bytes, next) ← readTagText verbatim cursor.rest.length [] cursor
  if head.isEmpty && bytes.isEmpty then none
  else return (bytesOf (head.drop 1) ++ bytes, next)

/-- Read a handle: an exclamation mark, a word and perhaps another mark. -/
def readHandle (cursor : Cursor) : Option (List Char × Cursor) :=
  if cursor.isAt '!' then
    let (word, next) := readWord (cursor.advance 1)
    if next.isAt '!' then some ('!' :: word ++ ['!'], next.advance 1)
    else some ('!' :: word, next)
  else none

/-- Whether a handle stands for an expansion. -/
def isNamedHandle (handle : List Char) : Bool :=
  2 ≤ handle.length && handle.getLast? == some '!'

/-- Read a tag: verbatim, with a handle, or local. -/
def readTag (cursor : Cursor) : Option (Token × Cursor) :=
  if cursor.peekAt? 1 = some '<' then do
    let (suffix, next) ← readTagAfter true [] (cursor.advance 2)
    if next.isAt '>' then return (.tag [] suffix, next.advance 1) else none
  else do
    let (handle, next) ← readHandle cursor
    if isNamedHandle handle then
      let (suffix, next) ← readTagAfter false [] next
      return (.tag (bytesOf handle) suffix, next)
    else
      let (suffix, next) ← readTagAfter false handle next
      if suffix.isEmpty then return (.tag [] (bytesOf ['!']), next)
      else return (.tag (bytesOf ['!']) suffix, next)

/-- Read the name of an anchor or an alias after its indicator. -/
def readAnchor (cursor : Cursor) : Option (List Char × Cursor) :=
  let (name, next) := readWord cursor
  if name.isEmpty then none
  else if next.endsOr (fun character => isGap character || "?:,]\x7d%@\x60".toList.contains character) 0
  then some (name, next)
  else none

/-! ### Directives -/

/-- The greatest number of digits of a version. -/
def versionDigits : Nat := 9

/-- Read the digits of a version. -/
def readVersionNumber (cursor : Cursor) : Option (Nat × Cursor) :=
  let (digits, next) := cursor.spanWhile Char.isDigit
  if digits.isEmpty ∨ versionDigits < digits.length then none
  else
    some (digits.foldl (fun total digit => total * 10 + (digit.toNat - '0'.toNat)) 0, next)

/-- Read the value of a version directive. -/
def readVersion (cursor : Cursor) : Option (Token × Cursor) := do
  let (major, next) ← readVersionNumber (cursor.skipWhile isSpaceOrTab)
  if !next.isAt '.' then none
  else
    let (minor, next) ← readVersionNumber (next.advance 1)
    return (.version major minor, next)

/-- Read the value of a tag directive. -/
def readTagDirective (cursor : Cursor) : Option (Token × Cursor) := do
  let (handle, next) ← readHandle (cursor.skipWhile isSpaceOrTab)
  if handle ≠ ['!'] ∧ handle.getLast? ≠ some '!' then none
  else if !(next.peek?.any isSpaceOrTab) then none
  else
    let (expansion, next) ← readTagAfter true [] (next.skipWhile isSpaceOrTab)
    if next.gapAt 0 then return (.tagHandle (bytesOf handle) expansion, next) else none

/-- Read a directive after its percent sign. -/
def readDirective (cursor : Cursor) : Option (Token × Cursor) := do
  let (name, next) := readWord cursor
  if !next.gapAt 0 then none
  else
    let (token, next) ←
      if name = "YAML".toList then readVersion next
      else if name = "TAG".toList then readTagDirective next
      else none
    let next ← skipToLineEnd next
    return (token, next)

/-! ### Tokens -/

/-- Append a token that has been read up to a place. -/
def emitAt (lexer : Lexer) (read : Token × Cursor) : Lexer :=
  { lexer with cursor := read.2 }.emit read.1

/-- A token that stands outside all collections. -/
def outside (lexer : Lexer) : Option Lexer := do
  let lexer ← (lexer.closeBlocks (-1)).dropCandidate
  return lexer.allowKey false

/-- The end of the text. -/
def takeEnd (lexer : Lexer) : Option Lexer := do
  let lexer ← lexer.outside
  return lexer.emit .streamEnd

/-- A directive. -/
def takeDirective (lexer : Lexer) : Option Lexer := do
  let lexer ← lexer.outside
  let read ← readDirective (lexer.cursor.advance 1)
  return lexer.emitAt read

/-- The line that begins or ends a document. -/
def takeMarker (lexer : Lexer) (token : Token) : Option Lexer := do
  let lexer ← lexer.outside
  return (lexer.advance 3).emit token

/-- The start of a flow collection. -/
def takeFlowStart (lexer : Lexer) (token : Token) : Option Lexer := do
  let lexer ← lexer.markCandidate
  let lexer := { lexer with candidates := none :: lexer.candidates, keyAllowed := true }
  return (lexer.advance 1).emit token

/-- The end of a flow collection. -/
def takeFlowEnd (lexer : Lexer) (token : Token) : Option Lexer := do
  let lexer ← lexer.dropCandidate
  let candidates :=
    if lexer.inFlow then lexer.candidates.drop 1 else lexer.candidates
  return ({ lexer with candidates, keyAllowed := false }.advance 1).emit token

/-- The comma of a flow collection. -/
def takeComma (lexer : Lexer) : Option Lexer := do
  let lexer ← lexer.dropCandidate
  return ((lexer.allowKey true).advance 1).emit .comma

/-- The dash of a block sequence. -/
def takeEntry (lexer : Lexer) : Option Lexer := do
  let lexer ←
    if lexer.inFlow then some lexer
    else if !lexer.keyAllowed then none
    else some (lexer.openBlock lexer.cursor.column lexer.tokens.size .sequenceStart)
  let lexer ← lexer.dropCandidate
  return ((lexer.allowKey true).advance 1).emit .entry

/-- The question mark of a key. -/
def takeKey (lexer : Lexer) : Option Lexer := do
  let lexer ←
    if lexer.inFlow then some lexer
    else if !lexer.keyAllowed then none
    else some (lexer.openBlock lexer.cursor.column lexer.tokens.size .mappingStart)
  let lexer ← lexer.dropCandidate
  return ((lexer.allowKey !lexer.inFlow).advance 1).emit .key

/-- The colon of a value. -/
def takeValue (lexer : Lexer) : Option Lexer :=
  match lexer.candidates with
  | some candidate :: rest =>
      let lexer :=
        { lexer with
          tokens := lexer.tokens.insertIdx! candidate.token .key
          candidates := none :: rest
          keyAllowed := false }
      let lexer := lexer.openBlock candidate.column candidate.token .mappingStart
      some ((lexer.advance 1).emit .value)
  | _ =>
      if lexer.inFlow then some (((lexer.allowKey false).advance 1).emit .value)
      else if !lexer.keyAllowed then none
      else
        let lexer := lexer.openBlock lexer.cursor.column lexer.tokens.size .mappingStart
        some (((lexer.allowKey true).advance 1).emit .value)

/-- An anchor or an alias. -/
def takeAnchor (lexer : Lexer) (token : List Char → Token) : Option Lexer := do
  let lexer ← lexer.markCandidate
  let (name, next) ← readAnchor (lexer.cursor.advance 1)
  return (lexer.allowKey false).emitAt (token name, next)

/-- A tag, after which a gap comes, or a comma in a flow collection. -/
def takeTag (lexer : Lexer) : Option Lexer := do
  let lexer ← lexer.markCandidate
  let (token, next) ← readTag lexer.cursor
  if next.gapAt 0 || (lexer.inFlow && next.isAt ',') then
    return (lexer.allowKey false).emitAt (token, next)
  else none

/-- A block scalar. -/
def takeBlock (lexer : Lexer) (literal : Bool) : Option Lexer := do
  let lexer ← lexer.dropCandidate
  let (text, next) ← readBlock literal lexer.indent (lexer.cursor.advance 1)
  return (lexer.allowKey true).emitAt (.scalar text false, next)

/-- A quoted scalar. -/
def takeQuoted (lexer : Lexer) (single : Bool) : Option Lexer := do
  let lexer ← lexer.markCandidate
  let (text, next) ← readQuoted single (lexer.cursor.advance 1)
  return (lexer.allowKey false).emitAt (.scalar text false, next)

/-- A plain scalar. One that ends with a line break allows a key again. -/
def takePlain (lexer : Lexer) : Option Lexer := do
  let lexer ← lexer.markCandidate
  let plain ← readPlain lexer.inFlow (lexer.indent + 1).toNat lexer.cursor
  return (lexer.allowKey plain.broken).emitAt (.scalar plain.text true, plain.cursor)

/-- Whether a plain scalar may start here. -/
def startsPlain (lexer : Lexer) (character : Char) : Bool :=
  let next := lexer.cursor.peekAt? 1
  if character == '-' then !(next.any isSpaceOrTab)
  else if character == '?' || character == ':' then !lexer.inFlow && !lexer.cursor.gapAt 1
  else !(isGap character) && !(",[]{}#&*!|>'\"%@\x60".toList.contains character)

/-- Read the token at the cursor. -/
def takeToken (lexer : Lexer) (character : Char) : Option Lexer :=
  let cursor := lexer.cursor
  let gapNext := cursor.gapAt 1
  if cursor.column == 0 && character == '%' then lexer.takeDirective
  else if cursor.atMarker '-' then lexer.takeMarker .documentStart
  else if cursor.atMarker '.' then lexer.takeMarker .documentEnd
  else if character == '[' then lexer.takeFlowStart .flowSequenceStart
  else if character == '{' then lexer.takeFlowStart .flowMappingStart
  else if character == ']' then lexer.takeFlowEnd .flowSequenceEnd
  else if character == '}' then lexer.takeFlowEnd .flowMappingEnd
  else if character == ',' then lexer.takeComma
  else if character == '-' && gapNext then lexer.takeEntry
  else if character == '?' && (lexer.inFlow || gapNext) then lexer.takeKey
  else if character == ':' && (lexer.inFlow || gapNext) then lexer.takeValue
  else if character == '*' then lexer.takeAnchor .alias
  else if character == '&' then lexer.takeAnchor .anchor
  else if character == '!' then lexer.takeTag
  else if character == '|' && !lexer.inFlow then lexer.takeBlock true
  else if character == '>' && !lexer.inFlow then lexer.takeBlock false
  else if character == '\'' then lexer.takeQuoted true
  else if character == '"' then lexer.takeQuoted false
  else if lexer.startsPlain character then lexer.takePlain
  else none

/-- Read tokens up to the end of the text or the first fault. -/
def run : Nat → Lexer → Array Token
  | 0, lexer => lexer.tokens
  | fuel + 1, lexer =>
      let lexer := lexer.skipBetween (lexer.cursor.rest.length + 1)
      match lexer.expireAll with
      | none => lexer.tokens
      | some lexer =>
          let lexer := lexer.closeBlocks lexer.cursor.column
          match lexer.cursor.peek? with
          | none => (lexer.takeEnd.getD lexer).tokens
          | some character =>
              match lexer.takeToken character with
              | none => lexer.tokens
              | some next => run fuel next

end Lexer

/-- The tokens of a text. They end with the end of the stream unless the text is
at fault. -/
def tokens (text : List Char) : List Token :=
  if text.all isAllowed then
    (Lexer.run (text.length + 1) { cursor := { rest := text } }).toList
  else []

end Yaml
end ManifestPolicy
