import ManifestPolicy.Unicode.CodeSet
import ManifestPolicy.Yaml.Cursor

/-!
# Reading scalars

The text of a scalar in each of its written forms: plain, in single or double
quotes, and as an indented block. A single line break inside reads as a space
except in literal blocks, and further line breaks are kept.
-/

namespace ManifestPolicy
namespace Yaml

/-- White space inside a scalar: the blanks on a line, or the first line break
and those after it. -/
structure Gap where
  blanks : List Char := []
  first : List Char := []
  later : List Char := []
  broken : Bool := false
  deriving Inhabited

namespace Gap

/-- How a gap reads: blanks are kept, a lone line feed becomes a space. -/
def text (gap : Gap) : List Char :=
  if gap.broken then
    if gap.first = ['\n'] then
      if gap.later = [] then [' '] else gap.later
    else gap.first ++ gap.later
  else gap.blanks

/-- Read the rest of a gap. A tab may not stand before column `limit` of a
further line. -/
def readRest (limit : Nat) : Nat → Gap → Cursor → Option (Gap × Cursor)
  | 0, gap, cursor => some (gap, cursor)
  | fuel + 1, gap, cursor =>
      match cursor.peek? with
      | none => some (gap, cursor)
      | some character =>
          if isSpaceOrTab character then
            if gap.broken then
              if character = '\t' ∧ cursor.column < limit then none
              else readRest limit fuel gap (cursor.advance 1)
            else
              readRest limit fuel { gap with blanks := gap.blanks ++ [character] }
                (cursor.advance 1)
          else if isBreak character then
            let (text, next) := cursor.readBreak
            if gap.broken then
              readRest limit fuel { gap with later := gap.later ++ text } next
            else
              readRest limit fuel { gap with blanks := [], first := text, broken := true } next
          else some (gap, cursor)

/-- Read a gap. -/
def read (limit : Nat) (gap : Gap) (cursor : Cursor) : Option (Gap × Cursor) :=
  gap.readRest limit cursor.rest.length cursor

end Gap

/-! ### Plain scalars -/

/-- Whether a character separates the parts of a flow collection. -/
def isFlowIndicator (character : Char) : Bool :=
  character == ',' || character == '[' || character == ']' || character == '{'
    || character == '}'

/-- Read the characters of a plain scalar up to a gap or an indicator that ends
it. In a flow collection a colon may not touch an indicator. -/
def plainRun (inFlow : Bool) (taken : List Char) : List Char → Option (List Char)
  | [] => some taken.reverse
  | character :: rest =>
      if isGap character then some taken.reverse
      else if inFlow && character == ':'
          && rest.head?.any (fun next => next == '?' || isFlowIndicator next) then none
      else if character == ':' && rest.head?.all isGap then some taken.reverse
      else if inFlow && isFlowIndicator character then some taken.reverse
      else plainRun inFlow (character :: taken) rest

/-- A plain scalar that has been read: its text, whether it ends in a gap with a
line break, and the place after it. -/
structure PlainScalar where
  text : List Char
  broken : Bool
  cursor : Cursor

/-- Read the rest of a plain scalar after a gap. -/
def readPlainRest
    (inFlow : Bool)
    (indent : Nat) : Nat → List Char → Gap → Cursor → Option PlainScalar
  | 0, text, gap, cursor => some ⟨text, gap.broken, cursor⟩
  | fuel + 1, text, gap, cursor =>
      if cursor.atDocumentMarker || cursor.isAt '#' then some ⟨text, gap.broken, cursor⟩
      else do
        let run ← plainRun inFlow [] cursor.rest
        let cursor := cursor.advance run.length
        let joined := if run.isEmpty then text else text ++ gap.text ++ run
        let gap := if run.isEmpty then gap else {}
        if !(cursor.peek?.any isGap) then return ⟨joined, gap.broken, cursor⟩
        let (gap, cursor) ← Gap.read indent gap cursor
        if !inFlow && cursor.column < indent then return ⟨joined, gap.broken, cursor⟩
        readPlainRest inFlow indent fuel joined gap cursor

/-- Read a plain scalar whose further lines are indented by `indent`. -/
def readPlain (inFlow : Bool) (indent : Nat) (cursor : Cursor) : Option PlainScalar :=
  readPlainRest inFlow indent (cursor.rest.length + 1) [] {} cursor

/-! ### Quoted scalars -/

/-- The character that a one-letter escape stands for. -/
def letterEscape? (letter : Char) : Option Char :=
  match letter with
  | '0' => some '\x00'
  | 'a' => some '\x07'
  | 'b' => some '\x08'
  | 't' => some '\t'
  | '\t' => some '\t'
  | 'n' => some '\n'
  | 'v' => some '\x0b'
  | 'f' => some '\x0c'
  | 'r' => some '\r'
  | 'e' => some '\x1b'
  | ' ' => some ' '
  | '"' => some '"'
  | '/' => some '/'
  | '\\' => some '\\'
  | 'N' => some nextLine
  | '_' => some (Char.ofNat 0xA0)
  | 'L' => some lineSeparator
  | 'P' => some paragraphSeparator
  | _ => none

/-- The number of hexadecimal digits after an escape letter. -/
def escapeLength? (letter : Char) : Option Nat :=
  match letter with
  | 'x' => some 2
  | 'u' => some 4
  | 'U' => some 8
  | _ => none

/-- The number written by hexadecimal digits. -/
def hexNumber? (digits : List Char) : Option Nat :=
  digits.foldlM (fun total digit => (CodeSet.hexDigit? digit).map (total * 16 + ·)) 0

/-- The character with a code. -/
def character? (code : Nat) : Option Char :=
  if valid : code.isValidChar then some (Char.ofNatAux code valid) else none

/-- Read an escape after its backslash. -/
def readEscape (cursor : Cursor) : Option (Char × Cursor) := do
  let letter ← cursor.peek?
  match letterEscape? letter with
  | some character => return (character, cursor.advance 1)
  | none =>
      let length ← escapeLength? letter
      let cursor := cursor.advance 1
      let digits := cursor.rest.take length
      if digits.length < length then none
      else
        let code ← hexNumber? digits
        let character ← character? code
        return (character, cursor.advance length)

/-- Read the characters of a quoted scalar up to a gap, the closing quote, or an
escaped line break, which begins a gap. -/
def quotedRun (single : Bool) :
    Nat → List Char → Cursor → Option (List Char × Gap × Cursor)
  | 0, taken, cursor => some (taken.reverse, {}, cursor)
  | fuel + 1, taken, cursor =>
      match cursor.peek? with
      | none => some (taken.reverse, {}, cursor)
      | some character =>
          if isGap character then some (taken.reverse, {}, cursor)
          else if single then
            if character = '\'' then
              if cursor.peekAt? 1 = some '\'' then
                quotedRun single fuel ('\'' :: taken) (cursor.advance 2)
              else some (taken.reverse, {}, cursor)
            else quotedRun single fuel (character :: taken) (cursor.advance 1)
          else if character = '"' then some (taken.reverse, {}, cursor)
          else if character = '\\' then
            let next := cursor.advance 1
            if next.peek?.any isBreak then
              some (taken.reverse, { broken := true }, next.skipBreak)
            else
              match readEscape next with
              | none => none
              | some (escaped, next) => quotedRun single fuel (escaped :: taken) next
          else quotedRun single fuel (character :: taken) (cursor.advance 1)

/-- Read the rest of a quoted scalar. No line of it may begin or end a
document. -/
def readQuotedRest (single : Bool) :
    Nat → List Char → Cursor → Option (List Char × Cursor)
  | 0, _, _ => none
  | fuel + 1, text, cursor =>
      if cursor.atDocumentMarker || cursor.peek?.isNone then none
      else do
        let (run, gap, cursor) ← quotedRun single cursor.rest.length [] cursor
        if cursor.isAt (if single then '\'' else '"') then
          return (text ++ run, cursor.advance 1)
        let (gap, cursor) ← Gap.read 0 gap cursor
        readQuotedRest single fuel (text ++ run ++ gap.text) cursor

/-- Read a quoted scalar after its opening quote. -/
def readQuoted (single : Bool) (cursor : Cursor) : Option (List Char × Cursor) :=
  readQuotedRest single (cursor.rest.length + 1) [] cursor

/-! ### Block scalars -/

/-- What happens to the line breaks at the end of a block. -/
inductive Chomping
  | strip
  | clip
  | keep
  deriving DecidableEq

/-- The header of a block: its chomping, and how far it is indented if it says
so. -/
structure BlockHeader where
  chomping : Chomping := .clip
  increment : Option Nat := none

/-- The chomping a character stands for. -/
def chomping? (cursor : Cursor) : Option Chomping :=
  if cursor.isAt '+' then some .keep
  else if cursor.isAt '-' then some .strip
  else none

/-- The indentation a digit stands for; zero is refused. -/
def readIncrement (cursor : Cursor) : Option (Option Nat × Cursor) :=
  match cursor.peek? with
  | none => some (none, cursor)
  | some digit =>
      if digit = '0' then none
      else if digit.isDigit then some (some (digit.toNat - '0'.toNat), cursor.advance 1)
      else some (none, cursor)

/-- Read the header of a block, in which the two parts come in either order. -/
def readBlockHeader (cursor : Cursor) : Option (BlockHeader × Cursor) :=
  match chomping? cursor with
  | some chomping => do
      let (increment, cursor) ← readIncrement (cursor.advance 1)
      return (⟨chomping, increment⟩, cursor)
  | none => do
      let (increment, cursor) ← readIncrement cursor
      match increment, chomping? cursor with
      | some increment, some chomping =>
          return (⟨chomping, some increment⟩, cursor.advance 1)
      | _, _ => return (⟨.clip, increment⟩, cursor)

/-- Pass over blanks and a comment to the end of the line, and the line break. -/
def skipToLineEnd (cursor : Cursor) : Option Cursor :=
  let cursor := cursor.skipWhile isSpaceOrTab
  let cursor :=
    if cursor.isAt '#' then cursor.skipWhile fun character => !isBreak character
    else cursor
  if cursor.atLineEnd then some cursor.skipBreak else none

/-- Read empty lines of a block, where `indent` is zero while the indentation is
not known. The greatest column reached is kept. -/
def readBlockBreaks (indent : Nat) :
    Nat → Nat → List Char → Cursor → Option (List Char × Nat × Cursor)
  | 0, widest, breaks, cursor => some (breaks, widest, cursor)
  | fuel + 1, widest, breaks, cursor =>
      let spaces := (cursor.rest.takeWhile (· == ' ')).length
      let eaten := if indent = 0 then spaces else min spaces (indent - cursor.column)
      let cursor := cursor.advance eaten
      let widest := max widest cursor.column
      if (indent = 0 ∨ cursor.column < indent) ∧ cursor.isAt '\t' then none
      else if cursor.peek?.any isBreak then
        let (text, next) := cursor.readBreak
        readBlockBreaks indent fuel widest (breaks ++ text) next
      else some (breaks, widest, cursor)

/-- The lines of a block read so far. -/
structure BlockText where
  text : List Char := []
  /-- The line break after the last line. -/
  last : List Char := []
  /-- The line breaks after that. -/
  trailing : List Char := []
  /-- Whether the last line starts with a blank. -/
  blankLed : Bool := false

/-- Read the lines of a block. -/
def readBlockLines (literal : Bool) (indent : Nat) :
    Nat → BlockText → Cursor → Option (BlockText × Cursor)
  | 0, block, cursor => some (block, cursor)
  | fuel + 1, block, cursor =>
      match cursor.peek? with
      | none => some (block, cursor)
      | some character =>
          if cursor.column ≠ indent then some (block, cursor)
          else do
            let blankLed := isSpaceOrTab character
            let folds := !literal && block.last == ['\n'] && !block.blankLed && !blankLed
            let joint :=
              if folds then (if block.trailing.isEmpty then [' '] else []) else block.last
            let (line, next) := cursor.spanWhile fun character => !isBreak character
            let (last, next) := next.readBreak
            let (trailing, _, next) ← readBlockBreaks indent next.rest.length 0 [] next
            readBlockLines literal indent fuel
              ⟨block.text ++ joint ++ block.trailing ++ line, last, trailing, blankLed⟩ next

/-- Read a block scalar after its indicator, inside a collection indented by
`parent`. -/
def readBlock
    (literal : Bool)
    (parent : Int)
    (cursor : Cursor) : Option (List Char × Cursor) := do
  let (header, cursor) ← readBlockHeader cursor
  let cursor ← skipToLineEnd cursor
  let stated :=
    match header.increment with
    | some increment => (if 0 ≤ parent then parent.toNat + increment else increment)
    | none => 0
  let (trailing, widest, cursor) ←
    readBlockBreaks stated (cursor.rest.length + 1) 0 [] cursor
  let indent :=
    if stated = 0 then max (max widest (parent + 1).toNat) 1 else stated
  let (block, cursor) ←
    readBlockLines literal indent cursor.rest.length { trailing } cursor
  let ending :=
    match header.chomping with
    | .strip => []
    | .clip => block.last
    | .keep => block.last ++ block.trailing
  return (block.text ++ ending, cursor)

end Yaml
end ManifestPolicy
