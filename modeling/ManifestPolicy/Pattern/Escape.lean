import ManifestPolicy.Pattern.Expression
import ManifestPolicy.Pattern.Flags
import ManifestPolicy.Unicode.CaseFolding

/-!
# Escapes and named sets

What a backslash and the characters after it stand for: a character, a set of
characters or a condition. Without the Unicode flag a set holds ASCII characters
only, and one that would not is refused, since a match must not split a character.
-/

namespace ManifestPolicy
namespace Pattern

/-- What a character or an escape stands for. `byte` is whether it is a byte given
by two hexadecimal digits. -/
inductive Primitive
  | character (value : Char) (byte : Bool)
  | oneOf (set : CodeSet)
  | check (assertion : Assertion)
  deriving Repr

/-! ### Sets -/

/-- The ASCII characters. -/
def asciiSet : CodeSet := .range 0 0x7F

/-- The ASCII characters of words. -/
def asciiWord : CodeSet := .ofText ["30-39 41-5a 5f 61-7a"]

/-- Word characters under some flags. -/
def wordSet (flags : Flags) : CodeSet :=
  if flags.unicode then CodeProperty.word else asciiWord

/-- A set with the other case of its letters. -/
def foldCase (flags : Flags) (set : CodeSet) : CodeSet :=
  if flags.unicode then CaseFolding.close set
  else (CaseFolding.close set).intersection asciiSet

/-- A set under some flags, possibly negated. -/
def finishSet (flags : Flags) (negated : Bool) (set : CodeSet) : Option CodeSet :=
  let folded := if flags.caseless then foldCase flags set else set
  let finished := if negated then folded.complement else folded
  if flags.unicode || (finished.difference asciiSet).isEmpty then some finished else none

/-- The set of a letter such as `d`, which is negated in upper case. -/
def letterSet? (flags : Flags) (letter : Char) : Option CodeSet :=
  let set :=
    match letter.toLower with
    | 'd' => if flags.unicode then Category.decimalNumber else .ofText ["30-39"]
    | 's' => if flags.unicode then CodeProperty.whiteSpace else .ofText ["9-d 20"]
    | _ => wordSet flags
  finishSet { flags with caseless := false } letter.isUpper set

/-- The sets of ASCII characters that have names in brackets. -/
def bracketNames : List (String × CodeSet) := [
  ("alnum", .ofText ["30-39 41-5a 61-7a"]),
  ("alpha", .ofText ["41-5a 61-7a"]),
  ("ascii", asciiSet),
  ("blank", .ofText ["9 20"]),
  ("cntrl", .ofText ["0-1f 7f"]),
  ("digit", .ofText ["30-39"]),
  ("graph", .ofText ["21-7e"]),
  ("lower", .ofText ["61-7a"]),
  ("print", .ofText ["20-7e"]),
  ("punct", .ofText ["21-2f 3a-40 5b-60 7b-7e"]),
  ("space", .ofText ["9-d 20"]),
  ("upper", .ofText ["41-5a"]),
  ("word", asciiWord),
  ("xdigit", .ofText ["30-39 41-46 61-66"])]

/-! ### Named properties -/

/-- Cut a text at the first place where a separator stands. -/
def splitAt? (separator : List Char) (before : List Char) :
    List Char → Option (List Char × List Char)
  | [] => none
  | character :: rest =>
      if separator.isPrefixOf (character :: rest) then
        some (before.reverse, (character :: rest).drop separator.length)
      else splitAt? separator (character :: before) rest

/-- The set that a name between braces stands for, and whether it negates it. -/
def propertySet? (name : List Char) : Option (Bool × CodeSet) :=
  let valued (negated : Bool) (parts : List Char × List Char) : Option (Bool × CodeSet) :=
    (CodeSet.ofNamedValue? parts.1 parts.2).map fun set => (negated, set)
  match splitAt? ['!', '='] [] name, splitAt? [':'] [] name, splitAt? ['='] [] name with
  | some parts, _, _ => valued true parts
  | none, some parts, _ => valued false parts
  | none, none, some parts => valued false parts
  | none, none, none => (CodeSet.ofName? name).map fun set => (false, set)

/-- Take characters up to a closing brace, each with what means nothing after it. -/
def takeBraced (flags : Flags) : Nat → List Char → Option (List Char × List Char)
  | 0, _ => none
  | fuel + 1, text =>
      match text with
      | [] => none
      | '}' :: rest => some ([], rest)
      | character :: _ => do
          let (characters, rest) ← takeBraced flags fuel (flags.advance text)
          return (character :: characters, rest)

/-- Read the name of a property after the letter that announces it. -/
def readProperty (flags : Flags) (letter : Char) (text : List Char) : Option (Primitive × List Char) := do
  let text := flags.skip text
  let next ← text.head?
  let (name, rest) ←
    if next = '{' then takeBraced flags (text.length + 1) (flags.advance text)
    else if next = '\\' then none
    else some ([next], flags.advance text)
  if flags.unicode then
    let (opposite, set) ← if next = '{' then propertySet? name
      else (CodeSet.ofName? name).map fun set => (false, set)
    let set ← finishSet flags ((letter == 'P') != opposite) set
    return (.oneOf set, rest)
  else none

/-! ### Characters by number -/

/-- The character that hexadecimal digits stand for. -/
def hexCharacter? (digits : List Char) : Option Char := do
  let values ← digits.mapM CodeSet.hexDigit?
  let code := values.foldl (fun code value => code * 16 + value) 0
  if digits.isEmpty then none
  else if code < 0xD800 ∨ (0xE000 ≤ code ∧ code ≤ CodeSet.greatest) then some (Char.ofNat code)
  else none

/-- Take a number of hexadecimal digits. What means nothing may stand between
them. -/
def takeHex (flags : Flags) : Nat → List Char → Option (List Char × List Char)
  | 0, text => some ([], text)
  | count + 1, text =>
      match text with
      | [] => none
      | digit :: _ => do
          let (digits, rest) ← takeHex flags count (flags.advance text)
          return (digit :: digits, rest)

/-- Read a character by its number, after the letter that says how many digits it
has. -/
def readHex (flags : Flags) (letter : Char) (text : List Char) : Option (Primitive × List Char) := do
  let text := flags.skip text
  let count := if letter = 'x' then 2 else if letter = 'u' then 4 else 8
  if text.head? = some '{' then
    let (digits, rest) ← takeBraced flags (text.length + 1) (flags.advance text)
    return (.character (← hexCharacter? digits) false, flags.skip rest)
  else
    let (digits, rest) ← takeHex flags count text
    return (.character (← hexCharacter? digits) (letter == 'x'), rest)

/-! ### Escapes -/

/-- Punctuation that may be escaped: all of ASCII except letters, digits and angle
brackets. -/
def isEscapable (character : Char) : Bool :=
  character.toNat < 0x80 && !character.isAlphanum && character != '<' && character != '>'

/-- The control character that a letter stands for. -/
def controlLetter? (letter : Char) : Option Char :=
  match letter with
  | 'a' => some '\x07'
  | 'f' => some '\x0c'
  | 't' => some '\t'
  | 'n' => some '\n'
  | 'r' => some '\r'
  | 'v' => some '\x0b'
  | _ => none

/-- Whether a character may stand in the name of a word boundary. -/
def isBoundaryLetter (character : Char) : Bool := character.isAlpha || character == '-'

/-- Take the name of a word boundary. -/
def takeBoundaryName (flags : Flags) : Nat → List Char → List Char × List Char
  | 0, text => ([], text)
  | fuel + 1, text =>
      match text with
      | [] => ([], [])
      | letter :: _ =>
          if isBoundaryLetter letter then
            let (name, rest) := takeBoundaryName flags fuel (flags.advance text)
            (letter :: name, rest)
          else ([], text)

/-- Read a word boundary, which may be named between braces. Braces around
anything else are left for a repetition. -/
def readBoundary (flags : Flags) (text : List Char) : Option (Primitive × List Char) :=
  let word := wordSet flags
  let plain := some (Primitive.check (.wordBoundary word), text)
  match text with
  | '{' :: _ =>
      match flags.advance text with
      | [] => none
      | first :: rest =>
          if isBoundaryLetter first then
            let (name, rest) := takeBoundaryName flags (rest.length + 1) (first :: rest)
            match rest with
            | '}' :: rest =>
                match String.ofList name with
                | "start" => some (.check (.wordStart word), rest)
                | "end" => some (.check (.wordEnd word), rest)
                | "start-half" => some (.check (.noWordBefore word), rest)
                | "end-half" => some (.check (.noWordAfter word), rest)
                | _ => none
            | _ => none
          else plain
  | _ => plain

/-- Read an escape after its backslash. -/
def readEscape (flags : Flags) (text : List Char) : Option (Primitive × List Char) :=
  match text with
  | [] => none
  | letter :: rest =>
      if letter = 'x' ∨ letter = 'u' ∨ letter = 'U' then readHex flags letter rest
      else if letter = 'p' ∨ letter = 'P' then readProperty flags letter rest
      else if "dswDSW".toList.contains letter then
        (letterSet? flags letter).map fun set => (.oneOf set, rest)
      else if isEscapable letter then some (.character letter false, rest)
      else if letter = 'A' then some (.check .textStart, rest)
      else if letter = 'z' then some (.check .textEnd, rest)
      else if letter = 'b' then readBoundary flags rest
      else if letter = 'B' then some (.check (.noWordBoundary (wordSet flags)), rest)
      else if letter = '<' then some (.check (.wordStart (wordSet flags)), rest)
      else if letter = '>' then some (.check (.wordEnd (wordSet flags)), rest)
      else (controlLetter? letter).map fun value => (.character value false, rest)

end Pattern
end ManifestPolicy
