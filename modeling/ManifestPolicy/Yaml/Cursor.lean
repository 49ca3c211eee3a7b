/-!
# A place in a YAML text

The text that is still to be read, with the line and column where it starts.
Lines end at a line feed, a carriage return, both together, or one of the three
Unicode line breaks; the first three and the next-line character read as a line
feed.
-/

namespace ManifestPolicy
namespace Yaml

/-- The next-line character. -/
def nextLine : Char := Char.ofNat 0x85

/-- The line separator. -/
def lineSeparator : Char := Char.ofNat 0x2028

/-- The paragraph separator. -/
def paragraphSeparator : Char := Char.ofNat 0x2029

/-- The byte order mark. -/
def byteOrderMark : Char := Char.ofNat 0xFEFF

/-- Whether a character ends a line. -/
def isBreak (character : Char) : Bool :=
  character == '\r' || character == '\n' || character == nextLine
    || character == lineSeparator || character == paragraphSeparator

/-- Whether a character is a space or a tab. -/
def isSpaceOrTab (character : Char) : Bool := character == ' ' || character == '\t'

/-- Whether a character is a space, a tab or a line break. -/
def isGap (character : Char) : Bool := isSpaceOrTab character || isBreak character

/-- Whether a character may stand in a name. -/
def isWord (character : Char) : Bool :=
  character.isAlphanum || character == '_' || character == '-'

/-- Whether a character may stand in a text. -/
def isAllowed (character : Char) : Bool :=
  let code := character.toNat
  code == 9 || code == 10 || code == 13 || (0x20 ≤ code && code ≤ 0x7E) || code == 0x85
    || (0xA0 ≤ code && code ≤ 0xD7FF) || (0xE000 ≤ code && code ≤ 0xFFFD)
    || 0x10000 ≤ code

/-- A place in a text. -/
structure Cursor where
  rest : List Char
  index : Nat := 0
  line : Nat := 0
  column : Nat := 0
  deriving Inhabited

namespace Cursor

/-- The character at a place. -/
def peek? (cursor : Cursor) : Option Char := cursor.rest.head?

/-- The character some places on. -/
def peekAt? (cursor : Cursor) (offset : Nat) : Option Char := cursor.rest[offset]?

/-- Whether a given character comes next. -/
def isAt (cursor : Cursor) (character : Char) : Bool := cursor.peek? == some character

/-- Whether the text ends or a character of a kind comes some places on. -/
def endsOr (kind : Char → Bool) (cursor : Cursor) (offset : Nat) : Bool :=
  (cursor.peekAt? offset).all kind

/-- Whether a gap or the end comes some places on. -/
def gapAt (cursor : Cursor) (offset : Nat) : Bool := cursor.endsOr isGap offset

/-- Whether the line ends here. -/
def atLineEnd (cursor : Cursor) : Bool := cursor.endsOr isBreak 0

/-- Pass over characters of the current line. -/
def advance (cursor : Cursor) (count : Nat) : Cursor :=
  { cursor with
    rest := cursor.rest.drop count
    index := cursor.index + count
    column := cursor.column + count }

/-- The characters of a kind that come next, and the place after them. -/
def spanWhile (kind : Char → Bool) (cursor : Cursor) : List Char × Cursor :=
  let taken := cursor.rest.takeWhile kind
  (taken, cursor.advance taken.length)

/-- Pass over characters of a kind. -/
def skipWhile (kind : Char → Bool) (cursor : Cursor) : Cursor := (cursor.spanWhile kind).2

/-- The place at the start of the next line, `count` characters on. -/
def nextLineAfter (cursor : Cursor) (rest : List Char) (count : Nat) : Cursor :=
  { rest, index := cursor.index + count, line := cursor.line + 1, column := 0 }

/-- Read a line break, if there is one: what it reads as, and the place after
it. -/
def readBreak (cursor : Cursor) : List Char × Cursor :=
  match cursor.rest with
  | '\r' :: '\n' :: rest => (['\n'], cursor.nextLineAfter rest 2)
  | character :: rest =>
      if character == lineSeparator || character == paragraphSeparator then
        ([character], cursor.nextLineAfter rest 1)
      else if isBreak character then (['\n'], cursor.nextLineAfter rest 1)
      else ([], cursor)
  | [] => ([], cursor)

/-- Pass over a line break, if there is one. -/
def skipBreak (cursor : Cursor) : Cursor := cursor.readBreak.2

/-- Whether three equal characters stand alone at the start of a line. -/
def atMarker (cursor : Cursor) (character : Char) : Bool :=
  cursor.column == 0 && cursor.rest.take 3 == [character, character, character]
    && cursor.gapAt 3

/-- Whether a line that begins or ends a document starts here. -/
def atDocumentMarker (cursor : Cursor) : Bool := cursor.atMarker '-' || cursor.atMarker '.'

end Cursor

end Yaml
end ManifestPolicy
