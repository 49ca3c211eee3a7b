/-!
# White space

The characters with the Unicode property White_Space, and the operations that
cut them off the ends of a text. Core's `Char.isWhitespace` knows only four of
them.
-/

namespace ManifestPolicy

/-- Whether a character has the Unicode property White_Space. -/
def isBlank (character : Char) : Bool :=
  let code := character.toNat
  (9 ≤ code && code ≤ 13) || code == 0x20 || code == 0x85 || code == 0xA0
    || code == 0x1680 || (0x2000 ≤ code && code ≤ 0x200A) || code == 0x2028
    || code == 0x2029 || code == 0x202F || code == 0x205F || code == 0x3000

namespace Text

/-- A list of characters without its leading blanks. -/
def trimStart (text : List Char) : List Char := text.dropWhile isBlank

/-- A list of characters without its trailing blanks. -/
def trimEnd (text : List Char) : List Char := (text.reverse.dropWhile isBlank).reverse

/-- A list of characters without blanks at either end. -/
def trim (text : List Char) : List Char := trimEnd (trimStart text)

/-- The non-empty runs of characters between blanks, in order. -/
def words (text : List Char) : List (List Char) :=
  (text.splitOnP isBlank).filter fun word => !word.isEmpty

end Text

end ManifestPolicy
