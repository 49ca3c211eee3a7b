import ManifestPolicy.Text.Blank

/-!
# Flags and the text of a pattern

The flags in force at a place of a pattern, and how its text is read under them.
In a spaced pattern blanks and comments mean nothing.
-/

namespace ManifestPolicy
namespace Pattern

/-- The flags that change what a pattern means. -/
structure Flags where
  /-- Letters match in either case. -/
  caseless : Bool := false
  /-- Line anchors match at every line. -/
  multiLine : Bool := false
  /-- A dot matches a line feed. -/
  dotAll : Bool := false
  /-- A carriage return ends a line too. -/
  carriageReturns : Bool := false
  /-- Sets of characters go beyond ASCII. -/
  unicode : Bool := true
  /-- Blanks and comments mean nothing. -/
  spaced : Bool := false
  deriving DecidableEq, Repr, Inhabited

namespace Flags

/-- Set a flag by its letter. The greed of repetitions makes no difference to
whether there is a match. -/
def set (flags : Flags) (letter : Char) (value : Bool) : Option Flags :=
  match letter with
  | 'i' => some { flags with caseless := value }
  | 'm' => some { flags with multiLine := value }
  | 's' => some { flags with dotAll := value }
  | 'R' => some { flags with carriageReturns := value }
  | 'u' => some { flags with unicode := value }
  | 'x' => some { flags with spaced := value }
  | 'U' => some flags
  | _ => none

/-- Pass over blanks and comments. -/
def skipBlanks : List Char → List Char
  | [] => []
  | character :: rest =>
      if isBlank character then skipBlanks rest
      else if character = '#' then skipComment rest
      else character :: rest
where
  /-- Pass over a comment and what may be passed over after it. -/
  skipComment : List Char → List Char
    | [] => []
    | '\n' :: rest => skipBlanks rest
    | _ :: rest => skipComment rest

/-- Pass over blanks and comments if they mean nothing. -/
def skip (flags : Flags) (text : List Char) : List Char :=
  if flags.spaced then skipBlanks text else text

/-- Pass over a character and what means nothing after it. -/
def advance (flags : Flags) (text : List Char) : List Char := flags.skip (text.drop 1)

/-- The character after the next one and after what means nothing between them. A
comment is entered and not passed over. -/
def peekAfter (flags : Flags) (text : List Char) : Option Char :=
  let rest := text.drop 1
  if flags.spaced then
    let next := rest.dropWhile isBlank
    let next :=
      match next with
      | '#' :: comment => comment.dropWhile isBlank
      | _ => next
    next.head? <|> rest.head?
  else rest.head?

end Flags

/-- Read a decimal number of 32 bits, which blanks may surround. -/
def readNumber (flags : Flags) (text : List Char) : Option (Nat × List Char) :=
  let (digits, rest) := takeDigits (text.length + 1) (text.dropWhile isBlank)
  let rest := passBlanks (rest.length + 1) rest
  let number := digits.foldl (fun number digit => number * 10 + (digit.toNat - 48)) 0
  if digits.isEmpty ∨ Nat.pow 2 32 ≤ number then none else some (number, rest)
where
  /-- Take digits, each with what means nothing after it. -/
  takeDigits : Nat → List Char → List Char × List Char
    | 0, text => ([], text)
    | fuel + 1, text =>
        match text with
        | digit :: _ =>
            if digit.isDigit then
              let (digits, rest) := takeDigits fuel (flags.advance text)
              (digit :: digits, rest)
            else ([], text)
        | [] => ([], [])
  /-- Pass over blanks, each with what means nothing after it. -/
  passBlanks : Nat → List Char → List Char
    | 0, text => text
    | fuel + 1, text =>
        if text.head?.any isBlank then passBlanks fuel (flags.advance text) else text

end Pattern
end ManifestPolicy
