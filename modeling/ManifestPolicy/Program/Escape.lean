/-!
# Backslash escapes

The texts that programs print may name bytes by a backslash and what follows it.
Programs differ in the escapes they know; a style says which ones. A backslash
before anything else stands for itself.
-/

namespace ManifestPolicy

/-- The escapes that are known besides those of the control characters. -/
structure EscapeStyle where
  /-- An octal number may have a zero before its three digits. -/
  leadingZero : Bool := false
  /-- A byte may be given by two hexadecimal digits. -/
  hexadecimal : Bool := false
  /-- The escape character has a letter. -/
  escapeLetter : Bool := false
  /-- A quote may be escaped. -/
  quote : Bool := false
  /-- The letter `c` ends the text. -/
  ending : Bool := true
  deriving DecidableEq, Repr, Inhabited

namespace EscapeStyle

/-- What a backslash and some characters after it stand for. -/
structure Reading where
  bytes : List UInt8
  /-- The number of characters after the backslash. -/
  length : Nat
  ends : Bool := false

/-- The value of digits to a base, as a byte. -/
def byteOf (base : Nat) (digits : List Nat) : UInt8 :=
  (digits.foldl (fun total digit => total * base + digit) 0).toUInt8

/-- The value of an octal digit. -/
def octalDigit? (character : Char) : Option Nat :=
  if '0' ≤ character ∧ character ≤ '7' then some (character.toNat - '0'.toNat) else none

/-- The value of a hexadecimal digit. -/
def hexDigit? (character : Char) : Option Nat :=
  if character.isDigit then some (character.toNat - '0'.toNat)
  else if 'a' ≤ character ∧ character ≤ 'f' then some (character.toNat - 'a'.toNat + 10)
  else if 'A' ≤ character ∧ character ≤ 'F' then some (character.toNat - 'A'.toNat + 10)
  else none

/-- The digits at the start of a text, up to a number of them. -/
def leadingDigits (digit? : Char → Option Nat) (most : Nat) (text : List Char) : List Nat :=
  ((text.take most).map digit?).takeWhile Option.isSome |>.filterMap id

/-- The byte that a letter stands for. -/
def letter? (style : EscapeStyle) (letter : Char) : Option UInt8 :=
  match letter with
  | 'a' => some 7
  | 'b' => some 8
  | 't' => some 9
  | 'n' => some 10
  | 'v' => some 11
  | 'f' => some 12
  | 'r' => some 13
  | '\\' => some 0x5C
  | 'e' => if style.escapeLetter then some 27 else none
  | '"' => if style.quote then some 0x22 else none
  | _ => none

/-- Read what follows a backslash. -/
def read (style : EscapeStyle) (text : List Char) : Reading :=
  match text with
  | [] => ⟨[0x5C], 0, false⟩
  | first :: rest =>
      if first = 'c' ∧ style.ending then ⟨[], 1, true⟩
      else if first = '0' ∧ style.leadingZero then
        let digits := leadingDigits octalDigit? 3 rest
        ⟨[byteOf 8 digits], digits.length + 1, false⟩
      else if (octalDigit? first).isSome then
        let digits := leadingDigits octalDigit? 3 text
        ⟨[byteOf 8 digits], digits.length, false⟩
      else if first = 'x' ∧ style.hexadecimal
          ∧ leadingDigits hexDigit? 2 rest ≠ [] then
        let digits := leadingDigits hexDigit? 2 rest
        ⟨[byteOf 16 digits], digits.length + 1, false⟩
      else
        match style.letter? first with
        | some byte => ⟨[byte], 1, false⟩
        | none => ⟨[0x5C], 0, false⟩

/-- The bytes of a text with escapes, and whether an escape has ended it. -/
def expand (style : EscapeStyle) (text : List Char) : List UInt8 × Bool :=
  match text with
  | [] => ([], false)
  | '\\' :: rest =>
      let reading := style.read rest
      if reading.ends then (reading.bytes, true)
      else
        let (bytes, ended) := style.expand (rest.drop reading.length)
        (reading.bytes ++ bytes, ended)
  | character :: rest =>
      let (bytes, ended) := style.expand rest
      ((String.singleton character).toUTF8.toList ++ bytes, ended)
termination_by text.length
decreasing_by
  all_goals simp only [List.length_drop, List.length_cons]; omega

end EscapeStyle

end ManifestPolicy
