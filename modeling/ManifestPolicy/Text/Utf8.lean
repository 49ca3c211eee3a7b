/-!
# Reading bytes as UTF-8

Bytes are cut into characters and maximal malformed runs, one byte at a time.
The strict reader accepts a text without malformed runs and otherwise names the
first one; the lossy reader writes U+FFFD for each of them.
-/

namespace ManifestPolicy
namespace Utf8

/-- The first malformed run of a byte sequence. -/
inductive Fault
  /-- Bytes that no character starts with, or that break one off. -/
  | malformed (length : Nat) (index : Nat)
  /-- A character whose last bytes are missing at the end. -/
  | incomplete (index : Nat)
  deriving DecidableEq, Repr

/-- The wording of a fault. -/
def Fault.message : Fault → String
  | .malformed length index =>
      "invalid utf-8 sequence of " ++ toString length ++ " bytes from index "
        ++ toString index
  | .incomplete index => "incomplete utf-8 byte sequence from index " ++ toString index

/-- A character whose first bytes have been read: their payload, their number,
the number of bytes still owed, and the bounds of the next one. -/
structure Opening where
  payload : Nat
  taken : Nat
  owed : Nat
  least : Nat
  greatest : Nat
  deriving DecidableEq, Repr

/-- What a byte means at the start of a character. -/
inductive Lead
  | whole (character : Char)
  | opens (opening : Opening)
  | refused

/-- Classify the first byte of a character. -/
def lead (byte : Nat) : Lead :=
  if byte < 0x80 then .whole (Char.ofNat byte)
  else if byte < 0xC2 then .refused
  else if byte < 0xE0 then .opens ⟨byte - 0xC0, 1, 1, 0x80, 0xBF⟩
  else if byte = 0xE0 then .opens ⟨0, 1, 2, 0xA0, 0xBF⟩
  else if byte = 0xED then .opens ⟨0xD, 1, 2, 0x80, 0x9F⟩
  else if byte < 0xF0 then .opens ⟨byte - 0xE0, 1, 2, 0x80, 0xBF⟩
  else if byte = 0xF0 then .opens ⟨0, 1, 3, 0x90, 0xBF⟩
  else if byte < 0xF4 then .opens ⟨byte - 0xF0, 1, 3, 0x80, 0xBF⟩
  else if byte = 0xF4 then .opens ⟨4, 1, 3, 0x80, 0x8F⟩
  else .refused

/-- One cut of a byte sequence. -/
inductive Piece
  | character (value : Char)
  | malformed (length : Nat)
  | incomplete
  deriving DecidableEq, Repr

/-- The cuts made so far, latest first, and the character under way. -/
structure Cutting where
  done : List Piece
  opening : Option Opening

/-- Take in a byte where a character may start. -/
def Cutting.start (done : List Piece) (byte : Nat) : Cutting :=
  match lead byte with
  | .whole character => ⟨.character character :: done, none⟩
  | .opens opening => ⟨done, some opening⟩
  | .refused => ⟨.malformed 1 :: done, none⟩

/-- Take in the next byte. -/
def Cutting.step (cutting : Cutting) (byte : UInt8) : Cutting :=
  match cutting.opening with
  | none => .start cutting.done byte.toNat
  | some opening =>
      if opening.least ≤ byte.toNat ∧ byte.toNat ≤ opening.greatest then
        let payload := opening.payload * 64 + (byte.toNat - 0x80)
        if opening.owed ≤ 1 then
          ⟨.character (Char.ofNat payload) :: cutting.done, none⟩
        else
          ⟨cutting.done, some ⟨payload, opening.taken + 1, opening.owed - 1, 0x80, 0xBF⟩⟩
      else
        .start (.malformed opening.taken :: cutting.done) byte.toNat

/-- All cuts of a byte sequence, in order. -/
def pieces (bytes : List UInt8) : List Piece :=
  let cutting := bytes.foldl Cutting.step ⟨[], none⟩
  match cutting.opening with
  | none => cutting.done.reverse
  | some _ => (.incomplete :: cutting.done).reverse

/-- The text of a byte sequence with U+FFFD in the place of malformed runs. -/
def lossy (bytes : List UInt8) : String :=
  String.ofList <| (pieces bytes).map fun
    | .character value => value
    | .malformed _ => '\uFFFD'
    | .incomplete => '\uFFFD'

/-- The first fault among the cuts of a sequence that starts at an index. -/
def firstFault (index : Nat) : List Piece → Option Fault
  | [] => none
  | .character value :: rest => firstFault (index + value.utf8Size) rest
  | .malformed length :: _ => some (.malformed length index)
  | .incomplete :: _ => some (.incomplete index)

/-- The text of a well-formed byte sequence, or its first fault. -/
def decode (bytes : List UInt8) : Except Fault String :=
  let cuts := pieces bytes
  match firstFault 0 cuts with
  | some fault => .error fault
  | none =>
      .ok <| String.ofList <| cuts.filterMap fun
        | .character value => some value
        | _ => none

/-- The bytes of a text. -/
def encode (text : String) : List UInt8 := text.toUTF8.toList

end Utf8
end ManifestPolicy
