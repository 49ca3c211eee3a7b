import ManifestPolicy.Json.Draft
import ManifestPolicy.Unicode.CodeSet

/-!
# JSON tokens

A JSON text as brackets, separators and scalars. A scalar that is at fault stays
in its place as a flaw; a flaw that no reader gets past ends the tokens.

Numbers are read the fast way: a 64-bit significand, from which the digits that
do not fit are dropped, is rounded to a binary value and then multiplied or
divided by a power of ten, each step rounding again.
-/

namespace ManifestPolicy
namespace Json

/-- A token of a JSON text. -/
inductive Token
  | openArray
  | closeArray
  | openObject
  | closeObject
  | comma
  | colon
  | text (value : Except Flaw String)
  | scalar (value : Draft)

/-- Whether a reader can go on after a token. -/
def Token.goesOn : Token → Bool
  | .text (.error flaw) => flaw.skipped.isNone
  | .scalar (.flawed flaw) => flaw.skipped.isNone
  | _ => true

/-- Whether a byte is an ASCII digit. -/
def isDigit (byte : UInt8) : Bool := 0x30 ≤ byte && byte ≤ 0x39

/-- The value of an ASCII digit. -/
def digitValue (byte : UInt8) : Nat := byte.toNat - 0x30

/-- The value of a hexadecimal digit. -/
def hexValue? (byte : UInt8) : Option Nat := CodeSet.hexDigit? (Char.ofNat byte.toNat)

/-- The code unit written by four hexadecimal digits. -/
def unit? (first second third fourth : UInt8) : Option Nat := do
  let a ← hexValue? first
  let b ← hexValue? second
  let c ← hexValue? third
  let d ← hexValue? fourth
  return ((a * 16 + b) * 16 + c) * 16 + d

/-- The byte that a one-letter escape stands for. -/
def shortEscape? (byte : UInt8) : Option UInt8 :=
  if byte = 0x22 ∨ byte = 0x5C ∨ byte = 0x2F then some byte
  else if byte = 0x62 then some 0x08
  else if byte = 0x66 then some 0x0C
  else if byte = 0x6E then some 0x0A
  else if byte = 0x72 then some 0x0D
  else if byte = 0x74 then some 0x09
  else none

/-- A string under way: its bytes so far, latest first, a high surrogate that
waits for its low one, and whether a surrogate has been left alone. -/
structure StringState where
  done : List UInt8
  high : Option Nat
  alone : Bool

namespace StringState

/-- The flaw of a string that meets a fault no reader gets past. -/
def broken (state : StringState) (fault : TextFault) : Flaw :=
  ⟨if state.alone then .malformed else fault, some fault⟩

/-- The string after something other than a low surrogate. -/
def settle (state : StringState) : StringState :=
  { state with high := none, alone := state.alone || state.high.isSome }

/-- Append a byte. -/
def push (state : StringState) (byte : UInt8) : StringState :=
  let settled := state.settle
  { settled with done := byte :: settled.done }

/-- Append a character. -/
def pushChar (state : StringState) (character : Char) : StringState :=
  { state with done := (String.singleton character).toUTF8.toList.reverse ++ state.done }

/-- Append a UTF-16 code unit. -/
def pushUnit (state : StringState) (unit : Nat) : StringState :=
  if 0xD800 ≤ unit ∧ unit < 0xDC00 then
    { state.settle with high := some unit }
  else if 0xDC00 ≤ unit ∧ unit < 0xE000 then
    match state.high with
    | none => { state with alone := true }
    | some high =>
        { state with high := none }.pushChar
          (Char.ofNat (0x10000 + (high - 0xD800) * 0x400 + (unit - 0xDC00)))
  else state.settle.pushChar (Char.ofNat unit)

/-- The string at its closing quote. -/
def finish (state : StringState) : Except Flaw String :=
  if state.settle.alone then .error (.soft .malformed)
  else
    match String.fromUTF8? ⟨state.done.reverse.toArray⟩ with
    | some value => .ok value
    | none => .error (.soft .malformed)

end StringState

/-- Read a string after its opening quote. -/
def readString (state : StringState) : List UInt8 → Except Flaw String × List UInt8
  | [] => (.error (state.broken .truncated), [])
  | byte :: rest =>
      if byte = 0x22 then (state.finish, rest)
      else if byte < 0x20 then (.error (state.settle.broken .malformed), [])
      else if byte ≠ 0x5C then readString (state.push byte) rest
      else
        match rest with
        | [] => (.error (state.broken .truncated), [])
        | code :: rest =>
            if code ≠ 0x75 then
              match shortEscape? code with
              | some value => readString (state.push value) rest
              | none => (.error (state.settle.broken .malformed), [])
            else
              match rest with
              | first :: second :: third :: fourth :: rest =>
                  match unit? first second third fourth with
                  | some unit => readString (state.pushUnit unit) rest
                  | none => (.error (state.broken .malformed), [])
              | _ => (.error (state.broken .truncated), [])

/-- The digits of a number read so far: a significand below `2 ^ 64`, a power of
ten, and whether the significand has no room for the next digit. -/
structure Significand where
  value : Nat
  exponent : Int
  full : Bool

namespace Significand

/-- Take in a digit before the point. A digit without room counts as a zero. -/
def whole (significand : Significand) (digit : UInt8) : Significand :=
  let value := significand.value * 10 + digitValue digit
  if significand.full ∨ Nat.pow 2 64 ≤ value then
    { significand with exponent := significand.exponent + 1, full := true }
  else { significand with value := value }

/-- Take in a digit after the point. A digit without room is dropped. -/
def fraction (significand : Significand) (digit : UInt8) : Significand :=
  let value := significand.value * 10 + digitValue digit
  if significand.full ∨ Nat.pow 2 64 ≤ value then { significand with full := true }
  else ⟨value, significand.exponent - 1, false⟩

/-- Divide by `10 ^ 308` until the rest of a negative exponent is a power of ten
within range; a nonzero significand is exhausted after two divisions. -/
def divideDown : Nat → Binary64 → Int → Binary64
  | 0, value, _ => value
  | steps + 1, value, exponent =>
      if exponent < -308 then
        if value.isZero then value
        else divideDown steps (value.divide (.ofDecimal false 1 308)) (exponent + 308)
      else value.divide (.ofDecimal false 1 (-exponent))

/-- The number a significand stands for, with its sign; `none` beyond the range
of the format. -/
def scale (negative : Bool) (significand : Nat) (exponent : Int) : Option Binary64 :=
  let value := Binary64.ofNat significand
  let magnitude :=
    if exponent < 0 then divideDown 4 value exponent
    else if exponent ≤ 308 then value.multiply (.ofDecimal false 1 exponent)
    else if significand = 0 then value
    else .infinite false
  if magnitude.isFinite then some (if negative then magnitude.negate else magnitude)
  else none

end Significand

/-- The draft of a number with a fraction or an exponent. -/
def realDraft (negative : Bool) (significand : Nat) (exponent : Int) : Draft :=
  match Significand.scale negative significand exponent with
  | some value => .real value
  | none => .flawed (.soft .malformed)

/-- The draft of a number without fraction and exponent. Negative zero and what
64 bits do not hold are no integers. -/
def wholeDraft (negative : Bool) (significand : Significand) : Draft :=
  if significand.full then realDraft negative significand.value significand.exponent
  else if negative = false then .integer significand.value
  else if 0 < significand.value ∧ significand.value ≤ Nat.pow 2 63 then
    .integer (-(significand.value : Int))
  else .real (Binary64.ofNat significand.value).negate

/-- A number that lacks digits where some are required. -/
def lacksDigits (rest : List UInt8) : Draft × List UInt8 :=
  match rest with
  | [] => (.flawed ⟨.truncated, some .malformed⟩, [])
  | _ => (.flawed (.hard .malformed), [])

/-- Read an exponent after its letter. -/
def readExponent
    (negative : Bool)
    (significand : Significand)
    (bytes : List UInt8) : Draft × List UInt8 :=
  let (shrinks, bytes) :=
    match bytes with
    | 0x2B :: rest => (false, rest)
    | 0x2D :: rest => (true, rest)
    | _ => (false, bytes)
  match bytes.span isDigit with
  | ([], rest) => lacksDigits rest
  | (digits, rest) =>
      let power := digits.foldl (fun total digit => total * 10 + digitValue digit) 0
      if power < Nat.pow 2 31 then
        let exponent := if shrinks then -(power : Int) else (power : Int)
        (realDraft negative significand.value (significand.exponent + exponent), rest)
      else if significand.value ≠ 0 ∧ shrinks = false then
        (.flawed (.soft .malformed), rest)
      else (.real (.zero negative), rest)

/-- Read what may follow the digits before the exponent. -/
def readTail
    (negative : Bool)
    (significand : Significand)
    (whole : Bool)
    (bytes : List UInt8) : Draft × List UInt8 :=
  match bytes with
  | byte :: rest =>
      if byte = 0x65 ∨ byte = 0x45 then readExponent negative significand rest
      else if whole then (wholeDraft negative significand, bytes)
      else (realDraft negative significand.value significand.exponent, bytes)
  | [] =>
      if whole then (wholeDraft negative significand, [])
      else (realDraft negative significand.value significand.exponent, [])

/-- Read what may follow the digits before the point. -/
def readFraction
    (negative : Bool)
    (significand : Significand)
    (bytes : List UInt8) : Draft × List UInt8 :=
  match bytes with
  | 0x2E :: rest =>
      match rest.span isDigit with
      | ([], rest) => lacksDigits rest
      | (digits, rest) =>
          let significand :=
            digits.foldl Significand.fraction { significand with full := false }
          readTail negative significand false rest
  | _ => readTail negative significand true bytes

/-- Read a number after its sign. A leading zero stands alone. -/
def readNumber (negative : Bool) (bytes : List UInt8) : Draft × List UInt8 :=
  match bytes.span isDigit with
  | ([], rest) => lacksDigits rest
  | (digits, rest) =>
      if digits.head? = some 0x30 ∧ digits.length ≠ 1 then (.flawed (.hard .malformed), [])
      else readFraction negative (digits.foldl Significand.whole ⟨0, 0, false⟩) rest

/-- Read the rest of a literal name. -/
def readName (value : Draft) : List UInt8 → List UInt8 → Draft × List UInt8
  | [], bytes => (value, bytes)
  | _ :: _, [] => (.flawed (.hard .truncated), [])
  | expected :: name, byte :: bytes =>
      if byte = expected then readName value name bytes
      else (.flawed (.hard .malformed), [])

/-- Read a token that starts with a given byte. -/
def readToken (byte : UInt8) (rest : List UInt8) : Token × List UInt8 :=
  let scalar (read : Draft × List UInt8) : Token × List UInt8 := (.scalar read.1, read.2)
  if byte = 0x5B then (.openArray, rest)
  else if byte = 0x5D then (.closeArray, rest)
  else if byte = 0x7B then (.openObject, rest)
  else if byte = 0x7D then (.closeObject, rest)
  else if byte = 0x2C then (.comma, rest)
  else if byte = 0x3A then (.colon, rest)
  else if byte = 0x22 then
    let read := readString ⟨[], none, false⟩ rest
    (.text read.1, read.2)
  else if byte = 0x2D then scalar (readNumber true rest)
  else if isDigit byte then scalar (readNumber false (byte :: rest))
  else if byte = 0x6E then scalar (readName .null [0x75, 0x6C, 0x6C] rest)
  else if byte = 0x74 then scalar (readName (.boolean true) [0x72, 0x75, 0x65] rest)
  else if byte = 0x66 then
    scalar (readName (.boolean false) [0x61, 0x6C, 0x73, 0x65] rest)
  else (.scalar (.flawed (.hard .malformed)), [])

/-- Whether a byte is white space between tokens. -/
def isSpace (byte : UInt8) : Bool :=
  byte == 0x20 || byte == 0x0A || byte == 0x0D || byte == 0x09

/-- Read at most `fuel` tokens in front of which others have been read. -/
def readTokens : Nat → List Token → List UInt8 → List Token
  | 0, done, _ => done.reverse
  | fuel + 1, done, bytes =>
      match bytes.dropWhile isSpace with
      | [] => done.reverse
      | byte :: rest =>
          let (token, rest) := readToken byte rest
          if token.goesOn then readTokens fuel (token :: done) rest
          else (token :: done).reverse

/-- The tokens of a text, up to the first flaw that no reader gets past. -/
def tokens (bytes : List UInt8) : List Token := readTokens bytes.length [] bytes

end Json
end ManifestPolicy
