/-!
# Base64

The standard alphabet with padding. Bytes are taken three at a time from an
index, so that a manifest of many megabytes is encoded in one pass. The decoder
accepts exactly the texts the encoder writes: the padding is complete, and the
bits that a last digit has to spare are zero.
-/

namespace ManifestPolicy
namespace Base64

/-- The digit of a six-bit value. -/
def digit (value : Nat) : Char :=
  if value < 26 then Char.ofNat (value + 'A'.toNat)
  else if value < 52 then Char.ofNat (value - 26 + 'a'.toNat)
  else if value < 62 then Char.ofNat (value - 52 + '0'.toNat)
  else if value = 62 then '+'
  else '/'

/-- The six-bit value of a digit, given by its byte. -/
def value? (byte : UInt8) : Option Nat :=
  if 0x41 ≤ byte ∧ byte ≤ 0x5A then some (byte.toNat - 0x41)
  else if 0x61 ≤ byte ∧ byte ≤ 0x7A then some (byte.toNat - 0x61 + 26)
  else if 0x30 ≤ byte ∧ byte ≤ 0x39 then some (byte.toNat - 0x30 + 52)
  else if byte = 0x2B then some 62
  else if byte = 0x2F then some 63
  else none

/-- The length of the text of a number of bytes. -/
def encodedLength (count : Nat) : Nat := 4 * ((count + 2) / 3)

/-- Append the digits of the bytes from an index on. -/
def encodeFrom (bytes : ByteArray) (index : Nat) (text : String) : String :=
  if whole : index + 2 < bytes.size then
    let first := bytes[index].toNat
    let second := bytes[index + 1].toNat
    let third := bytes[index + 2].toNat
    encodeFrom bytes (index + 3) <|
      (((text.push (digit (first / 4))).push (digit (first % 4 * 16 + second / 16))).push
        (digit (second % 16 * 4 + third / 64))).push (digit (third % 64))
  else if pair : index + 1 < bytes.size then
    let first := bytes[index].toNat
    let second := bytes[index + 1].toNat
    (((text.push (digit (first / 4))).push (digit (first % 4 * 16 + second / 16))).push
      (digit (second % 16 * 4))).push '='
  else if single : index < bytes.size then
    let first := bytes[index].toNat
    (((text.push (digit (first / 4))).push (digit (first % 4 * 16))).push '=').push '='
  else text
termination_by bytes.size - index

/-- The text of a sequence of bytes. -/
def encode (bytes : ByteArray) : String := encodeFrom bytes 0 ""

/-- Append the bytes of the digits from an index on. -/
def decodeFrom (text : ByteArray) (index : Nat) (bytes : ByteArray) : Option ByteArray :=
  if block : index + 3 < text.size then
    match value? text[index], value? text[index + 1] with
    | some first, some second =>
        let bytes := bytes.push (first * 4 + second / 16).toUInt8
        match value? text[index + 2], value? text[index + 3] with
        | some third, some fourth =>
            decodeFrom text (index + 4) <|
              (bytes.push (second % 16 * 16 + third / 4).toUInt8).push
                (third % 4 * 64 + fourth).toUInt8
        | some third, none =>
            if text[index + 3] = 0x3D ∧ index + 4 = text.size ∧ third % 4 = 0 then
              some (bytes.push (second % 16 * 16 + third / 4).toUInt8)
            else none
        | none, _ =>
            if text[index + 2] = 0x3D ∧ text[index + 3] = 0x3D ∧ index + 4 = text.size
                ∧ second % 16 = 0 then
              some bytes
            else none
    | _, _ => none
  else if index = text.size then some bytes
  else none
termination_by text.size - index

/-- The bytes of a text. -/
def decode? (text : String) : Option ByteArray := decodeFrom text.toUTF8 0 .empty

end Base64
end ManifestPolicy
