import ManifestPolicy.Base64

/-!
# Base64 both ways

The decoder gives back the bytes that the encoder has written. Both go over their input by an
index; the digits of a list of bytes are what they are compared with.
-/

namespace ManifestPolicy
namespace Base64

/-- The digits of bytes, with their padding. -/
def letters : List UInt8 → List Char
  | first :: second :: third :: rest =>
      digit (first.toNat / 4) :: digit (first.toNat % 4 * 16 + second.toNat / 16)
        :: digit (second.toNat % 16 * 4 + third.toNat / 64) :: digit (third.toNat % 64)
        :: letters rest
  | [first, second] =>
      [digit (first.toNat / 4), digit (first.toNat % 4 * 16 + second.toNat / 16),
        digit (second.toNat % 16 * 4), '=']
  | [first] => [digit (first.toNat / 4), digit (first.toNat % 4 * 16), '=', '=']
  | [] => []

/-- The byte of a character that has only one. -/
def byteOf (character : Char) : UInt8 := character.val.toUInt8

/-! ## Places in a sequence of bytes -/

/-- The bytes from an index on. -/
def bytesFrom (bytes : ByteArray) (index : Nat) : List UInt8 := bytes.data.toList.drop index

theorem length_bytesFrom
    (bytes : ByteArray)
    (index : Nat) :
    (bytesFrom bytes index).length = bytes.size - index := by
  simp [bytesFrom]

theorem bytesFrom_eq_cons
    {bytes : ByteArray}
    {index : Nat}
    (within : index < bytes.size) :
    bytesFrom bytes index = bytes[index] :: bytesFrom bytes (index + 1) := by
  have within : index < bytes.data.toList.length := by simpa using within
  exact List.drop_eq_getElem_cons within

theorem bytesFrom_eq_nil
    {bytes : ByteArray}
    {index : Nat}
    (behind : bytes.size ≤ index) :
    bytesFrom bytes index = [] := by
  rw [← List.length_eq_zero_iff, length_bytesFrom]
  exact Nat.sub_eq_zero_of_le behind

/-- The next four bytes, and the bytes after them. -/
theorem block_of_bytesFrom
    {bytes : ByteArray}
    {index : Nat}
    {first second third fourth : UInt8}
    {rest : List UInt8}
    (isRest : bytesFrom bytes index = first :: second :: third :: fourth :: rest) :
    ∃ (_ : index < bytes.size) (_ : index + 1 < bytes.size) (_ : index + 2 < bytes.size)
        (_ : index + 3 < bytes.size),
      bytes[index] = first ∧ bytes[index + 1] = second ∧ bytes[index + 2] = third
        ∧ bytes[index + 3] = fourth ∧ bytesFrom bytes (index + 4) = rest := by
  have size := length_bytesFrom bytes index
  rw [isRest] at size
  simp only [List.length_cons] at size
  have block : index + 3 < bytes.size := by omega
  rw [bytesFrom_eq_cons (by omega), bytesFrom_eq_cons (by omega), bytesFrom_eq_cons (by omega),
    bytesFrom_eq_cons block] at isRest
  simp only [List.cons.injEq] at isRest
  exact ⟨by omega, by omega, by omega, block, isRest⟩

/-! ## Encoding -/

/-- The letters are those of the blocks of three bytes from an index on, by the recursion of the
encoder. -/
theorem encodeFrom_eq
    (bytes : ByteArray)
    (index : Nat)
    (text : String) :
    encodeFrom bytes index text = text ++ String.ofList (letters (bytesFrom bytes index)) := by
  fun_induction encodeFrom bytes index text with
  | case1 index text whole first second third encodeRest =>
      rw [encodeRest, bytesFrom_eq_cons (by omega : index < bytes.size),
        bytesFrom_eq_cons (by omega : index + 1 < bytes.size), bytesFrom_eq_cons whole, letters]
      apply String.ext
      simp [first, second, third]
  | case2 index text whole pair first second =>
      have none : bytesFrom bytes (index + 2) = [] := bytesFrom_eq_nil (by omega)
      rw [bytesFrom_eq_cons (by omega : index < bytes.size), bytesFrom_eq_cons pair, none, letters]
      apply String.ext
      simp [first, second]
  | case3 index text whole pair single first =>
      have none : bytesFrom bytes (index + 1) = [] := bytesFrom_eq_nil (by omega)
      rw [bytesFrom_eq_cons single, none, letters]
      apply String.ext
      simp [first]
  | case4 index text whole pair single =>
      have none : bytesFrom bytes index = [] := bytesFrom_eq_nil (by omega)
      rw [none]
      apply String.ext
      simp [letters]

/-- Encoding goes over all bytes from the first on. -/
theorem encode_eq (bytes : ByteArray) :
    encode bytes = String.ofList (letters bytes.data.toList) := by
  rw [encode, encodeFrom_eq, bytesFrom, List.drop_zero]
  apply String.ext
  simp

/-! ## Decoding -/

/-- Every letter of the alphabet is read as the number it stands for. -/
theorem value?_digit
    {value : Nat}
    (small : value < 64) :
    value? (byteOf (digit value)) = some value := by
  revert value
  decide +kernel

theorem value?_padding : value? (byteOf '=') = none := by
  decide

/-- Bytes that are given back from the values of their digits. -/
theorem toUInt8_of_eq
    {byte : UInt8}
    {number : Nat}
    (same : number = byte.toNat) :
    number.toUInt8 = byte := by
  rw [same]
  exact UInt8.ofNat_toNat

/-- To push a byte and to append others is to append them all. -/
theorem push_append
    (bytes : ByteArray)
    (byte : UInt8)
    (content : List UInt8) :
    bytes.push byte ++ content.toByteArray = bytes ++ (byte :: content).toByteArray := by
  apply ByteArray.ext
  simp

section Block

variable
  {text : ByteArray}
  {index first second third fourth : Nat}
  {firstByte secondByte thirdByte fourthByte : UInt8}

/-- Four digits give three bytes, and the decoder goes on behind them. -/
theorem decodeFrom_of_four
    {rest : List UInt8}
    (isText : bytesFrom text index = firstByte :: secondByte :: thirdByte :: fourthByte :: rest)
    (isFirst : value? firstByte = some first)
    (isSecond : value? secondByte = some second)
    (isThird : value? thirdByte = some third)
    (isFourth : value? fourthByte = some fourth)
    (bytes : ByteArray) :
    decodeFrom text index bytes =
      decodeFrom text (index + 4)
        (((bytes.push (first * 4 + second / 16).toUInt8).push
          (second % 16 * 16 + third / 4).toUInt8).push (third % 4 * 64 + fourth).toUInt8) := by
  obtain ⟨_, _, _, block, rfl, rfl, rfl, rfl, _⟩ := block_of_bytesFrom isText
  rw [decodeFrom, dif_pos block]
  simp only [isFirst, isSecond, isThird, isFourth]

/-- Three digits at the end give two bytes. -/
theorem decodeFrom_of_three
    (isText : bytesFrom text index = [firstByte, secondByte, thirdByte, byteOf '='])
    (isFirst : value? firstByte = some first)
    (isSecond : value? secondByte = some second)
    (isThird : value? thirdByte = some third)
    (spare : third % 4 = 0)
    (bytes : ByteArray) :
    decodeFrom text index bytes =
      some ((bytes.push (first * 4 + second / 16).toUInt8).push
        (second % 16 * 16 + third / 4).toUInt8) := by
  have size := length_bytesFrom text index
  rw [isText] at size
  obtain ⟨_, _, _, block, rfl, rfl, rfl, isPadding, _⟩ := block_of_bytesFrom isText
  have ends : index + 4 = text.size := by
    simp only [List.length_cons, List.length_nil] at size
    omega
  rw [decodeFrom, dif_pos block]
  simp only [isFirst, isSecond, isThird, isPadding, value?_padding]
  exact if_pos ⟨rfl, ends, spare⟩

/-- Two digits at the end give one byte. -/
theorem decodeFrom_of_two
    (isText : bytesFrom text index = [firstByte, secondByte, byteOf '=', byteOf '='])
    (isFirst : value? firstByte = some first)
    (isSecond : value? secondByte = some second)
    (spare : second % 16 = 0)
    (bytes : ByteArray) :
    decodeFrom text index bytes = some (bytes.push (first * 4 + second / 16).toUInt8) := by
  have size := length_bytesFrom text index
  rw [isText] at size
  obtain ⟨_, _, _, block, rfl, rfl, isPadding, alsoPadding, _⟩ := block_of_bytesFrom isText
  have ends : index + 4 = text.size := by
    simp only [List.length_cons, List.length_nil] at size
    omega
  rw [decodeFrom, dif_pos block]
  simp only [isFirst, isSecond, isPadding, alsoPadding, value?_padding]
  exact if_pos ⟨rfl, rfl, ends, spare⟩

end Block

/-- The letters of bytes are read as these bytes, block by block: the padding says how short the
last one is. -/
theorem decodeFrom_eq
    {text : ByteArray}
    {index : Nat}
    {bytes : ByteArray}
    {content : List UInt8}
    (within : index ≤ text.size)
    (isText : bytesFrom text index = (letters content).map byteOf) :
    decodeFrom text index bytes = some (bytes ++ content.toByteArray) := by
  fun_induction letters content generalizing index bytes with
  | case1 first second third rest decodeRest =>
      simp only [List.map_cons] at isText
      obtain ⟨_, _, _, block, _, _, _, _, isRest⟩ := block_of_bytesFrom isText
      have firstSmall := first.toNat_lt
      have secondSmall := second.toNat_lt
      have thirdSmall := third.toNat_lt
      rw [decodeFrom_of_four isText (value?_digit (by omega)) (value?_digit (by omega))
        (value?_digit (by omega)) (value?_digit (by omega)), decodeRest block isRest,
        @toUInt8_of_eq first _ (by omega), @toUInt8_of_eq second _ (by omega),
        @toUInt8_of_eq third _ (by omega), push_append, push_append, push_append]
  | case2 first second =>
      simp only [List.map_cons, List.map_nil] at isText
      have firstSmall := first.toNat_lt
      have secondSmall := second.toNat_lt
      rw [decodeFrom_of_three isText (value?_digit (by omega)) (value?_digit (by omega))
        (value?_digit (by omega)) (by omega), @toUInt8_of_eq first _ (by omega),
        @toUInt8_of_eq second _ (by omega), ← push_append, ← push_append]
      exact congrArg some ByteArray.append_empty.symm
  | case3 first =>
      simp only [List.map_cons, List.map_nil] at isText
      have firstSmall := first.toNat_lt
      rw [decodeFrom_of_two isText (value?_digit (by omega)) (value?_digit (by omega))
        (by omega), @toUInt8_of_eq first _ (by omega), ← push_append]
      exact congrArg some ByteArray.append_empty.symm
  | case4 =>
      have size := length_bytesFrom text index
      rw [isText] at size
      simp only [List.map_nil, List.length_nil] at size
      rw [decodeFrom, dif_neg (by omega), if_pos (by omega)]
      exact congrArg some ByteArray.append_empty.symm

/-! ## Both ways -/

/-- A digit takes one byte of a text. -/
theorem utf8Size_letters
    (content : List UInt8) :
    ∀ character ∈ letters content, character.utf8Size = 1 := by
  have narrow : ∀ value, value < 64 → (digit value).utf8Size = 1 := by
    decide +kernel
  fun_induction letters content with
  | case1 first second third rest narrowRest =>
      have firstSmall := first.toNat_lt
      have secondSmall := second.toNat_lt
      have thirdSmall := third.toNat_lt
      simp only [List.forall_mem_cons]
      exact ⟨narrow _ (by omega), narrow _ (by omega), narrow _ (by omega), narrow _ (by omega),
        narrowRest⟩
  | case2 first second =>
      have firstSmall := first.toNat_lt
      have secondSmall := second.toNat_lt
      simp only [List.forall_mem_cons]
      exact ⟨narrow _ (by omega), narrow _ (by omega), narrow _ (by omega), by decide, by simp⟩
  | case3 first =>
      have firstSmall := first.toNat_lt
      simp only [List.forall_mem_cons]
      exact ⟨narrow _ (by omega), narrow _ (by omega), by decide, by decide, by simp⟩
  | case4 => simp

/-- A text of one-byte characters is as many bytes. -/
theorem data_toUTF8
    {text : List Char}
    (narrow : ∀ character ∈ text, character.utf8Size = 1) :
    (String.ofList text).toUTF8.data.toList = text.map byteOf := by
  have bytes : (String.ofList text).toUTF8.data.toList = text.flatMap String.utf8EncodeChar := by
    simp [List.utf8Encode]
  rw [bytes]
  clear bytes
  induction text with
  | nil => rfl
  | cons character text bytesRest =>
      rw [List.forall_mem_cons] at narrow
      rw [List.flatMap_cons, bytesRest narrow.2, String.utf8EncodeChar_eq_singleton narrow.1]
      rfl

/-- Decoding gives back what has been encoded. -/
theorem decode?_encode (bytes : ByteArray) : decode? (encode bytes) = some bytes := by
  rw [decode?, encode_eq, decodeFrom_eq (Nat.zero_le _)
    (data_toUTF8 (utf8Size_letters bytes.data.toList))]
  congr 1
  apply ByteArray.ext
  simp

end Base64
end ManifestPolicy
