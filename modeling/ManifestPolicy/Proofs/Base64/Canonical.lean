import ManifestPolicy.Proofs.Base64

/-!
# The texts that Base64 writes

A text consists of digits of the standard alphabet, with the padding that completes its last
block of four, and its length depends on the number of bytes alone. The decoder refuses every
other text: what it accepts is the text that the encoder writes for the bytes it gives.
-/

namespace ManifestPolicy
namespace Base64

/-! ## Length and alphabet -/

/-- Every three bytes are four letters, and so are those that are left over. -/
theorem length_letters (content : List UInt8) :
    (letters content).length = encodedLength content.length := by
  fun_induction letters content with
  | case1 first second third rest lengthRest =>
      simp only [List.length_cons, lengthRest, encodedLength]
      omega
  | case2 => simp [encodedLength]
  | case3 => simp [encodedLength]
  | case4 => rfl

/-- The text takes as many bytes as were computed from the number of bytes. -/
theorem utf8ByteSize_encode (bytes : ByteArray) :
    (encode bytes).utf8ByteSize = encodedLength bytes.size := by
  have size := congrArg List.length (data_toUTF8 (utf8Size_letters bytes.data.toList))
  rw [List.length_map, length_letters, ← encode_eq] at size
  simpa using size

/-- The digits in the order of their values. -/
def alphabet : List Char :=
  "ABCDEFGHIJKLMNOPQRSTUVWXYZabcdefghijklmnopqrstuvwxyz0123456789+/".toList

theorem getElem?_alphabet
    {value : Nat}
    (small : value < 64) :
    alphabet[value]? = some (digit value) := by
  revert value
  decide +kernel

theorem digit_mem_alphabet
    {value : Nat}
    (small : value < 64) :
    digit value ∈ alphabet :=
  List.mem_of_getElem? (getElem?_alphabet small)

/-- The padding that a number of bytes needs. -/
def padding (count : Nat) : Nat := (3 - count % 3) % 3

/-- The letters of bytes are digits of the alphabet, and padding only at their end. -/
theorem exists_letters_eq (content : List UInt8) :
    ∃ digits, letters content = digits ++ List.replicate (padding content.length) '='
      ∧ ∀ character ∈ digits, character ∈ alphabet := by
  fun_induction letters content with
  | case1 first second third rest digitsRest =>
      obtain ⟨digits, isText, inAlphabet⟩ := digitsRest
      have firstSmall := first.toNat_lt
      have secondSmall := second.toNat_lt
      have thirdSmall := third.toNat_lt
      refine ⟨digit (first.toNat / 4) :: digit (first.toNat % 4 * 16 + second.toNat / 16)
        :: digit (second.toNat % 16 * 4 + third.toNat / 64) :: digit (third.toNat % 64)
        :: digits, ?_, ?_⟩
      · have samePadding : padding (first :: second :: third :: rest).length =
            padding rest.length := by
          simp only [padding, List.length_cons]
          omega
        rw [isText, samePadding]
        rfl
      · simp only [List.forall_mem_cons]
        exact ⟨digit_mem_alphabet (by omega), digit_mem_alphabet (by omega),
          digit_mem_alphabet (by omega), digit_mem_alphabet (by omega), inAlphabet⟩
  | case2 first second =>
      have firstSmall := first.toNat_lt
      have secondSmall := second.toNat_lt
      refine ⟨[digit (first.toNat / 4), digit (first.toNat % 4 * 16 + second.toNat / 16),
        digit (second.toNat % 16 * 4)], rfl, ?_⟩
      simp only [List.forall_mem_cons]
      exact ⟨digit_mem_alphabet (by omega), digit_mem_alphabet (by omega),
        digit_mem_alphabet (by omega), by simp⟩
  | case3 first =>
      have firstSmall := first.toNat_lt
      refine ⟨[digit (first.toNat / 4), digit (first.toNat % 4 * 16)], rfl, ?_⟩
      simp only [List.forall_mem_cons]
      exact ⟨digit_mem_alphabet (by omega), digit_mem_alphabet (by omega), by simp⟩
  | case4 => exact ⟨[], rfl, by simp⟩

/-- A text is digits and then the padding. -/
theorem exists_encode_eq (bytes : ByteArray) :
    ∃ digits, (encode bytes).toList = digits ++ List.replicate (padding bytes.size) '='
      ∧ ∀ character ∈ digits, character ∈ alphabet := by
  rw [encode_eq, String.toList_ofList]
  exact exists_letters_eq bytes.data.toList

/-! ## What is decoded -/

/-- A byte stands for a number below 64 if it is the letter of that number, and no other byte
does. -/
theorem value?_eq_some_iff
    {byte : UInt8}
    {value : Nat} :
    value? byte = some value ↔ value < 64 ∧ byte = byteOf (digit value) := by
  constructor
  · -- The ranges of the digits are easier tried on all bytes than inverted one by one.
    have all : ∀ number < 256, ∀ value ∈ value? (UInt8.ofNat number),
        value < 64 ∧ UInt8.ofNat number = byteOf (digit value) := by
      decide +kernel
    intro isValue
    have isDigit := all byte.toNat byte.toNat_lt value
    rw [UInt8.ofNat_toNat] at isDigit
    exact isDigit isValue
  · rintro ⟨small, rfl⟩
    exact value?_digit small

theorem toNat_toUInt8
    {number : Nat}
    (fits : number < 256) :
    number.toUInt8.toNat = number :=
  UInt8.toNat_ofNat_of_lt' fits

/-- The digits of bytes that were put together from the values of four digits. -/
theorem letters_of_four
    {first second third fourth : Nat}
    (firstSmall : first < 64)
    (secondSmall : second < 64)
    (thirdSmall : third < 64)
    (fourthSmall : fourth < 64)
    (rest : List UInt8) :
    letters ((first * 4 + second / 16).toUInt8 :: (second % 16 * 16 + third / 4).toUInt8
        :: (third % 4 * 64 + fourth).toUInt8 :: rest) =
      digit first :: digit second :: digit third :: digit fourth :: letters rest := by
  have firstDigit : (first * 4 + second / 16) / 4 = first := by omega
  have secondDigit :
      (first * 4 + second / 16) % 4 * 16 + (second % 16 * 16 + third / 4) / 16 = second := by
    omega
  have thirdDigit :
      (second % 16 * 16 + third / 4) % 16 * 4 + (third % 4 * 64 + fourth) / 64 = third := by
    omega
  have fourthDigit : (third % 4 * 64 + fourth) % 64 = fourth := by omega
  rw [letters, toNat_toUInt8 (by omega), toNat_toUInt8 (by omega), toNat_toUInt8 (by omega),
    firstDigit, secondDigit, thirdDigit, fourthDigit]

/-- The digits of two bytes that were put together from three digits, the last of which has two
bits to spare. -/
theorem letters_of_three
    {first second third : Nat}
    (firstSmall : first < 64)
    (secondSmall : second < 64)
    (thirdSmall : third < 64)
    (spare : third % 4 = 0) :
    letters [(first * 4 + second / 16).toUInt8, (second % 16 * 16 + third / 4).toUInt8] =
      [digit first, digit second, digit third, '='] := by
  have firstDigit : (first * 4 + second / 16) / 4 = first := by omega
  have secondDigit :
      (first * 4 + second / 16) % 4 * 16 + (second % 16 * 16 + third / 4) / 16 = second := by
    omega
  have thirdDigit : (second % 16 * 16 + third / 4) % 16 * 4 = third := by omega
  rw [letters, toNat_toUInt8 (by omega), toNat_toUInt8 (by omega), firstDigit, secondDigit,
    thirdDigit]

/-- The digits of a byte that was put together from two digits, the last of which has four bits
to spare. -/
theorem letters_of_two
    {first second : Nat}
    (firstSmall : first < 64)
    (secondSmall : second < 64)
    (spare : second % 16 = 0) :
    letters [(first * 4 + second / 16).toUInt8] = [digit first, digit second, '=', '='] := by
  have firstDigit : (first * 4 + second / 16) / 4 = first := by omega
  have secondDigit : (first * 4 + second / 16) % 4 * 16 = second := by omega
  rw [letters, toNat_toUInt8 (by omega), firstDigit, secondDigit]

/-- Four bytes that are left are a block and what is after it. -/
theorem bytesFrom_eq_block
    {bytes : ByteArray}
    {index : Nat}
    (first : index < bytes.size)
    (second : index + 1 < bytes.size)
    (third : index + 2 < bytes.size)
    (fourth : index + 3 < bytes.size) :
    bytesFrom bytes index =
      bytes[index] :: bytes[index + 1] :: bytes[index + 2] :: bytes[index + 3]
        :: bytesFrom bytes (index + 4) := by
  rw [bytesFrom_eq_cons first, bytesFrom_eq_cons second, bytesFrom_eq_cons third,
    bytesFrom_eq_cons fourth]

/-- The decoder accepts only the digits of bytes, and appends these bytes. -/
theorem exists_of_decodeFrom
    {text : ByteArray}
    {index : Nat}
    {bytes result : ByteArray}
    (decodes : decodeFrom text index bytes = some result) :
    ∃ content, bytesFrom text index = (letters content).map byteOf
      ∧ result = bytes ++ content.toByteArray := by
  fun_induction decodeFrom text index bytes with
  | case1 index bytes block first second isSecond isFirst _ third fourth isFourth isThird
      decodeRest =>
      obtain ⟨rest, isRest, rfl⟩ := decodeRest decodes
      obtain ⟨firstSmall, isFirst⟩ := value?_eq_some_iff.1 isFirst
      obtain ⟨secondSmall, isSecond⟩ := value?_eq_some_iff.1 isSecond
      obtain ⟨thirdSmall, isThird⟩ := value?_eq_some_iff.1 isThird
      obtain ⟨fourthSmall, isFourth⟩ := value?_eq_some_iff.1 isFourth
      refine ⟨_ :: _ :: _ :: rest, ?_, by rw [push_append, push_append, push_append]⟩
      rw [letters_of_four firstSmall secondSmall thirdSmall fourthSmall,
        bytesFrom_eq_block (by omega) (by omega) (by omega) block, isFirst, isSecond, isThird,
        isFourth, isRest]
      rfl
  | case2 index bytes block first second isSecond isFirst _ third _ isThird padded =>
      obtain ⟨firstSmall, isFirst⟩ := value?_eq_some_iff.1 isFirst
      obtain ⟨secondSmall, isSecond⟩ := value?_eq_some_iff.1 isSecond
      obtain ⟨thirdSmall, isThird⟩ := value?_eq_some_iff.1 isThird
      obtain ⟨isPadding, ends, spare⟩ := padded
      refine ⟨[(first * 4 + second / 16).toUInt8, (second % 16 * 16 + third / 4).toUInt8],
        ?_, ?_⟩
      · rw [letters_of_three firstSmall secondSmall thirdSmall spare,
          bytesFrom_eq_block (by omega) (by omega) (by omega) block, isFirst, isSecond, isThird,
          isPadding, bytesFrom_eq_nil (by omega)]
        rfl
      · rw [← Option.some.inj decodes, ← push_append, ← push_append]
        exact ByteArray.append_empty.symm
  | case4 index bytes block first second isSecond isFirst _ _ padded =>
      obtain ⟨firstSmall, isFirst⟩ := value?_eq_some_iff.1 isFirst
      obtain ⟨secondSmall, isSecond⟩ := value?_eq_some_iff.1 isSecond
      obtain ⟨isPadding, alsoPadding, ends, spare⟩ := padded
      refine ⟨[(first * 4 + second / 16).toUInt8], ?_, ?_⟩
      · rw [letters_of_two firstSmall secondSmall spare,
          bytesFrom_eq_block (by omega) (by omega) (by omega) block, isFirst, isSecond, isPadding,
          alsoPadding, bytesFrom_eq_nil (by omega)]
        rfl
      · rw [← Option.some.inj decodes, ← push_append]
        exact ByteArray.append_empty.symm
  | case7 bytes _ =>
      refine ⟨[], bytesFrom_eq_nil (Nat.le_refl _), ?_⟩
      rw [← Option.some.inj decodes]
      exact ByteArray.append_empty.symm
  | case3 | case5 | case6 | case8 => contradiction

/-- The decoder accepts exactly what the encoder writes. -/
theorem decode?_eq_some_iff
    {text : String}
    {bytes : ByteArray} :
    decode? text = some bytes ↔ text = encode bytes := by
  constructor
  · intro decodes
    obtain ⟨content, isText, rfl⟩ := exists_of_decodeFrom decodes
    have sameBytes : text.toUTF8 = (String.ofList (letters content)).toUTF8 := by
      apply ByteArray.ext
      apply Array.ext'
      rw [data_toUTF8 (utf8Size_letters content), ← isText]
      rfl
    rw [encode_eq, String.toByteArray_inj.1 sameBytes]
    simp
  · rintro rfl
    exact decode?_encode bytes

end Base64
end ManifestPolicy
