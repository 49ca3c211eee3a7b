import ManifestPolicy.Text.Utf8
import Mathlib.Data.List.Basic

/-!
# Texts and their bytes

The lossy reader takes the bytes of a text for that text, so texts that are shown alike are
the same. Bytes are ordered as texts are: the first byte of a longer character is greater,
and characters of one length differ first where their numbers do.
-/

namespace ManifestPolicy
namespace Utf8

/-! ## The bytes of a text -/

theorem toList_loop
    (bytes : ByteArray)
    (index : Nat)
    (taken : List UInt8) :
    ByteArray.toList.loop bytes index taken = taken.reverse ++ bytes.data.toList.drop index := by
  fun_induction ByteArray.toList.loop bytes index taken with
  | case1 index taken inside loopRest =>
      have inList : index < bytes.data.toList.length := by simpa using inside
      have isNext : bytes.get! index = bytes.data.toList[index] := by
        rw [Array.getElem_toList, ← getElem!_pos bytes.data index (by simpa using inList)]
        rfl
      rw [loopRest, List.drop_eq_getElem_cons inList, isNext, List.reverse_cons, List.append_assoc,
        List.singleton_append]
  | case2 index taken outside =>
      rw [List.drop_eq_nil_of_le (by simpa using Nat.le_of_not_lt outside), List.append_nil]

theorem toUTF8_ofList (text : List Char) :
    (String.ofList text).toUTF8.data.toList = text.flatMap String.utf8EncodeChar := by
  simp [List.utf8Encode]

theorem encode_eq (text : String) :
    encode text = text.toList.flatMap String.utf8EncodeChar := by
  have bytes := toUTF8_ofList text.toList
  rw [String.ofList_toList] at bytes
  rw [encode, ByteArray.toList, toList_loop, List.drop_zero, List.reverse_nil, List.nil_append,
    bytes]

@[simp] theorem encode_append (left right : String) :
    encode (left ++ right) = encode left ++ encode right := by
  simp [encode_eq]

/-- The bytes of a character by the size of its number. -/
theorem encodeChar_cases (character : Char) :
    let code := character.val.toNat
    (code < 0x80 ∧ String.utf8EncodeChar character = [.ofNat code])
      ∨ (0x80 ≤ code ∧ code < 0x800
        ∧ String.utf8EncodeChar character =
          [.ofNat (0xC0 + code / 64), .ofNat (0x80 + code % 64)])
      ∨ (0x800 ≤ code ∧ code < 0x10000 ∧ ¬(0xD800 ≤ code ∧ code < 0xE000)
        ∧ String.utf8EncodeChar character =
          [.ofNat (0xE0 + code / 4096), .ofNat (0x80 + code / 64 % 64),
            .ofNat (0x80 + code % 64)])
      ∨ (0x10000 ≤ code ∧ code < 0x110000
        ∧ String.utf8EncodeChar character =
          [.ofNat (0xF0 + code / 262144), .ofNat (0x80 + code / 4096 % 64),
            .ofNat (0x80 + code / 64 % 64), .ofNat (0x80 + code % 64)]) := by
  intro code
  have valid : code < 0xD800 ∨ (0xDFFF < code ∧ code < 0x110000) := character.valid
  have bytes : String.utf8EncodeChar character =
      if code ≤ 127 then [.ofNat code]
      else if code ≤ 2047 then [.ofNat (code / 64 % 32 + 192), .ofNat (code % 64 + 128)]
      else if code ≤ 65535 then
        [.ofNat (code / 4096 % 16 + 224), .ofNat (code / 64 % 64 + 128), .ofNat (code % 64 + 128)]
      else
        [.ofNat (code / 262144 % 8 + 240), .ofNat (code / 4096 % 64 + 128),
          .ofNat (code / 64 % 64 + 128), .ofNat (code % 64 + 128)] := rfl
  rw [bytes]
  by_cases one : code ≤ 127
  · exact .inl ⟨by omega, if_pos one⟩
  rw [if_neg one]
  by_cases two : code ≤ 2047
  · refine .inr (.inl ⟨by omega, by omega, ?_⟩)
    rw [if_pos two, Nat.mod_eq_of_lt (by omega : code / 64 < 32), Nat.add_comm _ 192,
      Nat.add_comm _ 128]
  rw [if_neg two]
  by_cases three : code ≤ 65535
  · refine .inr (.inr (.inl ⟨by omega, by omega, by omega, ?_⟩))
    rw [if_pos three, Nat.mod_eq_of_lt (by omega : code / 4096 < 16), Nat.add_comm _ 224,
      Nat.add_comm _ 128, Nat.add_comm _ 128]
  · refine .inr (.inr (.inr ⟨by omega, by omega, ?_⟩))
    rw [if_neg three, Nat.mod_eq_of_lt (by omega : code / 262144 < 8), Nat.add_comm _ 240,
      Nat.add_comm _ 128, Nat.add_comm _ 128, Nat.add_comm _ 128]

theorem toNat_ofNat {byte : Nat} (small : byte < 256) : (UInt8.ofNat byte).toNat = byte := by
  rw [UInt8.toNat_ofNat']
  exact Nat.mod_eq_of_lt small

theorem ne_nil_encodeChar (character : Char) : String.utf8EncodeChar character ≠ [] := by
  obtain ⟨_, bytes⟩ | ⟨_, _, bytes⟩ | ⟨_, _, _, bytes⟩ | ⟨_, _, bytes⟩ :=
    encodeChar_cases character <;>
    rw [bytes] <;>
    exact List.cons_ne_nil _ _

/-! ## Reading the bytes of a text -/

/-- A byte at the start of a character, by what it means. -/
theorem step_start
    {byte : Nat}
    (small : byte < 256)
    (done : List Piece) :
    Cutting.step ⟨done, none⟩ (.ofNat byte) = .start done byte := by
  rw [Cutting.step, toNat_ofNat small]

/-- A byte that goes on with a character of which more than one is owed. -/
theorem step_owed
    {byte : Nat}
    {opening : Opening}
    (inside : opening.least ≤ 0x80 + byte ∧ 0x80 + byte ≤ opening.greatest)
    (small : byte < 64)
    (more : 1 < opening.owed)
    (done : List Piece) :
    Cutting.step ⟨done, some opening⟩ (.ofNat (0x80 + byte)) =
      ⟨done, some ⟨opening.payload * 64 + byte, opening.taken + 1, opening.owed - 1, 0x80,
        0xBF⟩⟩ := by
  simp only [Cutting.step, toNat_ofNat (show 0x80 + byte < 256 by omega)]
  rw [if_pos inside, if_neg (by omega), Nat.add_sub_cancel_left]

/-- A byte that ends a character. -/
theorem step_last
    {byte : Nat}
    {opening : Opening}
    (inside : opening.least ≤ 0x80 + byte ∧ 0x80 + byte ≤ opening.greatest)
    (small : byte < 64)
    (last : opening.owed = 1)
    (done : List Piece) :
    Cutting.step ⟨done, some opening⟩ (.ofNat (0x80 + byte)) =
      ⟨.character (Char.ofNat (opening.payload * 64 + byte)) :: done, none⟩ := by
  simp only [Cutting.step, toNat_ofNat (show 0x80 + byte < 256 by omega)]
  rw [if_pos inside, if_pos (by omega), Nat.add_sub_cancel_left]

theorem lead_two
    {payload : Nat}
    (least : 2 ≤ payload)
    (greatest : payload < 32) :
    lead (0xC0 + payload) = .opens ⟨payload, 1, 1, 0x80, 0xBF⟩ := by
  rw [lead, if_neg (by omega), if_neg (by omega), if_pos (by omega), Nat.add_sub_cancel_left]

theorem lead_three
    {payload : Nat}
    (greatest : payload < 16) :
    lead (0xE0 + payload) =
      .opens ⟨payload, 1, 2, if payload = 0 then 0xA0 else 0x80,
        if payload = 0xD then 0x9F else 0xBF⟩ := by
  rw [lead, if_neg (by omega), if_neg (by omega), if_neg (by omega)]
  by_cases first : payload = 0
  · simp [first]
  rw [if_neg (by omega), if_neg first]
  by_cases surrogate : payload = 0xD
  · simp [surrogate]
  rw [if_neg (by omega), if_pos (by omega), if_neg surrogate, Nat.add_sub_cancel_left]

theorem lead_four
    {payload : Nat}
    (greatest : payload < 5) :
    lead (0xF0 + payload) =
      .opens ⟨payload, 1, 3, if payload = 0 then 0x90 else 0x80,
        if payload = 4 then 0x8F else 0xBF⟩ := by
  rw [lead, if_neg (by omega), if_neg (by omega), if_neg (by omega), if_neg (by omega),
    if_neg (by omega), if_neg (by omega)]
  by_cases first : payload = 0
  · simp [first]
  rw [if_neg (by omega), if_neg first]
  by_cases last : payload = 4
  · simp [last]
  rw [if_pos (by omega), if_neg last, Nat.add_sub_cancel_left]

/-- The bytes of a character are cut into that character. -/
theorem foldl_step_encodeChar
    (done : List Piece)
    (character : Char) :
    (String.utf8EncodeChar character).foldl Cutting.step ⟨done, none⟩ =
      ⟨.character character :: done, none⟩ := by
  have same : Char.ofNat character.val.toNat = character := Char.ofNat_toNat character
  have sizes := encodeChar_cases character
  generalize character.val.toNat = code at same sizes
  obtain ⟨_, bytes⟩ | ⟨_, _, bytes⟩ | ⟨_, _, notSurrogate, bytes⟩ | ⟨_, _, bytes⟩ := sizes
  · rw [bytes, List.foldl_cons, List.foldl_nil, step_start (by omega), Cutting.start, lead,
      if_pos (by omega), same]
  · simp only [bytes, List.foldl_cons, List.foldl_nil]
    rw [step_start (by omega), Cutting.start, lead_two (by omega) (by omega)]
    dsimp only
    rw [step_last (by dsimp only; omega) (by omega) rfl]
    dsimp only
    rw [show code / 64 * 64 + code % 64 = code by omega, same]
  · simp only [bytes, List.foldl_cons, List.foldl_nil]
    rw [step_start (by omega), Cutting.start, lead_three (by omega)]
    dsimp only
    rw [step_owed (by dsimp only; split <;> split <;> omega) (by omega) (by dsimp only; omega)]
    dsimp only
    rw [step_last (by dsimp only; omega) (by omega) rfl]
    dsimp only
    rw [show (code / 4096 * 64 + code / 64 % 64) * 64 + code % 64 = code by omega, same]
  · simp only [bytes, List.foldl_cons, List.foldl_nil]
    rw [step_start (by omega), Cutting.start, lead_four (by omega)]
    dsimp only
    rw [step_owed (by dsimp only; split <;> split <;> omega) (by omega) (by dsimp only; omega)]
    dsimp only
    rw [step_owed (by dsimp only; omega) (by omega) (by dsimp only; omega)]
    dsimp only
    rw [step_last (by dsimp only; omega) (by omega) rfl]
    dsimp only
    rw [show ((code / 262144 * 64 + code / 4096 % 64) * 64 + code / 64 % 64) * 64 + code % 64 =
      code by omega, same]

/-- The bytes of a text are cut into its characters. -/
theorem pieces_encode (text : String) :
    pieces (encode text) = text.toList.map Piece.character := by
  have cut : ∀ (characters : List Char) (done : List Piece),
      (characters.flatMap String.utf8EncodeChar).foldl Cutting.step ⟨done, none⟩ =
        ⟨(characters.map Piece.character).reverse ++ done, none⟩ := by
    intro characters
    induction characters with
    | nil => exact fun done => rfl
    | cons character rest cutRest =>
        intro done
        rw [List.flatMap_cons, List.foldl_append, foldl_step_encodeChar, cutRest, List.map_cons,
          List.reverse_cons, List.append_assoc, List.singleton_append]
  rw [pieces, encode_eq, cut]
  simp

/-- A text is shown as itself. -/
theorem lossy_encode (text : String) : lossy (encode text) = text := by
  rw [lossy, pieces_encode, List.map_map]
  simp [Function.comp_def]

/-! ## The order of texts -/

/-- Bytes are compared by their numbers, and then by what follows. -/
theorem compare_cons_of_le
    {left right : Nat}
    (before : left ≤ right)
    (small : right < 256)
    {leftRest rightRest : List UInt8}
    (thenBefore : left = right → compare leftRest rightRest = .lt) :
    compare (UInt8.ofNat left :: leftRest) (UInt8.ofNat right :: rightRest) = .lt := by
  rw [List.compare_cons_cons]
  rcases Nat.lt_or_eq_of_le before with less | same
  · have bytesBefore : UInt8.ofNat left < UInt8.ofNat right := by
      rw [UInt8.lt_iff_toNat_lt, toNat_ofNat (by omega), toNat_ofNat small]
      exact less
    have compares : compare (UInt8.ofNat left) (UInt8.ofNat right) = .lt :=
      if_pos bytesBefore
    rw [compares]
    rfl
  · have equal : compare (UInt8.ofNat right) (UInt8.ofNat right) = .eq :=
      Std.ReflCmp.compare_self
    rw [same, equal, thenBefore same]
    rfl

theorem compare_cons_of_lt
    {left right : Nat}
    (before : left < right)
    (small : right < 256)
    (leftRest rightRest : List UInt8) :
    compare (UInt8.ofNat left :: leftRest) (UInt8.ofNat right :: rightRest) = .lt :=
  compare_cons_of_le (Nat.le_of_lt before) small fun same =>
    absurd same (Nat.ne_of_lt before)

/-- The bytes of a character come before those of one with a greater number, whatever
follows them. -/
theorem compare_encodeChar
    {left right : Char}
    (before : left.val.toNat < right.val.toNat)
    (leftRest rightRest : List UInt8) :
    compare (String.utf8EncodeChar left ++ leftRest)
        (String.utf8EncodeChar right ++ rightRest) = .lt := by
  have leftSizes := encodeChar_cases left
  have rightSizes := encodeChar_cases right
  generalize left.val.toNat = leftCode at before leftSizes
  generalize right.val.toNat = rightCode at before rightSizes
  -- The lead bytes of longer characters are greater; characters of one size differ in the
  -- first byte in which their numbers do.
  obtain ⟨_, leftBytes⟩ | ⟨_, _, leftBytes⟩ | ⟨_, _, _, leftBytes⟩ | ⟨_, _, leftBytes⟩ :=
    leftSizes
  · obtain ⟨_, rightBytes⟩ | ⟨_, _, rightBytes⟩ | ⟨_, _, _, rightBytes⟩ | ⟨_, _, rightBytes⟩ :=
      rightSizes <;>
      rw [leftBytes, rightBytes] <;>
      exact compare_cons_of_lt (by omega) (by omega) _ _
  · obtain ⟨_, rightBytes⟩ | ⟨_, _, rightBytes⟩ | ⟨_, _, _, rightBytes⟩ | ⟨_, _, rightBytes⟩ :=
      rightSizes
    · omega
    · rw [leftBytes, rightBytes]
      exact compare_cons_of_le (by omega) (by omega) fun _ =>
        compare_cons_of_lt (by omega) (by omega) _ _
    all_goals
      rw [leftBytes, rightBytes]
      exact compare_cons_of_lt (by omega) (by omega) _ _
  · obtain ⟨_, rightBytes⟩ | ⟨_, _, rightBytes⟩ | ⟨_, _, _, rightBytes⟩ | ⟨_, _, rightBytes⟩ :=
      rightSizes
    · omega
    · omega
    · rw [leftBytes, rightBytes]
      exact compare_cons_of_le (by omega) (by omega) fun _ =>
        compare_cons_of_le (by omega) (by omega) fun _ =>
          compare_cons_of_lt (by omega) (by omega) _ _
    · rw [leftBytes, rightBytes]
      exact compare_cons_of_lt (by omega) (by omega) _ _
  · obtain ⟨_, rightBytes⟩ | ⟨_, _, rightBytes⟩ | ⟨_, _, _, rightBytes⟩ | ⟨_, _, rightBytes⟩ :=
      rightSizes
    · omega
    · omega
    · omega
    · rw [leftBytes, rightBytes]
      exact compare_cons_of_le (by omega) (by omega) fun _ =>
        compare_cons_of_le (by omega) (by omega) fun _ =>
          compare_cons_of_le (by omega) (by omega) fun _ =>
            compare_cons_of_lt (by omega) (by omega) _ _

/-- What lists have in common at their starts does not matter to their order. -/
theorem compare_append_left
    {α : Type}
    [Ord α]
    [Std.ReflOrd α]
    (shared left right : List α) :
    compare (shared ++ left) (shared ++ right) = compare left right := by
  induction shared with
  | nil => rfl
  | cons item shared compareShared =>
      have equal : compare item item = .eq := Std.ReflCmp.compare_self
      rw [List.cons_append, List.cons_append, List.compare_cons_cons, equal, compareShared]
      rfl

/-- The bytes of texts are in the order of the texts. -/
theorem compare_encode_of_lt
    {left right : String}
    (before : compare left right = .lt) :
    compare (encode left) (encode right) = .lt := by
  have textBefore : left.toList < right.toList := by
    rw [← String.lt_iff]
    by_contra notBefore
    change compareOfLessAndEq left right = .lt at before
    rw [compareOfLessAndEq, if_neg notBefore] at before
    split at before <;> contradiction
  rw [encode_eq, encode_eq]
  generalize left.toList = leftText at textBefore
  generalize right.toList = rightText at textBefore
  induction textBefore with
  | @nil character rest =>
      obtain ⟨first, others, bytes⟩ := List.exists_cons_of_ne_nil (ne_nil_encodeChar character)
      rw [List.flatMap_cons, bytes]
      rfl
  | @rel first rest second others characterBefore =>
      rw [List.flatMap_cons, List.flatMap_cons]
      exact compare_encodeChar (UInt32.lt_iff_toNat_lt.1 characterBefore) _ _
  | @cons character rest others restBefore compareRest =>
      rw [List.flatMap_cons, List.flatMap_cons, compare_append_left]
      exact compareRest

end Utf8
end ManifestPolicy
