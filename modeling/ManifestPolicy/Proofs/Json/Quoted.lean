import ManifestPolicy.Json.Printer
import ManifestPolicy.Json.Reader
import ManifestPolicy.Proofs.Text.Utf8

/-!
# Strings in quotes

A string that is written in quotes is read back as that string, whatever follows it: a
character with an escape is read from it, and the bytes of all others stand for themselves. The
tokens of a text are those of its parts.
-/

namespace ManifestPolicy
namespace Json

/-! ## Bytes that stand for themselves -/

/-- A byte is no quote, starts no escape and is no control character. -/
def IsPlain (byte : UInt8) : Prop := byte ≠ 0x22 ∧ ¬ byte < 0x20 ∧ byte ≠ 0x5C

theorem isPlain_ofNat
    {code : Nat}
    (isByte : code < 0x100)
    (noQuote : code ≠ 0x22)
    (noEscape : code ≠ 0x5C)
    (printable : ¬ code < 0x20) :
    IsPlain (.ofNat code) := by
  simp only [IsPlain, UInt8.lt_iff_toNat_lt, ne_eq, ← UInt8.toNat_inj, Utf8.toNat_ofNat isByte]
  exact ⟨noQuote, printable, noEscape⟩

theorem isPlain_of_high
    {code : Nat}
    (high : 0x80 ≤ code)
    (isByte : code < 0x100) :
    IsPlain (.ofNat code) :=
  isPlain_ofNat isByte (by omega) (by omega) (by omega)

/-- A character without an escape is written with bytes that stand for themselves. -/
theorem isPlain_of_mem_encodeChar
    {character : Char}
    (noQuote : character ≠ '"')
    (noEscape : character ≠ '\\')
    (printable : ¬ character.toNat < 0x20) :
    ∀ byte ∈ String.utf8EncodeChar character, IsPlain byte := by
  have noQuoteCode : character.val.toNat ≠ 0x22 := fun same => noQuote (Char.toNat_inj.1 same)
  have noEscapeCode : character.val.toNat ≠ 0x5C := fun same => noEscape (Char.toNat_inj.1 same)
  have printableCode : ¬ character.val.toNat < 0x20 := printable
  obtain ⟨_, bytes⟩ | ⟨_, _, bytes⟩ | ⟨_, _, _, bytes⟩ | ⟨_, _, bytes⟩ :=
      Utf8.encodeChar_cases character <;>
    generalize character.val.toNat = code at * <;>
    simp only [bytes, List.forall_mem_cons, List.not_mem_nil, false_imp_iff, implies_true,
      and_true]
  · exact isPlain_ofNat (by omega) noQuoteCode noEscapeCode printableCode
  · exact ⟨isPlain_of_high (by omega) (by omega), isPlain_of_high (by omega) (by omega)⟩
  · exact ⟨isPlain_of_high (by omega) (by omega), isPlain_of_high (by omega) (by omega),
      isPlain_of_high (by omega) (by omega)⟩
  · exact ⟨isPlain_of_high (by omega) (by omega), isPlain_of_high (by omega) (by omega),
      isPlain_of_high (by omega) (by omega), isPlain_of_high (by omega) (by omega)⟩

/-! ## Reading what was escaped -/

/-- A string under way that no surrogate has been left alone in. -/
def started (done : List UInt8) : StringState := ⟨done, none, false⟩

/-- Plain bytes are read as they stand. -/
theorem readString_plain
    {bytes : List UInt8}
    (plain : ∀ byte ∈ bytes, IsPlain byte)
    (done rest : List UInt8) :
    readString (started done) (bytes ++ rest) =
      readString (started (bytes.reverse ++ done)) rest := by
  induction bytes generalizing done with
  | nil => rfl
  | cons byte others readOthers =>
      obtain ⟨⟨noQuote, printable, noEscape⟩, plainOthers⟩ := List.forall_mem_cons.1 plain
      have pushed : (started done).push byte = started (byte :: done) := rfl
      rw [List.cons_append, readString.eq_def]
      simp only [if_neg noQuote, if_neg printable, if_pos noEscape]
      rw [pushed, readOthers plainOthers, List.reverse_cons, List.append_assoc,
        List.singleton_append]

/-- A short escape is read as the one byte it stands for. -/
theorem readString_short
    {code value : UInt8}
    (isShort : shortEscape? code = some value)
    (done rest : List UInt8) :
    readString (started done) (0x5C :: code :: rest) =
      readString (started (value :: done)) rest := by
  have noUnit : code ≠ 0x75 := by
    rintro rfl
    contradiction
  have pushed : (started done).push value = started (value :: done) := rfl
  rw [readString.eq_def]
  simp [noUnit, isShort, pushed]

/-- An escaped unit below the surrogates is read as the bytes of its character. -/
theorem readString_unit
    {first second third fourth : UInt8}
    {unit : Nat}
    (isUnit : unit? first second third fourth = some unit)
    (small : unit < 0xD800)
    (done rest : List UInt8) :
    readString (started done) (0x5C :: 0x75 :: first :: second :: third :: fourth :: rest) =
      readString (started ((String.utf8EncodeChar (Char.ofNat unit)).reverse ++ done)) rest := by
  have bytes := Utf8.encode_eq (String.singleton (Char.ofNat unit))
  rw [String.toList_singleton, List.flatMap_singleton] at bytes
  have pushed : (started done).pushUnit unit =
      started ((String.utf8EncodeChar (Char.ofNat unit)).reverse ++ done) := by
    rw [StringState.pushUnit, if_neg (by omega), if_neg (by omega), ← bytes]
    rfl
  rw [readString.eq_def]
  simp [isUnit, pushed]

/-- The digits of a control character are those of its number. -/
theorem unit?_codeDigits :
    ∀ code < 0x20,
      let third := UInt8.ofNat (Nat.digitChar (code / 16)).toNat
      let fourth := UInt8.ofNat (Nat.digitChar (code % 16)).toNat
      (codeDigits code).flatMap String.utf8EncodeChar = [0x30, 0x30, third, fourth]
        ∧ unit? 0x30 0x30 third fourth = some code := by
  decide

/-- A character is read back from what is written for it. -/
theorem readString_escape
    (character : Char)
    (done rest : List UInt8) :
    readString (started done) ((escape character).flatMap String.utf8EncodeChar ++ rest) =
      readString (started ((String.utf8EncodeChar character).reverse ++ done)) rest := by
  have short (code value : UInt8) (isShort : shortEscape? code = some value) :=
    readString_short isShort done rest
  unfold escape
  split_ifs with isQuote isEscape isLine isReturn isTab isBack isFeed control
  · subst isQuote
    exact short 0x22 0x22 rfl
  · subst isEscape
    exact short 0x5C 0x5C rfl
  · subst isLine
    exact short 0x6E 0x0A rfl
  · subst isReturn
    exact short 0x72 0x0D rfl
  · subst isTab
    exact short 0x74 0x09 rfl
  · subst isBack
    exact short 0x62 0x08 rfl
  · subst isFeed
    exact short 0x66 0x0C rfl
  · obtain ⟨bytes, isUnit⟩ := unit?_codeDigits _ control
    rw [List.flatMap_cons, List.flatMap_cons, bytes]
    have reads := readString_unit isUnit (by omega) done rest
    rwa [Char.ofNat_toNat] at reads
  · rw [List.flatMap_singleton]
    exact readString_plain (isPlain_of_mem_encodeChar isQuote isEscape control) done rest

/-- An escaped text is read back whole, whatever follows it. -/
theorem readString_escaped
    (text : List Char)
    (done rest : List UInt8) :
    readString (started done)
        ((text.flatMap escape).flatMap String.utf8EncodeChar ++ rest) =
      readString (started ((text.flatMap String.utf8EncodeChar).reverse ++ done)) rest := by
  induction text generalizing done with
  | nil => rfl
  | cons character others readOthers =>
      rw [List.flatMap_cons, List.flatMap_append, List.append_assoc, readString_escape,
        readOthers, List.flatMap_cons, List.reverse_append, List.append_assoc]

/-- The bytes of a text finish as that text. -/
theorem finish_started (text : String) :
    (started (Utf8.encode text).reverse).finish = .ok text := by
  have bytes : (⟨(Utf8.encode text).toArray⟩ : ByteArray) = text.toUTF8 := by
    have encoded := Utf8.toUTF8_ofList text.toList
    rw [← Utf8.encode_eq, String.ofList_toList] at encoded
    rw [← encoded]
  have valid : String.fromUTF8? text.toUTF8 = some text := dif_pos text.isValidUTF8
  rw [started, StringState.finish, List.reverse_reverse, bytes, valid]
  rfl

/-- A string in quotes is read as that string, and reading stops after its closing quote. -/
theorem readToken_quote
    (text : String)
    (rest : List UInt8) :
    ∃ body, Utf8.encode (quote text) ++ rest = 0x22 :: body
      ∧ readToken 0x22 body = (.text (.ok text), rest) := by
  refine ⟨(text.toList.flatMap escape).flatMap String.utf8EncodeChar ++ 0x22 :: rest, ?_, ?_⟩
  · rw [Utf8.encode_eq, quote, String.toList_ofList, List.flatMap_append, List.flatMap_cons,
      List.append_assoc, List.append_assoc]
    rfl
  · have reads : readString ⟨[], none, false⟩
        ((text.toList.flatMap escape).flatMap String.utf8EncodeChar ++ 0x22 :: rest) =
          (.ok text, rest) := by
      have closed (state : StringState) :
          readString state (0x22 :: rest) = (state.finish, rest) := by
        rw [readString.eq_def]
        rfl
      rw [← started, readString_escaped, closed, List.append_nil, ← Utf8.encode_eq,
        finish_started]
    simp [readToken, reads]

/-! ## The tokens of a text -/

/-- A text is read as tokens, one after the other, whatever follows it. -/
structure Lexes (bytes : List UInt8) (read : List Token) : Prop where
  count : read.length ≤ bytes.length
  reads :
    ∀ (fuel : Nat) (done : List Token) (rest : List UInt8),
      readTokens (fuel + read.length) done (bytes ++ rest) =
        readTokens fuel (read.reverse ++ done) rest

/-- Texts that are read on their own are read one after the other. -/
theorem Lexes.append
    {bytes otherBytes : List UInt8}
    {read otherRead : List Token}
    (lexes : Lexes bytes read)
    (other : Lexes otherBytes otherRead) :
    Lexes (bytes ++ otherBytes) (read ++ otherRead) where
  count := by
    rw [List.length_append, List.length_append]
    exact Nat.add_le_add lexes.count other.count
  reads fuel done rest := by
    rw [List.length_append, Nat.add_comm read.length, ← Nat.add_assoc, List.append_assoc,
      lexes.reads, other.reads, List.reverse_append, List.append_assoc]

/-- One token, with no condition on what follows it. -/
theorem lexes_of_readToken
    {bytes : List UInt8}
    {byte : UInt8}
    {token : Token}
    (noSpace : isSpace byte = false)
    (goesOn : token.goesOn = true)
    (reads : ∀ rest, ∃ body, bytes ++ rest = byte :: body ∧ readToken byte body = (token, rest)) :
    Lexes bytes [token] where
  count := by
    obtain ⟨body, isBytes, -⟩ := reads []
    rw [List.append_nil] at isBytes
    simp [isBytes]
  reads fuel done rest := by
    obtain ⟨body, isBytes, isToken⟩ := reads rest
    have stays : (byte :: body).dropWhile isSpace = byte :: body :=
      List.dropWhile_cons_of_neg (by simp [noSpace])
    rw [isBytes, List.length_singleton, readTokens, stays]
    simp [isToken, goesOn]

theorem lexes_mark
    {mark : String}
    {token : Token}
    (byte : UInt8)
    (isByte : Utf8.encode mark = [byte])
    (noSpace : isSpace byte = false)
    (goesOn : token.goesOn = true)
    (reads : ∀ rest, readToken byte rest = (token, rest)) :
    Lexes (Utf8.encode mark) [token] :=
  lexes_of_readToken noSpace goesOn fun rest => ⟨rest, by rw [isByte]; rfl, reads rest⟩

theorem lexes_openObject : Lexes (Utf8.encode "\x7b") [.openObject] :=
  lexes_mark 0x7B (by decide +kernel) rfl rfl fun _ => rfl

theorem lexes_closeObject : Lexes (Utf8.encode "\x7d") [.closeObject] :=
  lexes_mark 0x7D (by decide +kernel) rfl rfl fun _ => rfl

theorem lexes_colon : Lexes (Utf8.encode ":") [.colon] :=
  lexes_mark 0x3A (by decide +kernel) rfl rfl fun _ => rfl

theorem lexes_comma : Lexes (Utf8.encode ",") [.comma] :=
  lexes_mark 0x2C (by decide +kernel) rfl rfl fun _ => rfl

theorem lexes_quote (text : String) : Lexes (Utf8.encode (quote text)) [.text (.ok text)] :=
  lexes_of_readToken (by decide) rfl (readToken_quote text)

/-- Nothing is left of a text that lexes. -/
theorem tokens_of_lexes
    {bytes : List UInt8}
    {read : List Token}
    (lexes : Lexes bytes read) :
    tokens bytes = read := by
  have ended (fuel : Nat) (done : List Token) : readTokens fuel done [] = done.reverse := by
    cases fuel <;> rfl
  have reads := lexes.reads (bytes.length - read.length) [] []
  rwa [Nat.sub_add_cancel lexes.count, List.append_nil, List.append_nil, ended,
    List.reverse_reverse] at reads

end Json
end ManifestPolicy
