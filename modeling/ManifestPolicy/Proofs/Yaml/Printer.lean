import ManifestPolicy.Proofs.Yaml.Lines
import ManifestPolicy.Yaml.Printer
import ManifestPolicy.Text.Blank

/-!
# Lines of written values

Only what begins a line in the first column could be taken for a directive or for a line that
begins or ends a document. Values never write such a line: scalars that would are quoted, and
their further lines are indented.
-/

namespace ManifestPolicy
namespace Yaml

/-- The characters that end a line, one by one. -/
theorem isBreak_cases
    {character : Char}
    (breaks : isBreak character = true) :
    character = '\r' ∨ character = '\n' ∨ character = nextLine ∨ character = lineSeparator
      ∨ character = paragraphSeparator := by
  simp only [isBreak, Bool.or_eq_true, beq_iff_eq] at breaks
  rcases breaks with (((rfl | rfl) | rfl) | rfl) | rfl <;> simp

/-- A kind of characters that no line break is of has none of them. -/
theorem not_isBreak_of
    {kind : Char → Bool}
    {character : Char}
    (isKind : kind character = true)
    (none : kind '\r' = false ∧ kind '\n' = false ∧ kind nextLine = false
      ∧ kind lineSeparator = false ∧ kind paragraphSeparator = false) :
    isBreak character = false := by
  cases breaks : isBreak character with
  | false => rfl
  | true =>
      obtain ⟨carriage, feed, next, line, paragraph⟩ := none
      rcases isBreak_cases breaks with rfl | rfl | rfl | rfl | rfl <;> simp_all

/-- Characters that are all in one line. -/
def InLine (text : List Char) : Prop := ∀ character ∈ text, isBreak character = false

theorem inLine_of_all
    {text : List Char}
    (inLine : text.all (fun character => !isBreak character) = true) :
    InLine text := by
  intro character present
  simpa using List.all_eq_true.1 inLine character present

theorem InLine.append
    {first second : List Char}
    (firstInLine : InLine first)
    (secondInLine : InLine second) :
    InLine (first ++ second) := by
  intro character present
  rcases List.mem_append.1 present with present | present
  · exact firstInLine character present
  · exact secondInLine character present

theorem inLine_replicate (count : Nat) : InLine (List.replicate count ' ') := by
  intro character present
  rw [List.eq_of_mem_replicate present]
  rfl

namespace Pen

/-- What has been written on the line of the pen. -/
def line (pen : Pen) : List Char := lastLine pen.written

/-- Nothing that is added to the line of the pen makes it begin with a mark, unless the line is
empty. -/
structure Ready (pen : Pen) : Prop where
  plain : Plain pen.written
  begun : pen.line = [] ∨ Sealed pen.line

/-- The same, once there is a blank behind what has been written. -/
structure Kept (pen : Pen) : Prop where
  plain : Plain pen.written
  spaced : pen.spaced = true → pen.line = [] ∨ Sealed pen.line

/-- A pen that is ready may go on without a blank as well. -/
theorem Ready.kept
    {pen : Pen}
    (ready : pen.Ready) :
    pen.Kept :=
  ⟨ready.plain, fun _ => ready.begun⟩

/-! ## Writing on a line -/

theorem written_puts
    (pen : Pen)
    (text : List Char) :
    (pen.puts text).written = text.reverse ++ pen.written := by
  induction text generalizing pen with
  | nil => rfl
  | cons character text writtenRest =>
      rw [List.reverse_cons, List.append_assoc]
      exact writtenRest (pen.put character)

theorem line_puts
    (pen : Pen)
    {text : List Char}
    (inLine : InLine text) :
    (pen.puts text).line = pen.line ++ text := by
  rw [line, written_puts, lastLine_append inLine]
  rfl

/-- Text may be put on a line that begins with no mark when it has that text. -/
theorem plain_puts
    {pen : Pen}
    (plain : Plain pen.written)
    {text : List Char}
    (inLine : InLine text)
    (unmarked : marks (pen.line ++ text) = false) :
    Plain (pen.puts text).written := by
  rw [written_puts]
  exact plain.append inLine unmarked

/-- Text that begins with no mark may be written on a line that has been made ready. -/
theorem Ready.puts
    {pen : Pen}
    (ready : pen.Ready)
    {text : List Char}
    (inLine : InLine text)
    (unmarked : marks text = false) :
    Plain (pen.puts text).written := by
  refine plain_puts ready.plain inLine ?_
  rcases ready.begun with empty | isSealed
  · rwa [empty]
  · exact isSealed text

/-- Text that no mark begins like seals the line. -/
theorem Ready.puts_sealed
    {pen : Pen}
    (ready : pen.Ready)
    {text : List Char}
    (inLine : InLine text)
    (isSealed : Sealed text) :
    Plain (pen.puts text).written ∧ Sealed (pen.puts text).line := by
  refine ⟨ready.puts inLine isSealed.unmarked, ?_⟩
  rw [line_puts pen inLine]
  rcases ready.begun with empty | isSealedBefore
  · rwa [empty]
  · exact isSealedBefore.append text

/-- Behind text a blank is due, and is still missing. -/
theorem kept_afterText
    {pen : Pen}
    (plain : Plain pen.written) :
    pen.afterText.Kept :=
  ⟨plain, fun impossible => absurd impossible Bool.false_ne_true⟩

/-- The blank that is due makes whatever is written next harmless, since the line goes on behind
it. -/
theorem ready_space
    {pen : Pen}
    (kept : pen.Kept) :
    pen.space.Ready := by
  unfold space
  split
  next spaced => exact ⟨kept.plain, kept.spaced spaced⟩
  next =>
    have isLine : (pen.put ' ').line = pen.line ++ [' '] :=
      lastLine_of_not_break rfl pen.written
    have isSealed : Sealed (pen.put ' ').line := by
      rw [isLine]
      exact sealed_of_other kept.plain.unmarked (by decide)
    exact ⟨⟨kept.plain, isSealed.unmarked⟩, .inr isSealed⟩

/-- An indicator may be written where its line does not begin with a mark. -/
theorem kept_marker
    {pen : Pen}
    (kept : pen.Kept)
    {character : Char}
    (inLine : isBreak character = false)
    (unmarked : marks [character] = false) :
    (pen.marker character).Kept := by
  have plain : Plain (pen.space.puts [character]).written :=
    (ready_space kept).puts (by simpa [InLine] using inLine) unmarked
  exact ⟨plain, fun impossible => absurd impossible Bool.false_ne_true⟩

/-! ## Starting lines -/

theorem line_endLine
    (pen : Pen)
    {character : Char}
    (breaks : isBreak character = true) :
    (pen.endLine character).line = [] :=
  lastLine_of_break breaks pen.written

/-- Indentation seals a line. -/
theorem indent_ready
    {pen : Pen}
    (plain : Plain pen.written)
    {count : Nat}
    (begun : count = 0 → pen.line = [] ∨ Sealed pen.line) :
    (pen.puts (List.replicate count ' ')).Ready ∧
      (0 < count → Sealed (pen.puts (List.replicate count ' ')).line) := by
  have isLine := line_puts pen (inLine_replicate count)
  cases count with
  | zero => exact ⟨⟨plain, begun rfl⟩, fun impossible => absurd impossible (Nat.lt_irrefl 0)⟩
  | succ count =>
      have isSealed : Sealed (pen.line ++ List.replicate (count + 1) ' ') := by
        rw [List.replicate_succ, ← List.singleton_append, ← List.append_assoc]
        exact (sealed_of_other plain.unmarked (by decide)).append _
      rw [← isLine] at isSealed
      refine ⟨⟨plain_puts plain (inLine_replicate _) ?_, .inr isSealed⟩, fun _ => isSealed⟩
      rw [← isLine]
      exact isSealed.unmarked

/-- A new line is empty or begins with its indentation. -/
theorem ready_startLine
    {pen : Pen}
    (kept : pen.Kept)
    (indent : Nat) :
    (pen.startLine indent).Ready := by
  have ready : ∀ before : Pen, (before.puts (List.replicate (indent - before.column) ' ')).Ready →
      ({ before.puts (List.replicate (indent - before.column) ' ') with
        spaced := true, fresh := true } : Pen).Ready :=
    fun _ ready => ⟨ready.plain, ready.begun⟩
  unfold startLine
  dsimp only
  split
  next stays =>
    refine ready pen (indent_ready kept.plain fun none => ?_).1
    simp only [Bool.and_eq_true, Bool.or_eq_true, decide_eq_true_eq, beq_iff_eq] at stays
    rcases stays.2 with before | ⟨_, spaced⟩
    · omega
    · exact kept.spaced spaced
  next =>
    exact ready _ (indent_ready (kept.plain.endLine rfl) fun _ =>
      .inl (line_endLine pen rfl)).1

/-- A line that starts in a further column is sealed. -/
theorem sealed_startLine
    {pen : Pen}
    (plain : Plain pen.written)
    (column : pen.column = 0)
    {indent : Nat}
    (positive : 0 < indent) :
    Plain (pen.startLine indent).written ∧ Sealed (pen.startLine indent).line := by
  have indents : ∀ before : Pen, Plain before.written → before.column = 0 →
      Plain (before.puts (List.replicate (indent - before.column) ' ')).written
        ∧ Sealed (before.puts (List.replicate (indent - before.column) ' ')).line := by
    intro before plainBefore columnBefore
    obtain ⟨ready, isSealed⟩ := @indent_ready before plainBefore (indent - before.column)
      fun none => by omega
    exact ⟨ready.plain, isSealed (by omega)⟩
  unfold startLine
  dsimp only
  split
  next => exact indents pen plain column
  next => exact indents _ (plain.endLine rfl) rfl

/-! ## Scalars -/

/-- The pen in the middle of a text of several lines. -/
structure Inside (state : Pen × Bool) : Prop where
  plain : Plain state.1.written
  starts : state.2 = true → state.1.line = [] ∧ state.1.column = 0
  goesOn : state.2 = false → Sealed state.1.line

/-- The pen with the next line started if the last one has ended. -/
theorem Inside.started
    {pen : Pen}
    {broken : Bool}
    (inside : Inside (pen, broken))
    {indent : Nat}
    (positive : 0 < indent) :
    Plain (if broken then pen.startLine indent else pen).written
      ∧ Sealed (if broken then pen.startLine indent else pen).line := by
  cases broken with
  | true => exact sealed_startLine inside.plain (inside.starts rfl).2 positive
  | false => exact ⟨inside.plain, inside.goesOn rfl⟩

/-- A line that begins with no mark whatever is added to it may have any character added. -/
theorem sealed_put
    {pen : Pen}
    (plain : Plain pen.written)
    (isSealed : Sealed pen.line)
    {character : Char}
    (inLine : isBreak character = false) :
    Plain (pen.put character).written ∧ Sealed (pen.put character).line := by
  have isLine : (pen.put character).line = pen.line ++ [character] :=
    lastLine_of_not_break inLine pen.written
  have isSealedAfter : Sealed (pen.put character).line := by
    rw [isLine]
    exact isSealed.append [character]
  exact ⟨⟨plain, isSealedAfter.unmarked⟩, isSealedAfter⟩

/-- A line may be ended inside a scalar, and the next one is then indented before anything is
written on it. -/
theorem Inside.endLine
    {pen : Pen}
    {broken : Bool}
    (inside : Inside (pen, broken))
    {character : Char}
    (breaks : isBreak character = true) :
    Inside ({ pen.endLine character with fresh := true }, true) :=
  ⟨inside.plain.endLine breaks, fun _ => ⟨line_endLine pen breaks, rfl⟩,
    fun impossible => absurd impossible.symm Bool.false_ne_true⟩

/-- Steps that keep the pen inside a text keep it inside all of it. -/
theorem inside_foldl
    {write : Pen × Bool → Char → Pen × Bool}
    (keeps : ∀ state character, Inside state → Inside (write state character))
    (text : List Char)
    {state : Pen × Bool}
    (inside : Inside state) :
    Inside (text.foldl write state) := by
  induction text generalizing state with
  | nil => exact inside
  | cons character text keepsRest => exact keepsRest (keeps state character inside)

/-- A text in single quotes begins with its quote, and every further line of it with the
indentation. -/
theorem kept_singleQuoted
    {pen : Pen}
    (kept : pen.Kept)
    {indent : Nat}
    (positive : 0 < indent)
    (text : List Char) :
    (pen.singleQuoted indent text).Kept := by
  have quoteInLine : isBreak '\'' = false := by decide
  have opened : Inside ((pen.space.put '\'').afterText, false) := by
    have quote : Sealed ['\''] := sealed_cons (by decide) []
    obtain ⟨plain, isSealed⟩ := (ready_space kept).puts_sealed
      (by simpa [InLine] using quoteInLine) quote
    exact ⟨plain, fun impossible => absurd impossible Bool.false_ne_true, fun _ => isSealed⟩
  have closes : ∀ state : Pen × Bool, Inside state →
      (((if state.2 then state.1.startLine indent else state.1).put '\'').afterText).Kept := by
    intro state inside
    obtain ⟨plain, isSealed⟩ := inside.started positive
    exact kept_afterText (sealed_put plain isSealed quoteInLine).1
  refine closes _ (inside_foldl (fun state character inside => ?_) text opened)
  dsimp only
  split
  next breaks => exact inside.endLine breaks
  next noBreak =>
    have inLine := Bool.eq_false_iff.2 noBreak
    obtain ⟨plain, isSealed⟩ := inside.started positive
    refine ⟨?_, fun impossible => absurd impossible Bool.false_ne_true, fun _ => ?_⟩
    all_goals dsimp only; split
    · have quoted := sealed_put plain isSealed quoteInLine
      exact (sealed_put quoted.1 quoted.2 inLine).1
    · exact (sealed_put plain isSealed inLine).1
    · have quoted := sealed_put plain isSealed quoteInLine
      exact (sealed_put quoted.1 quoted.2 inLine).2
    · exact (sealed_put plain isSealed inLine).2

/-- The header of a block is written on one line. -/
theorem inLine_blockHints (text : List Char) : InLine (blockHints text) := by
  have hints : ∀ character ∈ blockHints text,
      character = '2' ∨ character = '-' ∨ character = '+' := by
    intro character present
    rw [blockHints, List.mem_append] at present
    rcases present with present | present
    · split at present <;> simp at present
      exact .inl present
    · split at present
      · simp at present
        exact .inr (.inl present)
      · split at present
        · simp at present
          exact .inr (.inl present)
        · split at present <;> simp at present
          exact .inr (.inr present)
  intro character present
  rcases hints character present with rfl | rfl | rfl <;> decide

/-- A literal block begins with its indicator, and every line of it with the indentation. -/
theorem kept_literal
    {pen : Pen}
    (kept : pen.Kept)
    {indent : Nat}
    (positive : 0 < indent)
    (text : List Char) :
    (pen.literal indent text).Kept := by
  have header : InLine ('|' :: blockHints text) := by
    refine List.forall_mem_cons.2 ⟨by decide, inLine_blockHints text⟩
  have begins := (ready_space kept).puts_sealed header (sealed_cons (by decide) _)
  have opened : Inside
      ({ (pen.space.puts ('|' :: blockHints text)).endLine '\n' with
        spaced := true, fresh := true }, true) :=
    ⟨begins.1.endLine rfl, fun _ => ⟨line_endLine _ rfl, rfl⟩,
      fun impossible => absurd impossible.symm Bool.false_ne_true⟩
  have closes : ∀ state : Pen × Bool, Inside state → state.1.Kept := by
    rintro ⟨pen, broken⟩ inside
    refine ⟨inside.plain, fun _ => ?_⟩
    cases broken with
    | true => exact .inl (inside.starts rfl).1
    | false => exact .inr (inside.goesOn rfl)
  refine closes _ (inside_foldl (fun state character inside => ?_) text opened)
  dsimp only
  split
  next breaks => exact inside.endLine breaks
  next noBreak =>
    have inLine := Bool.eq_false_iff.2 noBreak
    obtain ⟨plain, isSealed⟩ := inside.started positive
    have written := sealed_put plain isSealed inLine
    exact ⟨written.1, fun impossible => absurd impossible Bool.false_ne_true, fun _ => written.2⟩

theorem inLine_upperDigit
    {digit : Nat}
    (small : digit < 16) :
    isBreak (Nat.digitChar digit).toUpper = false := by
  revert digit
  decide

theorem inLine_hexDigits (count code : Nat) : InLine (hexDigits count code) := by
  intro character present
  obtain ⟨place, _, rfl⟩ := List.mem_map.1 present
  exact inLine_upperDigit (Nat.mod_lt _ (by decide))

/-- An escape is written on one line, also that of a line break. -/
theorem inLine_escape (character : Char) : InLine (escape character) := by
  have letters : ∀ letter, escapeLetter? character = some letter → isBreak letter = false := by
    intro letter found
    unfold escapeLetter? at found
    split at found <;> first | contradiction | (obtain rfl := Option.some.inj found; decide)
  have backslash : isBreak '\\' = false := by decide
  unfold escape
  split
  next printable =>
    simp only [Bool.and_eq_true, Bool.not_eq_true'] at printable
    simpa [InLine] using printable.1.1.2
  next =>
    dsimp only
    split
    next letter found => simpa [InLine] using ⟨backslash, letters letter found⟩
    next =>
      split
      · exact List.forall_mem_cons.2 ⟨backslash, List.forall_mem_cons.2
          ⟨by decide, inLine_hexDigits _ _⟩⟩
      · split
        · exact List.forall_mem_cons.2 ⟨backslash, List.forall_mem_cons.2
            ⟨by decide, inLine_hexDigits _ _⟩⟩
        · exact List.forall_mem_cons.2 ⟨backslash, List.forall_mem_cons.2
            ⟨by decide, inLine_hexDigits _ _⟩⟩

theorem inLine_flatMap
    {write : α → List Char}
    (inLine : ∀ part, InLine (write part))
    (parts : List α) :
    InLine (parts.flatMap write) := by
  intro character present
  obtain ⟨part, _, within⟩ := List.mem_flatMap.1 present
  exact inLine part character within

/-- A byte of a tag is written on one line. -/
theorem inLine_tagByte (byte : UInt8) : InLine (tagByte byte) := by
  unfold tagByte isTagCharacter
  dsimp only
  generalize Char.ofNat byte.toNat = character
  split
  next isTag =>
    have inLine : isBreak character = false :=
      @not_isBreak_of
        (fun character => isWord character || ";/?:@&=+$,.~*'()[]".toList.contains character)
        character (Bool.and_eq_true_iff.1 isTag).2 (by decide)
    simpa [InLine] using inLine
  next =>
    have small : byte.toNat / 16 < 16 := by
      have := byte.toNat_lt
      omega
    have percent : isBreak '%' = false := by decide
    simpa [InLine] using
      ⟨percent, inLine_upperDigit small, inLine_upperDigit (Nat.mod_lt byte.toNat (by decide))⟩

/-- A text in double quotes is written on one line, as its line breaks are escaped. -/
theorem kept_doubleQuoted
    {pen : Pen}
    (kept : pen.Kept)
    (text : List Char) :
    (pen.doubleQuoted text).Kept := by
  have quote : isBreak '"' = false := by decide
  have inLine : InLine ('"' :: text.flatMap escape ++ ['"']) :=
    .append (List.forall_mem_cons.2 ⟨quote, inLine_flatMap inLine_escape text⟩)
      (by simpa [InLine] using quote)
  exact kept_afterText ((ready_space kept).puts inLine rfl)

/-- A tag begins with its mark. -/
theorem kept_tag
    {pen : Pen}
    (kept : pen.Kept)
    (name : Option String) :
    (pen.tag name).Kept := by
  cases name with
  | none => exact kept
  | some name =>
      unfold tag
      dsimp only
      refine kept_afterText ?_
      split
      · exact (ready_space kept).puts (inLine_of_all rfl) rfl
      · refine (ready_space kept).puts (List.forall_mem_cons.2 ⟨by decide, ?_⟩) rfl
        exact inLine_flatMap inLine_tagByte _

end Pen

/-! ## Plain scalars -/

/-- Characters of numbers. -/
def isNumeral (character : Char) : Bool :=
  character.isDigit || character == '-' || character == '.' || character == 'e'

/-- A text of characters of numbers that begins with a digit. -/
structure Numeric (text : List Char) : Prop where
  first : ∃ digit rest, text = digit :: rest ∧ digit.isDigit = true
  numerals : ∀ character ∈ text, isNumeral character = true

theorem isNumeral_of_isDigit
    {character : Char}
    (digit : character.isDigit = true) :
    isNumeral character = true := by
  simp [isNumeral, digit]

/-- A number may have more digits. -/
theorem Numeric.append
    {text : List Char}
    (numeric : Numeric text)
    {more : List Char}
    (numerals : ∀ character ∈ more, isNumeral character = true) :
    Numeric (text ++ more) := by
  obtain ⟨digit, rest, rfl, isDigit⟩ := numeric.first
  refine ⟨⟨digit, rest ++ more, rfl, isDigit⟩, fun character present => ?_⟩
  rcases List.mem_append.1 present with present | present
  · exact numeric.numerals character present
  · exact numerals character present

/-- A point may be put anywhere behind the first digit. -/
theorem Numeric.point
    {text : List Char}
    (numeric : Numeric text)
    (count : Nat) :
    Numeric (text.take (count + 1) ++ '.' :: text.drop (count + 1)) := by
  obtain ⟨⟨digit, rest, rfl, isDigit⟩, numerals⟩ := numeric
  refine ⟨⟨digit, rest.take count ++ '.' :: rest.drop count, rfl, isDigit⟩,
    fun character present => ?_⟩
  rw [List.mem_append, List.mem_cons] at present
  rcases present with present | rfl | present
  · exact numerals character (List.mem_of_mem_take present)
  · rfl
  · exact numerals character (List.mem_of_mem_drop present)

/-- The digits of a natural number are a number. -/
theorem numeric_toDigits (number : Nat) : Numeric (Nat.toDigits 10 number) := by
  have digits : ∀ character ∈ Nat.toDigits 10 number, character.isDigit = true :=
    fun _ present => Nat.isDigit_of_mem_toDigits (by decide) (by decide) present
  obtain ⟨digit, rest, isText⟩ :=
    List.exists_cons_of_ne_nil (Nat.toDigits_ne_nil : Nat.toDigits 10 number ≠ [])
  exact ⟨⟨digit, rest, isText, digits digit (isText ▸ List.mem_cons_self)⟩,
    fun character present => isNumeral_of_isDigit (digits character present)⟩

/-- A number, with or without a sign. -/
def Signed (text : List Char) : Prop :=
  Numeric text ∨ ∃ number, text = '-' :: number ∧ Numeric number

/-- A whole number is written as digits, perhaps behind a sign. -/
theorem signed_toString (number : Int) : Signed (toString number).toList := by
  rw [Int.toString_eq_repr, Int.repr_eq_if]
  split
  · rw [Nat.toList_repr]
    exact .inl (numeric_toDigits _)
  · rw [String.toList_append, Nat.toList_repr]
    exact .inr ⟨_, rfl, numeric_toDigits _⟩

theorem Signed.numerals
    {text : List Char}
    (signed : Signed text) :
    ∀ character ∈ text, isNumeral character = true := by
  rcases signed with numeric | ⟨number, rfl, numeric⟩
  · exact numeric.numerals
  · exact List.forall_mem_cons.2 ⟨rfl, numeric.numerals⟩

theorem isNumeral_replicate (count : Nat) :
    ∀ character ∈ List.replicate count '0', isNumeral character = true := by
  intro character present
  rw [List.eq_of_mem_replicate present]
  rfl

/-- A decimal number is written with digits, a point or an exponent. -/
theorem numeric_write (decimal : Decimal) :
    Numeric (Scalar.numberStyle.write decimal).toList := by
  have digits := numeric_toDigits decimal.digits
  unfold NumberStyle.write
  dsimp only
  split
  · rw [String.toList_append, String.toList_ofList]
    exact (digits.append (isNumeral_replicate _)).append (List.all_eq_true.1 rfl)
  · split
    next positive =>
      obtain ⟨count, isCount⟩ : ∃ count,
          ((Nat.toDigits 10 decimal.digits).length + decimal.exponent : Int).toNat = count + 1 :=
        ⟨_, (Nat.succ_pred (by omega)).symm⟩
      rw [String.toList_ofList, isCount]
      exact digits.point count
    next =>
      split
      · simp only [String.toList_append, String.toList_ofList, ← List.append_assoc]
        have zero : Numeric "0.".toList := ⟨⟨'0', ['.'], rfl, rfl⟩, List.all_eq_true.1 rfl⟩
        exact (zero.append (isNumeral_replicate _)).append digits.numerals
      · simp only [String.toList_append, String.toList_ofList]
        refine Numeric.append (Numeric.append ?_ ?_) (signed_toString _).numerals
        · split
          · exact digits
          · exact digits.point 0
        · split
          · exact List.all_eq_true.1 rfl
          · exact List.all_eq_true.1 rfl

/-- A finite number in binary floating point is written as a decimal, perhaps behind a sign. -/
theorem signed_render
    {value : Binary64}
    (finite : value.isFinite = true) :
    Signed (Scalar.numberStyle.render value).toList := by
  cases value with
  | nan => contradiction
  | infinite negative => contradiction
  | finite negative significand exponent =>
      unfold NumberStyle.render
      dsimp only
      have signs : ∀ text : String, Numeric text.toList →
          Signed ((if negative then "-" else "") ++ text).toList := by
        intro text numeric
        rw [String.toList_append]
        cases negative with
        | true => exact .inr ⟨text.toList, rfl, numeric⟩
        | false => exact .inl numeric
      split
      · exact signs "0.0" ⟨⟨'0', ['.', '0'], rfl, rfl⟩, List.all_eq_true.1 rfl⟩
      · exact signs _ (numeric_write _)

/-- A plain scalar has one line, and no mark begins it. -/
def Unbroken (text : List Char) : Prop := InLine text ∧ marks text = false

/-- A number is written on one line and looks like no mark: of the marks only the dashes could
begin it, and behind a sign a digit comes. -/
theorem unbroken_of_numeric
    {text : List Char}
    (signed : Signed text) :
    Unbroken text := by
  have inLine : InLine text := fun character present =>
    not_isBreak_of (signed.numerals character present) (by decide)
  refine ⟨inLine, ?_⟩
  have noMark : ∀ digit : Char, digit.isDigit = true →
      digit ≠ '%' ∧ digit ≠ '-' ∧ digit ≠ '.' := by
    rintro digit isDigit
    refine ⟨?_, ?_, ?_⟩ <;> rintro rfl <;> contradiction
  rcases signed with numeric | ⟨number, rfl, numeric⟩
  · obtain ⟨digit, rest, rfl, isDigit⟩ := numeric.first
    exact (sealed_cons (noMark digit isDigit) rest).unmarked
  · obtain ⟨digit, rest, rfl, isDigit⟩ := numeric.first
    exact (sealed_of_other rfl (noMark digit isDigit) : Sealed (['-'] ++ [digit])) rest

/-- A text that may be written plainly is written on one line and looks like no mark. -/
theorem unbroken_of_allowsPlain
    {text : List Char}
    (allows : ScalarStyle.allowsPlain text = true) :
    Unbroken text := by
  simp only [ScalarStyle.allowsPlain, Bool.not_eq_true', Bool.or_eq_false_iff] at allows
  obtain ⟨⟨⟨_, noBreaks⟩, begins⟩, _⟩ := allows
  refine ⟨fun character present => ?_, ?_⟩
  · exact Bool.eq_false_iff.2 (List.any_eq_false.1 noBreaks character present)
  · simp only [ScalarStyle.beginsWithIndicator, Bool.or_eq_false_iff, beq_eq_false_iff_ne] at begins
    rw [marks.eq_def]
    split
    · simp [ScalarStyle.openingIndicators] at begins
    · simp at begins
    · simp at begins
    · rfl

/-- Whatever a scalar is, it may be written plainly if its style says so. -/
theorem unbroken_of_plain
    {scalar : Scalar}
    {simpleKey : Bool}
    (plain : scalar.style simpleKey = .plain) :
    Unbroken scalar.characters := by
  cases scalar with
  | null => exact ⟨inLine_of_all rfl, rfl⟩
  | boolean value => cases value <;> exact ⟨inLine_of_all rfl, rfl⟩
  | integer value => exact unbroken_of_numeric (signed_toString value)
  | real value =>
      cases value with
      | nan => exact ⟨inLine_of_all rfl, rfl⟩
      | infinite negative => cases negative <;> exact ⟨inLine_of_all rfl, rfl⟩
      | finite negative significand exponent => exact unbroken_of_numeric (signed_render rfl)
  | text value =>
      simp only [Scalar.style, ScalarStyle.ofText] at plain
      split at plain
      · split at plain <;> contradiction
      · split at plain
        next allows => exact unbroken_of_allowsPlain (Bool.and_eq_true_iff.1 allows).2
        next => split at plain <;> contradiction

/-- A scalar is written in one of four forms, none of which begins its line with a mark. -/
theorem Pen.kept_scalar
    {pen : Pen}
    (kept : pen.Kept)
    {indent : Nat}
    (positive : 0 < indent)
    (simpleKey : Bool)
    (scalar : Scalar) :
    (pen.scalar indent simpleKey scalar).Kept := by
  unfold Pen.scalar
  dsimp only
  split
  next plain =>
    obtain ⟨inLine, unmarked⟩ := unbroken_of_plain plain
    exact kept_afterText ((ready_space kept).puts inLine unmarked)
  next => exact kept_singleQuoted kept positive _
  next => exact kept_doubleQuoted kept _
  next => exact kept_literal kept positive _

/-! ## Values -/

namespace Value

open Pen

/-- Empty collections are written like texts. -/
theorem kept_brackets
    {pen : Pen}
    (kept : pen.Kept)
    {brackets : List Char}
    (unbroken : Unbroken brackets) :
    (pen.space.puts brackets).afterText.Kept :=
  kept_afterText ((ready_space kept).puts unbroken.1 unbroken.2)

/-- Behind a key on the same line there is a colon. -/
theorem kept_colon
    {pen : Pen}
    (kept : pen.Kept) :
    (pen.put ':').afterText.Kept := by
  refine kept_afterText ⟨kept.plain, ?_⟩
  rw [lastLine_of_not_break (by decide)]
  exact (sealed_of_other kept.plain.unmarked (by decide)).unmarked

mutual

/-- A value is written behind an indicator or on a line of its own. -/
theorem kept_write
    (indent : Option Nat)
    (entry simpleKey : Bool)
    (value : Value)
    {pen : Pen}
    (kept : pen.Kept) :
    (write indent entry simpleKey value pen).Kept := by
  match value with
  | .scalar tag content =>
      rw [write]
      refine kept_scalar (kept_tag kept tag) ?_ simpleKey content
      cases indent with
      | none => exact Nat.succ_pos _
      | some indent => exact Nat.succ_pos _
  | .sequence tag [] =>
      rw [write]
      exact kept_brackets (kept_tag kept tag) ⟨inLine_of_all rfl, rfl⟩
  | .sequence tag (item :: rest) =>
      simp only [write]
      exact kept_writeItems _ (item :: rest) (kept_tag kept tag)
  | .mapping tag [] =>
      rw [write]
      exact kept_brackets (kept_tag kept tag) ⟨inLine_of_all rfl, rfl⟩
  | .mapping tag (first :: rest) =>
      simp only [write]
      exact kept_writeEntries _ (first :: rest) (kept_tag kept tag)

/-- Each item of a sequence is written behind its dash. -/
theorem kept_writeItems
    (indent : Nat)
    (items : List Value)
    {pen : Pen}
    (kept : pen.Kept) :
    (writeItems indent items pen).Kept := by
  match items with
  | [] => exact kept
  | item :: rest =>
      rw [writeItems]
      have started := (ready_startLine kept indent).kept
      have marked := kept_marker started (by decide) (rfl : marks ['-'] = _)
      exact kept_writeItems indent rest (kept_write (some indent) false false item marked)

/-- Each entry of a mapping is written as its key, a colon and its value. -/
theorem kept_writeEntries
    (indent : Nat)
    (entries : List (Value × Value))
    {pen : Pen}
    (kept : pen.Kept) :
    (writeEntries indent entries pen).Kept := by
  match entries with
  | [] => exact kept
  | (key, value) :: rest =>
      rw [writeEntries]
      have started := (ready_startLine kept indent).kept
      refine kept_writeEntries indent rest (kept_write (some indent) true false value ?_)
      split
      · exact kept_colon (kept_write (some indent) true true key started)
      · have marked := kept_marker started (by decide) (rfl : marks ['?'] = _)
        have written := kept_write (some indent) true false key marked
        exact kept_marker (ready_startLine written indent).kept (by decide) rfl

end

/-- The text of a value has no line that begins with a mark. -/
theorem plain_render
    {value : Value}
    {text : String}
    (renders : value.render? = some text) :
    Plain text.toList.reverse := by
  unfold render? at renders
  split at renders
  · rw [← Option.some.inj renders, String.toList_ofList, List.reverse_reverse]
    have start : ({} : Pen).Kept := ⟨trivial, fun _ => .inl rfl⟩
    exact (ready_startLine (kept_write none false false value start) 0).plain
  · contradiction

/-- Neither does what is left of it without the blanks at its end. -/
theorem tidy_trimEnd
    {value : Value}
    {text : String}
    (renders : value.render? = some text) :
    Tidy (Text.trimEnd text.toList) := by
  refine tidy_of_plain ?_
  have plain := plain_render renders
  rw [← List.takeWhile_append_dropWhile (p := isBlank) (l := text.toList.reverse)] at plain
  rw [Text.trimEnd, List.reverse_reverse]
  exact plain.of_append

end Value
end Yaml
end ManifestPolicy
