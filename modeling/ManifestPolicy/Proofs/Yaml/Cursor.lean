import ManifestPolicy.Yaml.Cursor

/-!
# Places in texts that go on

A text that ends with a line break may be followed by a line that begins another
document. What is read within a line does not depend on what comes after the line, and
what is read over several lines stops at the latest in front of such a line. This module
has the notions to say so, and the equations for the elementary steps.
-/

namespace ManifestPolicy
namespace Yaml

/-- The line that begins a document, and what comes after it. -/
def marked (more : List Char) : List Char := '-' :: '-' :: '-' :: '\n' :: more

/-- Nothing, or a text that begins with a line feed. -/
def EndsLine (tail : List Char) : Prop := ∀ next ∈ tail.head?, next = '\n'

theorem endsLine_cons (tail : List Char) : EndsLine ('\n' :: tail) := by
  simp [EndsLine]

/-- What ends a line is the end of the text or a line feed. -/
theorem EndsLine.cases
    {tail : List Char}
    (ends : EndsLine tail) :
    tail = [] ∨ ∃ later, tail = '\n' :: later := by
  cases tail with
  | nil => exact .inl rfl
  | cons next later => exact .inr ⟨later, by rw [ends next rfl]⟩

/-- Characters of a kind without line feeds are all found before the end of the line. -/
theorem takeWhile_append_endsLine
    {kind : Char → Bool}
    (inside : kind '\n' = false)
    {tail : List Char}
    (ends : EndsLine tail)
    (text : List Char) :
    (text ++ tail).takeWhile kind = text.takeWhile kind := by
  induction text with
  | nil =>
      rcases ends.cases with rfl | ⟨later, rfl⟩
      · rfl
      · simp [inside]
  | cons first later taken =>
      cases isKind : kind first with
      | true => simp [isKind, taken]
      | false => simp [isKind]

namespace Cursor

/-- The same place in a text that goes on. -/
def followedBy (cursor : Cursor) (tail : List Char) : Cursor :=
  { cursor with rest := cursor.rest ++ tail }

@[simp] theorem rest_followedBy (cursor : Cursor) (tail : List Char) :
    (cursor.followedBy tail).rest = cursor.rest ++ tail := rfl

@[simp] theorem column_followedBy (cursor : Cursor) (tail : List Char) :
    (cursor.followedBy tail).column = cursor.column := rfl

@[simp] theorem rest_advance (cursor : Cursor) (count : Nat) :
    (cursor.advance count).rest = cursor.rest.drop count := rfl

@[simp] theorem column_advance (cursor : Cursor) (count : Nat) :
    (cursor.advance count).column = cursor.column + count := rfl

@[simp] theorem advance_zero (cursor : Cursor) : cursor.advance 0 = cursor := rfl

theorem followedBy_append (cursor : Cursor) (first second : List Char) :
    cursor.followedBy (first ++ second) = (cursor.followedBy first).followedBy second := by
  simp [followedBy]

/-- Going over characters of a text does not depend on what follows it. -/
theorem advance_followedBy
    {cursor : Cursor}
    {count : Nat}
    (inside : count ≤ cursor.rest.length)
    (tail : List Char) :
    (cursor.followedBy tail).advance count = (cursor.advance count).followedBy tail := by
  simp [advance, followedBy, List.drop_append_of_le_length inside]

section Line

variable {tail : List Char} (ends : EndsLine tail)

include ends

/-- Whether a given character comes next does not depend on what follows the line, unless it is
the line feed that may follow. -/
theorem isAt_followedBy
    {character : Char}
    (inside : character ≠ '\n')
    (cursor : Cursor) :
    (cursor.followedBy tail).isAt character = cursor.isAt character := by
  unfold isAt peek?
  cases text : cursor.rest with
  | cons first later => simp [text]
  | nil =>
      rcases ends.cases with rfl | ⟨later, rfl⟩
      · simp [text]
      · simpa [text] using fun same => inside same.symm

/-- A test that the end of the text and a line feed pass. -/
theorem endsOr_followedBy
    {kind : Char → Bool}
    (passes : kind '\n' = true)
    {cursor : Cursor}
    {offset : Nat}
    (inside : offset ≤ cursor.rest.length) :
    (cursor.followedBy tail).endsOr kind offset = cursor.endsOr kind offset := by
  unfold endsOr peekAt?
  rcases Nat.lt_or_eq_of_le inside with within | rfl
  · rw [rest_followedBy, List.getElem?_append_left within]
  · rw [rest_followedBy, List.getElem?_append_right (Nat.le_refl _)]
    rcases ends.cases with rfl | ⟨later, rfl⟩ <;> simp [passes]

theorem gapAt_followedBy
    {cursor : Cursor}
    {offset : Nat}
    (inside : offset ≤ cursor.rest.length) :
    (cursor.followedBy tail).gapAt offset = cursor.gapAt offset :=
  endsOr_followedBy ends (by decide) inside

/-- A test that the end of the text and a line feed fail. -/
theorem peek?_any_followedBy
    {kind : Char → Bool}
    (fails : kind '\n' = false)
    (cursor : Cursor) :
    (cursor.followedBy tail).peek?.any kind = cursor.peek?.any kind := by
  unfold peek?
  cases text : cursor.rest with
  | cons first later => simp [text]
  | nil =>
      rcases ends.cases with rfl | ⟨later, rfl⟩ <;> simp [text, fails]

/-- Characters of a kind end inside the text or at its end, where a line feed is not of that kind.
-/
theorem spanWhile_followedBy
    {kind : Char → Bool}
    (inside : kind '\n' = false)
    (cursor : Cursor) :
    (cursor.followedBy tail).spanWhile kind =
      ((cursor.spanWhile kind).1, (cursor.spanWhile kind).2.followedBy tail) := by
  simp only [spanWhile, rest_followedBy, takeWhile_append_endsLine inside ends]
  rw [advance_followedBy (List.takeWhile_prefix kind).length_le]

theorem skipWhile_followedBy
    {kind : Char → Bool}
    (inside : kind '\n' = false)
    (cursor : Cursor) :
    (cursor.followedBy tail).skipWhile kind = (cursor.skipWhile kind).followedBy tail := by
  rw [skipWhile, spanWhile_followedBy ends inside]
  rfl

/-- Whether three equal characters stand alone at the start of a line is decided in that line. -/
theorem atMarker_followedBy
    {character : Char}
    (inside : character ≠ '\n')
    (cursor : Cursor) :
    (cursor.followedBy tail).atMarker character = cursor.atMarker character := by
  unfold atMarker
  by_cases long : 3 ≤ cursor.rest.length
  · rw [gapAt_followedBy ends long, rest_followedBy, List.take_append_of_le_length long,
      column_followedBy]
  · have short : cursor.rest.take 3 ≠ [character, character, character] := by
      intro same
      have sameLength := congrArg List.length same
      simp only [List.length_take, List.length_cons, List.length_nil] at sameLength
      omega
    have stillShort : (cursor.rest ++ tail).take 3 ≠ [character, character, character] := by
      rcases ends.cases with rfl | ⟨later, rfl⟩
      · simpa using short
      · intro same
        have broken : '\n' ∈ (cursor.rest ++ '\n' :: later).take 3 := by
          rw [List.take_append]
          refine List.mem_append_right _ ?_
          obtain ⟨count, positive⟩ : ∃ count, 3 - cursor.rest.length = count + 1 :=
            ⟨2 - cursor.rest.length, by omega⟩
          simp [positive]
        rw [same] at broken
        simp [inside.symm] at broken
    rw [rest_followedBy, beq_eq_false_iff_ne.2 short, beq_eq_false_iff_ne.2 stillShort]
    simp

end Line

/-- What is read of a line does not depend on what comes after the line. -/
def Inline (read : Cursor → Option (α × Cursor)) : Prop :=
  ∀ cursor tail, EndsLine tail →
    read (cursor.followedBy tail) = (read cursor).map fun (value, next) =>
      (value, next.followedBy tail)

/-! ## Texts that end with a line break -/

/-- The text goes on up to a line feed. -/
def Open (cursor : Cursor) : Prop := ∃ line, cursor.rest = line ++ ['\n']

/-- The text goes on up to a line feed, or has ended with a line. -/
def Closed (cursor : Cursor) : Prop :=
  cursor.Open ∨ cursor.rest = [] ∧ cursor.column = 0

theorem Open.closed
    {cursor : Cursor}
    (isOpen : cursor.Open) :
    cursor.Closed := .inl isOpen

/-- Text that ends with a line feed is a text with that line feed behind it. -/
theorem Open.eq_followedBy
    {cursor : Cursor}
    (isOpen : cursor.Open) :
    ∃ before : Cursor, cursor = before.followedBy ['\n'] := by
  obtain ⟨line, text⟩ := isOpen
  exact ⟨{ cursor with rest := line }, by simp [followedBy, ← text]⟩

theorem open_followedBy (cursor : Cursor) : (cursor.followedBy ['\n']).Open :=
  ⟨cursor.rest, rfl⟩

theorem Open.rest_ne_nil
    {cursor : Cursor}
    (isOpen : cursor.Open) :
    cursor.rest ≠ [] := by
  obtain ⟨line, text⟩ := isOpen
  simp [text]

theorem Open.length_pos
    {cursor : Cursor}
    (isOpen : cursor.Open) :
    0 < cursor.rest.length :=
  List.length_pos_iff.2 isOpen.rest_ne_nil

/-- The text goes on after characters that are not its last one. -/
theorem Open.advance
    {cursor : Cursor}
    (isOpen : cursor.Open)
    {count : Nat}
    (inside : count < cursor.rest.length) :
    (cursor.advance count).Open := by
  obtain ⟨line, text⟩ := isOpen
  refine ⟨line.drop count, ?_⟩
  have within : count ≤ line.length := by
    rw [text, List.length_append, List.length_singleton] at inside
    omega
  rw [rest_advance, text, List.drop_append_of_le_length within]

/-- The text goes on after a character that is no line feed. -/
theorem Open.advance_one
    {cursor : Cursor}
    (isOpen : cursor.Open)
    {character : Char}
    (next : cursor.peek? = some character)
    (inside : character ≠ '\n') :
    (cursor.advance 1).Open := by
  refine isOpen.advance ?_
  obtain ⟨line, text⟩ := isOpen
  cases line with
  | nil =>
      simp only [peek?, text, List.nil_append, List.head?_cons, Option.some.injEq] at next
      exact absurd next.symm inside
  | cons first later => simp [text]

/-- A step within a line is the same whatever comes after the text, and does not leave
the text. -/
theorem Inline.open
    {read : Cursor → Option (α × Cursor)}
    (isInline : Inline read)
    {cursor : Cursor}
    (isOpen : cursor.Open) :
    (∀ tail, read (cursor.followedBy tail) = (read cursor).map fun (value, next) =>
        (value, next.followedBy tail))
      ∧ ∀ value next, read cursor = some (value, next) → next.Open := by
  obtain ⟨before, rfl⟩ := isOpen.eq_followedBy
  have inText := isInline before ['\n'] (endsLine_cons [])
  refine ⟨?_, ?_⟩
  · intro tail
    rw [← followedBy_append, inText,
      isInline before (['\n'] ++ tail) (endsLine_cons tail), Option.map_map]
    refine congrArg (Option.map · _) (funext fun found => ?_)
    exact Prod.ext rfl (followedBy_append found.2 ['\n'] tail)
  · intro value next found
    rw [inText] at found
    obtain ⟨_, _, same⟩ := Option.map_eq_some_iff.1 found
    rw [← (Prod.mk.inj same).2]
    exact open_followedBy _

/-- The text goes on after its first character, unless that is its last one. -/
theorem Open.cases
    {cursor : Cursor}
    (isOpen : cursor.Open) :
    cursor.rest = ['\n']
      ∨ ∃ first later line, cursor.rest = first :: later ∧ later = line ++ ['\n'] := by
  obtain ⟨line, text⟩ := isOpen
  cases line with
  | nil => exact .inl text
  | cons first line => exact .inr ⟨first, _, line, text, rfl⟩

/-- A line break is read by its first character, but for a carriage return, which takes a line
feed with it. -/
theorem readBreak_cons
    {cursor : Cursor}
    {first : Char}
    {later : List Char}
    (text : cursor.rest = first :: later) :
    cursor.readBreak =
      if first = '\r' ∧ later.head? = some '\n' then
        (['\n'], cursor.nextLineAfter later.tail 2)
      else if first == lineSeparator || first == paragraphSeparator then
        ([first], cursor.nextLineAfter later 1)
      else if isBreak first then (['\n'], cursor.nextLineAfter later 1)
      else ([], cursor) := by
  unfold readBreak
  rw [text]
  split
  next rest same =>
    obtain ⟨rfl, rfl⟩ := List.cons_eq_cons.1 same
    simp
  next character rest notBoth same =>
    obtain ⟨rfl, rfl⟩ := List.cons_eq_cons.1 same
    have single : ¬(first = '\r' ∧ later.head? = some '\n') := by
      rintro ⟨rfl, next⟩
      obtain ⟨rest, rfl⟩ := List.head?_eq_some_iff.1 next
      exact notBoth rest rfl rfl
    rw [if_neg single]
  next same => contradiction

/-- The line break at the end of a text is read as such whatever follows, since it ends with the
line feed. -/
theorem readBreak_followedBy
    {cursor : Cursor}
    (isOpen : cursor.Open)
    (tail : List Char) :
    (cursor.followedBy tail).readBreak =
      (cursor.readBreak.1, cursor.readBreak.2.followedBy tail) := by
  rcases isOpen.cases with text | ⟨first, later, line, text, ends⟩
  · have more : (cursor.followedBy tail).rest = '\n' :: tail := by
      rw [rest_followedBy, text]
      rfl
    rw [readBreak_cons text, readBreak_cons more]
    simp [isBreak, followedBy, nextLineAfter, lineSeparator, paragraphSeparator]
  · have more : (cursor.followedBy tail).rest = first :: (later ++ tail) := by
      rw [rest_followedBy, text]
      rfl
    have nonempty : later ≠ [] := by simp [ends]
    have sameHead : (later ++ tail).head? = later.head? := by
      rw [List.head?_append, Option.or_of_isSome (List.isSome_head?.2 nonempty)]
    rw [readBreak_cons text, readBreak_cons more, sameHead,
      List.tail_append_of_ne_nil nonempty]
    split
    · rfl
    · split
      · rfl
      · split <;> rfl

/-- A line break leaves an open text open or ends it with a line. -/
theorem Open.readBreak_closed
    {cursor : Cursor}
    (isOpen : cursor.Open) :
    cursor.readBreak.2.Closed := by
  have onNextLine : ∀ rest count, (∃ line, rest = line ++ ['\n']) ∨ rest = [] →
      (cursor.nextLineAfter rest count).Closed := by
    rintro rest count (goesOn | ended)
    · exact .inl goesOn
    · exact .inr ⟨ended, rfl⟩
  rcases isOpen.cases with text | ⟨first, later, line, text, ends⟩
  · rw [readBreak_cons text]
    simpa [isBreak, lineSeparator, paragraphSeparator] using onNextLine [] 1 (.inr rfl)
  · rw [readBreak_cons text]
    split
    next both =>
      refine onNextLine _ _ ?_
      cases line with
      | nil => exact .inr (by simp [ends])
      | cons second line => exact .inl ⟨line, by simp [ends]⟩
    next =>
      split
      · exact onNextLine _ _ (.inl ⟨line, ends⟩)
      · split
        · exact onNextLine _ _ (.inl ⟨line, ends⟩)
        · exact isOpen.closed

theorem skipBreak_followedBy
    {cursor : Cursor}
    (isOpen : cursor.Open)
    (tail : List Char) :
    (cursor.followedBy tail).skipBreak = cursor.skipBreak.followedBy tail := by
  rw [skipBreak, readBreak_followedBy isOpen]
  rfl

/-- A line break takes at least one character. -/
theorem length_readBreak
    {cursor : Cursor}
    {character : Char}
    (next : cursor.peek? = some character)
    (breaks : isBreak character = true) :
    cursor.readBreak.2.rest.length < cursor.rest.length := by
  obtain ⟨later, text⟩ := List.head?_eq_some_iff.1 next
  rw [readBreak_cons text, text]
  split
  · simp only [nextLineAfter, List.length_tail, List.length_cons]
    omega
  · split <;> simp [nextLineAfter]

/-- Passing over a line break never gives text back. -/
theorem length_skipBreak (cursor : Cursor) :
    cursor.skipBreak.rest.length ≤ cursor.rest.length := by
  cases text : cursor.rest with
  | nil => simp [skipBreak, readBreak, text]
  | cons first later =>
      rw [skipBreak, readBreak_cons text]
      split
      · simp only [nextLineAfter, List.length_tail, List.length_cons]
        omega
      · split
        · simp [nextLineAfter]
        · split <;> simp [nextLineAfter, text]

/-- The character that an open text goes on with, and the place after it. -/
theorem Open.peek
    {cursor : Cursor}
    (isOpen : cursor.Open) :
    ∃ character, (∀ tail, (cursor.followedBy tail).peek? = some character)
      ∧ (∀ tail, (cursor.followedBy tail).advance 1 = (cursor.advance 1).followedBy tail)
      ∧ (cursor.advance 1).rest.length < cursor.rest.length
      ∧ (character ≠ '\n' → (cursor.advance 1).Open)
      ∧ (isBreak character = true →
        cursor.readBreak.2.rest.length < cursor.rest.length) := by
  obtain ⟨character, next⟩ := Option.isSome_iff_exists.1
    (List.isSome_head?.2 isOpen.rest_ne_nil)
  have positive := isOpen.length_pos
  refine ⟨character, fun tail => ?_, advance_followedBy positive, ?_,
    isOpen.advance_one next, ?_⟩
  · rw [peek?, rest_followedBy, List.head?_append, next]
    rfl
  · rw [rest_advance, List.length_drop]
    omega
  · exact length_readBreak next

theorem Open.atMarker_followedBy
    {cursor : Cursor}
    (isOpen : cursor.Open)
    {character : Char}
    (inside : character ≠ '\n')
    (tail : List Char) :
    (cursor.followedBy tail).atMarker character = cursor.atMarker character := by
  obtain ⟨before, rfl⟩ := isOpen.eq_followedBy
  rw [← followedBy_append, Cursor.atMarker_followedBy (endsLine_cons []) inside,
    List.singleton_append, Cursor.atMarker_followedBy (endsLine_cons tail) inside]

theorem Open.atDocumentMarker_followedBy
    {cursor : Cursor}
    (isOpen : cursor.Open)
    (tail : List Char) :
    (cursor.followedBy tail).atDocumentMarker = cursor.atDocumentMarker := by
  rw [atDocumentMarker, isOpen.atMarker_followedBy (by decide),
    isOpen.atMarker_followedBy (by decide)]
  rfl

theorem Open.isAt_followedBy
    {cursor : Cursor}
    (isOpen : cursor.Open)
    (tail : List Char)
    (character : Char) :
    (cursor.followedBy tail).isAt character = cursor.isAt character := by
  rw [isAt, isAt, peek?, peek?, rest_followedBy, List.head?_append,
    Option.or_of_isSome (List.isSome_head?.2 isOpen.rest_ne_nil)]

/-- Characters of a kind without line feeds end inside an open text. -/
theorem Open.spanWhile
    {cursor : Cursor}
    (isOpen : cursor.Open)
    (kind : Char → Bool)
    (inside : kind '\n' = false) :
    (∀ tail, (cursor.followedBy tail).spanWhile kind =
        ((cursor.spanWhile kind).1, (cursor.spanWhile kind).2.followedBy tail))
      ∧ (cursor.spanWhile kind).2.Open := by
  have isInline : Inline fun cursor => some (cursor.spanWhile kind) := by
    intro cursor tail ends
    exact congrArg some (spanWhile_followedBy ends inside cursor)
  obtain ⟨same, stays⟩ := isInline.open isOpen
  exact ⟨fun tail => Option.some.inj (same tail), stays _ _ rfl⟩

/-- At the end of a closed text stands the line that comes after it. -/
theorem atDocumentMarker_marked
    {cursor : Cursor}
    (ended : cursor.rest = [] ∧ cursor.column = 0)
    (more : List Char) :
    (cursor.followedBy (marked more)).atDocumentMarker = true := by
  obtain ⟨text, column⟩ := ended
  simp [atDocumentMarker, atMarker, marked, gapAt, endsOr, peekAt?, text, column, isGap,
    isBreak]

end Cursor
end Yaml
end ManifestPolicy
