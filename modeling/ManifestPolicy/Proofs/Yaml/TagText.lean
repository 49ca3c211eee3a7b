import ManifestPolicy.Proofs.Yaml.ScalarText
import ManifestPolicy.Yaml.Token

/-!
# Names, tags and directives in texts that go on

Names and tags are read within a line, and a directive with the line it stands on.
-/

namespace ManifestPolicy
namespace Yaml

open Cursor

namespace Cursor.Inline

theorem none : Inline (fun _ => (Option.none : Option (α × Cursor))) := fun _ _ _ => rfl

theorem done (value : α) : Inline (fun cursor => some (value, cursor)) := fun _ _ _ => rfl

/-- Two steps within a line stay within it one after the other. -/
theorem bind
    {first : Cursor → Option (β × Cursor)}
    (second : β → Cursor → Option (α × Cursor))
    (begins : Inline first)
    (goesOn : ∀ value, Inline (second value)) :
    Inline (fun cursor => (first cursor).bind fun found => second found.1 found.2) := by
  intro cursor tail ends
  simp only [begins cursor tail ends]
  cases first cursor with
  | none => rfl
  | some found => exact goesOn found.1 found.2 tail ends

/-- A step may depend on a test that is decided within the line. -/
theorem ite
    (test : Cursor → Bool)
    {left right : Cursor → Option (α × Cursor)}
    (same : ∀ cursor tail, EndsLine tail → test (cursor.followedBy tail) = test cursor)
    (onTrue : Inline left)
    (onFalse : Inline right) :
    Inline (fun cursor => if test cursor then left cursor else right cursor) := by
  intro cursor tail ends
  simp only [same cursor tail ends, onTrue cursor tail ends, onFalse cursor tail ends]
  split <;> rfl

/-- A step may go on after characters of a kind without line feeds. -/
theorem span
    (kind : Char → Bool)
    (inside : kind '\n' = false)
    (next : List Char → Cursor → Option (α × Cursor))
    (goesOn : ∀ text, Inline (next text)) :
    Inline (fun cursor => next (cursor.spanWhile kind).1 (cursor.spanWhile kind).2) := by
  intro cursor tail ends
  simp only [spanWhile_followedBy ends inside]
  exact goesOn _ _ tail ends

/-- A step may go on after a given character. -/
theorem after
    (character : Char)
    (inside : character ≠ '\n')
    {left right : Cursor → Option (α × Cursor)}
    (onTrue : Inline left)
    (onFalse : Inline right) :
    Inline (fun cursor =>
      if cursor.isAt character then left (cursor.advance 1) else right cursor) := by
  intro cursor tail ends
  simp only [isAt_followedBy ends inside]
  cases present : cursor.isAt character with
  | false => exact onFalse cursor tail ends
  | true =>
      have nonempty : 1 ≤ cursor.rest.length := by
        cases text : cursor.rest with
        | nil => simp [isAt, peek?, text] at present
        | cons first later => simp
      simp only [if_true, advance_followedBy nonempty]
      exact onTrue _ tail ends

theorem gapAt
    {left right : Cursor → Option (α × Cursor)}
    (onTrue : Inline left)
    (onFalse : Inline right) :
    Inline (fun cursor => if cursor.gapAt 0 then left cursor else right cursor) :=
  .ite (fun cursor => cursor.gapAt 0)
    (fun _ _ ends => gapAt_followedBy ends (Nat.zero_le _)) onTrue onFalse

end Cursor.Inline

namespace Lexer

/-! ## Tags -/

/-- No byte is written over the end of a line. -/
theorem readPercent_eq_none
    {cursor : Cursor}
    (broken : (cursor.rest.take 3).length < 3 ∨ '\n' ∈ cursor.rest.take 3) :
    readPercent cursor = none := by
  unfold readPercent
  split
  next high low taken =>
    rw [taken] at broken
    rcases broken with short | broken
    · simp at short
    · simp only [List.mem_cons, List.not_mem_nil, or_false] at broken
      rcases broken with impossible | rfl | rfl
      · contradiction
      · rfl
      · cases CodeSet.hexDigit? high <;> rfl
  · rfl

/-- A byte in percent form ends within the line, since a line feed is no digit. -/
theorem readPercent_inline : Inline readPercent := by
  intro cursor tail ends
  by_cases within : 3 ≤ cursor.rest.length
  · rw [readPercent, readPercent, rest_followedBy, List.take_append_of_le_length within,
      advance_followedBy within]
    split
    next high low taken =>
      simp only [bind, pure]
      cases CodeSet.hexDigit? high with
      | none => rfl
      | some first => cases CodeSet.hexDigit? low <;> rfl
    · rfl
  · have missing := Nat.not_le.1 within
    rw [readPercent_eq_none (take_append_endsLine ends missing),
      readPercent_eq_none (.inl (by rw [List.length_take]; omega))]
    rfl

/-- A byte in percent form takes text away. -/
theorem length_readPercent
    {cursor next : Cursor}
    {byte : Nat}
    (found : readPercent cursor = some (byte, next)) :
    next.rest.length < cursor.rest.length := by
  unfold readPercent at found
  split at found
  next high low taken =>
    simp only [Option.bind_eq_some_iff, bind, pure, Option.some.injEq, Prod.mk.injEq] at found
    obtain ⟨_, _, _, _, _, same⟩ := found
    have long := congrArg List.length taken
    simp only [List.length_take, List.length_cons, List.length_nil] at long
    rw [← same, rest_advance, List.length_drop]
    omega
  · contradiction

/-- So do the further bytes of a character. -/
theorem readPercentTail_inline
    (owed : Nat)
    (bytes : List UInt8) :
    Inline (readPercentTail owed bytes) := by
  induction owed generalizing bytes with
  | zero => exact .done bytes
  | succ owed inline =>
      refine .bind
        (fun byte cursor =>
          if byte / 64 ≠ 2 then none
          else readPercentTail owed (bytes ++ [byte.toUInt8]) cursor)
        readPercent_inline fun byte => ?_
      split
      · exact .none
      · exact inline _

theorem length_readPercentTail
    {owed : Nat}
    {bytes read : List UInt8}
    {cursor next : Cursor}
    (found : readPercentTail owed bytes cursor = some (read, next)) :
    next.rest.length ≤ cursor.rest.length := by
  induction owed generalizing bytes cursor with
  | zero =>
      simp only [readPercentTail, Option.some.injEq, Prod.mk.injEq] at found
      exact Nat.le_of_eq (by rw [found.2])
  | succ owed shortens =>
      simp only [readPercentTail, Option.bind_eq_some_iff, bind] at found
      obtain ⟨⟨byte, after⟩, isByte, found⟩ := found
      simp only at found
      split at found
      · contradiction
      · exact Nat.le_trans (shortens found) (Nat.le_of_lt (length_readPercent isByte))

/-- A line break is no character of a tag. -/
theorem readTagText_of_empty
    (verbatim : Bool)
    {tail : List Char}
    (ends : EndsLine tail)
    (fuel : Nat)
    (bytes : List UInt8)
    {cursor : Cursor}
    (empty : cursor.rest = []) :
    readTagText verbatim fuel bytes (cursor.followedBy tail) =
      some (bytes, cursor.followedBy tail) := by
  cases fuel with
  | zero => rfl
  | succ fuel =>
      rcases ends.cases with rfl | ⟨later, rfl⟩
      · simp [readTagText, peek?, empty]
      · cases verbatim <;> simp [readTagText, peek?, empty, isTagCharacter, isWord]

/-- The characters of a tag do not depend on what comes after the line, nor on fuel if there
is enough. -/
theorem readTagText_followedBy
    (verbatim : Bool)
    {tail : List Char}
    (ends : EndsLine tail)
    (bytes : List UInt8)
    (cursor : Cursor)
    {few many : Nat}
    (enough : cursor.rest.length ≤ few)
    (plenty : cursor.rest.length ≤ many) :
    readTagText verbatim many bytes (cursor.followedBy tail) =
      (readTagText verbatim few bytes cursor).map fun found =>
        (found.1, found.2.followedBy tail) := by
  induction few generalizing many bytes cursor with
  | zero =>
      have empty := List.length_eq_zero_iff.1 (Nat.le_zero.1 enough)
      rw [readTagText_of_empty verbatim ends many bytes empty]
      rfl
  | succ few same =>
      cases text : cursor.rest with
      | nil =>
          rw [readTagText_of_empty verbatim ends many bytes text]
          simp [readTagText, peek?, text]
      | cons character later =>
          rw [text, List.length_cons] at enough plenty
          obtain ⟨many, rfl⟩ : ∃ less, many = less + 1 := ⟨many - 1, by omega⟩
          have next : cursor.peek? = some character := by simp [peek?, text]
          have nextToo : (cursor.followedBy tail).peek? = some character := by
            simp [peek?, text]
          have positive : 1 ≤ cursor.rest.length := by simp [text]
          have advanced : (cursor.advance 1).rest.length = later.length := by simp [text]
          simp only [readTagText, next, nextToo, bind]
          split
          · rw [readPercent_inline cursor tail ends]
            cases isByte : readPercent cursor with
            | none => rfl
            | some found =>
                simp only [Option.map_some, Option.bind_some]
                split
                · rfl
                next width _ =>
                  rw [readPercentTail_inline _ _ found.2 tail ends]
                  cases isTail : readPercentTail width (bytes ++ [found.1.toUInt8]) found.2 with
                  | none => rfl
                  | some after =>
                      have shorter := length_readPercent isByte
                      have shorterStill := length_readPercentTail isTail
                      rw [text, List.length_cons] at shorter
                      exact same _ _ (by omega) (by omega)
          · split
            · rw [advance_followedBy positive]
              exact same _ _ (by omega) (by omega)
            · rfl

/-- The fuel for a tag is the text that is left, which is more than enough whatever follows. -/
theorem readTagAfter_inline
    (verbatim : Bool)
    (head : List Char) :
    Inline (readTagAfter verbatim head) := by
  have read : Inline fun cursor => readTagText verbatim cursor.rest.length [] cursor := by
    intro cursor tail ends
    exact readTagText_followedBy verbatim ends [] cursor (Nat.le_refl _) (by simp)
  refine .bind
    (fun bytes next =>
      if head.isEmpty && bytes.isEmpty then none else some (bytesOf (head.drop 1) ++ bytes, next))
    read fun bytes => ?_
  split
  · exact .none
  · exact .done _

/-- A handle is a word between two marks on the line. -/
theorem readHandle_inline : Inline readHandle := by
  have after : ∀ word, Inline fun next : Cursor =>
      if next.isAt '!' then some ('!' :: word ++ ['!'], next.advance 1)
      else some ('!' :: word, next) :=
    fun word => .after '!' (by decide) (.done ('!' :: word ++ ['!'])) (.done ('!' :: word))
  exact .after '!' (by decide) (.span isWord (by decide) _ after) .none

/-- The handle and the suffix of a tag, after the handle that has been read. -/
def readTagName
    (handle : List Char)
    (cursor : Cursor) : Option ((List UInt8 × List UInt8) × Cursor) :=
  if isNamedHandle handle then
    (readTagAfter false [] cursor).bind fun found => some ((bytesOf handle, found.1), found.2)
  else
    (readTagAfter false handle cursor).bind fun found =>
      some ((if found.1.isEmpty then ([], bytesOf ['!']) else (bytesOf ['!'], found.1)), found.2)

/-- The end of a tag in angle brackets. -/
def closeVerbatim
    (suffix : List UInt8)
    (next : Cursor) : Option ((List UInt8 × List UInt8) × Cursor) :=
  if next.isAt '>' then some (([], suffix), next.advance 1) else none

/-- A tag after its exclamation mark and a word, which may be its handle. -/
def tagAfter
    (word : List Char)
    (next : Cursor) : Option ((List UInt8 × List UInt8) × Cursor) :=
  if next.isAt '!' then readTagName ('!' :: word ++ ['!']) (next.advance 1)
  else readTagName ('!' :: word) next

/-- The handle and the suffix of a tag after its exclamation mark. -/
def readTagRest (cursor : Cursor) : Option ((List UInt8 × List UInt8) × Cursor) :=
  if cursor.isAt '<' then
    (readTagAfter true [] (cursor.advance 1)).bind fun found => closeVerbatim found.1 found.2
  else tagAfter (cursor.spanWhile isWord).1 (cursor.spanWhile isWord).2

/-- A tag is told by the characters behind its mark: an angle bracket, or a word. -/
theorem readTag_eq
    {cursor : Cursor}
    (begins : cursor.isAt '!' = true) :
    readTag cursor = (readTagRest (cursor.advance 1)).map fun found =>
      (.tag found.1.1 found.1.2, found.2) := by
  have second : (cursor.peekAt? 1 = some '<') = ((cursor.advance 1).isAt '<' = true) := by
    simp [peekAt?, isAt, peek?]
  have twice : (cursor.advance 1).advance 1 = cursor.advance 2 := by
    simp [Cursor.advance, Nat.add_assoc]
  have handle : readHandle cursor =
      let word := (cursor.advance 1).spanWhile isWord
      if word.2.isAt '!' then some ('!' :: word.1 ++ ['!'], word.2.advance 1)
      else some ('!' :: word.1, word.2) := by
    rw [readHandle, if_pos begins]
    rfl
  have named : ∀ found : List Char × Cursor,
      (if isNamedHandle found.1 then
        (readTagAfter false [] found.2).bind fun rest =>
          some (.tag (bytesOf found.1) rest.1, rest.2)
      else
        (readTagAfter false found.1 found.2).bind fun rest =>
          if rest.1.isEmpty then some (.tag [] (bytesOf ['!']), rest.2)
          else some (.tag (bytesOf ['!']) rest.1, rest.2)) =
        (readTagName found.1 found.2).map fun found =>
          (Token.tag found.1.1 found.1.2, found.2) := by
    intro found
    unfold readTagName
    split
    · cases readTagAfter false [] found.2 <;> rfl
    · cases readTagAfter false found.1 found.2 with
      | none => rfl
      | some suffix => by_cases empty : suffix.1 = [] <;> simp [empty]
  unfold readTag readTagRest
  simp only [second, twice]
  by_cases verbatim : (cursor.advance 1).isAt '<' = true
  · rw [if_pos verbatim, if_pos verbatim]
    cases readTagAfter true [] (cursor.advance 2) with
    | none => rfl
    | some found => cases closed : found.2.isAt '>' <;> simp [closeVerbatim, closed]
  · rw [if_neg verbatim, if_neg verbatim, handle]
    simp only [tagAfter]
    split
    · exact named _
    · exact named _

theorem readTagName_inline (handle : List Char) : Inline (readTagName handle) := by
  unfold readTagName
  split
  · exact .bind (fun name next => some ((bytesOf handle, name), next))
      (readTagAfter_inline false []) fun _ => .done _
  · exact .bind
      (fun name next =>
        some ((if name.isEmpty then ([], bytesOf ['!']) else (bytesOf ['!'], name)), next))
      (readTagAfter_inline false handle) fun _ => .done _

theorem closeVerbatim_inline (suffix : List UInt8) : Inline (closeVerbatim suffix) :=
  .after '>' (by decide) (.done _) .none

theorem tagAfter_inline (word : List Char) : Inline (tagAfter word) :=
  .after '!' (by decide) (readTagName_inline _) (readTagName_inline _)

/-- All three forms of a tag end within the line. -/
theorem readTagRest_inline : Inline readTagRest :=
  .after '<' (by decide)
    (.bind closeVerbatim (readTagAfter_inline true []) closeVerbatim_inline)
    (.span isWord (by decide) tagAfter tagAfter_inline)

/-- A name after its indicator, which ends where a name may end. -/
def nameAfter (name : List Char) (next : Cursor) : Option (List Char × Cursor) :=
  if name.isEmpty then none
  else if next.endsOr
      (fun character => isGap character || "?:,]\x7d%@\x60".toList.contains character) 0
  then some (name, next)
  else none

theorem nameAfter_inline (name : List Char) : Inline (nameAfter name) := by
  unfold nameAfter
  split
  · exact .none
  · exact .ite _ (fun _ _ ends => endsOr_followedBy ends (by decide) (Nat.zero_le _))
      (.done name) .none

/-- The name of an anchor ends within the line. -/
theorem readAnchor_inline : Inline readAnchor :=
  .span isWord (by decide) nameAfter nameAfter_inline

/-! ## Directives -/

theorem readVersionNumber_inline : Inline readVersionNumber := by
  intro cursor tail ends
  have same := spanWhile_followedBy ends (by decide : Char.isDigit '\n' = false) cursor
  simp only [readVersionNumber, same]
  split <;> rfl

/-- A version after its first number. -/
def versionAfter (major : Nat) (next : Cursor) : Option (Token × Cursor) :=
  if next.isAt '.' then
    (readVersionNumber (next.advance 1)).bind fun minor =>
      some (.version major minor.1, minor.2)
  else none

/-- A version is read in two steps, the second behind its dot. -/
theorem readVersion_eq (cursor : Cursor) :
    readVersion cursor =
      (readVersionNumber (cursor.spanWhile isSpaceOrTab).2).bind fun major =>
        versionAfter major.1 major.2 := by
  simp only [readVersion, skipWhile, bind]
  cases readVersionNumber (cursor.spanWhile isSpaceOrTab).2 with
  | none => rfl
  | some major => cases dotted : major.2.isAt '.' <;> simp [versionAfter, dotted]

theorem versionAfter_inline (major : Nat) : Inline (versionAfter major) :=
  .after '.' (by decide)
    (.bind (fun minor next => some (Token.version major minor, next)) readVersionNumber_inline
      fun _ => .done _)
    .none

theorem readVersion_inline : Inline readVersion := by
  rw [funext readVersion_eq]
  exact .span isSpaceOrTab (by decide) _ fun _ =>
    .bind versionAfter readVersionNumber_inline versionAfter_inline

/-- The end of what a handle stands for. -/
def closeExpansion
    (handle : List Char)
    (expansion : List UInt8)
    (next : Cursor) : Option (Token × Cursor) :=
  if next.gapAt 0 then some (.tagHandle (bytesOf handle) expansion, next) else none

/-- What a handle stands for, after blanks. -/
def expansionAfter (handle : List Char) (next : Cursor) : Option (Token × Cursor) :=
  if handle ≠ ['!'] ∧ handle.getLast? ≠ some '!' then none
  else if !(next.peek?.any isSpaceOrTab) then none
  else
    (readTagAfter true [] (next.spanWhile isSpaceOrTab).2).bind fun found =>
      closeExpansion handle found.1 found.2

theorem readTagDirective_eq (cursor : Cursor) :
    readTagDirective cursor =
      (readHandle (cursor.spanWhile isSpaceOrTab).2).bind fun handle =>
        expansionAfter handle.1 handle.2 := rfl

/-- What a handle stands for ends within the line, and so does the gap behind it. -/
theorem expansionAfter_inline (handle : List Char) : Inline (expansionAfter handle) := by
  have expansion : Inline fun next : Cursor =>
      (readTagAfter true [] (next.spanWhile isSpaceOrTab).2).bind fun found =>
        closeExpansion handle found.1 found.2 :=
    .span isSpaceOrTab (by decide) _ fun _ =>
      .bind (closeExpansion handle) (readTagAfter_inline true []) fun _ => .gapAt (.done _) .none
  unfold expansionAfter
  split
  · exact .none
  · refine .ite (fun cursor => !(cursor.peek?.any isSpaceOrTab)) (fun cursor tail ends => ?_)
      .none expansion
    rw [peek?_any_followedBy ends (by decide)]

theorem readTagDirective_inline : Inline readTagDirective := by
  rw [funext readTagDirective_eq]
  exact .span isSpaceOrTab (by decide) _ fun _ =>
    .bind expansionAfter readHandle_inline expansionAfter_inline

/-- The value of a directive with a name. -/
def directiveValue (name : List Char) (cursor : Cursor) : Option (Token × Cursor) :=
  if name = "YAML".toList then readVersion cursor
  else if name = "TAG".toList then readTagDirective cursor
  else none

/-- The line of a directive after its value. -/
def endDirective (token : Token) (next : Cursor) : Option (Token × Cursor) :=
  ((skipToLineEnd next).map fun next => ((), next)).bind fun ended => some (token, ended.2)

/-- A directive is its name, its value and the rest of its line. -/
theorem readDirective_eq (cursor : Cursor) :
    readDirective cursor =
      if !(readWord cursor).2.gapAt 0 then none
      else
        (directiveValue (readWord cursor).1 (readWord cursor).2).bind fun found =>
          endDirective found.1 found.2 := by
  simp only [readDirective, bind, directiveValue]
  split
  · rfl
  · split
    · cases readVersion (readWord cursor).2 with
      | none => rfl
      | some found => cases next : skipToLineEnd found.2 <;> simp [endDirective, next]
    · split
      · cases readTagDirective (readWord cursor).2 with
        | none => rfl
        | some found => cases next : skipToLineEnd found.2 <;> simp [endDirective, next]
      · rfl

theorem directiveValue_inline (name : List Char) : Inline (directiveValue name) := by
  unfold directiveValue
  split
  · exact readVersion_inline
  · split
    · exact readTagDirective_inline
    · exact .none

/-- A directive ends inside the text. -/
theorem readDirective_stops
    {cursor : Cursor}
    (isOpen : cursor.Open) :
    Stops readDirective cursor := by
  have isInline : Inline fun cursor : Cursor =>
      if !(readWord cursor).2.gapAt 0 then none
      else directiveValue (readWord cursor).1 (readWord cursor).2 :=
    .span isWord (by decide)
      (fun name next => if !next.gapAt 0 then none else directiveValue name next)
      fun name => .ite (fun cursor => !cursor.gapAt 0)
        (fun _ _ ends => by rw [gapAt_followedBy ends (Nat.zero_le _)]) .none
        (directiveValue_inline name)
  refine .of_step
    (.bind (fun _ => endDirective) (Stops.of_inline isInline isOpen)
      fun token next _ found => ?_)
    (Nat.le_refl 0) fun _ tail _ => ?_
  · exact .bind (fun _ _ cursor => some (token, cursor))
      (skipToLineEnd_stops ((isInline.open isOpen).2 token next found))
      fun _ last closed _ => .of_some token closed fun _ _ _ _ => rfl
  · rw [readDirective_eq]
    split <;> rfl

end Lexer
end Yaml
end ManifestPolicy
