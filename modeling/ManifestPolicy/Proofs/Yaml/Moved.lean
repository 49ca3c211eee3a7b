import ManifestPolicy.Proofs.Yaml.TagText

/-!
# Places further on

How many characters and lines lie before a place does not matter for what is read there.
-/

namespace ManifestPolicy
namespace Yaml

namespace Cursor

/-- The same place with more characters and lines before it. -/
def moved (index line : Nat) (cursor : Cursor) : Cursor :=
  { cursor with index := cursor.index + index, line := cursor.line + line }

section

variable (index line : Nat) (cursor : Cursor)

@[simp] theorem rest_moved : (cursor.moved index line).rest = cursor.rest := rfl

@[simp] theorem column_moved : (cursor.moved index line).column = cursor.column := rfl

@[simp] theorem peek?_moved : (cursor.moved index line).peek? = cursor.peek? := rfl

@[simp] theorem peekAt?_moved (offset : Nat) :
    (cursor.moved index line).peekAt? offset = cursor.peekAt? offset := rfl

@[simp] theorem isAt_moved (character : Char) :
    (cursor.moved index line).isAt character = cursor.isAt character := rfl

@[simp] theorem gapAt_moved (offset : Nat) :
    (cursor.moved index line).gapAt offset = cursor.gapAt offset := rfl

@[simp] theorem atMarker_moved (character : Char) :
    (cursor.moved index line).atMarker character = cursor.atMarker character := rfl

@[simp] theorem atDocumentMarker_moved :
    (cursor.moved index line).atDocumentMarker = cursor.atDocumentMarker := rfl

@[simp] theorem advance_moved (count : Nat) :
    (cursor.moved index line).advance count = (cursor.advance count).moved index line := by
  simp only [advance, moved, Nat.add_right_comm]

@[simp] theorem spanWhile_moved (kind : Char → Bool) :
    (cursor.moved index line).spanWhile kind =
      ((cursor.spanWhile kind).1, (cursor.spanWhile kind).2.moved index line) := by
  simp only [spanWhile, rest_moved, advance_moved]

@[simp] theorem skipWhile_moved (kind : Char → Bool) :
    (cursor.moved index line).skipWhile kind = (cursor.skipWhile kind).moved index line := by
  simp only [skipWhile, spanWhile_moved]

@[simp] theorem nextLineAfter_moved (rest : List Char) (count : Nat) :
    (cursor.moved index line).nextLineAfter rest count =
      (cursor.nextLineAfter rest count).moved index line := by
  simp only [nextLineAfter, moved, Nat.add_right_comm]

/-- A line break reads the same further on, and counts one line from there. -/
@[simp] theorem readBreak_moved :
    (cursor.moved index line).readBreak =
      (cursor.readBreak.1, cursor.readBreak.2.moved index line) := by
  cases text : cursor.rest with
  | nil => simp [readBreak, text]
  | cons first later =>
      have same : (cursor.moved index line).rest = first :: later := text
      rw [readBreak_cons text, readBreak_cons same, nextLineAfter_moved, nextLineAfter_moved]
      split
      · rfl
      · split
        · rfl
        · split <;> rfl

@[simp] theorem skipBreak_moved :
    (cursor.moved index line).skipBreak = cursor.skipBreak.moved index line := by
  rw [skipBreak, readBreak_moved]
  rfl

end

end Cursor

open Cursor

/-- What is read does not depend on how much lies before it. -/
def Movable (read : Cursor → Option (α × Cursor)) : Prop :=
  ∀ index line cursor,
    read (cursor.moved index line) = (read cursor).map fun found =>
      (found.1, found.2.moved index line)

namespace Movable

theorem none : Movable (fun _ => (Option.none : Option (α × Cursor))) := fun _ _ _ => rfl

theorem done (value : α) : Movable (fun cursor => some (value, cursor)) := fun _ _ _ => rfl

/-- Two movable steps are movable one after the other. -/
theorem bind
    {first : Cursor → Option (β × Cursor)}
    (second : β → Cursor → Option (α × Cursor))
    (begins : Movable first)
    (goesOn : ∀ value, Movable (second value)) :
    Movable (fun cursor => (first cursor).bind fun found => second found.1 found.2) := by
  intro index line cursor
  simp only [begins index line cursor]
  cases first cursor with
  | none => rfl
  | some found => exact goesOn found.1 index line found.2

/-- A step may depend on a test that does not ask where it is. -/
theorem ite
    (test : Cursor → Bool)
    {left right : Cursor → Option (α × Cursor)}
    (same : ∀ index line cursor, test (cursor.moved index line) = test cursor)
    (onTrue : Movable left)
    (onFalse : Movable right) :
    Movable (fun cursor => if test cursor then left cursor else right cursor) := by
  intro index line cursor
  simp only [same, onTrue index line cursor, onFalse index line cursor]
  split <;> rfl

/-- A step may go on after characters of a kind. -/
theorem span
    (kind : Char → Bool)
    (next : List Char → Cursor → Option (α × Cursor))
    (goesOn : ∀ text, Movable (next text)) :
    Movable (fun cursor => next (cursor.spanWhile kind).1 (cursor.spanWhile kind).2) := by
  intro index line cursor
  simp only [spanWhile_moved]
  exact goesOn _ index line _

/-- A step may go on after a number of characters. -/
theorem advance
    {read : Cursor → Option (α × Cursor)}
    (movable : Movable read)
    (count : Nat) :
    Movable (fun cursor => read (cursor.advance count)) := by
  intro index line cursor
  simp only [advance_moved]
  exact movable index line _

end Movable

/-! ## Scalars -/

namespace Gap

/-- A gap asks for the column alone, which is the same further on. -/
theorem readRest_movable
    (limit fuel : Nat)
    (gap : Gap) :
    Movable (readRest limit fuel gap) := by
  induction fuel generalizing gap with
  | zero => exact .done gap
  | succ fuel movable =>
      intro index line cursor
      unfold readRest
      rw [peek?_moved]
      split
      · rfl
      · simp only [advance_moved, column_moved, readBreak_moved, movable _ index line]
        split
        · split
          · split <;> rfl
          · rfl
        · split
          · split <;> rfl
          · rfl

theorem read_movable (limit : Nat) (gap : Gap) : Movable (Gap.read limit gap) :=
  fun index line cursor => readRest_movable limit cursor.rest.length gap index line cursor

end Gap

/-- The runs and gaps of a plain scalar are read the same further on, by induction on how many
there are. -/
theorem plainParts_movable
    (inFlow : Bool)
    (indent fuel : Nat)
    (text : List Char)
    (gap : Gap) :
    Movable (plainParts inFlow indent fuel text gap) := by
  induction fuel generalizing text gap with
  | zero => exact .done (text, gap.broken)
  | succ fuel movable =>
      have after : ∀ run, Movable (plainAfter inFlow indent fuel text gap run) := by
        intro run
        unfold plainAfter
        generalize (if run.isEmpty then text else text ++ gap.text ++ run) = joined
        generalize (if run.isEmpty then gap else ({} : Gap)) = before
        refine .ite _ (fun _ _ _ => rfl) (.done (joined, before.broken)) (.bind
          (fun gap cursor =>
            if !inFlow && cursor.column < indent then some ((joined, gap.broken), cursor)
            else plainParts inFlow indent fuel joined gap cursor)
          (Gap.read_movable indent before) fun gap => ?_)
        exact .ite _ (fun _ _ _ => rfl) (.done (joined, gap.broken)) (movable joined gap)
      intro index line cursor
      simp only [plainParts_succ, atDocumentMarker_moved, isAt_moved, rest_moved,
        advance_moved]
      split
      · rfl
      · cases plainRun inFlow [] cursor.rest with
        | none => rfl
        | some run => exact after run index line (cursor.advance run.length)

/-- A plain scalar reads the same further on in a longer text. -/
theorem readPlain_movable
    (inFlow : Bool)
    (indent : Nat) :
    Movable (fun cursor => (readPlain inFlow indent cursor).map fun plain =>
      ((plain.text, plain.broken), plain.cursor)) :=
  fun index line cursor =>
    plainParts_movable inFlow indent (cursor.rest.length + 1) [] {} index line cursor

/-- An escape is decided by its characters. -/
theorem readEscape_movable : Movable readEscape := by
  intro index line cursor
  simp only [readEscape, peek?_moved, bind, advance_moved, rest_moved, pure]
  cases cursor.peek? with
  | none => rfl
  | some letter =>
      simp only [Option.bind_some]
      split
      · rfl
      · cases escapeLength? letter with
        | none => rfl
        | some length =>
            simp only [Option.bind_some]
            split
            · rfl
            · cases hexNumber? ((cursor.advance 1).rest.take length) with
              | none => rfl
              | some code => cases found : character? code <;> simp [found]

/-- A run of a quoted scalar is decided by its characters, an escaped line break included. -/
theorem quotedParts_movable
    (single : Bool)
    (fuel : Nat)
    (taken : List Char) :
    Movable (quotedParts single fuel taken) := by
  induction fuel generalizing taken with
  | zero => exact .done (taken.reverse, ({} : Gap))
  | succ fuel movable =>
      intro index line cursor
      have later := fun taken cursor => movable taken index line cursor
      simp only [quotedParts] at later ⊢
      unfold quotedRun
      rw [peek?_moved]
      split
      · rfl
      next character begins =>
        simp only [peekAt?_moved, advance_moved, peek?_moved, skipBreak_moved,
          readEscape_movable index line]
        split
        · rfl
        · split
          · split
            · split
              · exact later _ _
              · rfl
            · exact later _ _
          · split
            · rfl
            · split
              · split
                · rfl
                · cases readEscape (cursor.advance 1) with
                  | none => rfl
                  | some escaped => exact later _ _
              · exact later _ _

/-- The lines of a quoted scalar are read the same further on. -/
theorem readQuotedRest_movable
    (single : Bool)
    (fuel : Nat)
    (text : List Char) :
    Movable (readQuotedRest single fuel text) := by
  induction fuel generalizing text with
  | zero => exact .none
  | succ fuel movable =>
      have after : ∀ found, Movable (quotedAfter single fuel text found) := by
        intro found
        refine .ite _ (fun _ _ _ => rfl) (fun index line next => by simp) ?_
        exact .bind (fun gap => readQuotedRest single fuel (text ++ found.1 ++ gap.text))
          (Gap.read_movable 0 found.2) fun gap => movable _
      intro index line cursor
      rw [readQuotedRest_succ, readQuotedRest_succ, atDocumentMarker_moved, peek?_moved,
        rest_moved]
      by_cases ends : (cursor.atDocumentMarker || cursor.peek?.isNone) = true
      · rw [if_pos ends, if_pos ends]
        rfl
      · rw [if_neg ends, if_neg ends]
        exact Movable.bind _ (quotedParts_movable single cursor.rest.length []) after
          index line cursor

theorem readQuoted_movable (single : Bool) : Movable (readQuoted single) :=
  fun index line cursor =>
    readQuotedRest_movable single (cursor.rest.length + 1) [] index line cursor

theorem readIncrement_movable : Movable readIncrement := by
  intro index line cursor
  unfold readIncrement
  rw [peek?_moved]
  split
  · rfl
  · split
    · rfl
    · split <;> simp

theorem readBlockHeader_movable : Movable readBlockHeader := by
  intro index line cursor
  have same : ∀ cursor : Cursor, chomping? (cursor.moved index line) = chomping? cursor :=
    fun _ => rfl
  simp only [readBlockHeader, same, advance_moved, readIncrement_movable index line, bind, pure]
  cases chomping? cursor with
  | some chomping => cases readIncrement (cursor.advance 1) <;> rfl
  | none =>
      cases readIncrement cursor with
      | none => rfl
      | some found =>
          obtain ⟨increment, next⟩ := found
          simp only [Option.map_some, Option.bind_some, same, advance_moved]
          cases increment with
          | none => rfl
          | some increment => cases chomping? next <;> rfl

theorem lineEnd_movable : Movable lineEnd := by
  have ends : Movable fun cursor => if cursor.atLineEnd then some ((), cursor) else none :=
    .ite _ (fun _ _ _ => rfl) (.done ()) .none
  intro index line cursor
  simp only [lineEnd, skipWhile_moved, isAt_moved]
  split
  · exact ends index line _
  · exact ends index line _

theorem skipToLineEnd_movable :
    Movable (fun cursor => (skipToLineEnd cursor).map fun next => ((), next)) := by
  intro index line cursor
  simp only [skipToLineEnd_eq, lineEnd_movable index line]
  cases lineEnd cursor with
  | none => rfl
  | some found => simp

/-- Empty lines of a block are measured by columns. -/
theorem blockBreaks_movable
    (indent fuel widest : Nat)
    (breaks : List Char) :
    Movable (blockBreaks indent fuel widest breaks) := by
  induction fuel generalizing widest breaks with
  | zero => exact .done (breaks, widest)
  | succ fuel movable =>
      intro index line cursor
      have later := fun widest breaks cursor => movable widest breaks index line cursor
      simp only [blockBreaks] at later ⊢
      simp only [readBlockBreaks, rest_moved, column_moved, advance_moved, isAt_moved,
        peek?_moved, readBreak_moved]
      generalize cursor.advance _ = next
      by_cases tab : (indent = 0 ∨ next.column < indent) ∧ next.isAt '\t' = true
      · simp only [if_pos tab]
        rfl
      · simp only [if_neg tab]
        split
        · exact later _ _ _
        · rfl

/-- The lines of a block are measured by columns, and each of them is read with the breaks behind
it. -/
theorem readBlockLines_movable
    (literal : Bool)
    (indent fuel : Nat)
    (block : BlockText) :
    Movable (readBlockLines literal indent fuel block) := by
  induction fuel generalizing block with
  | zero => exact .done block
  | succ fuel movable =>
      intro index line cursor
      cases next : cursor.peek? with
      | none => simp [readBlockLines, next]
      | some character =>
          by_cases inside : cursor.column = indent
          · have nextMoved : (cursor.moved index line).peek? = some character := next
            rw [readBlockLines_succ literal fuel block next inside,
              readBlockLines_succ literal fuel block nextMoved inside]
            simp only [spanWhile_moved, readBreak_moved, rest_moved]
            exact Movable.bind
              (fun found next => readBlockLines literal indent fuel
                (block.grow literal character _ _ found.1) next)
              (blockBreaks_movable indent _ 0 []) (fun found => movable _) index line _
          · simp [readBlockLines, next, inside]

theorem blockBody_movable
    (literal : Bool)
    (parent : Int)
    (header : BlockHeader) :
    Movable (blockBody literal parent header) := by
  intro index line begun
  refine Movable.bind (blockLines literal parent header)
    (blockBreaks_movable _ (begun.rest.length + 1) 0 []) (fun breaks => ?_) index line begun
  intro index line next
  exact Movable.bind (fun lines cursor => some (chomped header.chomping lines, cursor))
    (readBlockLines_movable literal _ next.rest.length _) (fun lines => .done _)
    index line next

/-- A block reads the same further on in a longer text. -/
theorem readBlock_movable
    (literal : Bool)
    (parent : Int) :
    Movable (readBlock literal parent) := by
  intro index line cursor
  rw [readBlock_eq, readBlock_eq]
  exact Movable.bind
    (fun header cursor =>
      ((skipToLineEnd cursor).map fun next => ((), next)).bind fun begun =>
        blockBody literal parent header begun.2)
    readBlockHeader_movable
    (fun header => .bind (fun _ => blockBody literal parent header) skipToLineEnd_movable
      fun _ => blockBody_movable literal parent header)
    index line cursor

/-! ## Names, tags and directives -/

namespace Lexer

theorem readPercent_movable : Movable readPercent := by
  intro index line cursor
  unfold readPercent
  rw [rest_moved]
  split
  next high low taken =>
    simp only [bind, pure, advance_moved]
    cases CodeSet.hexDigit? high with
    | none => rfl
    | some first => cases CodeSet.hexDigit? low <;> rfl
  · rfl

theorem readPercentTail_movable
    (owed : Nat)
    (bytes : List UInt8) :
    Movable (readPercentTail owed bytes) := by
  induction owed generalizing bytes with
  | zero => exact .done bytes
  | succ owed movable =>
      intro index line cursor
      simp only [readPercentTail, bind, readPercent_movable index line]
      cases readPercent cursor with
      | none => rfl
      | some found =>
          simp only [Option.map_some, Option.bind_some]
          split
          · rfl
          · exact movable _ index line found.2

/-- The characters of a tag are read one by one. -/
theorem readTagText_movable
    (verbatim : Bool)
    (fuel : Nat)
    (bytes : List UInt8) :
    Movable (readTagText verbatim fuel bytes) := by
  induction fuel generalizing bytes with
  | zero => exact .done bytes
  | succ fuel movable =>
      intro index line cursor
      unfold readTagText
      rw [peek?_moved]
      split
      · rfl
      · split
        · simp only [bind, readPercent_movable index line]
          cases readPercent cursor with
          | none => rfl
          | some found =>
              simp only [Option.map_some, Option.bind_some]
              split
              · rfl
              · simp only [readPercentTail_movable _ _ index line]
                cases readPercentTail _ (bytes ++ [found.1.toUInt8]) found.2 with
                | none => rfl
                | some tail => exact movable _ index line tail.2
        · split
          · rw [advance_moved]
            exact movable _ index line _
          · rfl

theorem readTagAfter_movable
    (verbatim : Bool)
    (head : List Char) :
    Movable (readTagAfter verbatim head) := by
  intro index line cursor
  simp only [readTagAfter, bind, rest_moved, pure,
    readTagText_movable verbatim cursor.rest.length [] index line]
  cases readTagText verbatim cursor.rest.length [] cursor with
  | none => rfl
  | some found =>
      simp only [Option.map_some, Option.bind_some]
      split <;> rfl

theorem readHandle_movable : Movable readHandle := by
  have after : ∀ word, Movable fun next : Cursor =>
      if next.isAt '!' then some ('!' :: word ++ ['!'], next.advance 1)
      else some ('!' :: word, next) :=
    fun word => .ite _ (fun _ _ _ => rfl) ((Movable.done ('!' :: word ++ ['!'])).advance 1)
      (.done ('!' :: word))
  exact .ite (Cursor.isAt · '!') (fun _ _ _ => rfl)
    ((Movable.span isWord _ after).advance 1) .none

theorem readTagName_movable (handle : List Char) : Movable (readTagName handle) := by
  unfold readTagName
  split
  · exact .bind (fun name next => some ((bytesOf handle, name), next))
      (readTagAfter_movable false []) fun _ => .done _
  · exact .bind
      (fun name next =>
        some ((if name.isEmpty then ([], bytesOf ['!']) else (bytesOf ['!'], name)), next))
      (readTagAfter_movable false handle) fun _ => .done _

theorem closeVerbatim_movable (suffix : List UInt8) : Movable (closeVerbatim suffix) :=
  .ite _ (fun _ _ _ => rfl) ((Movable.done _).advance 1) .none

theorem tagAfter_movable (word : List Char) : Movable (tagAfter word) :=
  .ite _ (fun _ _ _ => rfl) ((readTagName_movable _).advance 1) (readTagName_movable _)

theorem readTagRest_movable : Movable readTagRest :=
  .ite _ (fun _ _ _ => rfl)
    ((Movable.bind closeVerbatim (readTagAfter_movable true []) closeVerbatim_movable).advance 1)
    (.span isWord tagAfter tagAfter_movable)

theorem nameAfter_movable (name : List Char) : Movable (nameAfter name) := by
  unfold nameAfter
  split
  · exact .none
  · exact .ite _ (fun _ _ _ => rfl) (.done name) .none

theorem readAnchor_movable : Movable readAnchor :=
  .span isWord nameAfter nameAfter_movable

theorem readVersionNumber_movable : Movable readVersionNumber := by
  intro index line cursor
  simp only [readVersionNumber, spanWhile_moved]
  split <;> rfl

theorem versionAfter_movable (major : Nat) : Movable (versionAfter major) :=
  .ite _ (fun _ _ _ => rfl)
    ((Movable.bind (fun minor next => some (Token.version major minor, next))
      readVersionNumber_movable fun _ => .done _).advance 1)
    .none

theorem readVersion_movable : Movable readVersion := by
  rw [funext readVersion_eq]
  exact .span isSpaceOrTab _ fun _ =>
    .bind versionAfter readVersionNumber_movable versionAfter_movable

theorem expansionAfter_movable (handle : List Char) : Movable (expansionAfter handle) := by
  have expansion : Movable fun next : Cursor =>
      (readTagAfter true [] (next.spanWhile isSpaceOrTab).2).bind fun found =>
        closeExpansion handle found.1 found.2 :=
    .span isSpaceOrTab _ fun _ =>
      .bind (closeExpansion handle) (readTagAfter_movable true []) fun _ =>
        .ite _ (fun _ _ _ => rfl) (.done _) .none
  unfold expansionAfter
  split
  · exact .none
  · exact .ite _ (fun _ _ _ => rfl) .none expansion

theorem readTagDirective_movable : Movable readTagDirective := by
  rw [funext readTagDirective_eq]
  exact .span isSpaceOrTab _ fun _ =>
    .bind expansionAfter readHandle_movable expansionAfter_movable

theorem directiveValue_movable (name : List Char) : Movable (directiveValue name) := by
  unfold directiveValue
  split
  · exact readVersion_movable
  · split
    · exact readTagDirective_movable
    · exact .none

theorem endDirective_movable (token : Token) : Movable (endDirective token) :=
  .bind (fun _ cursor => some (token, cursor)) skipToLineEnd_movable fun _ => .done token

/-- A directive reads the same further on in a longer text. -/
theorem readDirective_movable : Movable readDirective := by
  rw [funext readDirective_eq]
  exact .span isWord
    (fun name next =>
      if !next.gapAt 0 then none
      else (directiveValue name next).bind fun found => endDirective found.1 found.2)
    fun name => .ite _ (fun _ _ _ => rfl) .none
      (.bind endDirective (directiveValue_movable name) endDirective_movable)

end Lexer

end Yaml
end ManifestPolicy
