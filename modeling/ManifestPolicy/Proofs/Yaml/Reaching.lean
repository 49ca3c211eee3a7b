import ManifestPolicy.Proofs.Yaml.TagText

/-!
# Where reading leads

Every step of reading goes over characters of the line or over line breaks, and never
back. What is left of a text is therefore never longer than the text, and what comes after
a line break is the start of a line.
-/

namespace ManifestPolicy
namespace Yaml

open Cursor

/-- The places that can be reached from a place over characters of a line and over line
breaks. -/
inductive Reaches (start : Cursor) : Cursor → Prop
  | refl : Reaches start start
  | advance {place : Cursor} (reached : Reaches start place) (count : Nat) :
      Reaches start (place.advance count)
  | skipBreak {place : Cursor} (reached : Reaches start place) : Reaches start place.skipBreak

namespace Reaches

/-- What is reached from a place that is reached is reached. -/
theorem trans
    {first second third : Cursor}
    (before : Reaches first second)
    (after : Reaches second third) :
    Reaches first third := by
  induction after with
  | refl => exact before
  | advance _ count reached => exact reached.advance count
  | skipBreak _ reached => exact reached.skipBreak

/-- What characters of a line and line breaks preserve holds at every place that can be
reached. -/
theorem preserves
    {property : Cursor → Prop}
    (advance : ∀ cursor count, property cursor → property (cursor.advance count))
    (skipBreak : ∀ cursor, property cursor → property cursor.skipBreak)
    {start place : Cursor}
    (reaches : Reaches start place)
    (holds : property start) :
    property place := by
  induction reaches with
  | refl => exact holds
  | advance _ count holds => exact advance _ count holds
  | skipBreak _ holds => exact skipBreak _ holds

/-- Nothing is read twice: what is left of a text gets shorter on the way. -/
theorem length_le
    {start place : Cursor}
    (reaches : Reaches start place) :
    place.rest.length ≤ start.rest.length := by
  refine @preserves (fun place => place.rest.length ≤ start.rest.length)
    (fun cursor count shorter => Nat.le_trans ?_ shorter)
    (fun cursor shorter => Nat.le_trans (length_skipBreak cursor) shorter)
    _ _ reaches (Nat.le_refl _)
  simp

end Reaches

/-- Reading ends at a place that can be reached. -/
def Leads (read : Cursor → Option (α × Cursor)) : Prop :=
  ∀ ⦃cursor value next⦄, read cursor = some (value, next) → Reaches cursor next

namespace Leads

theorem none : Leads (fun _ => (Option.none : Option (α × Cursor))) :=
  fun _ _ _ impossible => nomatch impossible

theorem done (value : α) : Leads (fun cursor => some (value, cursor)) := by
  intro cursor _ next same
  rw [(Prod.mk.inj (Option.some.inj same)).2]
  exact .refl

/-- Two steps lead on one after the other, whatever the first has read. -/
theorem bind
    {first : Cursor → Option (β × Cursor)}
    (second : β → Cursor → Option (α × Cursor))
    (begins : Leads first)
    (goesOn : ∀ value, Leads (second value)) :
    Leads (fun cursor => (first cursor).bind fun found => second found.1 found.2) := by
  intro cursor value next found
  obtain ⟨⟨word, after⟩, read, found⟩ := Option.bind_eq_some_iff.1 found
  exact (begins read).trans (goesOn word found)

/-- A step may depend on what comes next. -/
theorem ite
    (test : Cursor → Bool)
    {left right : Cursor → Option (α × Cursor)}
    (onTrue : Leads left)
    (onFalse : Leads right) :
    Leads (fun cursor => if test cursor then left cursor else right cursor) := by
  intro cursor value next found
  simp only at found
  split at found
  · exact onTrue found
  · exact onFalse found

/-- A step may go on after a number of characters. -/
theorem advance
    {read : Cursor → Option (α × Cursor)}
    (leads : Leads read)
    (count : Nat) :
    Leads (fun cursor => read (cursor.advance count)) :=
  fun _ _ _ found => (Reaches.refl.advance count).trans (leads found)

/-- A step may go on after a line break. -/
theorem skipBreak
    {read : Cursor → Option (α × Cursor)}
    (leads : Leads read) :
    Leads (fun cursor => read cursor.skipBreak) :=
  fun _ _ _ found => Reaches.refl.skipBreak.trans (leads found)

/-- A step may go on after characters of a kind. -/
theorem span
    (kind : Char → Bool)
    (next : List Char → Cursor → Option (α × Cursor))
    (goesOn : ∀ text, Leads (next text)) :
    Leads (fun cursor => next (cursor.spanWhile kind).1 (cursor.spanWhile kind).2) :=
  fun _ _ _ found => (Reaches.refl.advance _).trans (goesOn _ found)

end Leads

/-! ## Scalars -/

namespace Gap

/-- Every character of a gap is passed over alone, a line break with both of its characters. -/
theorem readRest_leads
    (limit fuel : Nat)
    (gap : Gap) :
    Leads (readRest limit fuel gap) := by
  induction fuel generalizing gap with
  | zero => exact .done gap
  | succ fuel leads =>
      intro cursor value next found
      unfold readRest at found
      split at found
      · exact Leads.done gap found
      · split at found
        · split at found
          · split at found
            · contradiction
            · exact (leads _).advance 1 found
          · exact (leads _).advance 1 found
        · split at found
          · simp only at found
            split at found
            · exact (leads _).skipBreak found
            · exact (leads _).skipBreak found
          · exact Leads.done gap found

theorem read_leads (limit : Nat) (gap : Gap) : Leads (Gap.read limit gap) :=
  fun cursor _ _ found => readRest_leads limit cursor.rest.length gap found

end Gap

/-- A run of a plain scalar is followed by a gap, and the scalar goes on behind it. -/
theorem plainAfter_leads
    {inFlow : Bool}
    {indent fuel : Nat}
    (leads : ∀ text gap, Leads (plainParts inFlow indent fuel text gap))
    (text : List Char)
    (gap : Gap)
    (run : List Char) :
    Leads (plainAfter inFlow indent fuel text gap run) := by
  unfold plainAfter
  generalize (if run.isEmpty then text else text ++ gap.text ++ run) = joined
  generalize (if run.isEmpty then gap else ({} : Gap)) = before
  refine .ite _ (.done (joined, before.broken)) (.bind
    (fun gap cursor =>
      if !inFlow && cursor.column < indent then some ((joined, gap.broken), cursor)
      else plainParts inFlow indent fuel joined gap cursor)
    (Gap.read_leads indent before) fun gap => ?_)
  exact .ite _ (.done (joined, gap.broken)) (leads joined gap)

/-- A plain scalar goes on run by run, so that the induction is on the runs that may come. -/
theorem plainParts_leads
    (inFlow : Bool)
    (indent fuel : Nat)
    (text : List Char)
    (gap : Gap) :
    Leads (plainParts inFlow indent fuel text gap) := by
  induction fuel generalizing text gap with
  | zero => exact .done (text, gap.broken)
  | succ fuel leads =>
      intro cursor value next found
      rw [plainParts_succ] at found
      split at found
      · exact Leads.done _ found
      · obtain ⟨run, _, found⟩ := Option.bind_eq_some_iff.1 found
        exact (plainAfter_leads leads text gap run).advance run.length found

/-- A plain scalar goes on after its first character where one begins. -/
theorem readPlain_reaches
    {inFlow : Bool}
    {indent : Nat}
    {cursor : Cursor}
    {plain : PlainScalar}
    (found : readPlain inFlow indent cursor = some plain)
    (unmarked : (cursor.atDocumentMarker || cursor.isAt '#') = false)
    (begins : ∀ run, plainRun inFlow [] cursor.rest = some run → run ≠ []) :
    Reaches (cursor.advance 1) plain.cursor := by
  have parts : plainParts inFlow indent (cursor.rest.length + 1) [] {} cursor =
      some ((plain.text, plain.broken), plain.cursor) := by
    rw [plainParts, ← readPlain, found]
    rfl
  rw [plainParts_succ, unmarked] at parts
  obtain ⟨run, isRun, parts⟩ := Option.bind_eq_some_iff.1 parts
  have after := plainAfter_leads (plainParts_leads inFlow indent cursor.rest.length)
    [] {} run parts
  have positive := List.length_pos_iff.2 (begins run isRun)
  have twice : (cursor.advance 1).advance (run.length - 1) = cursor.advance run.length := by
    have whole : 1 + (run.length - 1) = run.length := by omega
    simp only [Cursor.advance, List.drop_drop, Nat.add_assoc, whole]
  rw [← twice] at after
  exact (Reaches.refl.advance _).trans after

/-- An escape is its letter, and as many digits as the letter asks for. -/
theorem readEscape_leads : Leads readEscape := by
  intro cursor value next found
  unfold readEscape at found
  cases first : cursor.peek? with
  | none => simp [first] at found
  | some letter =>
      simp only [first, Option.bind_some, bind] at found
      split at found
      · exact (Leads.done _).advance 1 found
      · cases isLength : escapeLength? letter with
        | none => simp [isLength] at found
        | some length =>
            simp only [isLength, Option.bind_some] at found
            split at found
            · contradiction
            · simp only [Option.bind_eq_some_iff, pure, Option.some.injEq, Prod.mk.injEq] at found
              obtain ⟨_, _, _, _, _, same⟩ := found
              rw [← same]
              exact (Reaches.refl.advance 1).advance length

/-- A run of a quoted scalar goes on over characters and escapes, also over an escaped line break.
-/
theorem quotedParts_leads
    (single : Bool)
    (fuel : Nat)
    (taken : List Char) :
    Leads (quotedParts single fuel taken) := by
  induction fuel generalizing taken with
  | zero => exact .done (taken.reverse, ({} : Gap))
  | succ fuel leads =>
      intro cursor value next found
      have here : some ((taken.reverse, ({} : Gap)), cursor) = some (value, next) →
          Reaches cursor next := fun found => Leads.done _ found
      unfold quotedParts quotedRun at found
      split at found
      · exact here found
      · split at found
        · exact here found
        · split at found
          · split at found
            · split at found
              · exact (leads _).advance 2 found
              · exact here found
            · exact (leads _).advance 1 found
          · split at found
            · exact here found
            · split at found
              · simp only at found
                split at found
                · exact ((Leads.done _).skipBreak).advance 1 found
                · split at found
                  · contradiction
                  next read =>
                    exact (Reaches.refl.advance 1).trans
                      ((readEscape_leads read).trans (leads _ found))
              · exact (leads _).advance 1 found

/-- A quoted scalar goes on line by line up to the closing quote. -/
theorem readQuotedRest_leads
    (single : Bool)
    (fuel : Nat)
    (text : List Char) :
    Leads (readQuotedRest single fuel text) := by
  induction fuel generalizing text with
  | zero => exact .none
  | succ fuel leads =>
      have after : ∀ found, Leads (quotedAfter single fuel text found) :=
        fun found => .ite _ ((Leads.done (text ++ found.1)).advance 1)
          (.bind (fun gap => readQuotedRest single fuel (text ++ found.1 ++ gap.text))
            (Gap.read_leads 0 found.2) fun gap => leads _)
      intro cursor value next found
      rw [readQuotedRest_succ] at found
      split at found
      · contradiction
      · exact Leads.bind _ (quotedParts_leads single cursor.rest.length []) after found

theorem readQuoted_leads (single : Bool) : Leads (readQuoted single) :=
  fun cursor _ _ found => readQuotedRest_leads single (cursor.rest.length + 1) [] found

theorem readIncrement_leads : Leads readIncrement := by
  intro cursor value next found
  unfold readIncrement at found
  split at found
  · exact Leads.done none found
  · split at found
    · contradiction
    · split at found
      · exact (Leads.done _).advance 1 found
      · exact Leads.done none found

/-- The header of a block that begins with its increment. -/
def headerAfter (increment : Option Nat) (cursor : Cursor) : Option (BlockHeader × Cursor) :=
  match increment, chomping? cursor with
  | some increment, some chomping => some (⟨chomping, some increment⟩, cursor.advance 1)
  | _, _ => some (⟨.clip, increment⟩, cursor)

/-- Behind the increment of a block its chomping may come. -/
theorem headerAfter_leads (increment : Option Nat) : Leads (headerAfter increment) := by
  intro cursor value next found
  unfold headerAfter at found
  split at found
  · exact (Leads.done _).advance 1 found
  · exact Leads.done _ found

/-- A header is read in either order of its two parts. -/
theorem readBlockHeader_leads : Leads readBlockHeader := by
  intro cursor value next found
  unfold readBlockHeader at found
  split at found
  next chomping _ =>
    exact Leads.bind
      (fun increment next => some ((⟨chomping, increment⟩ : BlockHeader), next))
      (readIncrement_leads.advance 1) (fun _ => .done _) found
  · exact Leads.bind headerAfter readIncrement_leads headerAfter_leads found

/-- The rest of a line is passed over with the line break that ends it. -/
theorem skipToLineEnd_leads :
    Leads (fun cursor => (skipToLineEnd cursor).map fun next => ((), next)) := by
  intro cursor value next found
  have ends : Leads fun cursor : Cursor =>
      if cursor.atLineEnd then some ((), cursor) else none := .ite _ (.done ()) .none
  have comment : Leads fun cursor : Cursor =>
      if cursor.isAt '#' then
        if (cursor.spanWhile fun character => !isBreak character).2.atLineEnd then
          some ((), (cursor.spanWhile fun character => !isBreak character).2)
        else none
      else if cursor.atLineEnd then some ((), cursor) else none :=
    .ite _ (.span _ _ fun _ => ends) ends
  have blanks := Leads.span isSpaceOrTab _ fun _ => comment
  simp only [skipToLineEnd_eq, Option.map_map, Option.map_eq_some_iff] at found
  obtain ⟨⟨_, ended⟩, found, same⟩ := found
  rw [← (Prod.mk.inj same).2]
  refine Reaches.skipBreak (@blanks cursor () ended ?_)
  rw [← found]
  cases commented : (cursor.spanWhile isSpaceOrTab).2.isAt '#' <;>
    simp [lineEnd, skipWhile, commented]

/-- Empty lines of a block are passed over with their indentation. -/
theorem blockBreaks_leads
    (indent fuel widest : Nat)
    (breaks : List Char) :
    Leads (blockBreaks indent fuel widest breaks) := by
  induction fuel generalizing widest breaks with
  | zero => exact .done (breaks, widest)
  | succ fuel leads =>
      intro cursor value next found
      simp only [blockBreaks_succ] at found
      split at found
      · contradiction
      · split at found
        · exact ((leads _ _).skipBreak).advance _ found
        · exact (Leads.done _).advance _ found

/-- A line of a block is followed by its line break and by empty lines. -/
theorem readBlockLines_leads
    (literal : Bool)
    (indent fuel : Nat)
    (block : BlockText) :
    Leads (readBlockLines literal indent fuel block) := by
  induction fuel generalizing block with
  | zero => exact .done block
  | succ fuel leads =>
      intro cursor value next found
      cases begins : cursor.peek? with
      | none =>
          simp only [readBlockLines, begins] at found
          exact Leads.done block found
      | some character =>
          by_cases inside : cursor.column = indent
          · rw [readBlockLines_succ literal fuel block begins inside] at found
            exact (Reaches.refl.advance _).skipBreak.trans (Leads.bind
              (fun breaks next => readBlockLines literal indent fuel
                (block.grow literal character _ _ breaks.1) next)
              (blockBreaks_leads indent _ 0 []) (fun _ => leads _) found)
          · simp only [readBlockLines, begins, inside, ne_eq, not_false_eq_true, if_true]
              at found
            exact Leads.done block found

theorem blockBody_leads
    (literal : Bool)
    (parent : Int)
    (header : BlockHeader) :
    Leads (blockBody literal parent header) := by
  intro cursor value next found
  refine Leads.bind (blockLines literal parent header)
    (blockBreaks_leads _ (cursor.rest.length + 1) 0 []) (fun breaks => ?_) found
  intro cursor value next found
  exact Leads.bind (fun lines next => some (chomped header.chomping lines, next))
    (readBlockLines_leads literal _ cursor.rest.length _) (fun _ => .done _) found

/-- A block is its header, the rest of that line, and the lines behind it. -/
theorem readBlock_leads
    (literal : Bool)
    (parent : Int) :
    Leads (readBlock literal parent) := by
  intro cursor value next found
  rw [readBlock_eq] at found
  exact Leads.bind _ readBlockHeader_leads
    (fun header => .bind (fun _ => blockBody literal parent header) skipToLineEnd_leads
      fun _ => blockBody_leads literal parent header)
    found

/-! ## Names, tags and directives -/

namespace Lexer

theorem nameAfter_leads (name : List Char) : Leads (nameAfter name) := by
  unfold nameAfter
  split
  · exact .none
  · exact .ite _ (.done name) .none

/-- The name of an anchor is a word, and what comes behind it is looked at only. -/
theorem readAnchor_leads : Leads readAnchor :=
  .span isWord nameAfter nameAfter_leads

/-- A byte in percent form is three characters. -/
theorem readPercent_leads : Leads readPercent := by
  intro cursor value next found
  unfold readPercent at found
  split at found
  · simp only [Option.bind_eq_some_iff, bind, pure, Option.some.injEq, Prod.mk.injEq] at found
    obtain ⟨_, _, _, _, _, same⟩ := found
    rw [← same]
    exact Reaches.refl.advance 3
  · contradiction

theorem readPercentTail_leads
    (owed : Nat)
    (bytes : List UInt8) :
    Leads (readPercentTail owed bytes) := by
  induction owed generalizing bytes with
  | zero => exact .done bytes
  | succ owed leads =>
      refine .bind
        (fun byte cursor =>
          if byte / 64 ≠ 2 then none
          else readPercentTail owed (bytes ++ [byte.toUInt8]) cursor)
        readPercent_leads fun byte => ?_
      split
      · exact .none
      · exact leads _

/-- The characters of a tag are passed over alone, those in percent form by their bytes. -/
theorem readTagText_leads
    (verbatim : Bool)
    (fuel : Nat)
    (bytes : List UInt8) :
    Leads (readTagText verbatim fuel bytes) := by
  induction fuel generalizing bytes with
  | zero => exact .done bytes
  | succ fuel leads =>
      intro cursor value next found
      unfold readTagText at found
      split at found
      · exact Leads.done _ found
      · split at found
        · simp only [Option.bind_eq_some_iff, bind] at found
          obtain ⟨⟨byte, after⟩, isByte, found⟩ := found
          simp only at found
          split at found
          · contradiction
          · simp only [Option.bind_eq_some_iff] at found
            obtain ⟨⟨_, last⟩, isTail, found⟩ := found
            exact ((readPercent_leads isByte).trans (readPercentTail_leads _ _ isTail)).trans
              (leads _ found)
        · split at found
          · exact (leads _).advance 1 found
          · exact Leads.done _ found

theorem readTagAfter_leads
    (verbatim : Bool)
    (head : List Char) :
    Leads (readTagAfter verbatim head) := by
  have read : Leads fun cursor => readTagText verbatim cursor.rest.length [] cursor :=
    fun cursor _ _ found => readTagText_leads verbatim cursor.rest.length [] found
  refine .bind
    (fun bytes next =>
      if head.isEmpty && bytes.isEmpty then none else some (bytesOf (head.drop 1) ++ bytes, next))
    read fun bytes => ?_
  split
  · exact .none
  · exact .done _

/-- A handle may end with a second mark. -/
theorem readHandle_leads : Leads readHandle :=
  .ite _ (Leads.advance (.span isWord
    (fun word next =>
      if next.isAt '!' then some ('!' :: word ++ ['!'], next.advance 1)
      else some ('!' :: word, next))
    fun _ => .ite _ ((Leads.done _).advance 1) (.done _)) 1) .none

theorem readTagName_leads (handle : List Char) : Leads (readTagName handle) := by
  unfold readTagName
  split
  · exact .bind (fun name next => some ((bytesOf handle, name), next))
      (readTagAfter_leads false []) fun _ => .done _
  · exact .bind
      (fun name next =>
        some ((if name.isEmpty then ([], bytesOf ['!']) else (bytesOf ['!'], name)), next))
      (readTagAfter_leads false handle) fun _ => .done _

theorem closeVerbatim_leads (suffix : List UInt8) : Leads (closeVerbatim suffix) :=
  .ite _ ((Leads.done _).advance 1) .none

theorem tagAfter_leads (word : List Char) : Leads (tagAfter word) :=
  .ite _ ((readTagName_leads _).advance 1) (readTagName_leads _)

/-- A tag is read in one of its three forms, each of which goes on from its mark. -/
theorem readTagRest_leads : Leads readTagRest :=
  .ite _ ((Leads.bind closeVerbatim (readTagAfter_leads true []) closeVerbatim_leads).advance 1)
    (.span isWord tagAfter tagAfter_leads)

/-- A version number is as long as its digits. -/
theorem readVersionNumber_leads : Leads readVersionNumber := by
  intro cursor value next found
  simp only [readVersionNumber] at found
  split at found
  · contradiction
  · rw [← (Prod.mk.inj (Option.some.inj found)).2]
    exact Reaches.refl.advance _

theorem versionAfter_leads (major : Nat) : Leads (versionAfter major) :=
  .ite _
    ((Leads.bind (fun minor next => some (Token.version major minor, next))
      readVersionNumber_leads fun _ => .done _).advance 1)
    .none

theorem readVersion_leads : Leads readVersion := by
  rw [funext readVersion_eq]
  exact .span isSpaceOrTab _ fun _ =>
    .bind versionAfter readVersionNumber_leads versionAfter_leads

/-- What a handle stands for comes behind a gap and is followed by another. -/
theorem expansionAfter_leads (handle : List Char) : Leads (expansionAfter handle) := by
  have expansion : Leads fun next : Cursor =>
      (readTagAfter true [] (next.spanWhile isSpaceOrTab).2).bind fun found =>
        closeExpansion handle found.1 found.2 :=
    .span isSpaceOrTab _ fun _ =>
      .bind (closeExpansion handle) (readTagAfter_leads true []) fun _ => .ite _ (.done _) .none
  unfold expansionAfter
  split
  · exact .none
  · exact .ite _ .none expansion

theorem readTagDirective_leads : Leads readTagDirective := by
  rw [funext readTagDirective_eq]
  exact .span isSpaceOrTab _ fun _ =>
    .bind expansionAfter readHandle_leads expansionAfter_leads

theorem directiveValue_leads (name : List Char) : Leads (directiveValue name) := by
  unfold directiveValue
  split
  · exact readVersion_leads
  · split
    · exact readTagDirective_leads
    · exact .none

theorem endDirective_leads (token : Token) : Leads (endDirective token) :=
  .bind (fun _ cursor => some (token, cursor)) skipToLineEnd_leads fun _ => .done token

/-- A directive goes on over its name and its value to the end of its line. -/
theorem readDirective_leads : Leads readDirective := by
  rw [funext readDirective_eq]
  exact .span isWord
    (fun name next =>
      if !next.gapAt 0 then none
      else (directiveValue name next).bind fun found => endDirective found.1 found.2)
    fun name => .ite _ .none
      (.bind endDirective (directiveValue_leads name) endDirective_leads)

end Lexer
end Yaml
end ManifestPolicy
