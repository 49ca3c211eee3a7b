import ManifestPolicy.Proofs.Yaml.Lexing

/-!
# Tokens in a setting

Every token is taken in the same way in every setting of the text, and leaves the lexer
sound. Its characters are gone over, so that every candidate is behind the place reached.
-/

namespace ManifestPolicy
namespace Yaml

open Cursor

/-- Whether a place lies on a later line than the given one, or inside it. -/
def Cursor.Past (line : Nat) (cursor : Cursor) : Prop :=
  line < cursor.line ∨ line = cursor.line ∧ 0 < cursor.column

/-- A place that is reached from behind a line is behind that line. -/
theorem Reaches.past
    {line : Nat}
    {start place : Cursor}
    (reaches : Reaches start place)
    (past : start.Past line) :
    place.Past line := by
  refine @Reaches.preserves (Cursor.Past line) (fun cursor count past => ?_)
    (fun cursor past => ?_) start place reaches past
  · rcases past with later | ⟨same, inside⟩
    · exact .inl later
    · exact .inr ⟨same, Nat.lt_of_lt_of_le inside (Nat.le_add_right _ _)⟩
  · have atMost : line ≤ cursor.line := by
      rcases past with later | ⟨same, _⟩
      · exact Nat.le_of_lt later
      · exact Nat.le_of_eq same
    have onNext : ∀ rest count, (cursor.nextLineAfter rest count).Past line :=
      fun _ _ => .inl (Nat.lt_succ_of_le atMost)
    cases text : cursor.rest with
    | nil => simpa [Cursor.skipBreak, readBreak, text] using past
    | cons first later =>
        rw [Cursor.skipBreak, readBreak_cons text]
        split
        · exact onNext _ _
        · split
          · exact onNext _ _
          · split
            · exact onNext _ _
            · exact past

/-- Whether a directive or a line that begins or ends a document begins at a place. -/
def Cursor.beginsMark (cursor : Cursor) : Bool :=
  (cursor.column == 0 && cursor.isAt '%') || cursor.atDocumentMarker

/-- A place from which no directive and no line that begins or ends a document can be
reached. -/
def Cursor.Unmarked (cursor : Cursor) : Prop :=
  ∀ place, Reaches cursor place → place.beginsMark = false

namespace Lexer

variable {setting : Setting} {base : Nat}

/-- What taking a token leaves. -/
structure Taken (setting : Setting) (base : Nat) (before after : Lexer) : Prop where
  fits : setting.Fits after.cursor
  reaches : Reaches (before.cursor.advance 1) after.cursor
  sound : Sound base after
  past : ∀ candidate, some candidate ∈ after.candidates → after.cursor.Past candidate.line
  adds : ∀ token ∈ after.tokens, token ∈ before.tokens
    ∨ Reader.endsDocument token = false ∨ before.cursor.beginsMark = true

/-- A step that takes a token does so in a setting as it does without one. -/
structure Takes
    (setting : Setting)
    (base : Nat)
    (take : Lexer → Option Lexer)
    (lexer : Lexer) : Prop where
  same : take (setting.lexer lexer) = (take lexer).map setting.lexer
  taken : ∀ next, take lexer = some next → Taken setting base lexer next

theorem takes_none (lexer : Lexer) : Takes setting base (fun _ => none) lexer :=
  ⟨rfl, fun _ impossible => nomatch impossible⟩

theorem emit_setting
    (lexer : Lexer)
    (token : Token) :
    (setting.lexer lexer).emit token = setting.lexer (lexer.emit token) := by
  simp only [emit, Setting.lexer, Lexer.mk.injEq, true_and, and_true]
  exact Array.toList_inj.1 (by simp)

/-- A line that has been begun lies behind the place after a character. -/
theorem past_of_reaches
    {line : Nat}
    {start place : Cursor}
    (begun : line ≤ start.line)
    (reaches : Reaches (start.advance 1) place) :
    place.Past line := by
  refine reaches.past ?_
  rcases Nat.lt_or_eq_of_le begun with later | same
  · exact .inl later
  · exact .inr ⟨same, Nat.succ_pos _⟩

/-- What lies behind a line lies on that line or a later one. -/
theorem line_le_of_past
    {line : Nat}
    {cursor : Cursor}
    (past : cursor.Past line) :
    line ≤ cursor.line := by
  rcases past with later | ⟨same, _⟩
  · exact Nat.le_of_lt later
  · exact Nat.le_of_eq same

/-- A token that a lexer emits behind a step that stays at its place is taken. What is left of
the candidates has to be as long as the flow collections that are then open. -/
theorem Stays.taken
    {lexer mid : Lexer}
    (stays : Stays base lexer mid)
    {left : List (Option KeyCandidate)}
    (members : ∀ candidate, some candidate ∈ left → some candidate ∈ mid.candidates)
    {token : Token}
    (depth : left.length = flowStep (flowDepth base mid.tokens.toList) token + 1)
    (inner : Reader.endsDocument token = false ∨ lexer.cursor.beginsMark = true)
    {place : Cursor}
    (fits : setting.Fits place)
    (reaches : Reaches (lexer.cursor.advance 1) place)
    (keyAllowed : Bool) :
    Taken setting base lexer
      ({ mid with candidates := left, keyAllowed := keyAllowed }.emitAt (token, place)) := by
  have past : ∀ candidate, some candidate ∈ left → place.Past candidate.line := by
    intro candidate present
    have begun := stays.sound.lines candidate (members candidate present)
    rw [stays.cursor] at begun
    exact past_of_reaches begun reaches
  refine ⟨fits, reaches, ⟨fun candidate present => ?_, fun candidate present =>
    line_le_of_past (past candidate present), stays.sound.levels, ?_⟩, past,
    fun present isPresent => ?_⟩
  · simp only [emitAt, emit, Array.size_push]
    exact Nat.le_succ_of_le (stays.sound.places candidate (members candidate present))
  · simp only [emitAt, emit, Array.toList_push, flowDepth_push]
    exact depth
  · rcases Array.mem_push.1 isPresent with isPresent | rfl
    · rcases stays.adds present isPresent with isPresent | inner
      · exact .inl isPresent
      · exact .inr (.inl inner)
    · exact .inr inner

/-- A token is taken by a step that stays at its place and reading from there. -/
theorem takes_reading
    {lexer : Lexer}
    {prepare : Lexer → Option Lexer}
    (prepared : StaysIn base prepare lexer)
    (read : Lexer → Option (α × Cursor))
    (allow : Lexer → α → Bool)
    (sameAllow : ∀ mid value, allow (setting.lexer mid) value = allow mid value)
    (token : α → Token)
    (same : ∀ mid, Stays base lexer mid → read (setting.lexer mid) =
      (read mid).map fun found => (found.1, setting.cursor found.2))
    (reads : ∀ mid, Stays base lexer mid → ∀ value place, read mid = some (value, place) →
      setting.Fits place ∧ Reaches (lexer.cursor.advance 1) place
        ∧ (∀ depth, flowStep depth (token value) = depth)
        ∧ (Reader.endsDocument (token value) = false ∨ lexer.cursor.beginsMark = true)) :
    Takes setting base
      (fun lexer => (prepare lexer).bind fun mid => (read mid).bind fun found =>
        some ((mid.allowKey (allow mid found.1)).emitAt (token found.1, found.2)))
      lexer := by
  constructor
  · simp only [prepared.same setting]
    cases found : prepare lexer with
    | none => rfl
    | some mid =>
        simp only [Option.map_some, Option.bind_some, same mid (prepared.stays mid found)]
        cases read mid with
        | none => rfl
        | some found =>
            simp only [Option.map_some, Option.bind_some, sameAllow, Option.some.injEq]
            exact emit_setting { mid.allowKey (allow mid found.1) with cursor := found.2 }
              (token found.1)
  · intro next found
    obtain ⟨mid, isMid, found⟩ := Option.bind_eq_some_iff.1 found
    obtain ⟨⟨value, place⟩, isRead, found⟩ := Option.bind_eq_some_iff.1 found
    obtain rfl := Option.some.inj found
    have stays := prepared.stays mid isMid
    obtain ⟨fits, reaches, neutral, inner⟩ := reads mid stays value place isRead
    refine stays.taken (fun _ present => present) ?_ inner fits reaches _
    rw [neutral]
    exact stays.sound.depth

/-- A token of a number of characters of the line is taken. -/
theorem takes_character
    {lexer : Lexer}
    {character : Char}
    (here : setting.At lexer.cursor character)
    {prepare : Lexer → Option Lexer}
    (prepared : StaysIn base prepare lexer)
    (allow : Lexer → Bool)
    (sameAllow : ∀ mid, allow (setting.lexer mid) = allow mid)
    {token : Token}
    (inner : token.isBlockInner = true) :
    Takes setting base
      (fun lexer => (prepare lexer).bind fun mid =>
        some (((mid.allowKey (allow mid)).advance 1).emit token))
      lexer := by
  refine takes_reading prepared (fun mid => some ((), mid.cursor.advance 1))
    (fun mid _ => allow mid) (fun mid _ => sameAllow mid) (fun _ => token) (fun mid stays => ?_)
    fun mid stays read place found => ?_
  · simp only [cursor_lexer, stays.cursor, here.advance]
    rfl
  · obtain rfl := (Prod.mk.inj (Option.some.inj found)).2
    rw [stays.cursor]
    exact ⟨here.sits_advance.fits, .refl, flowStep_of_isBlockInner inner,
      .inl (endsDocument_of_isBlockInner inner)⟩

theorem takeComma_takes
    {lexer : Lexer}
    {character : Char}
    (sound : Sound base lexer)
    (here : setting.At lexer.cursor character) :
    Takes setting base takeComma lexer :=
  takes_character here (dropCandidate_staysIn sound) (fun _ => true) (fun _ => rfl) rfl

/-- A block collection is opened at the place reached, unless a flow collection is open. -/
def openHere (token : Token) (lexer : Lexer) : Option Lexer :=
  if lexer.inFlow then some lexer
  else if !lexer.keyAllowed then none
  else some (lexer.openBlock lexer.cursor.column lexer.tokens.size token)

/-- A block is opened where the cursor is, behind all tokens, unless a flow collection is open. -/
theorem openHere_staysIn
    {lexer : Lexer}
    (sound : Sound base lexer)
    {token : Token}
    (inner : token.isBlockInner = true) :
    StaysIn base (openHere token) lexer := by
  constructor
  · intro setting
    have opens := openBlock_setting setting lexer lexer.cursor.column
      (Nat.le_refl lexer.tokens.size) token
    simp only [openHere, inFlow_lexer, keyAllowed_lexer, cursor_lexer, Setting.column_cursor,
      tokens_lexer, Array.size_append, opens]
    cases lexer.inFlow <;> cases lexer.keyAllowed <;> rfl
  · intro next found
    simp only [openHere] at found
    split at found
    · exact Option.some.inj found ▸ .refl sound
    · split at found
      · contradiction
      · exact Option.some.inj found ▸ openBlock_stays sound _ (Nat.le_refl _) inner

/-- The dash of a sequence may open a block first. -/
theorem takeEntry_takes
    {lexer : Lexer}
    {character : Char}
    (sound : Sound base lexer)
    (here : setting.At lexer.cursor character) :
    Takes setting base takeEntry lexer := by
  have same : takeEntry = fun lexer =>
      ((lexer.openHere .sequenceStart).bind dropCandidate).bind fun mid =>
        some (((mid.allowKey true).advance 1).emit .entry) := by
    funext lexer
    simp only [takeEntry, openHere]
    cases lexer.inFlow <;> cases lexer.keyAllowed <;> rfl
  rw [same]
  exact takes_character here
    ((openHere_staysIn sound rfl).bind fun _ stays => dropCandidate_staysIn stays.sound)
    (fun _ => true) (fun _ => rfl) rfl

/-- The question mark of a key may open a block first. -/
theorem takeKey_takes
    {lexer : Lexer}
    {character : Char}
    (sound : Sound base lexer)
    (here : setting.At lexer.cursor character) :
    Takes setting base takeKey lexer := by
  have same : takeKey = fun lexer =>
      ((lexer.openHere .mappingStart).bind dropCandidate).bind fun mid =>
        some (((mid.allowKey !mid.inFlow).advance 1).emit .key) := by
    funext lexer
    simp only [takeKey, openHere]
    cases lexer.inFlow <;> cases lexer.keyAllowed <;> rfl
  rw [same]
  exact takes_character here
    ((openHere_staysIn sound rfl).bind fun _ stays => dropCandidate_staysIn stays.sound)
    (fun mid => !mid.inFlow) (fun mid => by rw [inFlow_lexer]) rfl

/-- The key of a value is put before its candidate, if there is one. -/
def openValue (lexer : Lexer) : Option Lexer :=
  match lexer.candidates with
  | some candidate :: rest =>
      some ({ lexer with
        tokens := lexer.tokens.insertIdx! candidate.token .key
        candidates := none :: rest
        keyAllowed := false }.openBlock candidate.column candidate.token .mappingStart)
  | _ => (lexer.openHere .mappingStart).map fun mid => mid.allowKey !mid.inFlow

/-- The colon of a value is taken in two steps: what it makes of the candidate, and the colon
itself. -/
theorem takeValue_eq (lexer : Lexer) :
    lexer.takeValue = lexer.openValue.bind fun mid =>
      some (((mid.allowKey mid.keyAllowed).advance 1).emit .value) := by
  have notFlow : ∀ column place token, lexer.inFlow = false →
      (lexer.openBlock column place token).inFlow = false := by
    intro column place token outside
    rw [openBlock]
    split <;> exact outside
  have unmarked : (if lexer.inFlow then
        some (((lexer.allowKey false).advance 1).emit .value)
      else if !lexer.keyAllowed then none
      else
        let lexer := lexer.openBlock lexer.cursor.column lexer.tokens.size .mappingStart
        some (((lexer.allowKey true).advance 1).emit .value)) =
      ((lexer.openHere .mappingStart).map fun mid => mid.allowKey !mid.inFlow).bind fun mid =>
        some (((mid.allowKey mid.keyAllowed).advance 1).emit .value) := by
    cases flow : lexer.inFlow with
    | true => simp [openHere, flow, allowKey]
    | false =>
        cases allowed : lexer.keyAllowed with
        | false => simp [openHere, flow, allowed]
        | true => simp [openHere, flow, allowed, allowKey, notFlow]
  unfold takeValue openValue
  cases lexer.candidates with
  | nil => exact unmarked
  | cons first rest =>
      cases first with
      | none => exact unmarked
      | some candidate => rfl

/-- The candidate that a value follows becomes a key. -/
theorem insertKey_stays
    {lexer : Lexer}
    (sound : Sound base lexer)
    {candidate : KeyCandidate}
    {rest : List (Option KeyCandidate)}
    (present : lexer.candidates = some candidate :: rest) :
    Stays base lexer
      { lexer with
        tokens := lexer.tokens.insertIdx! candidate.token .key
        candidates := none :: rest
        keyAllowed := false } := by
  have inside : candidate.token ≤ lexer.tokens.size :=
    sound.places candidate (by rw [present]; exact List.mem_cons_self)
  have within : ∀ other, some other ∈ none :: rest → some other ∈ lexer.candidates := by
    intro other found
    rw [present]
    rcases List.mem_cons.1 found with impossible | found
    · contradiction
    · exact List.mem_cons_of_mem _ found
  refine ⟨rfl, ⟨fun other found => ?_, fun other found => sound.lines other
    (within other found), sound.levels, ?_⟩, by simp [inFlow, present], fun token found => ?_⟩
  · rw [size_insertIdx! inside]
    exact Nat.le_succ_of_le (sound.places other (within other found))
  · rw [flowDepth_insertIdx! inside rfl, ← sound.depth, present]
    rfl
  · rcases mem_insertIdx! inside found with found | rfl
    · exact .inl found
    · exact .inr rfl

/-- Without a candidate, a colon in a block opens a mapping where it stands. -/
theorem openValue_staysIn_of_none
    {lexer : Lexer}
    (sound : Sound base lexer)
    {rest : List (Option KeyCandidate)}
    (absent : lexer.candidates = none :: rest) :
    StaysIn base openValue lexer := by
  have opens := openHere_staysIn sound (rfl : Token.mappingStart.isBlockInner = true)
  constructor
  · intro setting
    simp only [openValue, candidates_lexer, absent, List.map_cons, Option.map_none,
      opens.same setting, Option.map_map]
    refine congrArg (Option.map · _) (funext fun mid => ?_)
    simp only [Function.comp_apply, inFlow_lexer]
    rfl
  · intro next found
    simp only [openValue, absent, Option.map_eq_some_iff] at found
    obtain ⟨mid, isMid, rfl⟩ := found
    have stays := opens.stays mid isMid
    exact stays.trans (allowKey_stays stays.sound _)

/-- With a candidate, a key is put in front of the tokens of the candidate, and perhaps the start
of a mapping in front of that. -/
theorem openValue_staysIn_of_some
    {lexer : Lexer}
    (sound : Sound base lexer)
    {candidate : KeyCandidate}
    {rest : List (Option KeyCandidate)}
    (present : lexer.candidates = some candidate :: rest) :
    StaysIn base openValue lexer := by
  have inside : candidate.token ≤ lexer.tokens.size :=
    sound.places candidate (by rw [present]; exact List.mem_cons_self)
  have keyed := insertKey_stays sound present
  have insideKeyed : candidate.token ≤
      (lexer.tokens.insertIdx! candidate.token .key).size := by
    rw [size_insertIdx! inside]
    exact Nat.le_succ_of_le inside
  constructor
  · intro setting
    have opens := openBlock_setting setting
      { lexer with
        tokens := lexer.tokens.insertIdx! candidate.token .key
        candidates := none :: rest
        keyAllowed := false }
      candidate.column insideKeyed .mappingStart
    simp only [openValue, candidates_lexer, present, List.map_cons, Option.map_some,
      ← opens, Setting.candidate, tokens_lexer, insertIdx!_append setting.before inside]
    rfl
  · intro next found
    simp only [openValue, present] at found
    obtain rfl := Option.some.inj found
    exact keyed.trans (openBlock_stays keyed.sound _ insideKeyed rfl)

theorem openValue_staysIn
    {lexer : Lexer}
    (sound : Sound base lexer) :
    StaysIn base openValue lexer := by
  cases candidates : lexer.candidates with
  | nil =>
      have depth := sound.depth
      simp [candidates] at depth
  | cons first rest =>
      cases first with
      | none => exact openValue_staysIn_of_none sound candidates
      | some candidate => exact openValue_staysIn_of_some sound candidates

theorem takeValue_takes
    {lexer : Lexer}
    {character : Char}
    (sound : Sound base lexer)
    (here : setting.At lexer.cursor character) :
    Takes setting base takeValue lexer := by
  rw [funext takeValue_eq]
  exact takes_character here (openValue_staysIn sound) keyAllowed (fun _ => rfl) rfl

/-! ## Names, tags and scalars -/

/-- A token is read after its indicator. -/
theorem takes_after
    {lexer : Lexer}
    {character : Char}
    (here : setting.At lexer.cursor character)
    {prepare : Lexer → Option Lexer}
    (prepared : StaysIn base prepare lexer)
    {read : Bool → Int → Cursor → Option (α × Cursor)}
    (movable : ∀ inFlow indent, Movable (read inFlow indent))
    (stops : ∀ inFlow indent cursor, Cursor.Open cursor → Stops (read inFlow indent) cursor)
    (leads : ∀ inFlow indent, Leads (read inFlow indent))
    (allow : Bool)
    (token : α → Token)
    (inner : ∀ value, (token value).isBlockInner = true) :
    Takes setting base
      (fun lexer => (prepare lexer).bind fun mid =>
        (read mid.inFlow mid.indent (mid.cursor.advance 1)).bind fun found =>
          some ((mid.allowKey allow).emitAt (token found.1, found.2)))
      lexer := by
  have reads : ∀ inFlow indent, _ := fun inFlow indent =>
    here.sits_advance.reads (movable inFlow indent) (stops inFlow indent _)
  refine takes_reading prepared
    (fun mid => read mid.inFlow mid.indent (mid.cursor.advance 1))
    (fun _ _ => allow) (fun _ _ => rfl) token (fun mid stays => ?_)
    fun mid stays read place found => ?_
  · simp only [cursor_lexer, stays.cursor, here.advance, inFlow_lexer, indent_lexer]
    exact (reads mid.inFlow mid.indent).1
  · simp only [stays.cursor] at found
    exact ⟨(reads mid.inFlow mid.indent).2 read place found, leads _ _ found,
      flowStep_of_isBlockInner (inner read), .inl (endsDocument_of_isBlockInner (inner read))⟩

theorem takeAnchor_takes
    {lexer : Lexer}
    {character : Char}
    (sound : Sound base lexer)
    (here : setting.At lexer.cursor character)
    {token : List Char → Token}
    (inner : ∀ name, (token name).isBlockInner = true) :
    Takes setting base (fun lexer => lexer.takeAnchor token) lexer :=
  takes_after here (markCandidate_staysIn sound) (fun _ _ => readAnchor_movable)
    (fun _ _ _ isOpen => .of_inline readAnchor_inline isOpen) (fun _ _ => readAnchor_leads)
    false token inner

theorem takeBlock_takes
    {lexer : Lexer}
    {character : Char}
    (sound : Sound base lexer)
    (here : setting.At lexer.cursor character)
    (literal : Bool) :
    Takes setting base (fun lexer => lexer.takeBlock literal) lexer :=
  takes_after here (dropCandidate_staysIn sound) (fun _ => readBlock_movable literal)
    (fun _ indent _ isOpen => readBlock_stops literal indent isOpen)
    (fun _ => readBlock_leads literal) true (fun text => .scalar text false) fun _ => rfl

theorem takeQuoted_takes
    {lexer : Lexer}
    {character : Char}
    (sound : Sound base lexer)
    (here : setting.At lexer.cursor character)
    (single : Bool) :
    Takes setting base (fun lexer => lexer.takeQuoted single) lexer :=
  takes_after here (markCandidate_staysIn sound) (fun _ _ => readQuoted_movable single)
    (fun _ _ _ isOpen => readQuoted_stops single isOpen.closed)
    (fun _ _ => readQuoted_leads single) false (fun text => .scalar text false) fun _ => rfl

/-- A tag after its exclamation mark, with a gap or, in a flow collection, a comma after
it. -/
def readWholeTag
    (inFlow : Bool)
    (cursor : Cursor) : Option ((List UInt8 × List UInt8) × Cursor) :=
  (readTagRest cursor).bind fun found =>
    if found.2.gapAt 0 || (inFlow && found.2.isAt ',') then some (found.1, found.2) else none

theorem readWholeTag_inline (inFlow : Bool) : Inline (readWholeTag inFlow) :=
  .bind
    (fun name next => if next.gapAt 0 || (inFlow && next.isAt ',') then some (name, next) else none)
    readTagRest_inline fun name => .ite
      (fun cursor => cursor.gapAt 0 || (inFlow && cursor.isAt ','))
      (fun cursor tail ends => by
        rw [gapAt_followedBy ends (Nat.zero_le _), isAt_followedBy ends (by decide)])
      (.done name) .none

theorem readWholeTag_movable (inFlow : Bool) : Movable (readWholeTag inFlow) :=
  .bind
    (fun name next => if next.gapAt 0 || (inFlow && next.isAt ',') then some (name, next) else none)
    readTagRest_movable fun name => .ite _ (fun _ _ _ => rfl) (.done name) .none

theorem readWholeTag_leads (inFlow : Bool) : Leads (readWholeTag inFlow) :=
  .bind
    (fun name next => if next.gapAt 0 || (inFlow && next.isAt ',') then some (name, next) else none)
    readTagRest_leads fun name => .ite _ (.done name) .none

/-- A tag is taken as a whole with what comes behind it. -/
theorem takeTag_eq
    (lexer : Lexer)
    (begins : lexer.cursor.isAt '!' = true)
    (stays : ∀ mid, lexer.markCandidate = some mid → mid.cursor = lexer.cursor) :
    lexer.takeTag = lexer.markCandidate.bind fun mid =>
      (readWholeTag mid.inFlow (mid.cursor.advance 1)).bind fun found =>
        some ((mid.allowKey false).emitAt (.tag found.1.1 found.1.2, found.2)) := by
  simp only [takeTag, bind]
  cases marked : lexer.markCandidate with
  | none => rfl
  | some mid =>
      have same := stays mid marked
      simp only [Option.bind_some, same, readTag_eq begins, readWholeTag]
      cases readTagRest (lexer.cursor.advance 1) with
      | none => rfl
      | some found =>
          simp only [Option.map_some, Option.bind_some]
          split <;> rfl

/-- A tag is read within its line. -/
theorem takeTag_takes
    {lexer : Lexer}
    (sound : Sound base lexer)
    (here : setting.At lexer.cursor '!') :
    Takes setting base takeTag lexer := by
  have marks := markCandidate_staysIn sound
  have takes := takes_after here marks (fun inFlow _ => readWholeTag_movable inFlow)
    (fun inFlow _ _ isOpen => .of_inline (readWholeTag_inline inFlow) isOpen)
    (fun inFlow _ => readWholeTag_leads inFlow) false
    (fun name : List UInt8 × List UInt8 => .tag name.1 name.2) fun _ => rfl
  have alone := takeTag_eq lexer here.isAt fun mid marked => (marks.stays mid marked).cursor
  have begins : (setting.lexer lexer).cursor.isAt '!' = true := by
    rw [cursor_lexer, Cursor.isAt, here.peek?]
    rfl
  have inSetting := takeTag_eq (setting.lexer lexer) begins fun mid marked => by
    rw [marks.same setting, Option.map_eq_some_iff] at marked
    obtain ⟨mid, isMid, rfl⟩ := marked
    rw [cursor_lexer, (marks.stays mid isMid).cursor]
    rfl
  refine ⟨?_, fun next found => takes.taken next (alone ▸ found)⟩
  rw [inSetting, alone]
  exact takes.same

/-- A plain scalar has a first character. -/
theorem plainRun_ne_nil
    {inFlow : Bool}
    {character : Char}
    {later run : List Char}
    (found : plainRun inFlow [] (character :: later) = some run)
    (inside : isGap character = false)
    (colon : character = ':' → inFlow = false ∧ later.head?.all isGap = false)
    (indicator : isFlowIndicator character = false) :
    run ≠ [] := by
  have goesOn : plainRun inFlow [] (character :: later) = none
      ∨ plainRun inFlow [] (character :: later) = plainRun inFlow [character] later := by
    by_cases isColon : character = ':'
    · obtain ⟨block, touches⟩ := colon isColon
      simp [plainRun, inside, block, touches]
    · simp [plainRun, inside, isColon, indicator]
  rcases goesOn with fails | goesOn
  · rw [fails] at found
    contradiction
  · rw [goesOn] at found
    obtain ⟨before, _, same, _⟩ := plainRun_prefix found
    rw [same]
    simp

/-- A plain scalar begins with no gap and no indicator, and a colon only where it could not
end a key. -/
theorem startsPlain_spec
    {lexer : Lexer}
    {character : Char}
    (starts : lexer.startsPlain character = true) :
    isGap character = false ∧ character ≠ '#' ∧ isFlowIndicator character = false
      ∧ (character = ':' → lexer.inFlow = false ∧ lexer.cursor.gapAt 1 = false) := by
  have ofMark : ∀ mark : Char, mark = '?' ∨ mark = ':' →
      isGap mark = false ∧ mark ≠ '#' ∧ isFlowIndicator mark = false := by
    rintro mark (rfl | rfl) <;> decide
  simp only [startsPlain] at starts
  split at starts
  next dash =>
    obtain rfl := eq_of_beq dash
    exact ⟨by decide, by decide, by decide, fun impossible => absurd impossible (by decide)⟩
  next =>
    split at starts
    next either =>
      simp only [Bool.and_eq_true, Bool.not_eq_true'] at starts
      simp only [Bool.or_eq_true, beq_iff_eq] at either
      obtain ⟨inside, noComment, indicator⟩ := ofMark character either
      exact ⟨inside, noComment, indicator, fun _ => starts⟩
    next neither =>
      simp only [Bool.or_eq_true, beq_iff_eq, not_or] at neither
      simp only [Bool.and_eq_true, Bool.not_eq_true'] at starts
      obtain ⟨inside, absent⟩ := starts
      refine ⟨inside, ?_, ?_, fun colon => absurd colon neither.2⟩
      · rintro rfl
        exact absurd absent (by decide)
      · simp only [isFlowIndicator, Bool.or_eq_false_iff, beq_eq_false_iff_ne]
        refine ⟨⟨⟨⟨?_, ?_⟩, ?_⟩, ?_⟩, ?_⟩ <;>
        · rintro rfl
          exact absurd absent (by decide)

/-- A plain scalar may go on over several lines; where one starts, its first run is not empty. -/
theorem takePlain_takes
    {lexer : Lexer}
    {character : Char}
    (sound : Sound base lexer)
    (here : setting.At lexer.cursor character)
    (unmarked : lexer.cursor.atDocumentMarker = false)
    (starts : lexer.startsPlain character = true) :
    Takes setting base takePlain lexer := by
  have same : takePlain = fun lexer => lexer.markCandidate.bind fun mid =>
      ((readPlain mid.inFlow (mid.indent + 1).toNat mid.cursor).map fun plain =>
        ((plain.text, plain.broken), plain.cursor)).bind fun found =>
          some ((mid.allowKey found.1.2).emitAt (.scalar found.1.1 true, found.2)) := by
    funext lexer
    simp only [takePlain, bind]
    refine congrArg (Option.bind _) (funext fun mid => ?_)
    cases readPlain mid.inFlow (mid.indent + 1).toNat mid.cursor <;> rfl
  have reads : ∀ (inFlow : Bool) (indent : Nat), _ := fun inFlow indent =>
    here.sits.reads (readPlain_movable inFlow indent)
      fun isOpen => readPlain_stops inFlow indent isOpen.closed
  rw [same]
  refine takes_reading (markCandidate_staysIn sound)
    (fun mid => (readPlain mid.inFlow (mid.indent + 1).toNat mid.cursor).map fun plain =>
      ((plain.text, plain.broken), plain.cursor))
    (fun _ value => value.2) (fun _ _ => rfl) (fun value => .scalar value.1 true)
    (fun mid stays => ?_) fun mid stays read place found => ?_
  · simp only [cursor_lexer, stays.cursor, inFlow_lexer, indent_lexer]
    exact (reads mid.inFlow (mid.indent + 1).toNat).1
  · rw [stays.cursor, stays.inFlow] at found
    refine ⟨(reads lexer.inFlow (mid.indent + 1).toNat).2 read place found, ?_, fun _ => rfl,
      .inl rfl⟩
    obtain ⟨plain, isPlain, samePlace⟩ := Option.map_eq_some_iff.1 found
    obtain rfl := (Prod.mk.inj samePlace).2
    obtain ⟨later, text⟩ := here.rest_eq
    obtain ⟨inside, noComment, indicator, colon⟩ := startsPlain_spec starts
    have unmarkedHere : (lexer.cursor.atDocumentMarker || lexer.cursor.isAt '#') = false := by
      rw [unmarked, Cursor.isAt, here.next]
      simpa using noComment
    refine readPlain_reaches isPlain unmarkedHere fun run isRun => ?_
    rw [text] at isRun
    refine plainRun_ne_nil isRun inside (fun isColon => ?_) indicator
    obtain ⟨block, touches⟩ := colon isColon
    refine ⟨block, ?_⟩
    simpa [Cursor.gapAt, endsOr, peekAt?, text, List.head?_eq_getElem?] using touches

/-! ## Flow collections -/

/-- A flow collection that is opened has one more candidate and one more level of depth. -/
theorem takeFlowStart_takes
    {lexer : Lexer}
    {character : Char}
    (sound : Sound base lexer)
    (here : setting.At lexer.cursor character)
    {token : Token}
    (opens : ∀ depth, flowStep depth token = depth + 1)
    (inner : Reader.endsDocument token = false) :
    Takes setting base (fun lexer => lexer.takeFlowStart token) lexer := by
  have marks := markCandidate_staysIn sound
  constructor
  · simp only [takeFlowStart, marks.same setting, bind, pure]
    cases found : lexer.markCandidate with
    | none => rfl
    | some mid =>
        have stays := marks.stays mid found
        simp only [Option.map_some, Option.bind_some, Option.some.injEq]
        rw [← emit_setting]
        simp only [Lexer.advance, cursor_lexer, stays.cursor, here.advance]
        rfl
  · intro next found
    simp only [takeFlowStart, bind, pure, Option.bind_eq_some_iff, Option.some.injEq] at found
    obtain ⟨mid, isMid, rfl⟩ := found
    have stays := marks.stays mid isMid
    have members : ∀ candidate, some candidate ∈ none :: mid.candidates →
        some candidate ∈ mid.candidates := by
      intro candidate present
      rcases List.mem_cons.1 present with impossible | present
      · contradiction
      · exact present
    simp only [Lexer.advance, stays.cursor]
    refine stays.taken members ?_ (.inl inner) here.sits_advance.fits .refl true
    rw [opens, List.length_cons, stays.sound.depth]

/-- Behind a flow collection there is one candidate less, but never none. -/
theorem length_leave
    {lexer : Lexer}
    (sound : Sound base lexer) :
    (if lexer.inFlow then lexer.candidates.drop 1 else lexer.candidates).length =
      flowDepth base lexer.tokens.toList - 1 + 1 := by
  have depth := sound.depth
  cases flow : lexer.inFlow with
  | true =>
      have isOpen : 1 < lexer.candidates.length := by simpa [inFlow] using flow
      simp only [if_true, List.length_drop]
      omega
  | false =>
      have isClosed : lexer.candidates.length ≤ 1 := by simpa [inFlow] using flow
      simp only [Bool.false_eq_true, if_false]
      omega

/-- A flow collection that is closed has one candidate less, as it has one level of depth less,
but not less than none. -/
theorem takeFlowEnd_takes
    {lexer : Lexer}
    {character : Char}
    (sound : Sound base lexer)
    (here : setting.At lexer.cursor character)
    {token : Token}
    (closes : ∀ depth, flowStep depth token = depth - 1)
    (inner : Reader.endsDocument token = false) :
    Takes setting base (fun lexer => lexer.takeFlowEnd token) lexer := by
  have drops := dropCandidate_staysIn sound
  constructor
  · simp only [takeFlowEnd, drops.same setting, bind, pure]
    cases found : lexer.dropCandidate with
    | none => rfl
    | some mid =>
        have stays := drops.stays mid found
        simp only [Option.map_some, Option.bind_some, Option.some.injEq]
        rw [← emit_setting]
        simp only [Lexer.advance, cursor_lexer, stays.cursor, here.advance, inFlow_lexer,
          candidates_lexer, ← List.map_drop]
        cases mid.inFlow <;> rfl
  · intro next found
    simp only [takeFlowEnd, bind, pure, Option.bind_eq_some_iff, Option.some.injEq] at found
    obtain ⟨mid, isMid, rfl⟩ := found
    have stays := drops.stays mid isMid
    have members : ∀ candidate,
        some candidate ∈ (if mid.inFlow then mid.candidates.drop 1 else mid.candidates) →
          some candidate ∈ mid.candidates := by
      intro candidate present
      split at present
      · exact List.mem_of_mem_drop present
      · exact present
    simp only [Lexer.advance, stays.cursor]
    refine stays.taken members ?_ (.inl inner) here.sits_advance.fits .refl false
    rw [closes]
    exact length_leave stays.sound

/-! ## Marks -/

/-- To leave all collections closes the blocks and gives up the candidate. -/
theorem outside_staysIn
    {lexer : Lexer}
    (sound : Sound base lexer) :
    StaysIn base outside lexer := by
  have closes : StaysIn base (fun lexer => some (lexer.closeBlocks (-1))) lexer :=
    ⟨fun setting => congrArg some (closeBlocks_setting setting lexer (-1)),
      fun next found => Option.some.inj found ▸ closeBlocks_stays sound (Int.le_refl _)⟩
  exact closes.bind fun closed stays =>
    (dropCandidate_staysIn stays.sound).bind fun dropped stays =>
      ⟨fun _ => rfl, fun next found => Option.some.inj found ▸ allowKey_stays stays.sound false⟩

/-- The line that begins or ends a document is taken outside of all blocks, in three characters of
its line. -/
theorem takeMarker_takes
    {lexer : Lexer}
    {character : Char}
    (sound : Sound base lexer)
    (here : setting.At lexer.cursor character)
    {mark : Char}
    (marks : lexer.cursor.atMarker mark = true)
    (isMark : lexer.cursor.beginsMark = true)
    {token : Token}
    (neutral : ∀ depth, flowStep depth token = depth) :
    Takes setting base (fun lexer => lexer.takeMarker token) lexer := by
  obtain ⟨later, text⟩ := here.rest_eq
  have taken : lexer.cursor.rest.take 3 = [mark, mark, mark] := by
    simp only [atMarker, Bool.and_eq_true, beq_iff_eq] at marks
    exact marks.1.2
  have long : 3 ≤ lexer.cursor.rest.length := by
    have length := congrArg List.length taken
    simp only [List.length_take, List.length_cons, List.length_nil] at length
    omega
  have twice : (lexer.cursor.advance 1).advance 2 = lexer.cursor.advance 3 := by
    simp [Cursor.advance, Nat.add_assoc]
  have sits : setting.Sits (lexer.cursor.advance 3) := by
    rcases here.sits with alone | ⟨isOpen, follows⟩
    · exact .inl alone
    · refine .inr ⟨isOpen.advance (Nat.lt_of_le_of_ne long fun exact => ?_), follows⟩
      obtain ⟨line, ends⟩ := isOpen
      have whole : lexer.cursor.rest = [mark, mark, mark] := by
        rw [← taken, List.take_of_length_le (Nat.le_of_eq exact.symm)]
      have first : character = mark := by
        rw [text] at whole
        exact (List.cons.inj whole).1
      have last : mark = '\n' := by
        have same := congrArg List.getLast? (whole.symm.trans ends)
        simpa using same
      exact here.ne_lineFeed (first.trans last)
  refine takes_reading (outside_staysIn sound) (fun mid => some ((), mid.cursor.advance 3))
    (fun mid _ => mid.keyAllowed) (fun _ _ => rfl) (fun _ => token) (fun mid stays => ?_)
    fun mid stays read place found => ?_
  · simp only [cursor_lexer, stays.cursor, Setting.cursor, advance_moved,
      advance_followedBy long]
    rfl
  · obtain rfl := (Prod.mk.inj (Option.some.inj found)).2
    rw [stays.cursor, ← twice]
    exact ⟨twice ▸ sits.fits, Reaches.refl.advance 2, neutral, .inr isMark⟩

/-- What a directive gives is no token of a flow collection. -/
theorem directiveValue_neutral
    {name : List Char}
    {cursor next : Cursor}
    {token : Token}
    (found : directiveValue name cursor = some (token, next))
    (depth : Nat) :
    flowStep depth token = depth := by
  unfold directiveValue at found
  split at found
  · simp only [readVersion, bind, pure, Option.bind_eq_some_iff] at found
    obtain ⟨major, _, found⟩ := found
    split at found
    · contradiction
    · simp only [Option.bind_eq_some_iff, Option.some.injEq, Prod.mk.injEq] at found
      obtain ⟨minor, _, rfl, _⟩ := found
      rfl
  · split at found
    · simp only [readTagDirective, bind, pure, Option.bind_eq_some_iff] at found
      obtain ⟨handle, _, found⟩ := found
      split at found
      · contradiction
      · split at found
        · contradiction
        · simp only [Option.bind_eq_some_iff] at found
          obtain ⟨expansion, _, found⟩ := found
          split at found
          · obtain ⟨rfl, _⟩ := Prod.mk.inj (Option.some.inj found)
            rfl
          · contradiction
    · contradiction

/-- A directive is taken up to the end of its line. -/
theorem takeDirective_takes
    {lexer : Lexer}
    {character : Char}
    (sound : Sound base lexer)
    (here : setting.At lexer.cursor character)
    (isMark : lexer.cursor.beginsMark = true) :
    Takes setting base takeDirective lexer := by
  have reads := here.sits_advance.reads readDirective_movable readDirective_stops
  have neutral : ∀ token next, readDirective (lexer.cursor.advance 1) = some (token, next) →
      ∀ depth, flowStep depth token = depth := by
    intro token next found
    rw [readDirective_eq] at found
    split at found
    · contradiction
    · obtain ⟨read, isRead, found⟩ := Option.bind_eq_some_iff.1 found
      obtain ⟨ended, _, found⟩ := Option.bind_eq_some_iff.1 found
      obtain rfl := (Prod.mk.inj (Option.some.inj found)).1
      exact directiveValue_neutral isRead
  refine takes_reading (outside_staysIn sound)
    (fun mid => readDirective (mid.cursor.advance 1)) (fun mid _ => mid.keyAllowed)
    (fun _ _ => rfl) (fun token => token) (fun mid stays => ?_)
    fun mid stays read place found => ?_
  · simp only [cursor_lexer, stays.cursor, here.advance]
    exact reads.1
  · rw [stays.cursor] at found
    exact ⟨reads.2 read place found, readDirective_leads found, neutral read place found,
      .inr isMark⟩

/-! ## All tokens -/

/-- Which token is taken may depend on what is the same in every setting. -/
theorem takes_ite
    {test : Lexer → Bool}
    {left right : Lexer → Option Lexer}
    {lexer : Lexer}
    (same : test (setting.lexer lexer) = test lexer)
    (onTrue : test lexer = true → Takes setting base left lexer)
    (onFalse : test lexer = false → Takes setting base right lexer) :
    Takes setting base (fun lexer => if test lexer then left lexer else right lexer) lexer := by
  cases holds : test lexer with
  | true =>
      have takes := onTrue holds
      exact ⟨by simp only [same, holds, if_true]; exact takes.same, fun next found =>
        takes.taken next (by simpa [holds] using found)⟩
  | false =>
      have takes := onFalse holds
      exact ⟨by simp only [same, holds, Bool.false_eq_true, if_false]; exact takes.same,
        fun next found => takes.taken next (by simpa [holds] using found)⟩

/-- Whether a plain scalar starts here is decided by two characters of the line. -/
theorem startsPlain_setting
    {lexer : Lexer}
    {character : Char}
    (here : setting.At lexer.cursor character) :
    (setting.lexer lexer).startsPlain character = lexer.startsPlain character := by
  have after : ∀ cursor : Cursor, cursor.peekAt? 1 = (cursor.advance 1).peek? := by
    intro cursor
    simp [peekAt?, Cursor.peek?]
  have blanks := here.sits_advance.fits.peek?_any (by decide : isSpaceOrTab '-' = false)
  simp only [startsPlain, inFlow_lexer, after, cursor_lexer, here.advance, blanks, here.gapAt]

/-- Every token is taken in a setting as it is without one. -/
theorem takeToken_takes
    {lexer : Lexer}
    {character : Char}
    (sound : Sound base lexer)
    (here : setting.At lexer.cursor character) :
    Takes setting base (fun lexer => lexer.takeToken character) lexer := by
  have sameMarker : ∀ mark : Char, mark ≠ '\n' →
      (setting.lexer lexer).cursor.atMarker mark = lexer.cursor.atMarker mark :=
    fun mark inside => here.sits.atMarker inside
  have sameGap : (setting.lexer lexer).cursor.gapAt 1 = lexer.cursor.gapAt 1 := here.gapAt
  simp only [takeToken]
  refine takes_ite rfl (fun holds => takeDirective_takes sound here ?_) fun _ => ?_
  · simp only [Bool.and_eq_true, beq_iff_eq] at holds
    obtain ⟨column, rfl⟩ := holds
    simp [beginsMark, column, here.isAt]
  refine takes_ite (sameMarker '-' (by decide))
    (fun marks => takeMarker_takes sound here marks ?_ fun _ => rfl) fun noStart => ?_
  · simp [beginsMark, atDocumentMarker, marks]
  refine takes_ite (sameMarker '.' (by decide))
    (fun marks => takeMarker_takes sound here marks ?_ fun _ => rfl) fun noEnd => ?_
  · simp [beginsMark, atDocumentMarker, marks]
  refine takes_ite rfl (fun _ => takeFlowStart_takes sound here (fun _ => rfl) rfl) fun _ => ?_
  refine takes_ite rfl (fun _ => takeFlowStart_takes sound here (fun _ => rfl) rfl) fun _ => ?_
  refine takes_ite rfl (fun _ => takeFlowEnd_takes sound here (fun _ => rfl) rfl) fun _ => ?_
  refine takes_ite rfl (fun _ => takeFlowEnd_takes sound here (fun _ => rfl) rfl) fun _ => ?_
  refine takes_ite rfl (fun _ => takeComma_takes sound here) fun _ => ?_
  refine takes_ite (by rw [sameGap]) (fun _ => takeEntry_takes sound here) fun _ => ?_
  refine takes_ite (by rw [sameGap, inFlow_lexer]) (fun _ => takeKey_takes sound here)
    fun _ => ?_
  refine takes_ite (by rw [sameGap, inFlow_lexer]) (fun _ => takeValue_takes sound here)
    fun _ => ?_
  refine takes_ite rfl (fun _ => takeAnchor_takes sound here fun _ => rfl) fun _ => ?_
  refine takes_ite rfl (fun _ => takeAnchor_takes sound here fun _ => rfl) fun _ => ?_
  refine takes_ite rfl (fun isMark => takeTag_takes sound ?_) fun _ => ?_
  · rw [← eq_of_beq isMark]
    exact here
  refine takes_ite (by rw [inFlow_lexer]) (fun _ => takeBlock_takes sound here true)
    fun _ => ?_
  refine takes_ite (by rw [inFlow_lexer]) (fun _ => takeBlock_takes sound here false)
    fun _ => ?_
  refine takes_ite rfl (fun _ => takeQuoted_takes sound here true) fun _ => ?_
  refine takes_ite rfl (fun _ => takeQuoted_takes sound here false) fun _ => ?_
  refine takes_ite (startsPlain_setting here) (fun starts => takePlain_takes sound here ?_ starts)
    fun _ => takes_none lexer
  simp [atDocumentMarker, noStart, noEnd]

end Lexer
end Yaml
end ManifestPolicy
