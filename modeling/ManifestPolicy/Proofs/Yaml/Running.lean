import ManifestPolicy.Proofs.Yaml.Taking

/-!
# Runs of the lexer in a setting

A text that ends with a line break is cut into the same tokens when a line that begins a
document comes after it. The lexer then comes to that line as it would come to the end of
the text.
-/

namespace ManifestPolicy
namespace Yaml

open Cursor

namespace Lexer

/-! ## Between tokens -/

/-- The place after a byte order mark that begins a line. -/
def passMark (cursor : Cursor) : Cursor :=
  if cursor.column == 0 && cursor.isAt byteOrderMark then cursor.advance 1 else cursor

/-- The place after spaces, and after tabs if they may stand there. -/
def passBlanks (tabs : Bool) (cursor : Cursor) : Cursor :=
  cursor.skipWhile fun character => character == ' ' || (tabs && character == '\t')

/-- The place after a comment. -/
def passComment (cursor : Cursor) : Cursor :=
  if cursor.isAt '#' then cursor.skipWhile fun character => !isBreak character else cursor

/-- The place after what comes next on a line and is no part of a token. -/
def passLine (tabs : Bool) (cursor : Cursor) : Cursor :=
  passComment (passBlanks tabs (passMark cursor))

/-- What lies between tokens is passed over line by line. -/
theorem skipBetween_succ
    (fuel : Nat)
    (lexer : Lexer) :
    skipBetween (fuel + 1) lexer =
      let cursor := passLine (lexer.inFlow || !lexer.keyAllowed) lexer.cursor
      if cursor.peek?.any isBreak then
        skipBetween fuel
          { lexer with
            cursor := cursor.skipBreak
            keyAllowed := lexer.keyAllowed || !lexer.inFlow }
      else { lexer with cursor } := rfl

theorem passMark_moved
    (index line : Nat)
    (cursor : Cursor) :
    passMark (cursor.moved index line) = (passMark cursor).moved index line := by
  simp only [passMark, column_moved, isAt_moved, advance_moved]
  split <;> rfl

theorem passComment_moved
    (index line : Nat)
    (cursor : Cursor) :
    passComment (cursor.moved index line) = (passComment cursor).moved index line := by
  simp only [passComment, isAt_moved, skipWhile_moved]
  split <;> rfl

/-- Blanks and comments are passed over the same further on in a longer text. -/
theorem passLine_movable (tabs : Bool) :
    Movable (fun cursor => some ((), passLine tabs cursor)) := by
  intro index line cursor
  simp only [passLine, passMark_moved, passBlanks, skipWhile_moved, passComment_moved,
    Option.map_some]

/-- Blanks and comments of a line are passed over up to its end at the latest. -/
theorem passLine_inline (tabs : Bool) :
    Inline (fun cursor => some ((), passLine tabs cursor)) := by
  have mark : Inline fun cursor => some ((), passMark cursor) := by
    intro cursor tail ends
    have sameMark := isAt_followedBy ends (by decide : byteOrderMark ≠ '\n') cursor
    simp only [passMark, column_followedBy, sameMark]
    split
    next begins =>
      have present := (Bool.and_eq_true_iff.1 begins).2
      have nonempty : 1 ≤ cursor.rest.length := by
        cases text : cursor.rest with
        | nil => simp [Cursor.isAt, Cursor.peek?, text] at present
        | cons first later => simp
      rw [advance_followedBy nonempty]
      rfl
    next => rfl
  have blanks : Inline fun cursor => some ((), passBlanks tabs cursor) :=
    .span _ (by cases tabs <;> decide) (fun _ next => some ((), next)) fun _ => .done ()
  have comment : Inline fun cursor => some ((), passComment cursor) := by
    intro cursor tail ends
    have skips : Inline fun cursor : Cursor =>
        some ((), cursor.skipWhile fun character => !isBreak character) :=
      .span _ (by decide) (fun _ next => some ((), next)) fun _ => .done ()
    simp only [passComment, isAt_followedBy ends (by decide : '#' ≠ '\n')]
    split
    · exact skips cursor tail ends
    · rfl
  exact .bind (fun _ cursor => some ((), passComment cursor))
    (.bind (fun _ cursor => some ((), passBlanks tabs cursor)) mark fun _ => blanks)
    fun _ => comment

/-- Blanks and comments are characters of the line. -/
theorem passLine_reaches
    (tabs : Bool)
    (cursor : Cursor) :
    Reaches cursor (passLine tabs cursor) := by
  have mark : Reaches cursor (passMark cursor) := by
    unfold passMark
    split
    · exact Reaches.refl.advance 1
    · exact .refl
  have comment : ∀ cursor, Reaches cursor (passComment cursor) := by
    intro cursor
    unfold passComment
    split
    · exact Reaches.refl.advance _
    · exact .refl
  exact (mark.advance _).trans (comment _)

/-- No line begins after the end of the text but one that begins a document. -/
theorem passLine_ended
    (tabs : Bool)
    {cursor : Cursor}
    (ended : cursor.rest = [])
    {tail : List Char}
    (follows : Follows tail) :
    passLine tabs (cursor.followedBy tail) = cursor.followedBy tail := by
  have next : ∀ character, character ≠ '-' → (cursor.followedBy tail).isAt character = false := by
    intro character other
    rw [Cursor.isAt]
    rcases follows.peek? ended with nothing | marks
    · rw [nothing]
      rfl
    · rw [marks]
      simpa using other.symm
  have mark : passMark (cursor.followedBy tail) = cursor.followedBy tail := by
    rw [passMark, next byteOrderMark (by decide), Bool.and_false]
    rfl
  have blanks : passBlanks tabs (cursor.followedBy tail) = cursor.followedBy tail := by
    rcases follows with rfl | ⟨more, rfl⟩
    · simp [passBlanks, skipWhile, spanWhile, ended]
    · simp [passBlanks, skipWhile, spanWhile, ended, marked]
  rw [passLine, mark, blanks, passComment, next '#' (by decide)]
  rfl

/-- Blanks and comments are passed over the same in every setting. -/
theorem passLine_setting
    {setting : Setting}
    (tabs : Bool)
    {cursor : Cursor}
    (fits : setting.Fits cursor) :
    passLine tabs (setting.cursor cursor) = setting.cursor (passLine tabs cursor)
      ∧ setting.Fits (passLine tabs cursor) := by
  have reads := fits.reads (passLine_movable tabs) fun closed => by
    rcases closed with isOpen | ended
    · exact .of_inline (passLine_inline tabs) isOpen
    · refine @StopsWithin.of_some Unit _ _ _ cursor () (.inr ended) fun _ _ tail follows => ?_
      rw [passLine_ended tabs ended.1 follows]
  refine ⟨?_, reads.2 () _ rfl⟩
  exact (Prod.mk.inj (Option.some.inj reads.1)).2

/-- What lies between tokens is passed over in a setting as it is without one. -/
theorem skipBetween_setting
    {setting : Setting}
    {lexer : Lexer}
    (fits : setting.Fits lexer.cursor)
    {few many : Nat}
    (enough : lexer.cursor.rest.length < few)
    (plenty : (setting.cursor lexer.cursor).rest.length < many) :
    ∃ cursor keyAllowed, skipBetween few lexer = { lexer with cursor, keyAllowed }
      ∧ skipBetween many (setting.lexer lexer) = setting.lexer { lexer with cursor, keyAllowed }
      ∧ setting.Fits cursor ∧ Reaches lexer.cursor cursor
      ∧ cursor.peek?.any isBreak = false := by
  induction length : lexer.cursor.rest.length using Nat.strongRecOn
    generalizing lexer few many with
  | ind length skipLater =>
  subst length
  obtain ⟨few, rfl⟩ : ∃ less, few = less + 1 := ⟨few - 1, by omega⟩
  obtain ⟨many, rfl⟩ : ∃ less, many = less + 1 := ⟨many - 1, by omega⟩
  rw [skipBetween_succ, skipBetween_succ]
  simp only [inFlow_lexer, keyAllowed_lexer, cursor_lexer]
  generalize (lexer.inFlow || !lexer.keyAllowed) = tabs
  obtain ⟨same, stillFits⟩ := passLine_setting tabs fits
  have reaches := passLine_reaches tabs lexer.cursor
  rw [same, stillFits.peek?_any (by decide)]
  generalize passLine tabs lexer.cursor = cursor at same stillFits reaches
  cases breaks : cursor.peek?.any isBreak with
  | false => exact ⟨cursor, lexer.keyAllowed, rfl, rfl, stillFits, reaches, breaks⟩
  | true =>
      obtain ⟨character, next, isBreaking⟩ := (Option.any_eq_true _ _).1 breaks
      have shorter := length_readBreak next isBreaking
      have remains : cursor.rest ≠ [] := by
        intro empty
        simp [Cursor.peek?, empty] at next
      obtain ⟨sameBreak, fitsAfter⟩ := (stillFits.sits remains).skipBreak
      have atMost := reaches.length_le
      have shorterAfter : cursor.skipBreak.rest.length < lexer.cursor.rest.length :=
        Nat.lt_of_lt_of_le shorter atMost
      rw [Setting.length_cursor] at plenty
      obtain ⟨last, keyAllowed, alone, inSetting, lastFits, goesOn, ends⟩ :=
        @skipLater _ shorterAfter
          { lexer with
            cursor := cursor.skipBreak
            keyAllowed := lexer.keyAllowed || !lexer.inFlow }
          fitsAfter few many (by simp only; omega)
          (by simp only [Setting.length_cursor]; omega) rfl
      refine ⟨last, keyAllowed, alone, ?_, lastFits, (reaches.skipBreak).trans goesOn, ends⟩
      rw [sameBreak]
      exact inSetting

/-! ## Runs -/

/-- The lexer at the next token, with its candidates and blocks brought up to date. -/
def settle (lexer : Lexer) : Option Lexer :=
  (lexer.skipBetween (lexer.cursor.rest.length + 1)).expireAll.map fun lexer =>
    lexer.closeBlocks lexer.cursor.column

/-- A run from the next token on. -/
def runFrom (fuel : Nat) (lexer : Lexer) : Array Token :=
  match lexer.cursor.peek? with
  | none => (lexer.takeEnd.getD lexer).tokens
  | some character =>
      match lexer.takeToken character with
      | none => lexer.tokens
      | some taken => run fuel taken

/-- One round of the lexer: settle at the next token, and go on from there. -/
theorem run_succ
    (fuel : Nat)
    (lexer : Lexer) :
    run (fuel + 1) lexer =
      match settle lexer with
      | none => (lexer.skipBetween (lexer.cursor.rest.length + 1)).tokens
      | some next => runFrom fuel next := by
  simp only [run, settle]
  cases (lexer.skipBetween (lexer.cursor.rest.length + 1)).expireAll <;> rfl

/-- At the end of the text the lexer leaves all collections. -/
theorem runFrom_end
    (fuel : Nat)
    {lexer : Lexer}
    (nothingNext : lexer.cursor.peek? = none) :
    runFrom fuel lexer = (lexer.takeEnd.getD lexer).tokens := by
  rw [runFrom, nothingNext]

/-- Where a character is left the lexer takes a token and goes on, unless there is a fault. -/
theorem runFrom_token
    (fuel : Nat)
    {lexer : Lexer}
    {character : Char}
    (next : lexer.cursor.peek? = some character) :
    runFrom fuel lexer =
      match lexer.takeToken character with
      | none => lexer.tokens
      | some taken => run fuel taken := by
  rw [runFrom, next]

variable {setting : Setting} {base : Nat}

/-- A sound lexer of a text in a setting, all of whose candidates are behind it. -/
structure Rests (setting : Setting) (base : Nat) (lexer : Lexer) : Prop where
  fits : setting.Fits lexer.cursor
  sound : Sound base lexer
  past : ∀ candidate, some candidate ∈ lexer.candidates → lexer.cursor.Past candidate.line

theorem Taken.rests
    {before after : Lexer}
    (taken : Taken setting base before after) :
    Rests setting base after :=
  ⟨taken.fits, taken.sound, taken.past⟩

/-- A token has characters. -/
theorem Taken.shorter
    {before after : Lexer}
    (taken : Taken setting base before after)
    (remains : before.cursor.rest ≠ []) :
    after.cursor.rest.length < before.cursor.rest.length := by
  have atMost := taken.reaches.length_le
  have positive := List.length_pos_iff.2 remains
  simp only [rest_advance, List.length_drop] at atMost
  omega

/-- The lexer at the next token. Candidates that are left are on its line, and before it. -/
structure Settled (setting : Setting) (base : Nat) (before after : Lexer) : Prop where
  fits : setting.Fits after.cursor
  reaches : Reaches before.cursor after.cursor
  sound : Sound base after
  between : after.cursor.peek?.any isBreak = false
  near : ∀ candidate, some candidate ∈ after.candidates → 0 < after.cursor.column
  adds : ∀ token ∈ after.tokens, token ∈ before.tokens ∨ Reader.endsDocument token = false

/-- A candidate that has not expired is on the line that has been reached. -/
theorem column_pos_of_expire
    {cursor : Cursor}
    {candidate : KeyCandidate}
    (past : cursor.Past candidate.line)
    (stays : expire cursor (some candidate) = some (some candidate)) :
    0 < cursor.column := by
  rcases past with later | ⟨_, inside⟩
  · simp only [expire, later, true_or, if_true] at stays
    split at stays <;> simp at stays
  · exact inside

theorem candidates_closeBlocks
    (lexer : Lexer)
    (column : Int) :
    (lexer.closeBlocks column).candidates = lexer.candidates := by
  unfold closeBlocks
  split <;> rfl

/-- The lexer settles at the next token in every setting as in the text: it passes lines, gives up
candidates and closes blocks. -/
theorem settle_setting
    {lexer : Lexer}
    (rests : Rests setting base lexer) :
    settle (setting.lexer lexer) = (settle lexer).map setting.lexer
      ∧ ∀ next, settle lexer = some next → Settled setting base lexer next := by
  obtain ⟨cursor, keyAllowed, alone, inSetting, fits, reaches, between⟩ :=
    skipBetween_setting rests.fits (Nat.lt_succ_self lexer.cursor.rest.length)
      (Nat.lt_succ_self (setting.cursor lexer.cursor).rest.length)
  have past : ∀ candidate, some candidate ∈ lexer.candidates → cursor.Past candidate.line :=
    fun candidate present => reaches.past (rests.past candidate present)
  have sound : Sound base { lexer with cursor, keyAllowed } :=
    ⟨rests.sound.places, fun candidate present => line_le_of_past (past candidate present),
      rests.sound.levels, rests.sound.depth⟩
  have expires := expireAll_staysIn sound
  constructor
  · simp only [settle, alone]
    rw [cursor_lexer, inSetting, expires.same setting]
    simp only [Option.map_map]
    refine congrArg (Option.map · _) (funext fun next => ?_)
    exact closeBlocks_setting setting next next.cursor.column
  · intro next found
    simp only [settle, alone, Option.map_eq_some_iff] at found
    obtain ⟨left, isLeft, rfl⟩ := found
    have stays := expires.stays left isLeft
    have closes := closeBlocks_stays stays.sound
      (Int.le_trans (by decide : (-1 : Int) ≤ 0) (Int.natCast_nonneg left.cursor.column))
    have sameCursor := closes.cursor.trans stays.cursor
    refine ⟨sameCursor ▸ fits, sameCursor ▸ reaches, closes.sound, sameCursor ▸ between,
      fun candidate present => ?_, (stays.trans closes).adds⟩
    simp only [expireAll, Option.bind_eq_some_iff, bind, pure, Option.some.injEq] at isLeft
    obtain ⟨candidates, isCandidates, rfl⟩ := isLeft
    rw [candidates_closeBlocks] at present
    obtain ⟨before, stays⟩ := (mapM_expire_eq isCandidates).2 candidate present
    rw [sameCursor]
    exact column_pos_of_expire (past candidate before) stays

/-- What one step of a run does to a text alone and to the text in a setting. -/
inductive Step (setting : Setting) (base few many : Nat) (lexer : Lexer) : Prop
  | fault
      (same : run (many + 1) (setting.lexer lexer) = setting.before ++ run (few + 1) lexer)
      (adds : ∀ token ∈ run (few + 1) lexer,
        token ∈ lexer.tokens ∨ Reader.endsDocument token = false)
  | ends
      (next : Lexer)
      (settled : Settled setting base lexer next)
      (nothingNext : next.cursor.peek? = none)
      (alone : run (few + 1) lexer = (next.takeEnd.getD next).tokens)
      (inSetting : run (many + 1) (setting.lexer lexer) = runFrom many (setting.lexer next))
  | goesOn
      (next after : Lexer)
      (settled : Settled setting base lexer next)
      (remains : next.cursor.rest ≠ [])
      (taken : Taken setting base next after)
      (alone : run (few + 1) lexer = run few after)
      (inSetting : run (many + 1) (setting.lexer lexer) = run many (setting.lexer after))

/-- One round of the lexer in a setting does what it does in the text, until the text ends. -/
theorem run_step
    {lexer : Lexer}
    (rests : Rests setting base lexer)
    (few many : Nat) :
    Step setting base few many lexer := by
  obtain ⟨cursor, keyAllowed, alone, inSetting, _⟩ :=
    skipBetween_setting rests.fits (Nat.lt_succ_self lexer.cursor.rest.length)
      (Nat.lt_succ_self (setting.cursor lexer.cursor).rest.length)
  obtain ⟨same, settles⟩ := settle_setting rests
  cases found : settle lexer with
  | none =>
      have isAlone : run (few + 1) lexer = lexer.tokens := by
        simp only [run_succ, found, alone]
      refine .fault ?_ fun token present => .inl (isAlone ▸ present)
      rw [isAlone, run_succ, same, found]
      simp only [Option.map_none]
      rw [cursor_lexer, inSetting]
      rfl
  | some next =>
      have settled := settles next found
      have isAlone : run (few + 1) lexer = runFrom few next := by
        rw [run_succ, found]
      have isInSetting : run (many + 1) (setting.lexer lexer) =
          runFrom many (setting.lexer next) := by
        rw [run_succ, same, found]
        rfl
      cases first : next.cursor.peek? with
      | none => exact .ends next settled first (isAlone.trans (runFrom_end few first)) isInSetting
      | some character =>
          have remains : next.cursor.rest ≠ [] := by
            intro empty
            simp [Cursor.peek?, empty] at first
          have here : setting.At next.cursor character := by
            refine ⟨settled.fits.sits remains, first, ?_⟩
            simpa [first] using settled.between
          have takes := takeToken_takes settled.sound here
          rw [runFrom_token few first] at isAlone
          rw [runFrom_token many here.peek?, takes.same] at isInSetting
          cases taken : next.takeToken character with
          | none =>
              simp only [taken] at isAlone isInSetting
              refine .fault (by rw [isAlone, isInSetting]; rfl) fun token present => ?_
              rw [isAlone] at present
              exact settled.adds token present
          | some after =>
              rw [taken] at isAlone isInSetting
              exact .goesOn next after settled remains (takes.taken after taken) isAlone
                isInSetting

/-- The lexer at the end of a text that has ended with a line, outside all blocks. -/
structure Ended (base : Nat) (last : Lexer) : Prop where
  sound : Sound base last
  finished : last.cursor.rest = []
  forbidden : last.keyAllowed = false
  quiet : ∀ candidate ∈ last.candidates, candidate = none
  outermost : last.inFlow = false → last.indent = -1 ∧ last.outer = []

/-- Outside all columns there are no open blocks. -/
theorem closeBlocks_outermost
    {lexer : Lexer}
    (sound : Sound base lexer)
    (block : lexer.inFlow = false) :
    (lexer.closeBlocks (-1)).indent = -1 ∧ (lexer.closeBlocks (-1)).outer = [] := by
  obtain ⟨columns, nonnegative, isLevels⟩ := sound.levels
  have taken : (columns ++ [-1]).takeWhile (fun level => decide ((-1 : Int) < level)) =
      columns := by
    rw [List.takeWhile_append_of_pos fun level present => ?_]
    · simp
    · have := nonnegative level present
      simp only [decide_eq_true_eq]
      omega
  simp [closeBlocks, block, isLevels, taken]

/-- Nothing keeps the lexer from leaving all blocks if it has no candidates. -/
theorem outside_of_quiet
    {lexer : Lexer}
    (sound : Sound base lexer)
    (quiet : ∀ candidate ∈ lexer.candidates, candidate = none)
    (finished : lexer.cursor.rest = []) :
    ∃ last, lexer.outside = some last ∧ Ended base last := by
  have closes := closeBlocks_stays sound (Int.le_refl (-1))
  have sameCandidates := candidates_closeBlocks lexer (-1)
  have drops : (lexer.closeBlocks (-1)).dropCandidate = some (lexer.closeBlocks (-1)) := by
    unfold dropCandidate
    split
    next candidate rest present =>
      rw [sameCandidates] at present
      have impossible := quiet (some candidate) (by rw [present]; exact List.mem_cons_self)
      contradiction
    · rfl
  refine ⟨(lexer.closeBlocks (-1)).allowKey false, ?_,
    (allowKey_stays closes.sound false).sound, ?_, rfl, ?_, fun block => ?_⟩
  · simp only [outside, drops, bind, Option.bind_some, pure]
  · exact closes.cursor ▸ finished
  · intro candidate present
    exact quiet candidate (sameCandidates ▸ present)
  · refine closeBlocks_outermost sound ?_
    rw [← closes.inFlow]
    exact block

/-- What becomes of the text in a setting when the text alone has been read: it is at fault in
both, or ends in both, and the line after it is read where the text has ended. -/
inductive Outcome (setting : Setting) (base : Nat) (alone inSetting : Array Token) : Prop
  | fault
      (same : inSetting = setting.before ++ alone)
      (inner : ∀ token ∈ alone, Reader.endsDocument token = false)
  | ends
      (last : Lexer)
      (inner : ∀ token ∈ last.tokens, Reader.endsDocument token = false)
      (isAlone : alone = last.tokens.push .streamEnd)
      (nothing : setting.tail = [] → inSetting = setting.before ++ alone)
      (goesOn : ∀ more, setting.tail = marked more → Ended base last
        ∧ ∃ fuel, more.length + 1 < fuel
          ∧ inSetting = run fuel (((setting.lexer last).advance 3).emit .documentStart))

/-- What is added when all collections are left belongs to the document. -/
theorem inner_of_outside
    {lexer last : Lexer}
    (sound : Sound base lexer)
    (inner : ∀ token ∈ lexer.tokens, Reader.endsDocument token = false)
    (isLast : lexer.outside = some last) :
    ∀ token ∈ last.tokens, Reader.endsDocument token = false := by
  intro token present
  rcases ((outside_staysIn sound).stays last isLast).adds token present with present | isInner
  · exact inner token present
  · exact isInner

/-- The end of the text is the end of the text in a setting in which nothing comes after it. -/
theorem end_outcome_of_alone
    {next : Lexer}
    (sound : Sound base next)
    (inner : ∀ token ∈ next.tokens, Reader.endsDocument token = false)
    (alone : setting.tail = []) :
    Outcome setting base (next.takeEnd.getD next).tokens
      ((setting.lexer next).takeEnd.getD (setting.lexer next)).tokens := by
  have leaves := outside_staysIn sound
  cases isLast : next.outside with
  | none =>
      refine .fault ?_ ?_
      · simp [takeEnd, leaves.same setting, isLast]
      · simpa [takeEnd, isLast] using inner
  | some last =>
      refine .ends last (inner_of_outside sound inner isLast) ?_ (fun _ => ?_)
        fun more isMarked => ?_
      · simp [takeEnd, isLast, emit]
      · simp only [takeEnd, leaves.same setting, isLast, bind, pure, Option.map_some,
          Option.bind_some, Option.getD_some, emit_setting]
        rfl
      · rw [alone] at isMarked
        contradiction

/-- A line that begins a document is taken where the text ends. -/
theorem takeToken_of_marked
    {next last : Lexer}
    (sound : Sound base next)
    (isLast : next.outside = some last)
    (column : next.cursor.column = 0)
    (finished : next.cursor.rest = [])
    {more : List Char}
    (isMarked : setting.tail = marked more) :
    (setting.lexer next).takeToken '-' =
      some (((setting.lexer last).advance 3).emit .documentStart) := by
  have marks : (setting.lexer next).cursor.atMarker '-' = true := by
    simp [Setting.cursor, atMarker, column, finished, isMarked, marked, Cursor.gapAt, endsOr,
      peekAt?, isGap, isBreak]
  have noDirective : ((setting.lexer next).cursor.column == 0 && '-' == '%') = false :=
    Bool.and_false _
  simp only [takeToken, noDirective, marks, takeMarker, (outside_staysIn sound).same setting,
    isLast]
  rfl

/-- The end of the text is the end of the text in a setting, or the line after it. -/
theorem end_outcome
    {lexer next : Lexer}
    (settled : Settled setting base lexer next)
    (inner : ∀ token ∈ next.tokens, Reader.endsDocument token = false)
    (nothingNext : next.cursor.peek? = none)
    {fuel : Nat}
    (enough : ∀ more, setting.tail = marked more → more.length + 1 < fuel) :
    Outcome setting base (next.takeEnd.getD next).tokens
      (runFrom fuel (setting.lexer next)) := by
  have finished : next.cursor.rest = [] := by
    cases text : next.cursor.rest with
    | nil => rfl
    | cons first later => simp [Cursor.peek?, text] at nothingNext
  by_cases alone : setting.tail = []
  · rw [runFrom_end fuel (by rw [cursor_lexer, Setting.cursor_of_alone alone, peek?_moved,
      nothingNext])]
    exact end_outcome_of_alone settled.sound inner alone
  · obtain ⟨closed, follows⟩ := settled.fits.resolve_left alone
    obtain ⟨more, isMarked⟩ := follows.resolve_left alone
    have column : next.cursor.column = 0 := by
      rcases closed with isOpen | ended
      · exact absurd finished isOpen.rest_ne_nil
      · exact ended.2
    have quiet : ∀ candidate ∈ next.candidates, candidate = none := by
      intro candidate present
      cases candidate with
      | none => rfl
      | some candidate =>
          have inside := settled.near candidate present
          omega
    obtain ⟨last, isLast, ended⟩ := outside_of_quiet settled.sound quiet finished
    have dash : (setting.lexer next).cursor.peek? = some '-' := by
      simp [Setting.cursor, Cursor.peek?, finished, isMarked, marked]
    rw [runFrom_token fuel dash, takeToken_of_marked settled.sound isLast column finished isMarked]
    refine .ends last (inner_of_outside settled.sound inner isLast) ?_ (fun nothing => ?_)
      fun other isOther => ?_
    · simp [takeEnd, isLast, emit]
    · contradiction
    · exact ⟨ended, fuel, enough other isOther, rfl⟩

/-- A token of a text without lines that begin or end documents leaves less of such a text,
and is none of a line that begins or ends a document. -/
theorem unmarked_of_taken
    {lexer next after : Lexer}
    (unmarked : lexer.cursor.Unmarked)
    (settled : Settled setting base lexer next)
    (inner : ∀ token ∈ next.tokens, Reader.endsDocument token = false)
    (remains : next.cursor.rest ≠ [])
    (taken : Taken setting base next after) :
    after.cursor.rest.length < lexer.cursor.rest.length
      ∧ after.cursor.Unmarked
      ∧ ∀ token ∈ after.tokens, Reader.endsDocument token = false := by
  refine ⟨Nat.lt_of_lt_of_le (taken.shorter remains) settled.reaches.length_le,
    fun place reaches => ?_, fun token present => ?_⟩
  · exact unmarked place ((settled.reaches.trans
      (Reaches.refl.advance 1)).trans (taken.reaches.trans reaches))
  · rcases taken.adds token present with present | isInner | marks
    · exact inner token present
    · exact isInner
    · rw [unmarked next.cursor settled.reaches] at marks
      contradiction

/-- A run over a text in a setting ends at the same fault as over the text alone, or gets to where
the text ends. The induction is on the text that is left, by one round of the lexer. -/
theorem run_outcome
    {lexer : Lexer}
    (rests : Rests setting base lexer)
    (unmarked : lexer.cursor.Unmarked)
    (inner : ∀ token ∈ lexer.tokens, Reader.endsDocument token = false)
    {few many : Nat}
    (enough : lexer.cursor.rest.length < few)
    (plenty : (setting.cursor lexer.cursor).rest.length < many) :
    Outcome setting base (run few lexer) (run many (setting.lexer lexer)) := by
  induction length : lexer.cursor.rest.length using Nat.strongRecOn
    generalizing lexer few many with
  | ind length runLater =>
  subst length
  obtain ⟨few, rfl⟩ : ∃ less, few = less + 1 := ⟨few - 1, by omega⟩
  obtain ⟨many, rfl⟩ : ∃ less, many = less + 1 := ⟨many - 1, by omega⟩
  have innerOf : ∀ {tokens : Array Token}, (∀ token ∈ tokens,
      token ∈ lexer.tokens ∨ Reader.endsDocument token = false) →
      ∀ token ∈ tokens, Reader.endsDocument token = false := by
    intro tokens adds token present
    rcases adds token present with present | isInner
    · exact inner token present
    · exact isInner
  cases run_step rests few many with
  | fault same adds => exact .fault same (innerOf adds)
  | ends next settled nothingNext alone inSetting =>
      rw [alone, inSetting]
      refine end_outcome settled (innerOf settled.adds) nothingNext fun more isMarked => ?_
      rw [Setting.length_cursor, isMarked] at plenty
      simp only [marked, List.length_cons] at plenty
      omega
  | goesOn next after settled remains taken alone inSetting =>
      rw [alone, inSetting]
      obtain ⟨shorter, unmarkedAfter, innerAfter⟩ :=
        unmarked_of_taken unmarked settled (innerOf settled.adds) remains taken
      refine runLater _ shorter taken.rests unmarkedAfter innerAfter (by omega) ?_ rfl
      rw [Setting.length_cursor] at plenty ⊢
      omega

/-- A text alone in a setting has the tokens that it has without the setting, whatever fuel
there is if it is enough. -/
theorem run_alone
    (alone : setting.tail = [])
    {lexer : Lexer}
    (rests : Rests setting base lexer)
    {few many : Nat}
    (enough : lexer.cursor.rest.length < few)
    (plenty : lexer.cursor.rest.length < many) :
    run many (setting.lexer lexer) = setting.before ++ run few lexer := by
  induction length : lexer.cursor.rest.length using Nat.strongRecOn
    generalizing lexer few many with
  | ind length runLater =>
  subst length
  obtain ⟨few, rfl⟩ : ∃ less, few = less + 1 := ⟨few - 1, by omega⟩
  obtain ⟨many, rfl⟩ : ∃ less, many = less + 1 := ⟨many - 1, by omega⟩
  cases run_step rests few many with
  | fault same => exact same
  | ends next settled nothingNext isAlone inSetting =>
      rw [isAlone, inSetting, runFrom_end many (by rw [cursor_lexer,
        Setting.cursor_of_alone alone, peek?_moved, nothingNext])]
      have leaves := outside_staysIn settled.sound
      simp only [takeEnd, leaves.same setting, bind, pure]
      cases next.outside with
      | none => rfl
      | some last => exact congrArg tokens (emit_setting last .streamEnd)
  | goesOn next after settled remains taken isAlone inSetting =>
      rw [isAlone, inSetting]
      have shorter := taken.shorter remains
      have atMost := settled.reaches.length_le
      exact runLater _ (by omega) taken.rests (by omega) (by omega) rfl

end Lexer
end Yaml
end ManifestPolicy
